/-! # UTF-8
Bytes are read as UTF-8 one character at a time (`Utf8.step`). A strict reading (`Utf8.decode`)
stops at the first fault and says where it is; a lossy one (`Utf8.decodeLossy`) puts a replacement
character for each fault and goes on behind it. A fault covers the longest start of a character that
the bytes hold, so it is at most three bytes long. -/

namespace Mustache.Utf8

/-! ## One character -/

/-- What some bytes begin with. -/
inductive Step where
  /-- A character, and the bytes behind it. -/
  | char (c : Char) (rest : List UInt8)
  /-- This many bytes that begin no character. -/
  | invalid (length : Nat)
  /-- The start of a character, and no more bytes. -/
  | incomplete

/-- What a leading byte says about the character that it begins. -/
structure Lead where
  /-- The bits of the character in this byte. -/
  bits : Nat
  /-- The least second byte. -/
  low : Nat
  /-- The greatest second byte. -/
  high : Nat
  /-- The number of bytes behind the second one. -/
  more : Nat

/-- The bytes that lead a character of more than one byte. The bounds of the second byte leave out
longer forms of shorter characters, surrogates, and what lies beyond the last code point. -/
def lead? (b : Nat) : Option Lead :=
  if b < 0xC2 then none
  else if b ≤ 0xDF then some ⟨b - 0xC0, 0x80, 0xBF, 0⟩
  else if b = 0xE0 then some ⟨b - 0xE0, 0xA0, 0xBF, 1⟩
  else if b = 0xED then some ⟨b - 0xE0, 0x80, 0x9F, 1⟩
  else if b ≤ 0xEF then some ⟨b - 0xE0, 0x80, 0xBF, 1⟩
  else if b = 0xF0 then some ⟨b - 0xF0, 0x90, 0xBF, 2⟩
  else if b ≤ 0xF3 then some ⟨b - 0xF0, 0x80, 0xBF, 2⟩
  else if b = 0xF4 then some ⟨b - 0xF0, 0x80, 0x8F, 2⟩
  else none

/-- Reads the last `more` bytes of a character, when `read` bytes gave it the bits `code`. -/
def stepTail (code read : Nat) : (more : Nat) → List UInt8 → Step
  | 0, bytes => .char (Char.ofNat code) bytes
  | _ + 1, [] => .incomplete
  | more + 1, b :: bytes =>
    if 0x80 ≤ b.toNat ∧ b.toNat ≤ 0xBF then
      stepTail (code * 64 + (b.toNat - 0x80)) (read + 1) more bytes
    else .invalid read

/-- What the byte `b` and the bytes behind it begin with. -/
def step (b : UInt8) (bytes : List UInt8) : Step :=
  if b.toNat < 0x80 then .char (Char.ofNat b.toNat) bytes
  else
    match lead? b.toNat with
    | none => .invalid 1
    | some lead =>
      match bytes with
      | [] => .incomplete
      | c :: bytes =>
        if lead.low ≤ c.toNat ∧ c.toNat ≤ lead.high then
          stepTail (lead.bits * 64 + (c.toNat - 0x80)) 2 lead.more bytes
        else .invalid 1

theorem length_le_of_stepTail {code read more : Nat} {bytes rest : List UInt8} {c : Char}
    (h : stepTail code read more bytes = .char c rest) : rest.length ≤ bytes.length := by
  induction more generalizing code read bytes with
  | zero =>
    cases h
    exact Nat.le_refl _
  | succ more ih =>
    cases bytes with
    | nil => cases h
    | cons b bytes =>
      unfold stepTail at h
      split at h
      · exact Nat.le_trans (ih h) (Nat.le_succ _)
      · cases h

/-- What is left behind a character is no longer than what stood behind its first byte. -/
theorem length_le_of_step {b : UInt8} {bytes rest : List UInt8} {c : Char}
    (h : step b bytes = .char c rest) : rest.length ≤ bytes.length := by
  unfold step at h
  split at h
  · cases h
    exact Nat.le_refl _
  · split at h
    · cases h
    · split at h
      · cases h
      · split at h
        · exact Nat.le_trans (length_le_of_stepTail h) (Nat.le_succ _)
        · cases h

/-! ## Strict reading -/

/-- Where and how bytes fail to be UTF-8. -/
inductive Fault where
  /-- From `index` on there are `length` bytes that begin no character. -/
  | invalid (length index : Nat)
  /-- The bytes end inside the character that begins at `index`. -/
  | incomplete (index : Nat)
  deriving DecidableEq, Repr

/-- The message of a fault. -/
def Fault.message : Fault → String
  | invalid length index =>
    s!"invalid utf-8 sequence of {length} bytes from index {index}"
  | incomplete index => s!"incomplete utf-8 byte sequence from index {index}"

/-- The characters of some bytes of which the first has the given index. -/
def decodeFrom (index : Nat) (bytes : List UInt8) : Except Fault (List Char) :=
  match bytes with
  | [] => .ok []
  | b :: bytes =>
    match _hs : step b bytes with
    | .char c rest => (decodeFrom (index + c.utf8Size) rest).map (c :: ·)
    | .invalid length => .error (.invalid length index)
    | .incomplete => .error (.incomplete index)
termination_by bytes.length
decreasing_by exact Nat.lt_succ_of_le (length_le_of_step _hs)

/-- The text whose UTF-8 form is `bytes`, or the first fault. -/
def decode (bytes : ByteArray) : Except Fault String :=
  (decodeFrom 0 bytes.toList).map String.ofList

/-! ## Lossy reading -/

/-- The character that stands for what cannot be read. -/
def replacement : Char := '\ufffd'

/-- The characters of some bytes, with a replacement character for each fault. -/
def decodeLossyList (bytes : List UInt8) : List Char :=
  match bytes with
  | [] => []
  | b :: bytes =>
    match _hs : step b bytes with
    | .char c rest => c :: decodeLossyList rest
    | .invalid length => replacement :: decodeLossyList (bytes.drop (length - 1))
    | .incomplete => [replacement]
termination_by bytes.length
decreasing_by
  · exact Nat.lt_succ_of_le (length_le_of_step _hs)
  · rw [List.length_drop, List.length_cons]
    omega

/-- The text of some bytes, with a replacement character for each fault. -/
def decodeLossy (bytes : ByteArray) : String := String.ofList (decodeLossyList bytes.toList)

end Mustache.Utf8

import Mathlib.Data.List.Basic
import Mustache.Text.Utf8

/-! # Reading what was written in UTF-8
The UTF-8 form of a text is read as this text (`Utf8.decode_toUTF8`). For each length of a character
there is one lemma that says so of its bytes: the leading byte tells how many others follow and
bounds the second one, and the bits of all of them make up the code point. -/

namespace Mustache.Utf8

variable {n code read more : Nat} {b c : UInt8} {lead : Lead}

/-- A byte of a number that fits into it is this number. -/
theorem toNat_ofNat_of_lt (h : n < 256) : (UInt8.ofNat n).toNat = n := by
  rw [UInt8.toNat_ofNat', Nat.mod_eq_of_lt h]

/-! ## Leading bytes -/

theorem lead?_of_two {b : Nat} (h : 0xC2 ≤ b) (h' : b ≤ 0xDF) :
    lead? b = some ⟨b - 0xC0, 0x80, 0xBF, 0⟩ := by
  rw [lead?, if_neg (by omega), if_pos h']

theorem lead?_of_three {b : Nat} (h : 0xE0 ≤ b) (h' : b ≤ 0xEF) :
    lead? b = some
      ⟨b - 0xE0, if b = 0xE0 then 0xA0 else 0x80, if b = 0xED then 0x9F else 0xBF, 1⟩ := by
  unfold lead?
  grind

theorem lead?_of_four {b : Nat} (h : 0xF0 ≤ b) (h' : b ≤ 0xF4) :
    lead? b = some
      ⟨b - 0xF0, if b = 0xF0 then 0x90 else 0x80, if b = 0xF4 then 0x8F else 0xBF, 2⟩ := by
  unfold lead?
  grind

/-- A second byte within the bounds that the leading one sets. -/
theorem step_of_lead (hb : ¬ b.toNat < 0x80) (hlead : lead? b.toNat = some lead)
    (hc : lead.low ≤ c.toNat ∧ c.toNat ≤ lead.high) (bytes : List UInt8) :
    step b (c :: bytes) = stepTail (lead.bits * 64 + (c.toNat - 0x80)) 2 lead.more bytes := by
  simp only [step, if_neg hb, hlead, if_pos hc]

/-- A byte behind the second one adds its bits. -/
theorem stepTail_cons (h : 0x80 ≤ b.toNat ∧ b.toNat ≤ 0xBF) (bytes : List UInt8) :
    stepTail code read (more + 1) (b :: bytes) =
      stepTail (code * 64 + (b.toNat - 0x80)) (read + 1) more bytes := by
  rw [stepTail, if_pos h]

/-! ## Characters by their length -/

/-- The byte that holds these six bits of a code point. -/
theorem toNat_continuation (n : Nat) : (UInt8.ofNat (n % 64 + 128)).toNat = n % 64 + 128 :=
  toNat_ofNat_of_lt (by omega)

theorem step_one (h : n ≤ 0x7F) (rest : List UInt8) :
    step (UInt8.ofNat n) rest = .char (Char.ofNat n) rest := by
  have hb : (UInt8.ofNat n).toNat = n := toNat_ofNat_of_lt (by omega)
  rw [step, if_pos (by omega), hb]

theorem step_two (h : 0x7F < n) (h' : n ≤ 0x7FF) (rest : List UInt8) :
    step (UInt8.ofNat (n / 64 % 32 + 192)) (UInt8.ofNat (n % 64 + 128) :: rest) =
      .char (Char.ofNat n) rest := by
  have hb : (UInt8.ofNat (n / 64 % 32 + 192)).toNat = n / 64 + 192 := by
    rw [toNat_ofNat_of_lt (by omega)]
    omega
  have hc := toNat_continuation n
  have hlead := lead?_of_two (b := n / 64 + 192) (by omega) (by omega)
  rw [← hb] at hlead
  rw [step_of_lead (by omega) hlead (by dsimp only; omega), stepTail, hb, hc]
  have hcode : (n / 64 + 192 - 0xC0) * 64 + (n % 64 + 128 - 0x80) = n := by omega
  rw [hcode]

theorem step_three (h : 0x7FF < n) (h' : n ≤ 0xFFFF) (hsurrogate : n < 0xD800 ∨ 0xDFFF < n)
    (rest : List UInt8) :
    step (UInt8.ofNat (n / 4096 % 16 + 224))
        (UInt8.ofNat (n / 64 % 64 + 128) :: UInt8.ofNat (n % 64 + 128) :: rest) =
      .char (Char.ofNat n) rest := by
  have hb : (UInt8.ofNat (n / 4096 % 16 + 224)).toNat = n / 4096 + 224 := by
    rw [toNat_ofNat_of_lt (by omega)]
    omega
  have hc := toNat_continuation (n / 64)
  have hd := toNat_continuation n
  have hlead := lead?_of_three (b := n / 4096 + 224) (by omega) (by omega)
  rw [← hb] at hlead
  -- the bounds of the second byte are met: the code point is long enough, and no surrogate
  rw [step_of_lead (by omega) hlead (by dsimp only; split <;> split <;> omega),
    stepTail_cons (by omega), stepTail, hb, hc, hd]
  have hcode : ((n / 4096 + 224 - 0xE0) * 64 + (n / 64 % 64 + 128 - 0x80)) * 64 +
      (n % 64 + 128 - 0x80) = n := by omega
  rw [hcode]

theorem step_four (h : 0xFFFF < n) (h' : n < 0x110000) (rest : List UInt8) :
    step (UInt8.ofNat (n / 262144 % 8 + 240))
        (UInt8.ofNat (n / 4096 % 64 + 128) :: UInt8.ofNat (n / 64 % 64 + 128) ::
          UInt8.ofNat (n % 64 + 128) :: rest) =
      .char (Char.ofNat n) rest := by
  have hb : (UInt8.ofNat (n / 262144 % 8 + 240)).toNat = n / 262144 + 240 := by
    rw [toNat_ofNat_of_lt (by omega)]
    omega
  have hc := toNat_continuation (n / 4096)
  have hd := toNat_continuation (n / 64)
  have he := toNat_continuation n
  have hlead := lead?_of_four (b := n / 262144 + 240) (by omega) (by omega)
  rw [← hb] at hlead
  rw [step_of_lead (by omega) hlead (by dsimp only; split <;> split <;> omega),
    stepTail_cons (by omega), stepTail_cons (by omega), stepTail, hb, hc, hd, he]
  have hcode : (((n / 262144 + 240 - 0xF0) * 64 + (n / 4096 % 64 + 128 - 0x80)) * 64 +
      (n / 64 % 64 + 128 - 0x80)) * 64 + (n % 64 + 128 - 0x80) = n := by omega
  rw [hcode]

/-- **The bytes of a character are read as this character**, whatever follows them. -/
theorem exists_step_eq_char (c : Char) :
    ∃ b bytes, String.utf8EncodeChar c = b :: bytes ∧
      ∀ rest, step b (bytes ++ rest) = .char c rest := by
  have hvalid : c.toNat < 0xD800 ∨ 0xDFFF < c.toNat ∧ c.toNat < 0x110000 := c.valid
  have hchar : Char.ofNat c.toNat = c := Char.ofNat_toNat c
  -- the cases of the encoder are those of the length
  unfold String.utf8EncodeChar
  simp only [Char.toNat_val]
  split
  · rename_i h
    exact ⟨_, _, rfl, fun rest => (step_one h rest).trans (by rw [hchar])⟩
  · split
    · rename_i h h'
      exact ⟨_, _, rfl, fun rest => (step_two (by omega) h' rest).trans (by rw [hchar])⟩
    · split
      · rename_i h h'
        exact ⟨_, _, rfl, fun rest =>
          (step_three (by omega) h' (by omega) rest).trans (by rw [hchar])⟩
      · rename_i h
        exact ⟨_, _, rfl, fun rest => (step_four (by omega) (by omega) rest).trans (by rw [hchar])⟩

/-! ## Texts -/

/-- Characters one after the other are read one after the other. -/
theorem decodeFrom_flatMap (index : Nat) (cs : List Char) :
    decodeFrom index (cs.flatMap String.utf8EncodeChar) = .ok cs := by
  induction cs generalizing index with
  | nil => rw [List.flatMap_nil, decodeFrom]
  | cons c cs ih =>
    obtain ⟨b, bytes, hbytes, hstep⟩ := exists_step_eq_char c
    rw [List.flatMap_cons, hbytes, List.cons_append, decodeFrom]
    split
    · rename_i d rest heq
      rw [hstep] at heq
      cases heq
      rw [ih]
      rfl
    · rename_i heq
      rw [hstep] at heq
      cases heq
    · rename_i heq
      rw [hstep] at heq
      cases heq

/-- The bytes that are collected from an index on are those of the array, with `left` of them to go.
-/
theorem loop_eq_append_drop (bytes : ByteArray) (left i : Nat) (collected : List UInt8)
    (h : i + left = bytes.size) :
    ByteArray.toList.loop bytes i collected = collected.reverse ++ bytes.data.toList.drop i := by
  have hsize : bytes.data.size = bytes.size := rfl
  have hlength : bytes.data.toList.length = bytes.data.size := Array.length_toList
  induction left generalizing i collected with
  | zero =>
    rw [ByteArray.toList.loop, if_neg (by omega), List.drop_of_length_le (by omega),
      List.append_nil]
  | succ left ih =>
    have hnext : bytes.data.toList.drop i = bytes.get! i :: bytes.data.toList.drop (i + 1) := by
      rw [List.drop_eq_getElem_cons (by omega), Array.getElem_toList]
      exact congrArg (· :: _) (getElem!_pos bytes.data i (by omega)).symm
    rw [ByteArray.toList.loop, if_pos (by omega), ih _ _ (by omega), hnext, List.reverse_cons,
      List.append_assoc, List.singleton_append]

/-- The UTF-8 form of a text is made of those of its characters. -/
theorem toList_toUTF8 (s : String) : s.toUTF8.toList = s.toList.flatMap String.utf8EncodeChar := by
  rw [ByteArray.toList, loop_eq_append_drop s.toUTF8 s.toUTF8.size 0 [] (Nat.zero_add _),
    List.reverse_nil, List.nil_append, List.drop_zero]
  conv_lhs => rw [← String.ofList_toList (s := s)]
  exact List.toList_data_toByteArray

/-- **The UTF-8 form of a text is read as this text.** -/
theorem decode_toUTF8 (s : String) : decode s.toUTF8 = .ok s := by
  rw [decode, toList_toUTF8, decodeFrom_flatMap]
  exact congrArg Except.ok String.ofList_toList

end Mustache.Utf8

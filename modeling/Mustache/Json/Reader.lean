import Mustache.Json.Number

/-! # Reading JSON
`Json.parse?` reads a text that holds one JSON value and blanks around it. Arrays and objects may be
nested to a fixed depth. A reader of what stands inside brackets is given the reader of the values
there, which has one level less (`Json.innerReader`). -/

namespace Mustache.Json

/-! ## Blanks -/

/-- The characters that may stand between the parts of a JSON text. -/
def isBlank (c : Char) : Bool := c = ' ' || c = '\n' || c = '\t' || c = '\r'

/-- Skips blanks. -/
def skipBlanks (cs : List Char) : List Char := cs.dropWhile isBlank

theorem length_skipBlanks_le (cs : List Char) : (skipBlanks cs).length ≤ cs.length :=
  (List.dropWhile_suffix _).length_le

theorem length_lt_of_skipBlanks {cs rest : List Char} {c : Char} (h : skipBlanks cs = c :: rest) :
    rest.length < cs.length := by
  have := length_skipBlanks_le cs
  rw [h] at this
  exact this

/-- What follows the blanks and the character `c`, in a text that begins with them. -/
def dropSign? (c : Char) (cs : List Char) :
    Option { rest : List Char // rest.length < cs.length } :=
  match h : skipBlanks cs with
  | d :: rest => if d = c then some ⟨rest, length_lt_of_skipBlanks h⟩ else none
  | [] => none

/-! ## Texts -/

/-- The value of a hexadecimal digit. -/
def hexDigit? (c : Char) : Option Nat :=
  if c.isDigit then some (c.toNat - '0'.toNat)
  else if 'a' ≤ c ∧ c ≤ 'f' then some (c.toNat - 'a'.toNat + 10)
  else if 'A' ≤ c ∧ c ≤ 'F' then some (c.toNat - 'A'.toNat + 10)
  else none

/-- Reads four hexadecimal digits. -/
def readUnit : (cs : List Char) → Option (Found Nat cs.length)
  | a :: b :: c :: d :: cs => do
    let a ← hexDigit? a
    let b ← hexDigit? b
    let c ← hexDigit? c
    let d ← hexDigit? d
    return (Found.here (((a * 16 + b) * 16 + c) * 16 + d) cs).step.step.step.step
  | _ => none

/-- Reads the second code of a character beyond the first 65536, of which `high` is the first code.
-/
def readLow (high : Nat) : (cs : List Char) → Option (Found Char cs.length)
  | '\\' :: 'u' :: cs => do
    let low ← readUnit cs
    if 0xDC00 ≤ low.value ∧ low.value ≤ 0xDFFF then
      let c := Char.ofNat (0x10000 + (high - 0xD800) * 0x400 + (low.value - 0xDC00))
      return (low.map fun _ => c).step.step
    else none
  | _ => none

/-- Reads the code of a character from behind its letter. A character beyond the first 65536 takes
two codes, of which each stands only with the other. -/
def readCode (cs : List Char) : Option (Found Char cs.length) := do
  let code ← readUnit cs
  if code.value < 0xD800 ∨ 0xDFFF < code.value then return code.map Char.ofNat
  else if 0xDC00 ≤ code.value then none
  else
    let c ← readLow code.value code.rest
    return code.behind c

/-- Reads an escape from behind its backslash. -/
def readEscape : (cs : List Char) → Option (Found Char cs.length)
  | [] => none
  | c :: cs =>
    let plain (d : Char) : Option (Found Char (cs.length + 1)) := some (Found.here d cs).step
    match c with
    | '"' => plain '"'
    | '\\' => plain '\\'
    | '/' => plain '/'
    | 'b' => plain '\x08'
    | 'f' => plain '\x0c'
    | 'n' => plain '\n'
    | 'r' => plain '\r'
    | 't' => plain '\t'
    | 'u' => (readCode cs).map Found.step
    | _ => none

/-- Reads a text from behind its opening quote. Control characters must be escaped. -/
def readText (cs : List Char) : Option (Found (List Char) cs.length) :=
  match cs with
  | [] => none
  | '"' :: cs => some (Found.here [] cs).step
  | '\\' :: cs => do
    let found ← readEscape cs
    have := found.length_le
    let tail ← readText found.rest
    return ((found.behind tail).map (found.value :: ·)).step
  | c :: cs =>
    if c.toNat < 0x20 then none else (readText cs).map fun tail => (tail.map (c :: ·)).step
termination_by cs.length
decreasing_by
  · exact Nat.lt_succ_of_le this
  · exact Nat.lt_succ_self _

/-! ## Values -/

/-- A reader of values. -/
abbrev ValueReader : Type := (cs : List Char) → Option (Found Json cs.length)

/-- Reads one or more elements with commas between them, up to a closing bracket. -/
def readElements {α : Type} (closing : Char)
    (readElement : (cs : List Char) → Option (Found α cs.length)) (cs : List Char) :
    Option (Found (List α) cs.length) := do
  let element ← readElement cs
  match dropSign? ',' element.rest with
  | some behind =>
    have hlt := Nat.lt_of_lt_of_le behind.2 element.length_le
    let elements ← readElements closing readElement behind.1
    return (elements.map (element.value :: ·)).widen (Nat.le_of_lt hlt)
  | none => do
    let behind ← dropSign? closing element.rest
    return element.behind ((Found.here [element.value] behind.1).widen (Nat.le_of_lt behind.2))
termination_by cs.length

/-- Reads elements with commas between them, if there are any, up to a closing bracket. -/
def readBracket {α : Type} (closing : Char)
    (readElement : (cs : List Char) → Option (Found α cs.length)) (cs : List Char) :
    Option (Found (List α) cs.length) :=
  match dropSign? closing cs with
  | some behind => some ((Found.here [] behind.1).widen (Nat.le_of_lt behind.2))
  | none => readElements closing readElement cs

/-- Reads a member of an object: a text, a colon and a value. -/
def readMember (value : ValueReader) (cs : List Char) :
    Option (Found (String × Json) cs.length) := do
  let quote ← dropSign? '"' cs
  let key ← readText quote.1
  let colon ← dropSign? ':' key.rest
  let found ← value colon.1
  let member := found.map fun j => (String.ofList key.value, j)
  return (key.behind (member.widen (Nat.le_of_lt colon.2))).widen (Nat.le_of_lt quote.2)

/-- Reads a value that does not begin with a blank; `inner` reads the values in brackets. -/
def readValueWith (inner : Option ValueReader) : ValueReader
  | 'n' :: 'u' :: 'l' :: 'l' :: cs => some (Found.here null cs).step.step.step.step
  | 't' :: 'r' :: 'u' :: 'e' :: cs => some (Found.here (bool true) cs).step.step.step.step
  | 'f' :: 'a' :: 'l' :: 's' :: 'e' :: cs =>
    some (Found.here (bool false) cs).step.step.step.step.step
  | '-' :: cs => (readNumber true cs).map Found.step
  | '"' :: cs => (readText cs).map fun found => (found.map fun s => text (String.ofList s)).step
  | '[' :: cs => do
    let found ← readBracket ']' (← inner) cs
    return (found.map array).step
  | '\x7b' :: cs => do
    let found ← readBracket '\x7d' (readMember (← inner)) cs
    return (found.map object).step
  | cs => readNumber false cs

/-- Reads a value and blanks before it. -/
def readValue (inner : Option ValueReader) : ValueReader := fun cs =>
  (readValueWith inner (skipBlanks cs)).map fun found => found.widen (length_skipBlanks_le cs)

/-- The reader of values inside brackets, when brackets may be nested in `room` levels. -/
def innerReader : (room : Nat) → Option ValueReader
  | 0 => none
  | room + 1 => some (readValue (innerReader room))

/-- Brackets may be nested up to this depth. -/
def nestingLimit : Nat := 127

/-- The value of a JSON text, if it is one. -/
def parse? (source : String) : Option Json := do
  let found ← readValue (innerReader nestingLimit) source.toList
  if skipBlanks found.rest = [] then return found.value else none

end Mustache.Json

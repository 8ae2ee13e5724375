import Mustache.Json

/-! # Numbers in JSON
A number without a fraction and an exponent is an integer of 64 bits if it fits, except for minus
zero. Every other number is a double: the leading digits that fit into 64 bits make up an integer,
which is converted to a double and then multiplied or divided by a power of ten, so the result is
only close to the number that is written. A number too great for a double is refused. -/

namespace Mustache.Json

/-! ## What a reader finds -/

/-- What a reader of text found, and the text behind it, which is no longer than `limit`. -/
structure Found (α : Type) (limit : Nat) where
  /-- What was found. -/
  value : α
  /-- The text behind it. -/
  rest : List Char
  /-- The text behind it is no longer. -/
  length_le : rest.length ≤ limit

namespace Found

variable {α β : Type} {limit : Nat}

/-- Something found before the whole of a text. -/
def here (a : α) (cs : List Char) : Found α cs.length := ⟨a, cs, Nat.le_refl _⟩

/-- The same, for a greater limit. -/
def widen (found : Found α limit) {greater : Nat} (h : limit ≤ greater) : Found α greater :=
  ⟨found.value, found.rest, Nat.le_trans found.length_le h⟩

/-- The same, for a text with one more character in front. -/
def step (found : Found α limit) : Found α (limit + 1) := found.widen (Nat.le_succ limit)

/-- Something made of what was found. -/
def map (f : α → β) (found : Found α limit) : Found β limit :=
  ⟨f found.value, found.rest, found.length_le⟩

/-- What was found in the text behind something else. -/
def behind (first : Found α limit) (second : Found β first.rest.length) : Found β limit :=
  second.widen first.length_le

end Found

/-! ## Digits -/

/-- The value of a decimal digit. -/
def digit? (c : Char) : Option Nat := if c.isDigit then some (c.toNat - '0'.toNat) else none

/-- The first number that does not fit into 64 bits. -/
def wordLimit : Nat := 0x10000000000000000

/-- An integer and the power of ten by which it is scaled. -/
structure Scaled where
  /-- The integer, of at most 64 bits. -/
  significand : Nat
  /-- The power of ten. -/
  exponent : Int

/-- Reads the digits of an integer behind `significand`. Once the integer is full, each further
digit is dropped and counted. -/
def readWhole (significand dropped : Nat) : (cs : List Char) → Found Scaled cs.length
  | [] => .here ⟨significand, dropped⟩ []
  | c :: cs =>
    match digit? c with
    | none => .here ⟨significand, dropped⟩ (c :: cs)
    | some d =>
      if dropped = 0 ∧ significand * 10 + d < wordLimit then
        (readWhole (significand * 10 + d) 0 cs).step
      else (readWhole significand (dropped + 1) cs).step

/-- Skips digits. -/
def skipDigits : (cs : List Char) → Found Unit cs.length
  | [] => .here () []
  | c :: cs => if (digit? c).isSome then (skipDigits cs).step else .here () (c :: cs)

/-- Reads the digits behind the point of a number. Once the integer is full, further digits are
skipped. -/
def readFraction (number : Scaled) : (cs : List Char) → Found Scaled cs.length
  | [] => .here number []
  | c :: cs =>
    match digit? c with
    | none => .here number (c :: cs)
    | some d =>
      if number.significand * 10 + d < wordLimit then
        (readFraction ⟨number.significand * 10 + d, number.exponent - 1⟩ cs).step
      else ((skipDigits cs).map fun _ => number).step

/-- Reads the digits of an exponent behind `exponent`. -/
def readExponent (exponent : Nat) : (cs : List Char) → Found Nat cs.length
  | [] => .here exponent []
  | c :: cs =>
    match digit? c with
    | none => .here exponent (c :: cs)
    | some d => (readExponent (exponent * 10 + d) cs).step

/-! ## Doubles -/

/-- A power of ten as a double. -/
def powerOfTen (n : Nat) : Float := Float.ofScientific 1 false n

/-- Scales a double by a power of ten, unless the result is too great. The powers of ten up to the
308th are doubles; a division by a greater one is made in steps. -/
def scale (x : Float) (exponent : Int) : Option Float :=
  if exponent.natAbs ≤ 308 then
    if 0 ≤ exponent then
      let y := x * powerOfTen exponent.natAbs
      if y.isInf then none else some y
    else some (x / powerOfTen exponent.natAbs)
  else if x == 0.0 then some x
  else if _h : 0 ≤ exponent then none
  else scale (x / powerOfTen 308) (exponent + 308)
termination_by exponent.natAbs
decreasing_by omega

/-- The double of a scaled integer. -/
def Scaled.toDouble (number : Scaled) (isNegative : Bool) : Option Json :=
  (scale number.significand.toUInt64.toFloat number.exponent).map fun x =>
    double (if isNegative then -x else x)

/-! ## Numbers -/

/-- Reads the digits of an exponent, of which there is at least one, and scales the number by it. -/
def readPower (number : Scaled) (isNegative : Bool) :
    (cs : List Char) → Option (Found Scaled cs.length)
  | [] => none
  | c :: cs => do
    let d ← digit? c
    let scaled (n : Nat) : Scaled :=
      { number with exponent := if isNegative then number.exponent - n else number.exponent + n }
    return ((readExponent d cs).map scaled).step

/-- Reads an exponent from behind its letter. -/
def readScale (number : Scaled) : (cs : List Char) → Option (Found Scaled cs.length)
  | '+' :: cs => (readPower number false cs).map Found.step
  | '-' :: cs => (readPower number true cs).map Found.step
  | cs => readPower number false cs

/-- Reads the exponent of a double, if there is one here. -/
def readEnd (number : Scaled) (isNegative : Bool) :
    (cs : List Char) → Option (Found Json cs.length)
  | [] => (number.toDouble isNegative).map (.here · [])
  | c :: cs =>
    if c = 'e' ∨ c = 'E' then do
      let found ← readScale number cs
      let j ← found.value.toDouble isNegative
      return (found.map fun _ => j).step
    else (number.toDouble isNegative).map (.here · (c :: cs))

/-- Reads the rest of a double from behind the digits before its point. There is at least one digit
behind the point. -/
def readDouble (number : Scaled) (isNegative : Bool) :
    (cs : List Char) → Option (Found Json cs.length)
  | '.' :: cs => do
    let _ ← cs.head?.bind digit?
    let fraction := readFraction number cs
    let found ← readEnd fraction.value isNegative fraction.rest
    return (fraction.behind found).step
  | cs => readEnd number isNegative cs

/-- Whether a number goes on as a double here. -/
def continuesAsDouble : List Char → Bool
  | c :: _ => c = '.' || c = 'e' || c = 'E'
  | [] => false

/-- The value of an integer that fits into 64 bits without its sign. -/
def ofInteger (isNegative : Bool) (n : Nat) : Json :=
  if !isNegative then natural n.toUInt64
  else if 0 < n ∧ n ≤ 0x8000000000000000 then negative (Int64.ofInt (-n))
  else double (-n.toUInt64.toFloat)

/-- Reads a number from behind its sign. A zero in front is not followed by other digits. -/
def readNumber (isNegative : Bool) : (cs : List Char) → Option (Found Json cs.length)
  | [] => none
  | c :: cs => do
    let d ← digit? c
    if d = 0 ∧ (cs.head?.bind digit?).isSome then none
    else
      let whole := if d = 0 then .here ⟨0, 0⟩ cs else readWhole d 0 cs
      if whole.value.exponent = 0 ∧ !continuesAsDouble whole.rest then
        return (whole.map fun number => ofInteger isNegative number.significand).step
      else
        let found ← readDouble whole.value isNegative whole.rest
        return (whole.behind found).step

end Mustache.Json

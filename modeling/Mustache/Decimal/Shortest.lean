/-! # The shortest decimal of a binary number
A binary floating-point number stands for an interval of reals, all those that are rounded to it.
Its shortest decimal is the one with the fewest digits in that interval; of several the nearest to
the number, and of two that are equally near the greater. It is found on ever finer decimal grids
with exact arithmetic on natural numbers. -/

namespace Mustache.Decimal

/-! ## Binary numbers -/

/-- A finite number that is not negative: `mantissa * 2 ^ exponent`. -/
structure Binary where
  /-- The whole number that is scaled. -/
  mantissa : Nat
  /-- The power of two that scales it. -/
  exponent : Int
  /-- Whether the next smaller number is only half as far away as the next greater one. -/
  narrowBelow : Bool
  deriving DecidableEq, Repr

namespace Binary

/-- The weight of the bit before the fraction of a double. -/
def unit : Nat := 0x10000000000000

/-- The bits of the fraction of a double. -/
def fractionBits (bits : Nat) : Nat := bits % unit

/-- The bits of the exponent of a double. -/
def exponentBits (bits : Nat) : Nat := bits / unit % 2048

/-- The absolute value of the finite double with these bits. -/
def ofBits (bits : Nat) : Binary :=
  if exponentBits bits = 0 then ⟨fractionBits bits, -1074, false⟩
  else
    ⟨unit + fractionBits bits, Int.ofNat (exponentBits bits) - 1075,
      fractionBits bits = 0 && 1 < exponentBits bits⟩

/-- The lower end of the interval, in quarters of the unit `2 ^ exponent`. -/
def lower (b : Binary) : Nat := 4 * b.mantissa - if b.narrowBelow then 1 else 2

/-- The upper end of the interval, in quarters of the unit `2 ^ exponent`. -/
def upper (b : Binary) : Nat := 4 * b.mantissa + 2

/-- The ends belong to the interval when the mantissa is even. -/
def closed (b : Binary) : Bool := b.mantissa % 2 = 0

end Binary

/-! ## Decimal numbers -/

/-- A decimal number that is not negative: `digits * 10 ^ exponent`. -/
structure Scaled where
  /-- The whole number that is scaled. -/
  digits : Nat
  /-- The power of ten that scales it. -/
  exponent : Int
  deriving DecidableEq, Repr

/-- Removes zeros from the end of the digits, at most `room` of them. -/
def Scaled.trim (d : Scaled) : (room : Nat) → Scaled
  | 0 => d
  | room + 1 =>
    if d.digits ≠ 0 ∧ d.digits % 10 = 0 then trim ⟨d.digits / 10, d.exponent + 1⟩ room else d

/-! ## Grids -/

/-- The ratio by which quarters of the unit `2 ^ binary` become multiples of `10 ^ decimal`. -/
structure Ratio where
  /-- The factor that multiplies. -/
  num : Nat
  /-- The factor that divides. -/
  den : Nat

/-- The ratio for a number with this exponent on the grid of multiples of `10 ^ grid`. -/
def Ratio.between (exponent grid : Int) : Ratio :=
  ⟨Nat.pow 2 (exponent - 2).toNat * Nat.pow 10 (-grid).toNat,
    Nat.pow 2 (2 - exponent).toNat * Nat.pow 10 grid.toNat⟩

namespace Binary

/-- Whether `digits * 10 ^ grid` lies in the interval of `b`. -/
def encloses (b : Binary) (grid : Int) (digits : Nat) : Bool :=
  let r := Ratio.between b.exponent grid
  if b.closed then decide (b.lower * r.num ≤ digits * r.den ∧ digits * r.den ≤ b.upper * r.num)
  else decide (b.lower * r.num < digits * r.den ∧ digits * r.den < b.upper * r.num)

/-- The greatest multiple of `10 ^ grid` that is not greater than the number. -/
def below (b : Binary) (grid : Int) : Nat :=
  let r := Ratio.between b.exponent grid
  4 * b.mantissa * r.num / r.den

/-- The multiple of `10 ^ grid` that stands for the number, if there is one in its interval. Only
the two neighbours of the number can be the nearest; the upper one is taken unless the lower one is
nearer. -/
def onGrid (b : Binary) (grid : Int) : Option Nat :=
  let r := Ratio.between b.exponent grid
  let low := b.below grid
  match b.encloses grid low, b.encloses grid (low + 1) with
  | true, false => some low
  | false, true => some (low + 1)
  | false, false => none
  | true, true =>
    if 2 * (4 * b.mantissa * r.num) < (2 * low + 1) * r.den then some low else some (low + 1)

/-- The number of decimal digits before the point; it is negative by the zeros behind the point of a
number below one tenth. Every double that is not zero has a digit among the first 400 places. -/
def magnitude (b : Binary) : Int := (Nat.toDigits 10 (b.below (-400))).length - 400

/-- The shortest decimal of a number that is not zero. Seventeen digits always suffice; the whole
number at the finest grid closes the search. -/
def shortest (b : Binary) : Scaled :=
  let top := b.magnitude
  let found := (List.range 17).findSome? fun (n : Nat) =>
    (b.onGrid (top - 1 - n)).map fun digits => (⟨digits, top - 1 - n⟩ : Scaled)
  (found.getD ⟨b.below (-1074), -1074⟩).trim 1100

end Binary

end Mustache.Decimal

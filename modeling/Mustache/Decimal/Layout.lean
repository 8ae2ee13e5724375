import Mustache.Decimal.Shortest

/-! # The text of a number
A `Layout` lists the decisions that turn a number into text: whether a whole number keeps a point,
and when an exponent is written. There are two of them here. The digits are the shortest ones in
both. -/

namespace Mustache.Decimal

/-- The decisions that turn a number into text. -/
structure Layout where
  /-- Whether a whole number ends in a point and a zero. -/
  keepsPoint : Bool
  /-- Whether a number whose first digit stands at this power of ten is written with an exponent. -/
  usesExponent : Int → Bool

/-- Numbers in output: no point behind whole numbers and never an exponent. -/
def Layout.plain : Layout := ⟨false, fun _ => false⟩

/-- Numbers in messages: always a point, and an exponent below `10 ^ -4` and from `10 ^ 16` on. -/
def Layout.message : Layout := ⟨true, fun power => decide (power < -4 ∨ 16 ≤ power)⟩

/-- The digits of a whole number. -/
def digitsOf (n : Nat) : List Char := Nat.toDigits 10 n

/-- The text of an integer. -/
def integerText (n : Int) : String :=
  String.ofList (if n < 0 then '-' :: digitsOf n.natAbs else digitsOf n.natAbs)

/-- Digits scaled by a power of ten, written without an exponent. -/
def positional (keepsPoint : Bool) (digits : List Char) (exponent : Int) : List Char :=
  let whole (cs : List Char) : List Char := if keepsPoint then cs ++ ['.', '0'] else cs
  if 0 ≤ exponent then whole (digits ++ List.replicate exponent.toNat '0')
  else
    let places := (-exponent).toNat
    if places < digits.length then
      digits.take (digits.length - places) ++ '.' :: digits.drop (digits.length - places)
    else '0' :: '.' :: List.replicate (places - digits.length) '0' ++ digits

/-- Digits scaled by a power of ten, written with one digit before the point and an exponent. -/
def scientific (digits : List Char) (power : Int) : List Char :=
  let exponent := (if power < 0 then ['-'] else []) ++ digitsOf power.natAbs
  match digits with
  | [] => []
  | [d] => d :: 'e' :: exponent
  | d :: ds => d :: '.' :: ds ++ 'e' :: exponent

/-- The text of a decimal number. -/
def Layout.write (layout : Layout) (d : Scaled) : List Char :=
  let digits := digitsOf d.digits
  let power := d.exponent + digits.length - 1
  if layout.usesExponent power then scientific digits power
  else positional layout.keepsPoint digits d.exponent

/-- The text of the double with these bits. -/
def Layout.writeBits (layout : Layout) (bits : Nat) : List Char :=
  let sign (cs : List Char) : List Char := if bits < 0x8000000000000000 then cs else '-' :: cs
  if Binary.exponentBits bits = 2047 then
    if Binary.fractionBits bits = 0 then sign ['i', 'n', 'f'] else ['N', 'a', 'N']
  else
    let b := Binary.ofBits bits
    sign (if b.mantissa = 0 then positional layout.keepsPoint ['0'] 0 else layout.write b.shortest)

/-- The text of a double. -/
def Layout.text (layout : Layout) (x : Float) : String :=
  String.ofList (layout.writeBits x.toBits.toNat)

end Mustache.Decimal

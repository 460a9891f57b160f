import LogGate.Number.Binary64

/-!
The shortest decimal text of a binary number: the fewest digits that read back to it, and their
layout.
-/

namespace LogGate

/-- The number `digits · 10 ^ exponent`. -/
structure Decimal where
  digits : Nat
  exponent : Int
deriving DecidableEq

namespace Decimal

/-- Two exact products `a · 10 ^ i` and `b · 2 ^ j` are compared without rounding. -/
def compareScaled (a : Nat) (i : Int) (b : Nat) (j : Int) : Ordering :=
  compare (a * Nat.pow 10 i.toNat * Nat.pow 2 (-j).toNat)
    (b * Nat.pow 2 j.toNat * Nat.pow 10 (-i).toNat)

/-- A decimal reads back to `significand · 2 ^ exponent` when no other binary number is nearer to
it; the ends of this interval belong to an even significand. -/
def readsBackTo (decimal : Decimal) (significand : Nat) (exponent : Int) : Bool :=
  let narrow := significand == Nat.pow 2 52 && exponent > -1074
  let low := if narrow then 4 * significand - 1 else 4 * significand - 2
  let high := 4 * significand + 2
  let closed := significand % 2 == 0
  let below := compareScaled decimal.digits decimal.exponent low (exponent - 2)
  let above := compareScaled decimal.digits decimal.exponent high (exponent - 2)
  (below == .gt || (closed && below == .eq)) && (above == .lt || (closed && above == .eq))

/-- The numerator and denominator of `significand · 2 ^ exponent / 10 ^ place`. -/
def onGrid (significand : Nat) (exponent place : Int) : Nat × Nat :=
  (significand * Nat.pow 2 exponent.toNat * Nat.pow 10 (-place).toNat,
    Nat.pow 2 (-exponent).toNat * Nat.pow 10 place.toNat)

/-- The least exponent whose power of ten exceeds `significand · 2 ^ exponent`. -/
def scale (significand : Nat) (exponent : Int) : Int :=
  let bits : Int := (significand.log2 : Int) + exponent
  let guess : Int := bits * 30103 / 100000
  let exceeds (k : Int) : Bool := compareScaled 1 k significand exponent == .gt
  if exceeds guess then guess else if exceeds (guess + 1) then guess + 1 else guess + 2

/-- The nearer of the two neighbours on one grid of decimals, if one of them reads back. -/
def onGrid? (significand : Nat) (exponent place : Int) : Option Decimal :=
  let (numerator, denominator) := onGrid significand exponent place
  let low : Decimal := ⟨numerator / denominator, place⟩
  let high : Decimal := ⟨numerator / denominator + 1, place⟩
  let nearest : Decimal := ⟨nearestQuotient numerator denominator, place⟩
  match low.readsBackTo significand exponent, high.readsBackTo significand exponent with
  | true, true => some nearest
  | true, false => some low
  | false, true => some high
  | false, false => none

/-- Zeros at the end of the digits move into the exponent, at most `fuel` of them. -/
def strip : Nat → Decimal → Decimal
  | 0, decimal => decimal
  | fuel + 1, decimal =>
    if decimal.digits != 0 && decimal.digits % 10 == 0 then
      strip fuel ⟨decimal.digits / 10, decimal.exponent + 1⟩
    else decimal

/-- The exact value as a decimal. -/
def exactly (significand : Nat) (exponent : Int) : Decimal :=
  if exponent < 0 then ⟨significand * Nat.pow 5 (-exponent).toNat, exponent⟩
  else ⟨significand * Nat.pow 2 exponent.toNat, 0⟩

/-- The first grid of 1, 2, … 17 digits on which a neighbour of the value reads back. -/
def shortest (significand : Nat) (exponent : Int) : Decimal :=
  let top := scale significand exponent
  let found := (List.range 17).findSome? fun count =>
    onGrid? significand exponent (top - (count + 1 : Nat))
  strip 20 (found.getD (exactly significand exponent))

end Decimal

namespace Binary64

/-- Numbers from 10⁻⁴ up to 10¹⁶ have a point in its place; others have a signed exponent of at
least two digits. A whole number below 10¹⁶ keeps one zero after the point. -/
def layout (decimal : Decimal) : String :=
  let digits := Nat.toDigits 10 decimal.digits
  let leading : Int := digits.length + decimal.exponent - 1
  if -4 ≤ leading && leading < 16 then
    if decimal.exponent ≥ 0 then
      String.ofList (digits ++ List.replicate decimal.exponent.toNat '0' ++ ['.', '0'])
    else if leading ≥ 0 then
      let whole := leading.toNat + 1
      String.ofList (digits.take whole ++ '.' :: digits.drop whole)
    else
      String.ofList ('0' :: '.' :: List.replicate (-leading - 1).toNat '0' ++ digits)
  else
    let fraction := if digits.length > 1 then '.' :: digits.drop 1 else []
    let size := Nat.toDigits 10 leading.natAbs
    String.ofList (digits.take 1 ++ fraction ++ ['e', if leading < 0 then '-' else '+'] ++
      List.replicate (2 - size.length) '0' ++ size)

/-- A finite number is written with the fewest digits that read back to it. -/
def finiteText (negative : Bool) (significand : Nat) (exponent : Int) : String :=
  (if negative then "-" else "") ++
    if significand == 0 then "0.0" else layout (Decimal.shortest significand exponent)

def text : Binary64 → String
  | finite negative significand exponent => finiteText negative significand exponent
  | infinite negative => if negative then "-inf" else "inf"
  | undefined _ => "nan"

end Binary64

end LogGate

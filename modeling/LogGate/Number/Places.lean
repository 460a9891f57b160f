import LogGate.Number.Shortest

/-!
Binary numbers with a chosen count of places after the point, or of significant digits.
-/

namespace LogGate.Binary64

/-- Digits are padded on the left with zeros up to a least count. -/
def paddedDigits (count number : Nat) : List Char :=
  let digits := Nat.toDigits 10 number
  List.replicate (count - digits.length) '0' ++ digits

/-- A fraction follows a point; an empty one shows the point only where it is kept. -/
def withFraction (whole fraction : List Char) (keepPoint : Bool) : List Char :=
  if fraction.isEmpty && !keepPoint then whole else whole ++ '.' :: fraction

/-- The value rounded to a fixed count of places; a half goes to the even neighbour. -/
def fixedPlaces (significand : Nat) (exponent : Int) (places : Nat) (keepPoint : Bool) :
    List Char :=
  let number := nearestQuotient (significand * Nat.pow 2 exponent.toNat * Nat.pow 10 places)
    (Nat.pow 2 (-exponent).toNat)
  let digits := paddedDigits (places + 1) number
  let whole := digits.length - places
  withFraction (digits.take whole) (digits.drop whole) keepPoint

/-- The value rounded to a count of significant digits, with the exponent of the first digit. -/
def significantDigits (significand : Nat) (exponent : Int) (count : Nat) : List Char × Int :=
  if significand == 0 then (List.replicate count '0', 0)
  else
    let top := Decimal.scale significand exponent
    let (numerator, denominator) := Decimal.onGrid significand exponent (top - count)
    let number := nearestQuotient numerator denominator
    if number == Nat.pow 10 count then (Nat.toDigits 10 (Nat.pow 10 (count - 1)), top)
    else (paddedDigits count number, top - 1)

/-- An exponent has a sign and at least two digits. -/
def exponentChars (exponent : Int) : List Char :=
  'e' :: (if exponent < 0 then '-' else '+') :: paddedDigits 2 exponent.natAbs

def scientificPlaces (significand : Nat) (exponent : Int) (places : Nat) (keepPoint : Bool) :
    List Char :=
  let (digits, leading) := significantDigits significand exponent (places + 1)
  withFraction (digits.take 1) (digits.drop 1) keepPoint ++ exponentChars leading

def dropTrailingZeros (digits : List Char) : List Char :=
  (digits.reverse.dropWhile (· == '0')).reverse

/-- The value with a count of significant digits. It has an exponent when the first digit stands
below 10⁻⁴ or above the count; zeros at the end of the fraction are dropped unless kept. No number
has more than 767 digits, and all digits behind them are such zeros. -/
def generalPlaces (significand : Nat) (exponent : Int) (count : Nat) (keepZeros : Bool) :
    List Char :=
  let count := max (if keepZeros then count else min count 767) 1
  let (digits, leading) := significantDigits significand exponent count
  let fraction (rest : List Char) := if keepZeros then rest else dropTrailingZeros rest
  if -4 ≤ leading && leading < count then
    if leading ≥ 0 then
      let whole := leading.toNat + 1
      withFraction (digits.take whole) (fraction (digits.drop whole)) keepZeros
    else
      withFraction ['0'] (fraction (List.replicate (-leading - 1).toNat '0' ++ digits)) keepZeros
  else withFraction (digits.take 1) (fraction (digits.drop 1)) keepZeros ++ exponentChars leading

end LogGate.Binary64

/-!
Binary floating-point numbers of 64 bits, their exact values, and the rounding of an exact quotient
to the nearest of them.
-/

namespace LogGate

/-- A finite number is `± significand · 2 ^ exponent`. The mark tells undefined numbers apart. -/
inductive Binary64 where
  | finite (negative : Bool) (significand : Nat) (exponent : Int)
  | infinite (negative : Bool)
  | undefined (mark : Nat)
deriving DecidableEq, Inhabited

/-- An exact number, for comparison across kinds of numbers. -/
inductive Quantity where
  | exact (value : Rat)
  | infinite (negative : Bool)
  | undefined (mark : Nat)
deriving DecidableEq

/-- The rational number `significand · 2 ^ exponent`. -/
def binaryRat (significand : Int) (exponent : Int) : Rat :=
  mkRat (significand * Nat.pow 2 exponent.toNat) (Nat.pow 2 (-exponent).toNat)

namespace Binary64

def signed (negative : Bool) (magnitude : Nat) : Int :=
  if negative then -magnitude else magnitude

def quantity : Binary64 → Quantity
  | finite negative significand exponent =>
    .exact (binaryRat (signed negative significand) exponent)
  | infinite negative => .infinite negative
  | undefined mark => .undefined mark

end Binary64

/-- The nearest natural number to a quotient; a half goes to the even neighbour. -/
def nearestQuotient (numerator denominator : Nat) : Nat :=
  let floor := numerator / denominator
  let twice := 2 * (numerator % denominator)
  if twice < denominator then floor
  else if twice > denominator then floor + 1
  else if floor % 2 == 0 then floor else floor + 1

namespace Binary64

/-- The quotient `numerator / denominator / 2 ^ exponent` as one quotient of naturals. -/
def scaled (numerator denominator : Nat) (exponent : Int) : Nat × Nat :=
  (numerator * Nat.pow 2 (-exponent).toNat, denominator * Nat.pow 2 exponent.toNat)

/-- The exponent that leaves 53 bits before the point, and never below the least exponent. -/
def roundingExponent (numerator denominator : Nat) : Int :=
  let guess : Int := (numerator.log2 : Int) - (denominator.log2 : Int) - 53
  let (top, bottom) := scaled numerator denominator guess
  max (if top / bottom < Nat.pow 2 53 then guess else guess + 1) (-1074)

/-- An exact quotient rounds to the nearest binary number; a half goes to the even one. -/
def ofQuotient (negative : Bool) (numerator denominator : Nat) : Binary64 :=
  if numerator == 0 then finite negative 0 (-1074)
  else
    let exponent := roundingExponent numerator denominator
    let (top, bottom) := scaled numerator denominator exponent
    let significand := nearestQuotient top bottom
    let (significand, exponent) :=
      if significand == Nat.pow 2 53 then (Nat.pow 2 52, exponent + 1) else (significand, exponent)
    if exponent > 971 then infinite negative else finite negative significand exponent

/-- The number nearest to `± digits · 10 ^ exponent`. -/
def ofDecimal (negative : Bool) (digits : Nat) (exponent : Int) : Binary64 :=
  ofQuotient negative (digits * Nat.pow 10 exponent.toNat) (Nat.pow 10 (-exponent).toNat)

/-- A whole number rounds to the nearest binary number. -/
def ofInt (number : Int) : Binary64 :=
  ofQuotient (number < 0) number.natAbs 1

/-- Dropping the fraction rounds toward zero; it is not defined for infinities. -/
def truncate? : Binary64 → Option Int
  | finite negative significand exponent =>
    some (signed negative (significand * Nat.pow 2 exponent.toNat / Nat.pow 2 (-exponent).toNat))
  | _ => none

/-- A number is zero whatever its sign. -/
def isZero : Binary64 → Bool
  | finite _ significand _ => significand == 0
  | _ => false

end Binary64

end LogGate

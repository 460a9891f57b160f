import LogGate.Number.Binary64

/-!
Reading a binary number from decimal text.
-/

namespace LogGate.Binary64

def digitsValue (digits : List Char) : Nat :=
  digits.foldl (fun value c => 10 * value + (c.toNat - 48)) 0

def splitSign (chars : List Char) : Bool × List Char :=
  match chars with
  | '-' :: rest => (true, rest)
  | '+' :: rest => (false, rest)
  | _ => (false, chars)

/-- An exponent is a letter with a signed whole number behind it. -/
def readExponent? (chars : List Char) : Option Int :=
  match chars with
  | [] => some 0
  | mark :: rest =>
    let (negative, digits) := splitSign rest
    if mark.toLower == 'e' && !digits.isEmpty && digits.all Char.isDigit then
      some (signed negative (digitsValue digits))
    else none

/-- Digits with a point among them or without one, and an exponent. -/
def readDecimal? (negative : Bool) (chars : List Char) : Option Binary64 :=
  let whole := chars.takeWhile Char.isDigit
  let afterWhole := chars.dropWhile Char.isDigit
  let (fraction, afterFraction) :=
    match afterWhole with
    | '.' :: rest => (rest.takeWhile Char.isDigit, rest.dropWhile Char.isDigit)
    | _ => ([], afterWhole)
  if whole.isEmpty && fraction.isEmpty then none
  else (readExponent? afterFraction).map fun exponent =>
    ofDecimal negative (digitsValue (whole ++ fraction)) (exponent - fraction.length)

/-- The number nearest to a decimal text. An undefined number gets the mark. -/
def read? (content : String) (mark : Nat) : Option Binary64 :=
  let (negative, chars) := splitSign content.toList
  let word := String.ofList (chars.map Char.toLower)
  if word == "nan" then some (undefined mark)
  else if word == "inf" || word == "infinity" then some (infinite negative)
  else readDecimal? negative chars

end LogGate.Binary64

import LogGate.Failure
import LogGate.Number.Places

/-!
Timestamps: a count of seconds since the start of 1970 as a date and time of the common calendar.
-/

namespace LogGate.Timestamp

/-- Whole seconds, and microseconds from 0 up to 999999. -/
structure Instant where
  seconds : Int
  micros : Nat

/-- The fraction of a second is first scaled to microseconds as a binary number, and then rounded;
both roundings take a half to the even neighbour. -/
def fractionMicros (numerator denominator : Nat) : Nat :=
  match Binary64.ofQuotient false (numerator * 1000000) denominator with
  | .finite _ significand exponent =>
    nearestQuotient (significand * Nat.pow 2 exponent.toNat) (Nat.pow 2 (-exponent).toNat)
  | _ => 0

/-- A million microseconds carry over into the seconds. -/
def Instant.carried (seconds micros : Int) : Instant :=
  ⟨seconds + micros.fdiv 1000000, (micros.fmod 1000000).toNat⟩

/-- The least and the greatest second of a calendar with 32-bit years, and the range of 64 bits. -/
def inCalendar (seconds : Int) : Bool :=
  -67768040609740800 ≤ seconds && seconds ≤ 67768036191676799

def inClock (seconds : Int) : Bool :=
  -9223372036854775808 ≤ seconds && seconds ≤ 9223372036854775807

def Instant.ofClock (clock : Binary64) : Except Failure Instant :=
  match clock with
  | .undefined _ => .error .undefinedNumber
  | .infinite _ => .error .numberTooLarge
  | .finite negative significand exponent =>
    let numerator := significand * Nat.pow 2 exponent.toNat
    let denominator := Nat.pow 2 (-exponent).toNat
    let instant := Instant.carried (Binary64.signed negative (numerator / denominator))
      (Binary64.signed negative (fractionMicros (numerator % denominator) denominator))
    if !inClock instant.seconds then .error .numberTooLarge
    else if !inCalendar instant.seconds then .error .timeBeyondCalendar
    else .ok instant

structure Date where
  year : Int
  month : Nat
  day : Nat

/-- The date of a day counted from the start of 1970. Years are counted from March, so that a leap
day is the last day of its year; 400 years have 146097 days. -/
def Date.ofDay (day : Int) : Date :=
  let shifted := day + 719468
  let era := shifted.fdiv 146097
  let inEra := (shifted.fmod 146097).toNat
  let yearOfEra := (inEra - inEra / 1460 + inEra / 36524 - inEra / 146096) / 365
  let inYear := inEra - (365 * yearOfEra + yearOfEra / 4 - yearOfEra / 100)
  let fromMarch := (5 * inYear + 2) / 153
  let month := if fromMarch < 10 then fromMarch + 3 else fromMarch - 9
  { year := yearOfEra + era * 400 + (if month ≤ 2 then 1 else 0)
    month
    day := inYear - (153 * fromMarch + 2) / 5 + 1 }

def padded (count number : Nat) : String :=
  String.ofList (Binary64.paddedDigits count number)

def Date.text (date : Date) : String :=
  padded 4 date.year.toNat ++ "-" ++ padded 2 date.month ++ "-" ++ padded 2 date.day

/-- The time of a day, from a count of seconds below 86400. Microseconds are written only when there
are any. -/
def timeText (second micros : Nat) : String :=
  padded 2 (second / 3600) ++ ":" ++ padded 2 (second / 60 % 60) ++ ":" ++ padded 2 (second % 60) ++
    if micros == 0 then "" else "." ++ padded 6 micros

/-- An instant is written when its year has four digits. -/
def Instant.text (instant : Instant) : Except Failure String :=
  let date := Date.ofDay (instant.seconds.fdiv 86400)
  if date.year < 1 || 9999 < date.year then .error .yearOutOfRange
  else .ok (date.text ++ "T" ++ timeText (instant.seconds.fmod 86400).toNat instant.micros ++ "Z")

/-- The time of a clock in the years 1 to 9999, in coordinated universal time. -/
def text (clock : Binary64) : Except Failure String :=
  (Instant.ofClock clock).bind Instant.text

end LogGate.Timestamp

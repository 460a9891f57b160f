import LogGate.Level.Registry

/-!
The rank of an event. An event names its level by a value of any kind. What means no known level is a
rank of its own, and passes a threshold as far as it can be compared with one.
-/

namespace LogGate

namespace Quantity

/-- An undefined number is neither at least nor at most any number. -/
def atLeast (quantity : Quantity) (bound : Int) : Bool :=
  match quantity with
  | exact value => bound ≤ value
  | infinite negative => !negative
  | undefined _ => false

def atMost (quantity : Quantity) (bound : Int) : Bool :=
  match quantity with
  | exact value => value ≤ bound
  | infinite negative => negative
  | undefined _ => false

end Quantity

/-- A rank passes like the rank of a level. Only numbers are in order, but all values can be compared
for equality. -/
def LevelOrder.accepts (order : LevelOrder) (rank : Value) (threshold : Level) :
    Except Failure Bool :=
  match order, rank.quantity? with
  | severity, some quantity => .ok (quantity.atLeast threshold.rank)
  | inverted, some quantity => .ok (quantity.atMost threshold.rank)
  | severity, none | inverted, none => .error .unsuitable
  | exact, _ => .ok (rank.same (.int threshold.rank))

namespace Value

def grade? : Value → Option Level
  | level grade => some grade
  | _ => none

/-- A number of any kind may be whole. -/
def whole? (value : Value) : Option Int :=
  match value.quantity? with
  | some (.exact number) => if number.den = 1 then some number.num else none
  | _ => none

/-- The name of a level of its own is filled with its rank. A tuple gives its items to be filled in, so
that it has to have one. -/
def isNameable : Value → Bool
  | tuple items => items.length == 1
  | _ => true

end Value

/-- A level has a rank, and a whole number means the first level registered with that rank. Any other
value that can be looked up and named is the rank of a level of its own. -/
def Registry.rankOf (registry : Registry) (level : Value) : Except Failure Value :=
  match level.grade? with
  | some grade => .ok (.int grade.rank)
  | none =>
    if level.isHashable then
      match level.whole? with
      | some number => .ok (.int (registry.ofNumber number).rank)
      | none => if level.isNameable then .ok level else .error .argumentMismatch
    else .error .unhashable

end LogGate

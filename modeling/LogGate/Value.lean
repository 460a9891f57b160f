import LogGate.Level
import LogGate.Verdict
import LogGate.Number.Binary64

/-!
Values of a context, of a configuration and of a log record: data of any kind, with levels,
verdicts and configured pairs among them.
-/

namespace LogGate

/-- Values are finite, so that no list and no mapping is part of itself. Texts consist of characters, none
of which is half of a surrogate pair, and whole numbers have no greatest count of digits. -/
inductive Value where
  | absent
  | bool (truth : Bool)
  | int (number : Int)
  | float (number : Binary64)
  | text (content : String)
  | list (items : List Value)
  | tuple (items : List Value)
  | mapping (entries : List (Value × Value))
  | bytes (octets : List UInt8)
  | level (grade : Level)
  | verdict (outcome : Verdict)
  | pair (key value : Value)

instance : Inhabited Value := ⟨.absent⟩

namespace Value

/-- Nothing, zero and whatever is empty counts as false; all other values count as true. -/
def isTrue : Value → Bool
  | absent => false
  | bool truth => truth
  | int number => number != 0
  | float number => !number.isZero
  | text content => !content.isEmpty
  | list items => !items.isEmpty
  | tuple items => !items.isEmpty
  | mapping entries => !entries.isEmpty
  | bytes octets => !octets.isEmpty
  | level _ => true
  | verdict _ => true
  | pair _ _ => true

def isAbsent : Value → Bool
  | absent => true
  | _ => false

/-- Truth values, whole numbers and binary numbers are numbers of one scale. -/
def quantity? : Value → Option Quantity
  | bool truth => some (.exact (if truth then 1 else 0))
  | int number => some (.exact number)
  | float number => some number.quantity
  | _ => none

/-- A value is hashable when no list and no mapping is part of it. -/
def isHashable : Value → Bool
  | list _ => false
  | mapping _ => false
  | tuple items => allHashable items
  | pair key value => key.isHashable && value.isHashable
  | _ => true
where
  allHashable : List Value → Bool
    | [] => true
    | item :: rest => item.isHashable && allHashable rest

mutual

/-- Values are equal by content: numbers by quantity, mappings without regard to order. -/
def same : Value → Value → Bool
  | absent, other => other.isAbsent
  | bool truth, other => other.quantity? == some (.exact (if truth then 1 else 0))
  | int number, other => other.quantity? == some (.exact number)
  | float number, other => other.quantity? == some number.quantity
  | text content, other => match other with
    | .text second => content == second
    | _ => false
  | list items, other => match other with
    | .list second => sameItems items second
    | _ => false
  | tuple items, other => match other with
    | .tuple second => sameItems items second
    | _ => false
  | mapping entries, other => match other with
    | .mapping second => entries.length == second.length && allWithin entries second
    | _ => false
  | bytes octets, other => match other with
    | .bytes second => octets == second
    | _ => false
  | level grade, other => match other with
    | .level second => grade.same second
    | _ => false
  | verdict outcome, other => match other with
    | .verdict second => outcome == second
    | _ => false
  | pair key value, other => match other with
    | .pair secondKey secondValue => same key secondKey && same value secondValue
    | _ => false

def sameItems : List Value → List Value → Bool
  | [], second => second.isEmpty
  | item :: rest, second => match second with
    | [] => false
    | other :: others => same item other && sameItems rest others

/-- Every entry of the first mapping stands in the second. -/
def allWithin : List (Value × Value) → List (Value × Value) → Bool
  | [], _ => true
  | (key, value) :: rest, second =>
    (second.any fun entry => same key entry.1 && same value entry.2) && allWithin rest second

end

instance : BEq Value := ⟨same⟩

end Value

end LogGate

/-!
Severity levels. A level is a name with a rank; a higher rank is more severe.
-/

namespace LogGate

/-- A level is registered when the registry of levels issued it. -/
structure Level where
  name : String
  rank : Int
  registered : Bool
deriving DecidableEq, Inhabited

namespace Level

/-- Levels are equal by name and rank, wherever they come from. -/
def same (first second : Level) : Bool :=
  first.name == second.name && first.rank == second.rank

/-- The one registered level of a name is one object; every other level is an object of its own. -/
def identical (first second : Level) : Bool :=
  first.registered && second.registered && first.name == second.name

/-- The numbering of the logging library names these levels. -/
def numberedNames : List (Int × String) :=
  [(50, "CRITICAL"), (40, "ERROR"), (30, "WARNING"), (20, "INFO"), (10, "DEBUG"), (0, "NOTSET")]

/-- A level number without a name of its own is named by its digits. -/
def numberName (number : Int) : String :=
  (numberedNames.lookup number).getD s!"Level {number}"

end Level

/-- The way two levels are compared when a threshold is applied. -/
inductive LevelOrder where
  | severity
  | inverted
  | exact
deriving DecidableEq, Inhabited

namespace LevelOrder

/-- A candidate passes by severity when its rank reaches the threshold's rank. -/
def passes (order : LevelOrder) (candidate threshold : Level) : Bool :=
  match order with
  | severity => threshold.rank ≤ candidate.rank
  | inverted => candidate.rank ≤ threshold.rank
  | exact => candidate.rank == threshold.rank

def text : LevelOrder → String
  | severity => "SeverityOrdering()"
  | inverted => "Inverted()"
  | exact => "Exact()"

/-- Two orders made separately are equal only when both go by severity. -/
def sameWhenSeparate (first second : LevelOrder) : Bool :=
  first == severity && second == severity

end LevelOrder

end LogGate

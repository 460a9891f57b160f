import LogGate.Failure
import LogGate.Fields
import LogGate.Text.Blank
import LogGate.Text.Upper

/-!
The registry of levels. It issues one level for each name, and remembers for each rank the level
that was first registered with it.
-/

namespace LogGate

namespace Level

/-- Three names stand for levels of another name. -/
def aliases : List (String × String) :=
  [("WARNING", "WARN"), ("CRITICAL", "FATAL"), ("NOTSET", "ALL")]

/-- The normal form of a name is trimmed, in capital letters, and no alias. -/
def normalName (name : String) : String :=
  let capital := Text.upper (Text.trim name)
  (aliases.lookup capital).getD capital

end Level

/-- Both tables hold levels that this registry issued. -/
structure Registry where
  byName : Fields String Level
  byRank : Fields Int Level

namespace Registry

def empty : Registry := ⟨[], []⟩

/-- A new level takes its name, and its rank if no level has that rank yet. -/
def add (registry : Registry) (name : String) (rank : Int) : Registry :=
  let issued : Level := ⟨name, rank, true⟩
  { byName := registry.byName.put name issued
    byRank := if registry.byRank.has rank then registry.byRank
      else registry.byRank.put rank issued }

/-- The levels that every registry starts with, the least severe first. -/
def standardLevels : List (String × Int) :=
  [("ALL", 0), ("TRACE", 5), ("DEBUG", 10), ("INFO", 20), ("WARN", 30), ("ERROR", 40),
    ("FATAL", 50), ("OFF", 2147483647)]

def standard : Registry :=
  standardLevels.foldl (fun registry entry => registry.add entry.1 entry.2) empty

/-- The level of a text is found under the normal form of the text. -/
def find? (registry : Registry) (name : String) : Option Level :=
  registry.byName.get? (Level.normalName name)

/-- Registering a known name with its own rank gives the known level. -/
def register (registry : Registry) (name : Value) (rank : Int) :
    Except Failure (Level × Registry) :=
  match name with
  | .text content =>
    if Text.isBlank content then .error (.misconfigured .levelNameBlank)
    else
      let normal := Level.normalName content
      match registry.byName.get? normal with
      | some known =>
        if known.rank == rank then .ok (known, registry)
        else .error (.misconfigured (.levelRankTaken normal known.rank))
      | none => .ok (⟨normal, rank, true⟩, registry.add normal rank)
  | _ => .error (.misconfigured (.levelNameNotText name))

/-- A level stands for itself and a text for the level of its name. A default, if there is one,
stands in for nothing and for an unknown text. -/
def resolve (registry : Registry) (name : Value) (default : Option Level) :
    Except Failure Level :=
  match name with
  | .absent =>
    match default with
    | some level => .ok level
    | none => .error (.misconfigured .levelNameMissing)
  | .level grade => .ok grade
  | .text content =>
    match registry.find? content with
    | some level => .ok level
    | none =>
      match default with
      | some level => .ok level
      | none => .error (.misconfigured (.unknownLevel name))
  | _ => .error (.misconfigured (.unknownLevel name))

/-- A level number means the first level registered with that rank, or a level of its own. -/
def ofNumber (registry : Registry) (number : Int) : Level :=
  (registry.byRank.get? number).getD ⟨Level.numberName number, number, false⟩

/-- The registered levels, the least severe first; equal ranks stay in order of registration. -/
def sorted (registry : Registry) : List Level :=
  (registry.byName.map (·.2)).mergeSort fun first second => first.rank ≤ second.rank

end Registry

/-- The level that stands in for a missing default threshold. -/
def Level.error : Level := ⟨"ERROR", 40, true⟩

end LogGate

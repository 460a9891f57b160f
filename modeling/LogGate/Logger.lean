import LogGate.Record
import LogGate.Rule
import LogGate.Text.Split

/-!
Loggers. A logger has a dotted name and stands below the nearest logger whose name its own extends,
or below the root.
-/

namespace LogGate

/-- A level of zero leaves the decision to the loggers above. A parent of `none` is the root. A rule
stands beside the number that it was built under. -/
structure Logger where
  parent : Option String
  level : Int
  handlers : Nat
  rules : List (Nat × Rule)

namespace Logger

def fresh (parent : Option String) : Logger := ⟨parent, 0, 0, []⟩

/-- A rule that is attached to a logger judges by severity. Records bring their own context, or
none, in which case the ambient one counts. -/
def ruleOutcome (rule : Rule) (registry : Registry) (context : Context) (record : Record) :
    Except Failure Value :=
  (registry.rankOf record.level).bind fun rank =>
    rule.judge .severity rank (record.snapshot?.getD (Snapshot.ofEntries context))

/-- A record passes a logger when none of its rules denies it; the first denial decides. -/
def admits (logger : Logger) (registry : Registry) (context : Context) (record : Record) :
    Except Failure Bool :=
  (logger.rules.map (·.2)).allM fun rule =>
    (ruleOutcome rule registry context record).map fun outcome => !Rule.denies outcome

/-- The names above a dotted name, the nearest first. Of two neighbouring dots only the last one
ends a name. -/
def namesAbove (chars : List Char) : List (List Char) :=
  match cut : Text.cutAtLast '.' chars with
  | none => []
  | some (before, _) =>
    have : before.length < chars.length := by simp [Text.eq_of_cutAtLast cut]
    if before.isEmpty then [] else before :: namesAbove before.dropLast
termination_by chars.length
decreasing_by
  simp
  omega

end Logger

/-- An awaited name stands above loggers without being one; it remembers them. -/
structure LoggerTree where
  root : Logger
  named : Fields String Logger
  awaited : Fields String (List String)

namespace LoggerTree

/-- Every tree starts with its root at the level WARNING. -/
def initial : LoggerTree := ⟨⟨none, 30, 0, []⟩, [], []⟩

def rootName : String := "root"

/-- The empty name and the name of the root mean the root. -/
def target (name : String) : Option String :=
  if name.isEmpty || name == rootName then none else some name

def nameOf (target : Option String) : String :=
  target.getD rootName

/-- A name that has no logger is answered by a logger without settings. -/
def get (tree : LoggerTree) (target : Option String) : Logger :=
  match target with
  | none => tree.root
  | some name => (tree.named.get? name).getD (.fresh none)

def set (tree : LoggerTree) (target : Option String) (logger : Logger) : LoggerTree :=
  match target with
  | none => { tree with root := logger }
  | some name => { tree with named := tree.named.put name logger }

/-- A logger remembers the names that wait above it, up to the first one that is a logger. -/
def await (child : String) : LoggerTree → List String → LoggerTree × Option String
  | tree, [] => (tree, none)
  | tree, name :: rest =>
    if tree.named.has name then (tree, some name)
    else
      let children := (tree.awaited.get? name).getD []
      let children := if children.contains child then children else children ++ [child]
      await child { tree with awaited := tree.awaited.put name children } rest

/-- A new logger takes the place above a logger that waited for it, unless the present parent's name
already begins with the new name. -/
def adopt (parent : String) (tree : LoggerTree) (child : String) : LoggerTree :=
  let logger := tree.get (some child)
  if parent.toList.isPrefixOf (nameOf logger.parent).toList then tree
  else tree.set (some child) { logger with parent := some parent }

def create (tree : LoggerTree) (name : String) : LoggerTree :=
  let waiting := (tree.awaited.get? name).getD []
  let tree := { tree with
    named := tree.named.put name (.fresh none)
    awaited := tree.awaited.remove name }
  let tree := waiting.foldl (adopt name) tree
  let (tree, parent) := await name tree ((Logger.namesAbove name.toList).map String.ofList)
  tree.set (some name) { tree.get (some name) with parent }

/-- Asking for a logger makes it, if there is none of that name. -/
def ensure (tree : LoggerTree) (target : Option String) : LoggerTree :=
  match target with
  | none => tree
  | some name => if tree.named.has name then tree else tree.create name

/-- The loggers above a parent, the nearest first, in at most so many steps. -/
def above (tree : LoggerTree) : Nat → Option String → List Logger
  | 0, _ => []
  | _ + 1, none => [tree.root]
  | fuel + 1, some name =>
    tree.get (some name) :: tree.above fuel (tree.get (some name)).parent

/-- A logger and all loggers above it. Parents have shorter names, so that the length of the name
bounds their number. -/
def chain (tree : LoggerTree) (target : Option String) : List Logger :=
  tree.above ((nameOf target).length + 2) target

/-- The first level on the way up decides. -/
def effectiveLevel (tree : LoggerTree) (target : Option String) : Int :=
  (((tree.chain target).map (·.level)).find? (· != 0)).getD 0

/-- A record reaches the handlers of a logger and of all loggers above it. -/
def handlerCount (tree : LoggerTree) (target : Option String) : Nat :=
  (tree.chain target).foldr (fun logger count => logger.handlers + count) 0

/-- Levels of zero or less are never logged. The answer is found anew for each event. A library that keeps
it for each level until some level is set gives the same answers, except to loggers below one with the name
`r`, `ro` or `roo`: only there can a new logger change what those below it are enabled for. -/
def isEnabled (tree : LoggerTree) (target : Option String) (level : Int) : Bool :=
  0 < level && tree.effectiveLevel target ≤ level

end LoggerTree

end LogGate

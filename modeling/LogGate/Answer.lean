import LogGate.Session

/-!
Answers: what a step of a script lets its reader see.
-/

namespace LogGate

/-- What can be seen of a logger. -/
structure LoggerView where
  name : String
  level : Int
  effective : Int
  handlers : Nat
  rules : List String

inductive Answer where
  | nothing
  | value (value : Value)
  | values (values : List Value)
  | truth (truth : Bool)
  | count (count : Nat)
  | text (text : String)
  | level (level : Level)
  /-- The first level is at least as severe, at most as severe, equal, the same object, and passes
  the second as a threshold. -/
  | comparison (more less equal same passes : Bool)
  | orders (equal : Bool) (sameDigest : Option Bool) (first second : LevelOrder)
  | table (table : ThresholdTable)
  | lookup (level : Level) (contained : Bool)
  | equality (equal : Bool) (sameDigest : Option Bool)
  | matching (equal : Bool)
  | entries (entries : Fields Value Value)
  | request (name : Value) (context : Context)
  | left (context : Context)
  | snapshot (snapshot : Option Snapshot)
  | sharedSnapshot (snapshot : Snapshot)
  | found (value : Value) (contained : Bool)
  | filter (filter : Option Filter)
  | description (filter : Filter)
  | config (config : Config)
  | logger (view : LoggerView)
  | logged (written : Bool) (output : String)
  | answers (answers : List (Except Failure Answer))

instance : Inhabited Answer := ⟨.nothing⟩

/-- The view of a logger under the name it has in its tree. -/
def LoggerTree.view (tree : LoggerTree) (target : Option String) : LoggerView where
  name := nameOf target
  level := (tree.get target).level
  effective := tree.effectiveLevel target
  handlers := (tree.get target).handlers
  rules := (tree.get target).rules.map (·.2.text)

end LogGate

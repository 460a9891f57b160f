import LogGate.Value.Literal
import LogGate.Snapshot
import LogGate.Record

/-!
Scripts. A script is a list of steps: changes of the ambient context, scopes, operations on the
shared session, and blocks that run as a thread or as a task.
-/

namespace LogGate

/-- Changes of the ambient context. -/
inductive ContextChange where
  | put (name value : Literal)
  | putAll (fields : List (String × Literal))
  | remove (name : Literal)
  | clear

/-- A scope adds fields to the context until it is left. A failure that passes through a scope leaves
it too, and goes on. -/
inductive ScopeStep where
  | enter (scope : String) (fields : List (String × Literal))
  | enterRequest (scope : String) (request : Option Literal) (fields : List (String × Literal))
  | leave (scope : String) (failing : Bool := false)

/-- A record as a script writes it; a missing time is that of the clock. -/
structure RecordForm where
  name : String := "test"
  level : Int := 20
  message : Literal := .text "message"
  arguments : List Literal := []
  report : Option (Option (ErrorKind × List Literal)) := none
  created : Option Binary64 := none
  attributes : List (String × Literal) := []

/-- The provider of a filter: the ambient context unless one is named. -/
abbrev ProviderName := Option String

/-- The parts of a filter that are still to be read. -/
structure FilterForm where
  key : Option Literal
  pairs : Literal := .absent
  default : Literal := .absent
  onMatch : Literal := .absent
  onMismatch : Literal := .absent
  order : LevelOrder := .severity
  provider : ProviderName := none

/-- A filter around a table that exists already. -/
structure RuleForm where
  key : Option Literal
  table : Option String := none
  onMatch : Literal := .absent
  onMismatch : Literal := .absent
  order : LevelOrder := .severity
  provider : ProviderName := none

inductive ProviderForm where
  | ambient
  | source (data : Literal) (name : Option Literal)
  | silent

/-- The other side of a comparison is an object or a value. -/
inductive Operand where
  | object (name : String)
  | value (value : Literal)

/-- A stored snapshot, or data to take one of. -/
inductive SnapshotForm where
  | stored (name : String)
  | data (data : Literal)

/-- The configuration of a call is left out, or named, or explicitly the default one. -/
abbrev ConfigArgument := Option (Option String)

/-- Operations on the shared session. They may read the ambient context and never change it. -/
inductive Operation where
  | register (id : Option String) (name : Literal) (rank : Int)
  | resolveLevel (name default : Literal)
  | levelOfNumber (number : Int)
  | listLevels
  | compareLevels (first second : Literal)
  | compareOrders (first second : LevelOrder)
  | readVerdict (token default : Literal)
  | tableOfPairs (id : Option String) (pairs default : Literal)
  | tableOfMapping (id : Option String) (levels default : Literal)
  | lookUp (table : String) (value : Literal)
  | compareTables (first : String) (second : Operand)
  | showContext
  | getContext (name default : Literal)
  | takeSnapshot (id : Option String) (data : Literal)
  | getEntry (snapshot : String) (name default : Literal)
  | getItem (snapshot : String) (name : Literal)
  | compareSnapshots (first : String) (second : Operand)
  | emptySnapshot
  | snapshotOfRecord (record : RecordForm)
  | newProvider (id : String) (form : ProviderForm)
  | setSource (provider : String) (data : Literal)
  | countCalls (provider : String)
  | askProvider (id : Option String) (provider : String)
  | createFilter (id : Option String) (form : FilterForm)
  | newFilter (id : Option String) (form : RuleForm)
  | describeFilter (filter : String)
  | levelMap (filter : String) (added : List (Literal × Literal))
  | evaluate (filter : String) (level : Literal) (snapshot : SnapshotForm)
  | judgeCall (filter : String) (level : Literal) (arguments : List Literal) (marker : Literal)
  | judgeLevel (filter : String) (level : Literal)
  | judgeRecord (filter : String) (record : RecordForm)
  | filterSnapshot (filter : String)
  | compareFilters (first : String) (second : Operand)
  | adapt (filter : String) (name : Option Literal) (record : RecordForm)
  | compareObjects (first second : String)
  | readListing (listing : Literal)
  | setEnvironment (assignments : List (String × Option String))
  | configOfEnvironment (id : Option String) (assignments : List (String × Option String))
  | configOfNamed (id : Option String) (data : List (String × Literal))
  | newConfig (id : Option String) (fields : List (String × Literal))
  | setConfig (config field : String) (value : Literal)
  | appendConfig (config : String) (entry : Literal)
  | showConfig (config : String)
  | compareConfigs (first second : String)
  | buildFilter (id : Option String) (config : String) (order : LevelOrder)
      (provider : ProviderName)
  | getDefaultConfig (id : Option String)
  | setDefaultConfig (config : Option String)
  | formatRecord (record : RecordForm) (withTime : Option Literal)
  | setClock (clock : Binary64)
  | getFilter (id : Option String) (config : Option String)
  | getLogger (name : Literal) (config : Option String)
  | showLogger (name : String)
  | logWithContext (logger : String) (level message : Literal) (config : ConfigArgument)
      (extra : List (String × Literal))
  | log (logger : String) (level : Int) (message : Literal) (arguments : List Literal)
  | demonstrate

inductive Step where
  | change (change : ContextChange)
  | scope (scope : ScopeStep)
  | operation (operation : Operation)
  /-- A thread starts with an empty context. -/
  | thread (steps : List Step)
  /-- A task starts with a copy of the context. -/
  | task (steps : List Step)

end LogGate

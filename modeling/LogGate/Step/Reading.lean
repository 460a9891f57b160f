import LogGate.Session
import LogGate.Step

/-!
Reading the parts of an operation in a session: its literals become values, and its names become the
objects that they name.
-/

namespace LogGate.Act

def readOption : Option Literal → Act (Option Value)
  | some literal => some <$> read literal
  | none => pure none

def readReport (report : Option (Option (ErrorKind × List Literal))) :
    Act (Option ErrorReport) := do
  match report with
  | none => return none
  | some none => return some .nothing
  | some (some (kind, arguments)) => return some (.raised kind (← readAll arguments))

/-- A record is made at the time of the clock; its own time and its attributes are set after. -/
def readRecord (form : RecordForm) : Act Record := do
  let message ← read form.message
  let arguments ← readAll form.arguments
  let report ← readReport form.report
  let record ← attempt
    (Record.new (← get).clock form.name form.level message arguments report)
  let created : Value := .float (form.created.getD (← get).clock)
  return { record with created }.assignAll (← readPairs form.attributes)

def findProvider (name : ProviderName) : Act Provider :=
  match name with
  | some name => provider name
  | none => pure .ambient

def findConfig (name : Option String) : Act (Option Nat) :=
  match name with
  | some name => some <$> config name
  | none => pure none

def findTable (name : Option String) : Act (Option ThresholdTable) :=
  match name with
  | some name => some <$> table name
  | none => pure none

/-- A rule cannot be made without an argument for its key. -/
def requireKey (key : Option Value) : Act Value :=
  match key with
  | some key => pure key
  | none => throw .wrongArguments

def createFilter (form : FilterForm) : Act Filter := do
  let key ← readOption form.key
  let pairs ← read form.pairs
  let default ← read form.default
  let onMatch ← read form.onMatch
  let onMismatch ← read form.onMismatch
  let provider ← findProvider form.provider
  let key ← requireKey key
  let rule ← attempt (Rule.create (← get).registry key pairs default onMatch onMismatch)
  return ⟨rule, form.order, provider⟩

def newFilter (form : RuleForm) : Act Filter := do
  let key ← readOption form.key
  let table ← findTable form.table
  let onMatch ← read form.onMatch
  let onMismatch ← read form.onMismatch
  let provider ← findProvider form.provider
  let key ← requireKey key
  let rule ← attempt (Rule.new key table onMatch onMismatch)
  return ⟨rule, form.order, provider⟩

/-- Only levels have a rank to compare. -/
def levelOf (value : Value) : Act Level :=
  match value with
  | .level grade => pure grade
  | _ => throw .memberMissing

def snapshotOf (form : SnapshotForm) : Act Snapshot := do
  match form with
  | .stored name => snapshot name
  | .data data => attempt (Snapshot.ofValue (← read data))

end LogGate.Act

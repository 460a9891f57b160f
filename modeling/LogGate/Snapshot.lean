import LogGate.Context
import LogGate.Value.Items

/-!
Snapshots: the context of one event as texts. A snapshot is what a filter looks at.
-/

namespace LogGate

structure Snapshot where
  entries : Fields String String

namespace Snapshot

def empty : Snapshot := ⟨[]⟩

/-- Entries without a value are left out; names and values become plain texts. -/
def ofEntries (entries : List (Value × Value)) : Snapshot :=
  ⟨Fields.ofList ((Context.present entries).map fun entry => (entry.1.plain, entry.2.plain))⟩

/-- Only a mapping, or a value that counts as false, has a snapshot. -/
def ofValue (value : Value) : Except Failure Snapshot :=
  value.entriesOrNone.map ofEntries

def get? (snapshot : Snapshot) (name : String) : Option String :=
  snapshot.entries.get? name

/-- Only a text can be the name of an entry, but every hashable value may be asked for. -/
def find? (snapshot : Snapshot) (name : Value) : Except Failure (Option String) :=
  match name with
  | .text content => .ok (snapshot.get? content)
  | _ => (Context.checkName name).map fun _ => none

/-- A snapshot as a mapping of texts. -/
def toValue (snapshot : Snapshot) : Value :=
  .mapping (snapshot.entries.map fun entry => (.text entry.1, .text entry.2))

def same (first second : Snapshot) : Bool :=
  first.entries.sameAs second.entries (· == ·)

def quoted (snapshot : Snapshot) : String :=
  "ContextSnapshot(" ++ snapshot.toValue.quoted ++ ")"

end Snapshot

/-- Where a filter takes a snapshot from when an event brings none. -/
inductive Provider where
  /-- The ambient context of the running code. -/
  | ambient
  /-- A source of data under a number, shown by its name. -/
  | source (number : Nat) (name : Value)
  /-- No snapshot at all. -/
  | silent

namespace Provider

def text : Provider → String
  | ambient => "ContextVarSnapshotProvider()"
  | source _ name => "CallableSnapshotProvider(name=" ++ name.quoted ++ ")"
  | silent => "NoneProvider()"

end Provider

end LogGate

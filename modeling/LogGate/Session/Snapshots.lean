import LogGate.Session

/-!
Snapshots that a filter takes when an event brings none, and the outcomes that need them.
-/

namespace LogGate.Act

/-- A source is asked once for each snapshot, and gives one if its data is a mapping or nothing. -/
def askSource (number : Nat) : Act Snapshot := do
  let source := (← get).source number
  modify fun session =>
    { session with sources := session.sources.set number { source with calls := source.calls + 1 } }
  attempt (Snapshot.ofValue source.data)

def ask (context : Context) (provider : Provider) : Act (Option Snapshot) :=
  match provider with
  | .ambient => pure (some (Snapshot.ofEntries context))
  | .source number _ => some <$> askSource number
  | .silent => pure none

/-- Without a snapshot the empty one stands in. -/
def currentSnapshot (context : Context) (filter : Filter) : Act Snapshot := do
  return (← ask context filter.provider).getD .empty

/-- A record with a context of its own is judged by it. -/
def recordSnapshot (context : Context) (filter : Filter) (record : Record) : Act Snapshot :=
  match record.snapshot? with
  | some snapshot => pure snapshot
  | none => currentSnapshot context filter

def eventRank (level : Value) : Act Value := do
  attempt ((← get).registry.rankOf level)

/-- The snapshot of a record comes first, and then the rank of its level. -/
def recordOutcome (context : Context) (filter : Filter) (record : Record) : Act Value := do
  let snapshot ← recordSnapshot context filter record
  let rank ← eventRank record.level
  attempt (filter.judge rank snapshot)

/-- An event without a record is judged by what the provider gives, which is asked once its level is
found. -/
def eventOutcome (context : Context) (filter : Filter) (level : Value) : Act Value := do
  let rank ← eventRank level
  attempt (filter.judge rank (← currentSnapshot context filter))

/-- A name with a length of zero lets all records pass; otherwise the logger of the record has this
name or stands below it. -/
def passesName (name recordName : Value) : Except Failure Bool :=
  match name, recordName with
  | .text wanted, .text given =>
    .ok (wanted.isEmpty || wanted == given || (wanted ++ ".").toList.isPrefixOf given.toList)
  | .text wanted, .bytes _ => if wanted.isEmpty then .ok true else .error .unsuitable
  | .text wanted, _ => if wanted.isEmpty then .ok true else .error .memberMissing
  | _, _ =>
    match name.items? with
    | some [] => .ok true
    | some _ => if name.same recordName then .ok true else .error .unsuitable
    | none => .error .unsuitable

/-- A record is written unless the name or the filter keeps it back. -/
def adapterAdmits (context : Context) (filter : Filter) (name : Value) (record : Record) :
    Act Bool := do
  if ← attempt (passesName name record.name) then
    return !Rule.denies (← recordOutcome context filter record)
  else return false

end LogGate.Act

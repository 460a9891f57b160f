import LogGate.Level.Grade
import LogGate.Snapshot
import LogGate.Threshold.Table

/-!
Threshold rules. The value that a snapshot holds under the rule's key chooses a threshold, and the
level of the event is compared with it.
-/

namespace LogGate

namespace Verdict

/-- A verdict is read from a text whatever the case of its letters. -/
def ofToken (token : Value) : Except Failure Verdict :=
  match token with
  | .verdict outcome => .ok outcome
  | .text content =>
    match ofName? (Text.upper (Text.trim content)) with
    | some outcome => .ok outcome
    | none => .error (.misconfigured (.unknownVerdict token))
  | _ => .error (.misconfigured (.unknownVerdict token))

/-- A missing token gives the default. -/
def ofTokenOr (token : Value) (default : Verdict) : Except Failure Verdict :=
  if token.isAbsent then .ok default else ofToken token

end Verdict

structure Rule where
  key : String
  table : ThresholdTable
  onMatch : Value
  onMismatch : Value

namespace Rule

/-- A missing table is empty and has the default threshold ERROR. -/
def emptyTable : ThresholdTable := ⟨[], Level.error⟩

/-- A rule needs a key that is a text with more than white space. A missing outcome is NEUTRAL for a
level that passes and DENY for one that does not. -/
def new (key : Value) (table : Option ThresholdTable) (onMatch onMismatch : Value) :
    Except Failure Rule :=
  match key with
  | .absent => .error (.misconfigured .keyMissing)
  | .text content =>
    if Text.isBlank content then .error (.misconfigured .keyBlank)
    else .ok {
      key := content
      table := table.getD emptyTable
      onMatch := if onMatch.isAbsent then .verdict .neutral else onMatch
      onMismatch := if onMismatch.isAbsent then .verdict .deny else onMismatch }
  | _ => .error (.misconfigured .keyBlank)

/-- The parts of a rule are read in order: key, table, outcomes. -/
def create (registry : Registry) (key pairs default onMatch onMismatch : Value) :
    Except Failure Rule :=
  if key.isAbsent || Text.isBlank key.plain then .error (.misconfigured .keyBlank)
  else
    (ThresholdTable.ofPairs registry pairs default).bind fun table =>
      (Verdict.ofTokenOr onMatch .neutral).bind fun onMatch =>
        (Verdict.ofTokenOr onMismatch .deny).bind fun onMismatch =>
          new key (some table) (.verdict onMatch) (.verdict onMismatch)

/-- The rule abstains when the snapshot has no value for its key. Otherwise the outcome depends on
whether the level passes against the threshold of the value, in whichever way levels are compared. -/
def outcomeBy (rule : Rule) (passes : Level → Level → Bool) (level : Level) (snapshot : Snapshot) :
    Value :=
  match snapshot.get? rule.key with
  | none => .verdict .neutral
  | some value =>
    if passes level (rule.table.lookup (.text value)) then rule.onMatch
    else rule.onMismatch

def outcome (rule : Rule) (order : LevelOrder) (level : Level) (snapshot : Snapshot) : Value :=
  rule.outcomeBy order.passes level snapshot

/-- The outcome for an event of any rank; there is none if the rank is in no order to the threshold. -/
def judge (rule : Rule) (order : LevelOrder) (rank : Value) (snapshot : Snapshot) :
    Except Failure Value :=
  match snapshot.get? rule.key with
  | none => .ok (.verdict .neutral)
  | some value =>
    (order.accepts rank (rule.table.lookup (.text value))).map fun passes =>
      if passes then rule.onMatch else rule.onMismatch

/-- Only a denial keeps an event from being written. -/
def denies (outcome : Value) : Bool :=
  match outcome with
  | .verdict .deny => true
  | _ => false

/-- Rules are equal by key and table; the outcomes do not count. -/
def same (first second : Rule) : Bool :=
  first.key == second.key && first.table.same second.table

/-- Equal rules have equal digests. -/
def sameDigest (first second : Rule) : Bool :=
  Digest.ofText first.key == Digest.ofText second.key &&
    first.table.digest.same second.table.digest

/-- The entries follow the default threshold, if there are any. -/
def text (rule : Rule) : String :=
  "key=" ++ rule.key ++ ", default=" ++ rule.table.default.name ++
    (if rule.table.levels.isEmpty then "" else Value.braced rule.table.entriesText)

end Rule

end LogGate

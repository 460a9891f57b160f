import LogGate.Line.Json
import LogGate.Record
import LogGate.Timestamp

/-!
Lines of output. A line is one JSON object: the members of the record itself, then its context, then
the error that it reports.
-/

namespace LogGate.Line

/-- The point in time of a record must be a number. -/
def timestamp (created : Value) : Except Failure String :=
  match created with
  | .float clock => Timestamp.text clock
  | .int seconds => Timestamp.text (.finite (seconds < 0) seconds.natAbs 0)
  | .bool truth => Timestamp.text (.finite false (if truth then 1 else 0) 0)
  | _ => .error .unsuitable

/-- The level, the logger, the message and, when wanted, the time. -/
def ownMembers (record : Record) (withTime : Bool) : Except Failure (Fields String Value) :=
  record.text.bind fun message =>
    let members : Fields String Value :=
      [("level", record.levelName), ("logger", record.name), ("message", .text message)]
    if withTime then
      (timestamp record.created).map fun time => members.put "timestamp" (.text time)
    else .ok members

/-- An entry of the context takes the place of an earlier member of its name, and so does the error
report. -/
def members (record : Record) (withTime : Bool) : Except Failure (Fields String Value) :=
  (ownMembers record withTime).bind fun own =>
    record.reportText.map fun report =>
      let all := own.putAll record.contextEntries
      match report with
      | some text => all.put "exception" (.text text)
      | none => all

def ofRecord (record : Record) (withTime : Bool) : Except Failure String :=
  (members record withTime).bind fun members => Json.value (.mapping (Context.ofNamed members))

end LogGate.Line

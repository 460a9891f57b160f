import LogGate.Value.Text

/-!
Failures. A misconfiguration has a message for the one who wrote the configuration; every other
failure is told by its cause alone.
-/

namespace LogGate

/-- The ways in which levels, filters and their configurations can be written wrongly. -/
inductive Misconfiguration where
  | levelNameNotText (name : Value)
  | levelNameBlank
  | levelRankTaken (name : String) (rank : Int)
  | levelNameMissing
  | unknownLevel (name : Value)
  | unknownVerdict (token : Value)
  | malformedEntry (entry : String)
  | invalidEntry (entry : Value)
  | entryWithoutValue (entry : Value)
  | keyMissing
  | keyBlank
  | configurationWithoutKey

namespace Misconfiguration

def message : Misconfiguration → String
  | levelNameNotText name => "Level name must be a string: " ++ name.quoted
  | levelNameBlank => "Level name cannot be empty"
  | levelRankTaken name rank =>
    "Level " ++ name ++ " is already defined with rank " ++ Value.intText rank
  | levelNameMissing => "Level name cannot be None"
  | unknownLevel name => "Unknown log level: " ++ name.quoted
  | unknownVerdict token => "Unknown filter result: " ++ token.quoted
  | malformedEntry entry => "Malformed threshold entry: " ++ Text.quoted entry
  | invalidEntry entry => "Invalid threshold entry: " ++ entry.quoted
  | entryWithoutValue entry => "Threshold entry has no context value: " ++ entry.quoted
  | keyMissing => "key cannot be None"
  | keyBlank => "key cannot be empty"
  | configurationWithoutKey => "DynamicThresholdFilter requires a key"

end Misconfiguration

inductive Failure where
  /-- A filter or level cannot be built from what was configured. -/
  | misconfigured (cause : Misconfiguration)
  /-- A list or mapping cannot be a name in a table. -/
  | unhashable
  /-- A value without items was to be walked through. -/
  | notIterable
  /-- A value is of a kind that the operation does not take. -/
  | unsuitable
  /-- An argument is missing, unknown or given twice. -/
  | wrongArguments
  /-- A value lacks the member that was asked of it. -/
  | memberMissing
  /-- A table has no entry of the name asked for. -/
  | entryMissing
  /-- A sequence is too short for the position asked for. -/
  | positionMissing
  /-- A template and its arguments differ in number or kind. -/
  | argumentMismatch
  /-- A template has a field that cannot be read. -/
  | malformedTemplate
  /-- The name of a member cannot be written in a line. -/
  | unwritableName
  /-- An undefined number has no whole part and no point in time. -/
  | undefinedNumber
  /-- A number is beyond the range of its use. -/
  | numberTooLarge
  /-- A text is asked to be longer than any memory. -/
  | textTooLong
  /-- A point in time is outside the years 1 to 9999. -/
  | yearOutOfRange
  /-- A point in time is beyond the calendar. -/
  | timeBeyondCalendar
  /-- A scope was left outside the context that entered it. -/
  | foreignScope
  /-- No object of the wanted kind has the name. -/
  | unknownObject

instance : Inhabited Failure := ⟨.unknownObject⟩

end LogGate

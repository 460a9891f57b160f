import LogGate.Value
import LogGate.Number.Shortest
import LogGate.Text.Quoted

/-!
The text of a value. Quoted text shows the kind of a value; plain text differs from it for texts,
levels and verdicts, which show only their content.
-/

namespace LogGate.Value

def intText (number : Int) : String :=
  String.ofList ((if number < 0 then ['-'] else []) ++ Nat.toDigits 10 number.natAbs)

def boolText (truth : Bool) : String :=
  if truth then "True" else "False"

def levelQuoted (grade : Level) : String :=
  "Level(name=" ++ Text.quoted grade.name ++ ", rank=" ++ intText grade.rank ++ ")"

def verdictQuoted (outcome : Verdict) : String :=
  "<Result." ++ outcome.name ++ ": " ++ Text.quoted outcome.name ++ ">"

/-- Items are separated by a comma and a blank. -/
def commaJoined (items : List String) : String :=
  ", ".intercalate items

/-- A tuple of one item keeps a comma behind it. -/
def tupleQuoted : List String → String
  | [item] => "(" ++ item ++ ",)"
  | items => "(" ++ commaJoined items ++ ")"

/-- A mapping stands between braces. -/
def braced (items : List String) : String :=
  "\x7b" ++ commaJoined items ++ "\x7d"

mutual

def quoted : Value → String
  | absent => "None"
  | bool truth => boolText truth
  | int number => intText number
  | float number => number.text
  | text content => Text.quoted content
  | list items => "[" ++ commaJoined (quotedItems items) ++ "]"
  | tuple items => tupleQuoted (quotedItems items)
  | mapping entries => braced (quotedEntries entries)
  | bytes octets => Text.quotedBytes octets
  | level grade => levelQuoted grade
  | verdict outcome => verdictQuoted outcome
  | pair key value => "KeyValuePair(key=" ++ quoted key ++ ", value=" ++ quoted value ++ ")"

def quotedItems : List Value → List String
  | [] => []
  | item :: rest => quoted item :: quotedItems rest

def quotedEntries : List (Value × Value) → List String
  | [] => []
  | (key, value) :: rest => (quoted key ++ ": " ++ quoted value) :: quotedEntries rest

end

/-- Texts, levels and verdicts are written without quotes; every other value as it is quoted. -/
def plain : Value → String
  | text content => content
  | level grade => grade.name
  | verdict outcome => outcome.name
  | value => value.quoted

end LogGate.Value

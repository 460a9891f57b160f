import LogGate.Value.Text
import LogGate.Failure

/-!
JSON of ASCII characters, without blanks. Values that JSON does not know are written as their text.
-/

namespace LogGate.Json

/-- A unit of 16 bits is written as four hexadecimal digits. -/
def unitChars (code : Nat) : List Char :=
  '\x5c' :: 'u' :: Text.hexDigits 4 code

/-- Codes beyond 16 bits take two units. -/
def codeChars (code : Nat) : List Char :=
  if code < 0x10000 then unitChars code
  else
    unitChars (0xD800 + (code - 0x10000) / 0x400) ++ unitChars (0xDC00 + (code - 0x10000) % 0x400)

def stringChar (c : Char) : List Char :=
  if c == '\x22' || c == '\x5c' then ['\x5c', c]
  else if c == '\n' then ['\x5c', 'n']
  else if c == '\r' then ['\x5c', 'r']
  else if c == '\t' then ['\x5c', 't']
  else if c == '\x08' then ['\x5c', 'b']
  else if c == '\x0c' then ['\x5c', 'f']
  else if Text.isPlainAscii c then [c]
  else codeChars c.toNat

def string (content : String) : String :=
  String.ofList ('\x22' :: content.toList.flatMap stringChar ++ ['\x22'])

def boolText (truth : Bool) : String :=
  if truth then "true" else "false"

def floatText : Binary64 → String
  | .undefined _ => "NaN"
  | .infinite negative => if negative then "-Infinity" else "Infinity"
  | number => number.text

/-- Texts, numbers, truth values and nothing can name a member. -/
def memberName (name : Value) : Except Failure String :=
  match name with
  | .text content => .ok content
  | .absent => .ok "null"
  | .bool truth => .ok (boolText truth)
  | .int number => .ok (Value.intText number)
  | .float number => .ok (floatText number)
  | _ => .error .unwritableName

def array (items : List String) : String :=
  "[" ++ ",".intercalate items ++ "]"

def object (members : List (String × String)) : String :=
  "\x7b" ++ ",".intercalate (members.map fun member => string member.1 ++ ":" ++ member.2) ++ "\x7d"

mutual

def value : Value → Except Failure String
  | .absent => .ok "null"
  | .bool truth => .ok (boolText truth)
  | .int number => .ok (Value.intText number)
  | .float number => .ok (floatText number)
  | .text content => .ok (string content)
  | .list items => (values items).map array
  | .tuple items => (values items).map array
  | .mapping entries => (members entries).map object
  | other => .ok (string other.plain)

def values : List Value → Except Failure (List String)
  | [] => .ok []
  | item :: rest => (value item).bind fun item => (values rest).map fun rest => item :: rest

def members : List (Value × Value) → Except Failure (List (String × String))
  | [] => .ok []
  | (name, item) :: rest => (memberName name).bind fun name =>
    (value item).bind fun item => (members rest).map fun rest => (name, item) :: rest

end

end LogGate.Json

import LogGate.Text.Printable

/-!
Quoted text: a text between two marks, with escapes for the mark, the backslash and every character
that cannot be printed.
-/

namespace LogGate.Text

def hexDigit (digit : Nat) : Char :=
  if digit < 10 then Char.ofNat (0x30 + digit) else Char.ofNat (0x57 + digit)

/-- Hexadecimal digits are written from the highest place to the lowest. -/
def hexDigits : Nat → Nat → List Char
  | 0, _ => []
  | width + 1, code => hexDigit (code / 16 ^ width % 16) :: hexDigits width code

/-- A code is escaped with the shortest of three widths that holds it. -/
def escapeCode (code : Nat) : List Char :=
  if code < 0x100 then '\x5c' :: 'x' :: hexDigits 2 code
  else if code < 0x10000 then '\x5c' :: 'u' :: hexDigits 4 code
  else '\x5c' :: 'U' :: hexDigits 8 code

/-- The mark is an apostrophe, unless the text holds apostrophes and no double quote. -/
def quoteMark (chars : List Char) : Char :=
  if chars.contains '\x27' && !chars.contains '\x22' then '\x22' else '\x27'

def quotedChar (plain : Char → Bool) (mark c : Char) : List Char :=
  if c == mark || c == '\x5c' then ['\x5c', c]
  else if c == '\t' then ['\x5c', 't']
  else if c == '\n' then ['\x5c', 'n']
  else if c == '\r' then ['\x5c', 'r']
  else if plain c then [c]
  else escapeCode c.toNat

def quotedChars (plain : Char → Bool) (chars : List Char) : List Char :=
  let mark := quoteMark chars
  mark :: chars.flatMap (quotedChar plain mark) ++ [mark]

/-- Quoted text shows every printable character as itself. -/
def quoted (text : String) : String :=
  String.ofList (quotedChars isPrintable text.toList)

def isPlainAscii (c : Char) : Bool :=
  0x20 ≤ c.toNat && c.toNat < 0x7F

/-- Quoted bytes show only printable ASCII as itself. -/
def quotedBytes (bytes : List UInt8) : String :=
  String.ofList ('b' :: quotedChars isPlainAscii (bytes.map fun byte => Char.ofNat byte.toNat))

/-- Characters beyond ASCII are replaced by their escapes. -/
def escapeNonAscii (text : String) : String :=
  String.ofList (text.toList.flatMap fun c => if c.toNat < 0x80 then [c] else escapeCode c.toNat)

end LogGate.Text

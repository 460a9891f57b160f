import LogGate.Context
import LogGate.Number.Reading

/-!
A reader of JSON texts. It accepts the whole grammar of JSON: blanks, escapes and pairs of surrogates in
texts, fractions and exponents in numbers. Of several members of one name the last one counts, and a
surrogate without its partner is no text.
-/

namespace LogGate.Json

section Blanks

def isSpace (c : Char) : Bool :=
  c == ' ' || c == '\t' || c == '\n' || c == '\r'

def skip (chars : List Char) : List Char :=
  chars.dropWhile isSpace

end Blanks

section Texts

def hexDigit? (c : Char) : Option Nat :=
  if c.isDigit then some (c.toNat - 0x30)
  else if 'a' ≤ c && c ≤ 'f' then some (c.toNat - 0x57)
  else if 'A' ≤ c && c ≤ 'F' then some (c.toNat - 0x37)
  else none

/-- Hexadecimal digits are read from the highest place to the lowest. -/
def hexValue? (digits : List Char) : Option Nat :=
  digits.foldlM (fun value digit => (hexDigit? digit).map (16 * value + ·)) 0

/-- The unit that a letter behind a backslash stands for. -/
def escaped? : Char → Option Nat
  | '\x22' => some 0x22
  | '\x5c' => some 0x5C
  | '/' => some 0x2F
  | 'b' => some 0x08
  | 'f' => some 0x0C
  | 'n' => some 0x0A
  | 'r' => some 0x0D
  | 't' => some 0x09
  | _ => none

def withUnit (unit : Option Nat) (units : Option (List Nat × List Char)) :
    Option (List Nat × List Char) :=
  unit.bind fun unit => units.map fun (units, rest) => (unit :: units, rest)

/-- The units of a text up to the closing quote, and what stands behind it. A character that is not
escaped is one unit; control characters must be escaped. -/
def readUnits? : List Char → Option (List Nat × List Char)
  | [] => none
  | c :: rest =>
    if c == '\x22' then some ([], rest)
    else if c == '\x5c' then
      match rest with
      | 'u' :: first :: second :: third :: fourth :: rest =>
        withUnit (hexValue? [first, second, third, fourth]) (readUnits? rest)
      | letter :: rest => withUnit (escaped? letter) (readUnits? rest)
      | [] => none
    else if c.toNat < 0x20 then none
    else withUnit (some c.toNat) (readUnits? rest)

@[simp] theorem readUnits?_quote (rest : List Char) :
    readUnits? ('\x22' :: rest) = some ([], rest) := by
  rw [readUnits?.eq_def]
  rfl

/-- Four digits after the mark are one unit. -/
theorem readUnits?_unit (first second third fourth : Char) (rest : List Char) :
    readUnits? ('\x5c' :: 'u' :: first :: second :: third :: fourth :: rest) =
      withUnit (hexValue? [first, second, third, fourth]) (readUnits? rest) := by
  rw [readUnits?.eq_def]
  rfl

/-- Another letter after the mark stands for one character. -/
theorem readUnits?_letter {letter : Char} (other : letter ≠ 'u') (rest : List Char) :
    readUnits? ('\x5c' :: letter :: rest) = withUnit (escaped? letter) (readUnits? rest) := by
  rw [readUnits?.eq_def]
  simp [other]

/-- A visible character stands for itself. -/
theorem readUnits?_plain {c : Char} (noQuote : c ≠ '\x22') (noMark : c ≠ '\x5c')
    (visible : 0x20 ≤ c.toNat) (rest : List Char) :
    readUnits? (c :: rest) = withUnit (some c.toNat) (readUnits? rest) := by
  rw [readUnits?.eq_def]
  simp [noQuote, noMark, Nat.not_lt.mpr visible]

def isHigh (unit : Nat) : Bool :=
  0xD800 ≤ unit && unit < 0xDC00

def isLow (unit : Nat) : Bool :=
  0xDC00 ≤ unit && unit < 0xE000

/-- A high surrogate and the low one behind it are one character. -/
def joinUnits? : List Nat → Option (List Char)
  | [] => some []
  | unit :: rest =>
    if isHigh unit then
      match rest with
      | low :: rest =>
        if isLow low then
          (joinUnits? rest).map
            (Char.ofNat (0x10000 + (unit - 0xD800) * 0x400 + (low - 0xDC00)) :: ·)
        else none
      | [] => none
    else if isLow unit then none
    else (joinUnits? rest).map (Char.ofNat unit :: ·)

/-- A unit outside the pairs is a character of its own. -/
theorem joinUnits?_single {unit : Nat} (noHigh : isHigh unit = false) (noLow : isLow unit = false)
    (rest : List Nat) :
    joinUnits? (unit :: rest) = (joinUnits? rest).map (Char.ofNat unit :: ·) := by
  rw [joinUnits?.eq_def]
  simp [noHigh, noLow]

/-- A high and a low unit are one character. -/
theorem joinUnits?_pair {high low : Nat} (isHigh : isHigh high = true) (isLow : isLow low = true)
    (rest : List Nat) :
    joinUnits? (high :: low :: rest) = (joinUnits? rest).map
      (Char.ofNat (0x10000 + (high - 0xD800) * 0x400 + (low - 0xDC00)) :: ·) := by
  simp [joinUnits?, isHigh, isLow]

/-- A text behind its opening quote. -/
def readText? (chars : List Char) : Option (String × List Char) :=
  (readUnits? chars).bind fun (units, rest) =>
    (joinUnits? units).map fun content => (String.ofList content, rest)

end Texts

section Numbers

/-- A whole number has digits, and no zero in front of other digits. -/
def readWhole? (chars : List Char) : Option (List Char × List Char) :=
  let digits := chars.takeWhile Char.isDigit
  if digits.isEmpty || (digits.head? == some '0' && digits.length != 1) then none
  else some (digits, chars.dropWhile Char.isDigit)

/-- The digits behind a point, or none if there is no point. -/
def readFraction? (chars : List Char) : Option (List Char × List Char) :=
  match chars with
  | '.' :: rest =>
    let digits := rest.takeWhile Char.isDigit
    if digits.isEmpty then none else some (digits, rest.dropWhile Char.isDigit)
  | _ => some ([], chars)

/-- The exponent, if there is one. -/
def readPower? (chars : List Char) : Option (Option Int × List Char) :=
  match chars with
  | [] => some (none, [])
  | mark :: rest =>
    if mark == 'e' || mark == 'E' then
      let (negative, rest) := Binary64.splitSign rest
      let digits := rest.takeWhile Char.isDigit
      if digits.isEmpty then none
      else some (some (Binary64.signed negative (Binary64.digitsValue digits)),
        rest.dropWhile Char.isDigit)
    else some (none, chars)

/-- Without a fraction and an exponent a number is whole. -/
def numberValue (negative : Bool) (whole fraction : List Char) (power : Option Int) : Value :=
  if fraction.isEmpty && power.isNone then
    .int (Binary64.signed negative (Binary64.digitsValue whole))
  else
    .float (Binary64.ofDecimal negative (Binary64.digitsValue (whole ++ fraction))
      (power.getD 0 - fraction.length))

def readMagnitude? (negative : Bool) (chars : List Char) : Option (Value × List Char) :=
  (readWhole? chars).bind fun (whole, rest) =>
    (readFraction? rest).bind fun (fraction, rest) =>
      (readPower? rest).map fun (power, rest) => (numberValue negative whole fraction power, rest)

def readNumber? (chars : List Char) : Option (Value × List Char) :=
  match chars with
  | '-' :: rest => readMagnitude? true rest
  | _ => readMagnitude? false chars

end Numbers

def readWord? (chars : List Char) : Option (Value × List Char) :=
  if "null".toList.isPrefixOf chars then some (.absent, chars.drop 4)
  else if "true".toList.isPrefixOf chars then some (.bool true, chars.drop 4)
  else if "false".toList.isPrefixOf chars then some (.bool false, chars.drop 5)
  else none

/-- The name of a member and the colon behind it. -/
def readName? (chars : List Char) : Option (String × List Char) :=
  match chars with
  | '\x22' :: rest =>
    (readText? rest).bind fun (name, rest) =>
      match skip rest with
      | ':' :: rest => some (name, skip rest)
      | _ => none
  | _ => none

mutual

/-- A value at the start of a text, and what stands behind it. No value needs more steps than it has
characters. -/
def readValue? : Nat → List Char → Option (Value × List Char)
  | 0, _ => none
  | _, [] => none
  | fuel + 1, c :: rest =>
    if c == '\x22' then (readText? rest).map fun (content, rest) => (.text content, rest)
    else if c == '[' then
      match skip rest with
      | ']' :: rest => some (.list [], rest)
      | rest => (readItems? fuel rest).map fun (items, rest) => (.list items, rest)
    else if c == '\x7b' then
      match skip rest with
      | '\x7d' :: rest => some (.mapping [], rest)
      | rest => (readMembers? fuel rest).map fun (members, rest) =>
        (.mapping (Context.ofNamed (Fields.ofList members)), rest)
    else if c == '-' || c.isDigit then readNumber? (c :: rest)
    else readWord? (c :: rest)

/-- The items of an array up to its end. -/
def readItems? : Nat → List Char → Option (List Value × List Char)
  | 0, _ => none
  | fuel + 1, chars =>
    (readValue? fuel chars).bind fun (item, rest) =>
      match skip rest with
      | ']' :: rest => some ([item], rest)
      | ',' :: rest => (readItems? fuel (skip rest)).map fun (items, rest) => (item :: items, rest)
      | _ => none

/-- The members of an object up to its end. -/
def readMembers? : Nat → List Char → Option (List (String × Value) × List Char)
  | 0, _ => none
  | fuel + 1, chars =>
    (readName? chars).bind fun (name, rest) =>
      (readValue? fuel rest).bind fun (item, rest) =>
        match skip rest with
        | '\x7d' :: rest => some ([(name, item)], rest)
        | ',' :: rest => (readMembers? fuel (skip rest)).map fun (members, rest) =>
          ((name, item) :: members, rest)
        | _ => none

end

section Steps

variable {steps : Nat} {rest more : List Char}

/-- A quote starts a text. -/
theorem readValue?_text (steps : Nat) (rest : List Char) :
    readValue? (steps + 1) ('\x22' :: rest) =
      (readText? rest).map fun (content, rest) => (.text content, rest) := by
  rw [readValue?.eq_def]
  rfl

theorem readValue?_emptyArray (closed : skip rest = ']' :: more) :
    readValue? (steps + 1) ('[' :: rest) = some (.list [], more) := by
  rw [readValue?.eq_def]
  simp [closed]

/-- A list that is not empty has items. -/
theorem readValue?_array (filled : ∀ more, skip rest ≠ ']' :: more) :
    readValue? (steps + 1) ('[' :: rest) =
      (readItems? steps (skip rest)).map fun (items, rest) => (.list items, rest) := by
  rw [readValue?.eq_def]
  simp only [Char.reduceBEq, Bool.false_eq_true, if_false, if_true]

theorem readValue?_emptyObject (closed : skip rest = '\x7d' :: more) :
    readValue? (steps + 1) ('\x7b' :: rest) = some (.mapping [], more) := by
  rw [readValue?.eq_def]
  simp [closed]

/-- A mapping that is not empty has members, of which the last one of each name counts. -/
theorem readValue?_object (filled : ∀ more, skip rest ≠ '\x7d' :: more) :
    readValue? (steps + 1) ('\x7b' :: rest) =
      (readMembers? steps (skip rest)).map fun (members, rest) =>
        (.mapping (Context.ofNamed (Fields.ofList members)), rest) := by
  rw [readValue?.eq_def]
  simp only [Char.reduceBEq, Bool.false_eq_true, if_false, if_true]

/-- A sign or a digit starts a number. -/
theorem readValue?_number {c : Char} (number : (c == '-' || c.isDigit) = true) :
    readValue? (steps + 1) (c :: rest) = readNumber? (c :: rest) := by
  have apart (other : Char) (unlike : (other == '-' || other.isDigit) = false) :
      (c == other) = false := by
    rw [beq_eq_false_iff_ne]
    rintro rfl
    rw [number] at unlike
    contradiction
  rw [readValue?.eq_def]
  simp only [apart '\x22' (by decide), apart '[' (by decide), apart '\x7b' (by decide), number,
    Bool.false_eq_true, if_false, if_true]

variable {chars : List Char} {item : Value}

/-- A bracket ends the items. -/
theorem readItems?_last (read : readValue? steps chars = some (item, rest))
    (closed : skip rest = ']' :: more) :
    readItems? (steps + 1) chars = some ([item], more) := by
  simp [readItems?, read, closed]

/-- A comma comes before a further item. -/
theorem readItems?_next (read : readValue? steps chars = some (item, rest))
    (comma : skip rest = ',' :: more) : readItems? (steps + 1) chars =
      (readItems? steps (skip more)).map fun (items, rest) => (item :: items, rest) := by
  simp [readItems?, read, comma]

variable {name : String} {inside : List Char}

/-- A brace ends the members. -/
theorem readMembers?_last (named : readName? chars = some (name, inside))
    (read : readValue? steps inside = some (item, rest)) (closed : skip rest = '\x7d' :: more) :
    readMembers? (steps + 1) chars = some ([(name, item)], more) := by
  simp [readMembers?, named, read, closed]

/-- A comma comes before a further member. -/
theorem readMembers?_next (named : readName? chars = some (name, inside))
    (read : readValue? steps inside = some (item, rest)) (comma : skip rest = ',' :: more) :
    readMembers? (steps + 1) chars = (readMembers? steps (skip more)).map
      fun (members, rest) => ((name, item) :: members, rest) := by
  simp [readMembers?, named, read, comma]

end Steps

/-- A text is read when it is one value with blanks around it. -/
def read? (text : String) : Option Value :=
  (readValue? text.length (skip text.toList)).bind fun (value, rest) =>
    if (skip rest).isEmpty then some value else none

example : (read? " [\"\\u00e4\\ud83D\\uDE00\\/\" ,\t1.5e1, \x7b\"a\": -0\x7d ]\n").map Value.quoted =
    some "['ä😀/', 15.0, \x7b'a': 0\x7d]" := by
  decide +kernel

example : ["", "[01]", "[1,]", "\"\\ud83d\"", "\x7b\"a\" 1\x7d", "nul", "1 2"].all
    (fun text => (read? text).isNone) := by
  decide +kernel

end LogGate.Json

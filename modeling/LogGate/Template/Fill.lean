import LogGate.Failure
import LogGate.Fields
import LogGate.Number.Places
import LogGate.Template

/-!
Filling a template: every field is replaced by the text of one argument.
-/

namespace LogGate.Template

/-- What is left to fill the fields: a source of named arguments, and arguments in order. -/
structure Supply where
  named : Option Value
  pending : List Value

namespace Supply

/-- A tuple gives its items in order; every other value is one argument. Mappings, lists and bytes
are asked for named arguments as well. -/
def ofArguments (arguments : Value) : Supply :=
  match arguments with
  | .tuple items => ⟨none, items⟩
  | .mapping _ => ⟨some arguments, [arguments]⟩
  | .list _ => ⟨some arguments, [arguments]⟩
  | .bytes _ => ⟨some arguments, [arguments]⟩
  | _ => ⟨none, [arguments]⟩

def next (supply : Supply) : Except Failure (Value × Supply) :=
  match supply.pending with
  | value :: rest => .ok (value, { supply with pending := rest })
  | [] => .error .argumentMismatch

/-- A named argument becomes the only one that is left. -/
def select (supply : Supply) (name : FieldName) : Except Failure Supply :=
  match name, supply.named with
  | .unnamed, _ => .ok supply
  | _, none => .error .argumentMismatch
  | .unclosed, some _ => .error .malformedTemplate
  | .named name, some (.mapping entries) =>
    match Fields.get? entries (.text name) with
    | some value => .ok { supply with pending := [value] }
    | none => .error .entryMissing
  | .named _, some _ => .error .argumentMismatch

/-- Only a source of named arguments may leave arguments unused. -/
def finish (supply : Supply) : Except Failure Unit :=
  if supply.named.isNone && !supply.pending.isEmpty then .error .argumentMismatch else .ok ()

/-- A field on a source of named arguments uses all that is left. -/
def finishField (supply : Supply) : Except Failure Unit :=
  if supply.named.isSome && !supply.pending.isEmpty then .error .argumentMismatch else .ok ()

end Supply

/-- Truth values are whole numbers here; a fraction is dropped. -/
def wholeNumber (value : Value) : Except Failure Int :=
  match value with
  | .int number => .ok number
  | .bool truth => .ok (if truth then 1 else 0)
  | .float number =>
    match number, number.truncate? with
    | _, some whole => .ok whole
    | .undefined _, none => .error .undefinedNumber
    | _, none => .error .numberTooLarge
  | _ => .error .argumentMismatch

/-- Octal and hexadecimal digits are written of whole numbers only. -/
def strictWholeNumber (value : Value) : Except Failure Int :=
  match value with
  | .float _ => .error .argumentMismatch
  | _ => wholeNumber value

def binaryNumber (value : Value) : Except Failure Binary64 :=
  match value with
  | .float number => .ok number
  | _ => (strictWholeNumber value).bind fun whole =>
    match Binary64.ofInt whole with
    | .infinite _ => .error .numberTooLarge
    | number => .ok number

/-- The text of a number in three parts, so that a padding can stand between them. -/
structure Numeral where
  negative : Bool
  marker : List Char
  digits : List Char

def Numeral.signChars (numeral : Numeral) (flags : Flags) : List Char :=
  if numeral.negative then ['-'] else if flags.signShown then ['+']
  else if flags.blankSign then [' '] else []

/-- Zeros stand behind the sign, blanks in front of it or at the end. -/
def Numeral.padded (numeral : Numeral) (flags : Flags) (width : Nat) : List Char :=
  let lead := numeral.signChars flags ++ numeral.marker
  let missing := width - (lead.length + numeral.digits.length)
  if flags.leftAligned then lead ++ numeral.digits ++ List.replicate missing ' '
  else if flags.zeroPadded then lead ++ List.replicate missing '0' ++ numeral.digits
  else List.replicate missing ' ' ++ lead ++ numeral.digits

def textPadded (chars : List Char) (flags : Flags) (width : Nat) : List Char :=
  let blanks := List.replicate (width - chars.length) ' '
  if flags.leftAligned then chars ++ blanks else blanks ++ chars

/-- A field has no more characters than this. -/
def longestField : Nat := Nat.pow 2 24

/-- Whole numbers take no precision of 2³¹ - 3 or more; apart from that, no width and no precision of
a number goes beyond the longest field. -/
def checkExtents (conversion : Char) (width : Nat) (precision : Option Nat) :
    Except Failure Unit :=
  let places := precision.getD 0
  if "diuoxX".toList.contains conversion && Nat.pow 2 31 - 3 ≤ places then .error .numberTooLarge
  else if longestField < width then .error .textTooLong
  else if longestField < places && "diuoxXfFeE".toList.contains conversion then
    .error .textTooLong
  else .ok ()

/-- The precision is the least count of digits. -/
def integerNumeral (number : Int) (base : Nat) (marker : List Char) (precision : Nat) : Numeral :=
  let digits := Nat.toDigits base number.natAbs
  ⟨number < 0, marker, List.replicate (precision - digits.length) '0' ++ digits⟩

def capitals (chars : List Char) : List Char :=
  chars.map Char.toUpper

/-- The three layouts of a binary number share the texts of infinity and of an undefined number. -/
def floatNumeral (number : Binary64) (layout : Nat → Int → List Char) : Numeral :=
  match number with
  | .finite negative significand exponent => ⟨negative, [], layout significand exponent⟩
  | .infinite negative => ⟨negative, [], "inf".toList⟩
  | .undefined _ => ⟨false, [], "nan".toList⟩

/-- A character is given as itself or by its code. -/
def charOf (value : Value) : Except Failure Char :=
  match value with
  | .text content =>
    match content.toList with
    | [c] => .ok c
    | _ => .error .argumentMismatch
  | _ => (strictWholeNumber value).bind fun code =>
    if 0 ≤ code && code < 0x110000 then
      .ok (if code.toNat.isValidChar then Char.ofNat code.toNat else '\ufffd')
    else .error .numberTooLarge

def numeralOf (conversion : Char) (flags : Flags) (precision : Option Nat) (value : Value) :
    Option (Except Failure Numeral) :=
  let places := precision.getD 6
  let digits := precision.getD 0
  match conversion with
  | 'd' | 'i' | 'u' => some ((wholeNumber value).map fun number =>
    integerNumeral number 10 [] digits)
  | 'o' => some ((strictWholeNumber value).map fun number =>
    integerNumeral number 8 (if flags.alternate then ['0', 'o'] else []) digits)
  | 'x' => some ((strictWholeNumber value).map fun number =>
    integerNumeral number 16 (if flags.alternate then ['0', 'x'] else []) digits)
  | 'X' => some ((strictWholeNumber value).map fun number =>
    let numeral := integerNumeral number 16 (if flags.alternate then ['0', 'X'] else []) digits
    { numeral with digits := capitals numeral.digits })
  | 'f' | 'F' => some ((binaryNumber value).map fun number =>
    floatNumeral number fun significand exponent =>
      Binary64.fixedPlaces significand exponent places flags.alternate)
  | 'e' | 'E' => some ((binaryNumber value).map fun number =>
    floatNumeral number fun significand exponent =>
      Binary64.scientificPlaces significand exponent places flags.alternate)
  | 'g' | 'G' => some ((binaryNumber value).map fun number =>
    floatNumeral number fun significand exponent =>
      Binary64.generalPlaces significand exponent places flags.alternate)
  | _ => none

/-- Capital conversions of binary numbers write capital letters. -/
def withCase (conversion : Char) (numeral : Numeral) : Numeral :=
  if "EFG".toList.contains conversion then { numeral with digits := capitals numeral.digits }
  else numeral

def shortened (precision : Option Nat) (text : String) : List Char :=
  match precision with
  | some count => text.toList.take count
  | none => text.toList

/-- One argument is written as its conversion says. -/
def convert (conversion : Char) (flags : Flags) (width : Nat) (precision : Option Nat)
    (value : Value) : Except Failure (List Char) :=
  match conversion with
  | 's' => .ok (textPadded (shortened precision value.plain) flags width)
  | 'r' => .ok (textPadded (shortened precision value.quoted) flags width)
  | 'a' => .ok (textPadded (shortened precision (Text.escapeNonAscii value.quoted)) flags width)
  | 'c' => (charOf value).map fun c => textPadded [c] flags width
  | _ =>
    match numeralOf conversion flags precision value with
    | some numeral => numeral.map fun numeral =>
      (withCase conversion numeral).padded flags width
    | none => .error .malformedTemplate

/-- Written extents have a greatest size, and so have those taken from the arguments. -/
def extentSize (extent : Option Extent) (limit : Nat) (supply : Supply) :
    Except Failure (Option Int × Supply) :=
  match extent with
  | none => .ok (none, supply)
  | some (.fixed size) =>
    if size < limit then .ok (some size, supply) else .error .malformedTemplate
  | some .taken => supply.next.bind fun (value, supply) =>
    match value with
    | .float _ => .error .argumentMismatch
    | _ => (wholeNumber value).bind fun size =>
      if -limit ≤ size && size < limit then .ok (some size, supply) else .error .numberTooLarge

/-- A width has 63 bits; the least number of 64 bits has no counterpart and asks for no width. -/
def widthOf (size : Int) : Nat :=
  if size.natAbs < Nat.pow 2 63 then size.natAbs else 0

/-- A negative width aligns to the left; a negative precision is zero. -/
def fillField (field : Field) (supply : Supply) : Except Failure (List Char × Supply) :=
  (supply.select field.name).bind fun supply =>
    (extentSize field.width (Nat.pow 2 63) supply).bind fun (width, supply) =>
      (extentSize field.precision (Nat.pow 2 31) supply).bind fun (precision, supply) =>
        let narrow := width.any (· < 0)
        let flags := { field.flags with leftAligned := field.flags.leftAligned || narrow }
        match field.conversion with
        | none => .error .malformedTemplate
        | some conversion => supply.next.bind fun (value, supply) =>
          let width := widthOf (width.getD 0)
          let precision := precision.map Int.toNat
          (checkExtents conversion width precision).bind fun _ =>
            (convert conversion flags width precision value).bind fun chars =>
              supply.finishField.map fun _ => (chars, supply)

def fillParts : List Part → Supply → Except Failure (List Char)
  | [], supply => supply.finish.map fun _ => []
  | .char c :: rest, supply => (fillParts rest supply).map (c :: ·)
  | .percent :: rest, supply => (fillParts rest supply).map ('%' :: ·)
  | .field field :: rest, supply => (fillField field supply).bind fun (chars, supply) =>
    (fillParts rest supply).map (chars ++ ·)

/-- Every argument has to be used. -/
def fill (template : String) (arguments : Value) : Except Failure String :=
  (fillParts (parts template.toList) (Supply.ofArguments arguments)).map String.ofList

end LogGate.Template

/-!
Message templates. A template is plain text with fields that start at a percent sign; this module
reads a template into its parts.
-/

namespace LogGate.Template

/-- A width or a precision is written in digits or taken from the arguments. -/
inductive Extent where
  | fixed (size : Nat)
  | taken

/-- A field may ask for an argument by name; the parenthesis behind the name can be missing. -/
inductive FieldName where
  | unnamed
  | named (name : String)
  | unclosed

structure Flags where
  leftAligned : Bool := false
  signShown : Bool := false
  blankSign : Bool := false
  alternate : Bool := false
  zeroPadded : Bool := false

/-- The conversion is missing when the template ends inside the field. -/
structure Field where
  name : FieldName
  flags : Flags
  width : Option Extent
  precision : Option Extent
  conversion : Option Char

inductive Part where
  | char (c : Char)
  | percent
  | field (field : Field)

def isFlag (c : Char) : Bool :=
  "-+ #0".toList.contains c

def Flags.add (flags : Flags) (c : Char) : Flags :=
  if c == '-' then { flags with leftAligned := true }
  else if c == '+' then { flags with signShown := true }
  else if c == ' ' then { flags with blankSign := true }
  else if c == '#' then { flags with alternate := true }
  else { flags with zeroPadded := true }

def isDecimalDigit (c : Char) : Bool :=
  '0' ≤ c && c ≤ '9'

def decimalValue (digits : List Char) : Nat :=
  digits.foldl (fun value c => 10 * value + (c.toNat - 48)) 0

/-- A name ends at the parenthesis that closes the one before it; parentheses inside are kept. -/
def readName : Nat → List Char → Option (List Char × List Char)
  | _, [] => none
  | depth, c :: rest =>
    if c == ')' && depth == 0 then some ([], rest)
    else
      let depth := if c == ')' then depth - 1 else if c == '(' then depth + 1 else depth
      (readName depth rest).map fun (name, after) => (c :: name, after)

def readFieldName (chars : List Char) : FieldName × List Char :=
  match chars with
  | '(' :: rest =>
    match readName 0 rest with
    | some (name, after) => (.named (String.ofList name), after)
    | none => (.unclosed, [])
  | _ => (.unnamed, chars)

def readExtent (chars : List Char) : Option Extent × List Char :=
  match chars with
  | '*' :: rest => (some .taken, rest)
  | _ =>
    let digits := chars.takeWhile isDecimalDigit
    (if digits.isEmpty then none else some (.fixed (decimalValue digits)),
      chars.dropWhile isDecimalDigit)

/-- A point without digits asks for the precision zero. -/
def readPrecision (chars : List Char) : Option Extent × List Char :=
  match chars with
  | '.' :: rest =>
    let (extent, after) := readExtent rest
    (some (extent.getD (.fixed 0)), after)
  | _ => (none, chars)

/-- One letter for the size of a number may stand before the conversion; it has no effect. -/
def skipSizeLetter (chars : List Char) : List Char :=
  match chars with
  | 'h' :: rest => rest
  | 'l' :: rest => rest
  | 'L' :: rest => rest
  | _ => chars

def readField (chars : List Char) : Field × List Char :=
  let (name, afterName) := readFieldName chars
  let flags := (afterName.takeWhile isFlag).foldl Flags.add {}
  let (width, afterWidth) := readExtent (afterName.dropWhile isFlag)
  let (precision, afterPrecision) := readPrecision afterWidth
  let last := skipSizeLetter afterPrecision
  ({ name, flags, width, precision, conversion := last.head? }, last.tail)

theorem length_of_readName {depth : Nat} {chars name after : List Char}
    (found : readName depth chars = some (name, after)) : after.length ≤ chars.length := by
  induction chars generalizing depth name after with
  | nil => simp [readName] at found
  | cons c rest ih =>
    unfold readName at found
    split at found
    · simp at found
      obtain ⟨-, rfl⟩ := found
      simp
    · simp only [Option.map_eq_some_iff] at found
      obtain ⟨⟨inner, remaining⟩, step, equal⟩ := found
      simp at equal
      obtain ⟨-, rfl⟩ := equal
      have := ih step
      simp
      omega

theorem length_readFieldName (chars : List Char) :
    (readFieldName chars).2.length ≤ chars.length := by
  unfold readFieldName
  split
  · rename_i rest
    split
    · rename_i name after found
      have := length_of_readName found
      simp
      omega
    · simp
  · simp

theorem length_dropWhile_le (chars : List Char) (keep : Char → Bool) :
    (chars.dropWhile keep).length ≤ chars.length :=
  (List.dropWhile_sublist keep).length_le

theorem length_readExtent (chars : List Char) : (readExtent chars).2.length ≤ chars.length := by
  unfold readExtent
  split
  · simp
  · exact length_dropWhile_le _ _

theorem length_readPrecision (chars : List Char) :
    (readPrecision chars).2.length ≤ chars.length := by
  unfold readPrecision
  split
  · rename_i rest
    have := length_readExtent rest
    simp
    omega
  · simp

theorem length_skipSizeLetter (chars : List Char) :
    (skipSizeLetter chars).length ≤ chars.length := by
  unfold skipSizeLetter
  split <;> simp

/-- Reading a field leaves no more characters than there were. -/
theorem length_readField (chars : List Char) : (readField chars).2.length ≤ chars.length := by
  have name := length_readFieldName chars
  have flags := length_dropWhile_le (readFieldName chars).2 isFlag
  have width := length_readExtent ((readFieldName chars).2.dropWhile isFlag)
  have precision :=
    length_readPrecision (readExtent ((readFieldName chars).2.dropWhile isFlag)).2
  have letter := length_skipSizeLetter
    (readPrecision (readExtent ((readFieldName chars).2.dropWhile isFlag)).2).2
  simp only [readField, List.length_tail]
  omega

/-- Two percent signs stand for one. -/
def parts : List Char → List Part
  | [] => []
  | '%' :: '%' :: rest => .percent :: parts rest
  | '%' :: rest => .field (readField rest).1 :: parts (readField rest).2
  | c :: rest => .char c :: parts rest
termination_by chars => chars.length
decreasing_by
  all_goals simp_wf
  all_goals have := length_readField rest
  all_goals omega

end LogGate.Template

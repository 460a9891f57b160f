import LogGate.Proofs.JsonScalars
import LogGate.Proofs.NamedContext

/-!
Values in JSON. A value without kinds of its own is read back from what was written of it, with its tuples
as arrays.
-/

namespace LogGate

namespace Value

/-- A value of the kinds that JSON has, and tuples. The names of a mapping are texts, each of which stands
once. -/
inductive Portable : Value → Prop
  | absent : Portable absent
  | bool (truth : Bool) : Portable (bool truth)
  | int (number : Int) : Portable (int number)
  | text (content : String) : Portable (text content)
  | list {items : List Value} (all : ∀ item ∈ items, Portable item) : Portable (list items)
  | tuple {items : List Value} (all : ∀ item ∈ items, Portable item) : Portable (tuple items)
  | mapping {fields : Fields String Value} (distinct : fields.Distinct)
      (all : ∀ entry ∈ fields, Portable entry.2) : Portable (mapping (Context.ofNamed fields))

mutual

/-- A value with lists in the place of its tuples. -/
def arrayed : Value → Value
  | list items => list (arrayedItems items)
  | tuple items => list (arrayedItems items)
  | mapping entries => mapping (arrayedEntries entries)
  | value => value

def arrayedItems : List Value → List Value
  | [] => []
  | item :: rest => arrayed item :: arrayedItems rest

def arrayedEntries : List (Value × Value) → List (Value × Value)
  | [] => []
  | (name, item) :: rest => (name, arrayed item) :: arrayedEntries rest

end

/-- Named fields keep their names. -/
def arrayedFields (fields : Fields String Value) : Fields String Value :=
  fields.map fun entry => (entry.1, entry.2.arrayed)

/-- Tuples can become lists before or after the names are made values. -/
theorem arrayedEntries_ofNamed (fields : Fields String Value) :
    arrayedEntries (Context.ofNamed fields) = Context.ofNamed (arrayedFields fields) := by
  induction fields with
  | nil => rfl
  | cons entry rest ih =>
      change (Value.text entry.1, entry.2.arrayed) :: arrayedEntries (Context.ofNamed rest) = _
      rw [ih]
      rfl

theorem distinct_arrayedFields {fields : Fields String Value} (distinct : fields.Distinct) :
    (arrayedFields fields).Distinct := by
  rw [Fields.Distinct, arrayedFields, List.map_map]
  exact distinct

end Value

namespace Json

theorem skip_cons {c : Char} (visible : isSpace c = false) (more : List Char) :
    skip (c :: more) = c :: more :=
  List.dropWhile_cons_of_neg (by simp [visible])

/-- A value or a member starts with a visible character that closes nothing. -/
def Opens (chars : List Char) : Prop :=
  ∃ first more, chars = first :: more ∧ isSpace first = false ∧ first ≠ ']' ∧ first ≠ '\x7d'

/-- A text that opens a value is not skipped. -/
theorem Opens.skip_append {chars : List Char} (opens : Opens chars) (rest : List Char) :
    skip (chars ++ rest) = chars ++ rest := by
  obtain ⟨first, more, rfl, visible, -⟩ := opens
  exact skip_cons visible _

/-- A text that opens a value closes nothing. -/
theorem Opens.skip_ne {chars : List Char} (opens : Opens chars) (rest more : List Char) :
    skip (chars ++ rest) ≠ ']' :: more ∧ skip (chars ++ rest) ≠ '\x7d' :: more := by
  rw [opens.skip_append]
  obtain ⟨first, others, rfl, -, array, object⟩ := opens
  exact ⟨fun same => array (List.cons.inj same).1, fun same => object (List.cons.inj same).1⟩

/-- Characters that show a value, whatever stands behind them. -/
structure Shows (chars : List Char) (value : Value) : Prop where
  opens : Opens chars
  reads : ∀ steps rest, chars.length ≤ steps → Ends rest →
    readValue? steps (chars ++ rest) = some (value, rest)

section Scalars

/-- Reading a value takes at least one step. -/
theorem Shows.of_steps {chars : List Char} {value : Value} (opens : Opens chars)
    (reads : ∀ steps rest, chars.length ≤ steps + 1 → Ends rest →
      readValue? (steps + 1) (chars ++ rest) = some (value, rest)) : Shows chars value where
  opens := opens
  reads steps rest enough ends := by
    obtain ⟨first, more, rfl, -⟩ := opens
    cases steps with
    | zero => simp at enough
    | succ steps => exact reads steps rest enough ends

theorem shows_absent : Shows "null".toList .absent := by
  refine .of_steps ⟨'n', _, rfl, by decide, by decide, by decide⟩ fun steps rest _ _ => ?_
  rw [readValue?.eq_def]
  rfl

theorem shows_bool (truth : Bool) : Shows (boolText truth).toList (.bool truth) := by
  cases truth with
  | true =>
      refine .of_steps ⟨'t', _, rfl, by decide, by decide, by decide⟩ fun steps rest _ _ => ?_
      rw [readValue?.eq_def]
      rfl
  | false =>
      refine .of_steps ⟨'f', _, rfl, by decide, by decide, by decide⟩ fun steps rest _ _ => ?_
      rw [readValue?.eq_def]
      rfl

theorem not_isSpace_of_number {c : Char} (number : (c == '-' || c.isDigit) = true) :
    isSpace c = false ∧ c ≠ ']' ∧ c ≠ '\x7d' := by
  refine ⟨?_, ?_, ?_⟩
  · rw [← Bool.not_eq_true]
    intro space
    simp only [isSpace, Bool.or_eq_true, beq_iff_eq] at space
    rcases space with ((rfl | rfl) | rfl) | rfl <;> exact absurd number (by decide)
  · rintro rfl
    exact absurd number (by decide)
  · rintro rfl
    exact absurd number (by decide)

/-- A whole number is read back. -/
theorem shows_int (number : Int) : Shows (Value.intText number).toList (.int number) := by
  obtain ⟨first, more, digits, isNumber⟩ := exists_cons_intText number
  refine .of_steps ⟨first, more, digits, not_isSpace_of_number isNumber⟩ fun steps rest _ ends => ?_
  have read := readNumber?_intText number ends
  rw [digits, List.cons_append] at read ⊢
  rw [readValue?_number isNumber, read]

/-- A text is read back. -/
theorem shows_text (content : String) : Shows (string content).toList (.text content) := by
  rw [toList_string]
  refine .of_steps ⟨'\x22', _, rfl, by decide, by decide, by decide⟩ fun steps rest _ _ => ?_
  rw [List.cons_append, List.append_assoc, List.singleton_append, readValue?_text,
    readText?_flatMap]
  rfl

end Scalars

section Arrays

/-- Joined parts open like the first one. -/
theorem opens_intercalate {part : List Char} (opens : Opens part) (parts : List (List Char)) :
    Opens ([','].intercalate (part :: parts)) := by
  obtain ⟨first, more, rfl, visible⟩ := opens
  cases parts with
  | nil =>
      rw [List.intercalate_singleton]
      exact ⟨first, more, rfl, visible⟩
  | cons second parts =>
      rw [List.intercalate_cons_cons]
      exact ⟨first, _, rfl, visible⟩

/-- Items are read back up to the end of their array. -/
theorem readItems?_intercalate {parts : List (List Char)} {values : List Value}
    (shown : List.Forall₂ Shows parts values) (filled : parts ≠ []) {steps : Nat}
    (enough : ([','].intercalate parts).length < steps) (rest : List Char) :
    readItems? steps ([','].intercalate parts ++ ']' :: rest) = some (values, rest) := by
  induction shown generalizing steps with
  | nil => contradiction
  | @cons part value parts values first others ih =>
      cases steps with
      | zero => contradiction
      | succ steps =>
          cases others with
          | nil =>
              rw [List.intercalate_singleton] at enough ⊢
              have read := first.reads steps (']' :: rest) (Nat.le_of_lt_succ enough)
                (ends_cons (by decide))
              exact readItems?_last read (skip_cons (by decide) rest)
          | @cons second other parts others next remaining =>
              rw [List.intercalate_cons_cons] at enough ⊢
              simp only [List.length_append, List.length_singleton] at enough
              have read := first.reads steps
                (',' :: ([','].intercalate (second :: parts) ++ ']' :: rest)) (by omega)
                (ends_cons (by decide))
              have later := @ih (List.cons_ne_nil _ _) steps (by omega)
              rw [List.append_assoc, List.append_assoc, List.singleton_append,
                readItems?_next read (skip_cons (by decide) _),
                (opens_intercalate next.opens parts).skip_append, later, Option.map_some]

/-- An array shows the values of its items. -/
theorem shows_array {parts : List (List Char)} {values : List Value}
    (shown : List.Forall₂ Shows parts values) :
    Shows ('[' :: ([','].intercalate parts ++ [']'])) (.list values) := by
  refine .of_steps ⟨'[', _, rfl, by decide, by decide, by decide⟩ fun steps rest enough _ => ?_
  rw [List.cons_append, List.append_assoc, List.singleton_append]
  cases shown with
  | nil => exact readValue?_emptyArray (skip_cons (by decide) rest)
  | @cons part value parts values first others =>
      have opens := opens_intercalate first.opens parts
      simp only [List.length_cons, List.length_append, List.length_nil] at enough
      rw [readValue?_array fun more => (opens.skip_ne _ more).1, opens.skip_append,
        readItems?_intercalate (.cons first others) (List.cons_ne_nil _ _) (by omega)]
      rfl

end Arrays

section Objects

/-- The characters of a member: its name as a text, a colon, and its value. -/
def ShowsMember (chars : List Char) (member : String × Value) : Prop :=
  ∃ inside, chars = (string member.1).toList ++ ':' :: inside ∧ Shows inside member.2

variable {part : List Char} {member : String × Value}

theorem ShowsMember.opens (shown : ShowsMember part member) : Opens part := by
  obtain ⟨inside, rfl, -⟩ := shown
  rw [toList_string]
  exact ⟨'\x22', _, rfl, by decide, by decide, by decide⟩

/-- The name of a member is read, and then its value. -/
theorem ShowsMember.reads (shown : ShowsMember part member) {steps : Nat}
    (enough : part.length ≤ steps) {rest : List Char} (ends : Ends rest) :
    ∃ inside, readName? (part ++ rest) = some (member.1, inside) ∧
      readValue? steps inside = some (member.2, rest) := by
  obtain ⟨inside, rfl, shows⟩ := shown
  rw [List.length_append, List.length_cons] at enough
  refine ⟨inside ++ rest, ?_, shows.reads steps rest (by omega) ends⟩
  rw [toList_string]
  simp only [List.cons_append, List.append_assoc, List.nil_append, readName?, readText?_flatMap,
    Option.bind_some, skip_cons (show isSpace ':' = false by decide)]
  rw [shows.opens.skip_append]

/-- Members are read back up to the end of their object. -/
theorem readMembers?_intercalate {parts : List (List Char)} {members : List (String × Value)}
    (shown : List.Forall₂ ShowsMember parts members) (filled : parts ≠ []) {steps : Nat}
    (enough : ([','].intercalate parts).length < steps) (rest : List Char) :
    readMembers? steps ([','].intercalate parts ++ '\x7d' :: rest) = some (members, rest) := by
  induction shown generalizing steps with
  | nil => contradiction
  | @cons part member parts members first others ih =>
      cases steps with
      | zero => contradiction
      | succ steps =>
          cases others with
          | nil =>
              rw [List.intercalate_singleton] at enough ⊢
              obtain ⟨inside, named, read⟩ := first.reads (Nat.le_of_lt_succ enough)
                (@ends_cons '\x7d' rest (by decide))
              exact readMembers?_last named read (skip_cons (by decide) rest)
          | @cons second other parts others next remaining =>
              rw [List.intercalate_cons_cons] at enough ⊢
              simp only [List.length_append, List.length_singleton] at enough
              obtain ⟨inside, named, read⟩ := @ShowsMember.reads _ _ first steps (by omega) _
                (@ends_cons ',' ([','].intercalate (second :: parts) ++ '\x7d' :: rest) (by decide))
              have later := @ih (List.cons_ne_nil _ _) steps (by omega)
              rw [List.append_assoc, List.append_assoc, List.singleton_append,
                readMembers?_next named read (skip_cons (by decide) _),
                (opens_intercalate next.opens parts).skip_append, later, Option.map_some]

/-- An object shows its members; the last one of a name counts. -/
theorem shows_object {parts : List (List Char)} {members : List (String × Value)}
    (shown : List.Forall₂ ShowsMember parts members) :
    Shows ('\x7b' :: ([','].intercalate parts ++ ['\x7d']))
      (.mapping (Context.ofNamed (Fields.ofList members))) := by
  refine .of_steps ⟨'\x7b', _, rfl, by decide, by decide, by decide⟩ fun steps rest enough _ => ?_
  rw [List.cons_append, List.append_assoc, List.singleton_append]
  cases shown with
  | nil => exact readValue?_emptyObject (skip_cons (by decide) rest)
  | @cons part member parts members first others =>
      have opens := opens_intercalate first.opens parts
      simp only [List.length_cons, List.length_append, List.length_nil] at enough
      rw [readValue?_object fun more => (opens.skip_ne _ more).2, opens.skip_append,
        readMembers?_intercalate (.cons first others) (List.cons_ne_nil _ _) (by omega)]
      rfl

end Objects

section Values

theorem toList_array (items : List String) : (array items).toList =
    '[' :: ([','].intercalate (items.map String.toList) ++ [']']) := by
  simp [array]

theorem toList_object (members : List (String × String)) : (object members).toList =
    '\x7b' :: ([','].intercalate (members.map fun member =>
      (string member.1).toList ++ ':' :: member.2.toList) ++ ['\x7d']) := by
  simp [object, Function.comp_def]

/-- Items that are shown one by one are shown in order. -/
theorem values_of_forall {items : List Value} (all : ∀ item ∈ items, ∃ text,
    value item = .ok text ∧ Shows text.toList item.arrayed) : ∃ texts,
      values items = .ok texts ∧
        List.Forall₂ Shows (texts.map String.toList) (Value.arrayedItems items) := by
  induction items with
  | nil => exact ⟨[], rfl, .nil⟩
  | cons item rest ih =>
      obtain ⟨⟨text, written, shown⟩, others⟩ := List.forall_mem_cons.mp all
      obtain ⟨texts, remaining, shows⟩ := ih others
      refine ⟨text :: texts, ?_, .cons shown shows⟩
      rw [values, written, remaining]
      rfl

/-- Members that are shown one by one are shown in order, under their names. -/
theorem members_of_forall {fields : Fields String Value} (all : ∀ entry ∈ fields, ∃ text,
    value entry.2 = .ok text ∧ Shows text.toList entry.2.arrayed) : ∃ written,
      members (Context.ofNamed fields) = .ok written ∧
        List.Forall₂ ShowsMember
          (written.map fun member => (string member.1).toList ++ ':' :: member.2.toList)
          (Value.arrayedFields fields) := by
  induction fields with
  | nil => exact ⟨[], rfl, .nil⟩
  | cons entry rest ih =>
      obtain ⟨⟨text, written, shown⟩, others⟩ := List.forall_mem_cons.mp all
      obtain ⟨texts, remaining, shows⟩ := ih others
      refine ⟨(entry.1, text) :: texts, ?_, .cons ⟨text.toList, rfl, shown⟩ shows⟩
      change members ((.text entry.1, entry.2) :: Context.ofNamed rest) = _
      rw [members, memberName, written, remaining]
      rfl

/-- Every portable value is written, and its characters show it. -/
theorem shows_value {given : Value} (portable : given.Portable) :
    ∃ text, value given = .ok text ∧ Shows text.toList given.arrayed := by
  have sequence {items : List Value} (all : ∀ item ∈ items, ∃ text,
      value item = .ok text ∧ Shows text.toList item.arrayed) :
      ∃ text, (values items).map array = .ok text ∧
        Shows text.toList (.list (Value.arrayedItems items)) := by
    obtain ⟨texts, written, shown⟩ := values_of_forall all
    refine ⟨array texts, by rw [written]; rfl, ?_⟩
    rw [toList_array]
    exact shows_array shown
  induction portable with
  | absent => exact ⟨_, rfl, shows_absent⟩
  | bool truth => exact ⟨_, rfl, shows_bool truth⟩
  | int number => exact ⟨_, rfl, shows_int number⟩
  | text content => exact ⟨_, rfl, shows_text content⟩
  | list _ ih => exact sequence ih
  | tuple _ ih => exact sequence ih
  | @mapping fields distinct _ ih =>
      obtain ⟨written, done, shown⟩ := members_of_forall ih
      refine ⟨object written, by rw [value, done]; rfl, ?_⟩
      have same := Fields.ofList_of_distinct (Value.distinct_arrayedFields distinct)
      have shows := shows_object shown
      rw [same] at shows
      rw [toList_object, Value.arrayed, Value.arrayedEntries_ofNamed]
      exact shows

/-- What is written of a portable value is read back, with lists for tuples. -/
theorem read?_value {given : Value} (portable : given.Portable) :
    ∃ text, value given = .ok text ∧ read? text = some given.arrayed := by
  obtain ⟨text, written, shown⟩ := shows_value portable
  refine ⟨text, written, ?_⟩
  have whole := shown.reads text.toList.length [] (Nat.le_refl _) ends_nil
  have start := shown.opens.skip_append []
  rw [List.append_nil] at whole start
  rw [read?, start, ← String.length_toList, whole]
  rfl

end Values

end Json

end LogGate

import LogGate.Proofs.JsonRoundTrip

/-!
JSON on one line. Whatever value is written, only printable characters of ASCII come out, so that nothing
inside of it can break the line.
-/

namespace LogGate

namespace Text

/-- Characters from the blank to the tilde. -/
def PlainAscii (chars : List Char) : Prop := ∀ c ∈ chars, isPlainAscii c = true

theorem plainAscii_append_iff {first second : List Char} :
    PlainAscii (first ++ second) ↔ PlainAscii first ∧ PlainAscii second :=
  List.forall_mem_append

theorem plainAscii_cons_iff {c : Char} {rest : List Char} :
    PlainAscii (c :: rest) ↔ isPlainAscii c = true ∧ PlainAscii rest :=
  List.forall_mem_cons

theorem plainAscii_nil : PlainAscii [] := List.forall_mem_nil _

instance (chars : List Char) : Decidable (PlainAscii chars) :=
  List.decidableBAll (fun c => isPlainAscii c = true) chars

/-- A line break is not among them. -/
theorem PlainAscii.newline_not_mem {chars : List Char} (plain : PlainAscii chars) : '\n' ∉ chars := by
  intro inside
  exact absurd (plain '\n' inside) (by decide)

theorem toNat_of_isDigit {c : Char} (digit : c.isDigit = true) : 48 ≤ c.toNat ∧ c.toNat ≤ 57 := by
  rw [Char.isDigit, Bool.and_eq_true, decide_eq_true_eq, decide_eq_true_eq, ge_iff_le,
    UInt32.le_iff_toNat_le, UInt32.le_iff_toNat_le] at digit
  exact digit

theorem plainAscii_of_digits {digits : List Char} (all : ∀ c ∈ digits, c.isDigit = true) :
    PlainAscii digits := by
  intro c inside
  have bounds := toNat_of_isDigit (all c inside)
  rw [isPlainAscii, Bool.and_eq_true, decide_eq_true_eq, decide_eq_true_eq]
  omega

/-- Digits are plain. -/
theorem plainAscii_toDigits (number : Nat) : PlainAscii (Nat.toDigits 10 number) :=
  plainAscii_of_digits (Json.isDigit_of_mem_toDigits number)

theorem plainAscii_replicate {c : Char} (plain : isPlainAscii c = true) (count : Nat) :
    PlainAscii (List.replicate count c) := by
  intro other inside
  rw [List.eq_of_mem_replicate inside]
  exact plain

theorem plainAscii_hexDigits (width code : Nat) : PlainAscii (hexDigits width code) := by
  have digit : ∀ part < 16, isPlainAscii (hexDigit part) = true := by decide
  induction width with
  | zero => exact plainAscii_nil
  | succ width ih =>
      exact plainAscii_cons_iff.mpr ⟨digit _ (Nat.mod_lt _ (by decide)), ih⟩

end Text

open Text

section Numbers

/-- Whole numbers are written with a sign and digits. -/
theorem Value.plainAscii_intText (number : Int) : PlainAscii (intText number).toList := by
  rw [Json.toList_intText, plainAscii_append_iff]
  refine ⟨?_, plainAscii_toDigits _⟩
  by_cases negative : number < 0
  · rw [if_pos negative]
    decide
  · rw [if_neg negative]
    exact plainAscii_nil

/-- Digits, a point, zeros and an exponent are all that a layout puts together. -/
theorem Binary64.plainAscii_layout (decimal : Decimal) : PlainAscii (layout decimal).toList := by
  have digits := plainAscii_toDigits decimal.digits
  have zeros (count : Nat) : PlainAscii (List.replicate count '0') :=
    plainAscii_replicate (by decide) count
  have front (count : Nat) : PlainAscii ((Nat.toDigits 10 decimal.digits).take count) :=
    fun c inside => digits c (List.mem_of_mem_take inside)
  have back (count : Nat) : PlainAscii ((Nat.toDigits 10 decimal.digits).drop count) :=
    fun c inside => digits c (List.mem_of_mem_drop inside)
  have point : isPlainAscii '.' = true := by decide
  rw [layout]
  dsimp only
  split
  · split
    · rw [String.toList_ofList, plainAscii_append_iff, plainAscii_append_iff]
      exact ⟨⟨digits, zeros _⟩, by decide⟩
    · split
      · rw [String.toList_ofList, plainAscii_append_iff, plainAscii_cons_iff]
        exact ⟨front _, point, back _⟩
      · rw [String.toList_ofList, plainAscii_append_iff, plainAscii_cons_iff, plainAscii_cons_iff]
        exact ⟨⟨by decide, point, zeros _⟩, digits⟩
  · have fraction : PlainAscii (if (Nat.toDigits 10 decimal.digits).length > 1 then
        '.' :: (Nat.toDigits 10 decimal.digits).drop 1 else []) := by
      split
      · exact plainAscii_cons_iff.mpr ⟨point, back 1⟩
      · exact plainAscii_nil
    have sign (negative : Prop) [Decidable negative] :
        PlainAscii ['e', if negative then '-' else '+'] := by
      split <;> decide
    simp only [String.toList_ofList, plainAscii_append_iff]
    exact ⟨⟨⟨⟨front 1, fraction⟩, sign _⟩, zeros _⟩, plainAscii_toDigits _⟩

/-- Numbers are written with a sign, digits, a point and an exponent, or as a word. -/
theorem Json.plainAscii_floatText (number : Binary64) : PlainAscii (floatText number).toList := by
  cases number with
  | undefined mark =>
      change PlainAscii "NaN".toList
      decide
  | infinite negative => cases negative <;> decide
  | finite negative significand exponent =>
      change PlainAscii (Binary64.finiteText negative significand exponent).toList
      rw [Binary64.finiteText, String.toList_append, plainAscii_append_iff]
      constructor
      · cases negative <;> decide
      · split
        · decide
        · exact Binary64.plainAscii_layout _

end Numbers

namespace Json

section Texts

theorem plainAscii_codeChars (code : Nat) : PlainAscii (codeChars code) := by
  have unit (code : Nat) : PlainAscii (unitChars code) := by
    rw [unitChars, plainAscii_cons_iff, plainAscii_cons_iff]
    exact ⟨by decide, by decide, plainAscii_hexDigits 4 code⟩
  rw [codeChars]
  split
  · exact unit _
  · exact plainAscii_append_iff.mpr ⟨unit _, unit _⟩

/-- A character is written as itself only if it is printable. -/
theorem plainAscii_stringChar (c : Char) : PlainAscii (stringChar c) := by
  rw [stringChar]
  split
  · next marked =>
    rw [Bool.or_eq_true, beq_iff_eq, beq_iff_eq] at marked
    rcases marked with rfl | rfl <;> decide
  split
  · decide
  split
  · decide
  split
  · decide
  split
  · decide
  split
  · decide
  split
  · next plain => exact plainAscii_cons_iff.mpr ⟨plain, plainAscii_nil⟩
  · exact plainAscii_codeChars c.toNat

/-- Quoted texts escape all that is not plain. -/
theorem plainAscii_string (content : String) : PlainAscii (string content).toList := by
  rw [toList_string, plainAscii_cons_iff, plainAscii_append_iff]
  refine ⟨by decide, ?_, by decide⟩
  intro c inside
  obtain ⟨given, -, written⟩ := List.mem_flatMap.mp inside
  exact plainAscii_stringChar given c written

/-- A text is written on one line. -/
theorem newline_not_mem_string (content : String) : '\n' ∉ (string content).toList :=
  (plainAscii_string content).newline_not_mem

end Texts

section Parts

/-- What holds of a comma and of the characters of all parts holds of the parts with commas between. -/
theorem forall_mem_intercalate {condition : Char → Prop} (comma : condition ',')
    {parts : List (List Char)} (all : ∀ part ∈ parts, ∀ c ∈ part, condition c) :
    ∀ c ∈ [','].intercalate parts, condition c := by
  induction parts with
  | nil => exact List.forall_mem_nil _
  | cons first rest ih =>
      obtain ⟨one, others⟩ := List.forall_mem_cons.mp all
      cases rest with
      | nil =>
          rw [List.intercalate_singleton]
          exact one
      | cons second rest =>
          rw [List.intercalate_cons_cons, List.forall_mem_append, List.forall_mem_append,
            List.forall_mem_singleton]
          exact ⟨⟨one, comma⟩, ih others⟩

/-- A list is plain if its items are. -/
theorem plainAscii_array {texts : List String} (all : ∀ text ∈ texts, PlainAscii text.toList) :
    PlainAscii (array texts).toList := by
  have inside : PlainAscii ([','].intercalate (texts.map String.toList)) :=
    forall_mem_intercalate (by decide) (List.forall_mem_map.mpr all)
  rw [toList_array, plainAscii_cons_iff, plainAscii_append_iff]
  exact ⟨by decide, inside, by decide⟩

/-- What holds of the brackets, the comma and the colon, of every name and of every value holds of the
object. -/
theorem forall_mem_object {condition : Char → Prop}
    (marks : condition '\x7b' ∧ condition ',' ∧ condition ':' ∧ condition '\x7d')
    (names : ∀ name, ∀ c ∈ (string name).toList, condition c) {members : List (String × String)}
    (all : ∀ member ∈ members, ∀ c ∈ member.2.toList, condition c) :
    ∀ c ∈ (object members).toList, condition c := by
  obtain ⟨opening, comma, colon, closing⟩ := marks
  have inside : ∀ c ∈ [','].intercalate (members.map fun member =>
      (string member.1).toList ++ ':' :: member.2.toList), condition c := by
    refine forall_mem_intercalate comma ?_
    refine List.forall_mem_map.mpr fun member held => ?_
    rw [List.forall_mem_append, List.forall_mem_cons]
    exact ⟨names member.1, colon, all member held⟩
  rw [toList_object, List.forall_mem_cons, List.forall_mem_append, List.forall_mem_singleton]
  exact ⟨opening, inside, closing⟩

/-- An object is written on one line if its members are. -/
theorem newline_not_mem_object {members : List (String × String)}
    (lines : ∀ member ∈ members, '\n' ∉ member.2.toList) : '\n' ∉ (object members).toList := by
  have apart : ∀ c ∈ (object members).toList, c ≠ '\n' := by
    refine forall_mem_object (by decide) (fun name c inside => ?_) fun member held c inside => ?_
    · exact ne_of_mem_of_not_mem inside (newline_not_mem_string name)
    · exact ne_of_mem_of_not_mem inside (lines member held)
  exact fun inside => apart '\n' inside rfl

end Parts

section Values

theorem plainAscii_boolText (truth : Bool) : PlainAscii (boolText truth).toList := by
  cases truth <;> decide

mutual

/-- Whatever is written of a value is printable ASCII: numbers and words are, and all else is a text. -/
theorem plainAscii_value {given : Value} {text : String} (written : value given = .ok text) :
    PlainAscii text.toList := by
  cases given with
  | absent =>
      rw [value, Except.ok.injEq] at written
      rw [← written]
      decide
  | bool truth =>
      rw [value, Except.ok.injEq] at written
      exact written ▸ plainAscii_boolText truth
  | int number =>
      rw [value, Except.ok.injEq] at written
      exact written ▸ Value.plainAscii_intText number
  | float number =>
      rw [value, Except.ok.injEq] at written
      exact written ▸ plainAscii_floatText number
  | list items =>
      obtain ⟨texts, listed, rfl⟩ := Except.map_eq_ok_iff.mp written
      exact plainAscii_array (plainAscii_values listed)
  | tuple items =>
      obtain ⟨texts, listed, rfl⟩ := Except.map_eq_ok_iff.mp written
      exact plainAscii_array (plainAscii_values listed)
  | mapping entries =>
      obtain ⟨shown, listed, rfl⟩ := Except.map_eq_ok_iff.mp written
      refine forall_mem_object (by decide) plainAscii_string ?_
      exact plainAscii_members listed
  | text content =>
      rw [value, Except.ok.injEq] at written
      exact written ▸ plainAscii_string content
  | bytes | level | verdict | pair =>
      rw [value, Except.ok.injEq] at written
      · exact written ▸ plainAscii_string _
      all_goals nofun

/-- Written items are plain. -/
theorem plainAscii_values {items : List Value} {texts : List String}
    (written : values items = .ok texts) : ∀ text ∈ texts, PlainAscii text.toList := by
  cases items with
  | nil =>
      rw [values, Except.ok.injEq] at written
      rw [← written]
      exact List.forall_mem_nil _
  | cons item rest =>
      obtain ⟨text, first, others⟩ := Except.bind_eq_ok_iff.mp written
      obtain ⟨tail, remaining, rfl⟩ := Except.map_eq_ok_iff.mp others
      exact List.forall_mem_cons.mpr ⟨plainAscii_value first, plainAscii_values remaining⟩

/-- Written members are plain. -/
theorem plainAscii_members {entries : List (Value × Value)} {shown : List (String × String)}
    (written : members entries = .ok shown) :
    ∀ member ∈ shown, PlainAscii member.2.toList := by
  cases entries with
  | nil =>
      rw [members, Except.ok.injEq] at written
      rw [← written]
      exact List.forall_mem_nil _
  | cons entry rest =>
      obtain ⟨name, item⟩ := entry
      rw [members] at written
      obtain ⟨shownName, -, itemWritten⟩ := Except.bind_eq_ok_iff.mp written
      obtain ⟨text, first, others⟩ := Except.bind_eq_ok_iff.mp itemWritten
      obtain ⟨tail, remaining, rfl⟩ := Except.map_eq_ok_iff.mp others
      exact List.forall_mem_cons.mpr ⟨plainAscii_value first, plainAscii_members remaining⟩

end

end Values

end Json

end LogGate

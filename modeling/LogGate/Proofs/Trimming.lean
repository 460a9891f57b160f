import LogGate.Text.Blank
import Mathlib.Data.List.DropRight

/-!
Trimming. White space around a text is taken off, and a text without white space at its ends is left as
it is, whatever stands between the ends.
-/

namespace LogGate.Text

/-- A text of white space alone. -/
def Blank (chars : List Char) : Prop := ∀ c ∈ chars, isBlankChar c = true

theorem blank_iff_all {chars : List Char} : chars.all isBlankChar = true ↔ Blank chars :=
  List.all_eq_true

theorem blank_nil : Blank [] := List.forall_mem_nil _

/-- A text is blank if all its parts are. -/
theorem blank_append_iff {first second : List Char} :
    Blank (first ++ second) ↔ Blank first ∧ Blank second :=
  List.forall_mem_append

theorem Blank.not_mem {chars : List Char} (blank : Blank chars) {mark : Char}
    (visible : isBlankChar mark = false) : mark ∉ chars := by
  intro member
  rw [blank mark member] at visible
  contradiction

/-- White space has no case. -/
theorem toLower_of_blank {c : Char} (blank : isBlankChar c = true) : c.toLower = c := by
  simp only [isBlankChar, anyCovers, blankRanges, CodeRange.covers, List.any_cons, List.any_nil,
    Bool.or_false, Bool.or_eq_true, Bool.and_eq_true, decide_eq_true_eq] at blank
  have outside : ¬(c.val ≥ 'A'.val ∧ c.val ≤ 'Z'.val) := by
    simp only [ge_iff_le, UInt32.le_iff_toNat_le]
    change ¬(65 ≤ c.toNat ∧ c.toNat ≤ 90)
    omega
  exact dif_neg outside

/-- Nothing is left of blank texts only. -/
theorem trimChars_eq_nil_iff {chars : List Char} : trimChars chars = [] ↔ Blank chars := by
  rw [trimChars, List.reverse_eq_nil_iff, List.dropWhile_eq_nil_iff, Blank]
  constructor
  · intro all
    rw [← List.dropWhile_eq_nil_iff]
    by_contra left
    have first := List.head_dropWhile_not isBlankChar left
    rw [all _ (List.mem_reverse.mpr (List.head_mem left))] at first
    contradiction
  · intro blank c member
    rw [List.dropWhile_eq_nil_iff.mpr blank] at member
    contradiction

/-- Nothing is left of blank texts only. -/
theorem trim_eq_empty_iff {text : String} : trim text = "" ↔ isBlank text = true := by
  rw [isBlank, blank_iff_all, ← trimChars_eq_nil_iff, trim, String.ofList_eq_empty_iff]

/-- A text has the trimmed text inside, and white space around it. -/
theorem eq_append_trimChars (chars : List Char) : ∃ before after,
    Blank before ∧ Blank after ∧ chars = before ++ trimChars chars ++ after := by
  refine ⟨chars.takeWhile isBlankChar,
    ((chars.dropWhile isBlankChar).reverse.takeWhile isBlankChar).reverse, ?_, ?_, ?_⟩
  · intro c member
    exact List.mem_takeWhile_imp member
  · intro c member
    exact List.mem_takeWhile_imp (List.mem_reverse.mp member)
  · rw [trimChars, List.append_assoc, ← List.reverse_append, List.takeWhile_append_dropWhile,
      List.reverse_reverse, List.takeWhile_append_dropWhile]

/-- Trimming adds no character. -/
theorem mem_of_mem_trimChars {chars : List Char} {c : Char} (member : c ∈ trimChars chars) :
    c ∈ chars := by
  obtain ⟨before, after, -, -, whole⟩ := eq_append_trimChars chars
  rw [whole]
  exact List.mem_append_left _ (List.mem_append_right _ member)

/-- Without white space there is nothing to take off. -/
theorem trimChars_of_visible {chars : List Char} (visible : ∀ c ∈ chars, isBlankChar c = false) :
    trimChars chars = chars := by
  have empty {space : List Char} (blank : Blank space) (inside : ∀ c ∈ space, c ∈ chars) :
      space = [] := by
    refine List.eq_nil_iff_forall_not_mem.mpr fun c member => ?_
    exact blank.not_mem (visible c (inside c member)) member
  obtain ⟨before, after, blankBefore, blankAfter, whole⟩ := eq_append_trimChars chars
  have front := empty blankBefore fun c member => by
    rw [whole]
    exact List.mem_append_left _ (List.mem_append_left _ member)
  have back := empty blankAfter fun c member => by
    rw [whole]
    exact List.mem_append_right _ member
  rw [front, back, List.nil_append, List.append_nil] at whole
  exact whole.symm

section Ends

variable {chars : List Char}

/-- A trimmed text does not start with a blank. -/
theorem dropWhile_of_trimmed (trimmed : trimChars chars = chars) :
    chars.dropWhile isBlankChar = chars := by
  apply (List.dropWhile_suffix isBlankChar).eq_of_length_le
  have shorter := List.length_dropWhile_le isBlankChar (chars.dropWhile isBlankChar).reverse
  rw [← List.length_reverse, ← trimChars, trimmed, List.length_reverse] at shorter
  exact shorter

/-- A trimmed text does not end with a blank. -/
theorem dropWhile_reverse_of_trimmed (trimmed : trimChars chars = chars) :
    chars.reverse.dropWhile isBlankChar = chars.reverse := by
  have whole := trimmed
  rw [trimChars, dropWhile_of_trimmed trimmed] at whole
  rw [← List.reverse_eq_iff]
  exact whole

theorem dropWhile_eq_self_iff_head? :
    chars.dropWhile isBlankChar = chars ↔ ∀ c ∈ chars.head?, isBlankChar c = false := by
  rw [List.dropWhile_eq_self_iff]
  cases chars <;> simp

/-- Only the two ends of a text decide whether there is white space to take off. -/
theorem trimChars_eq_self_iff : trimChars chars = chars ↔
    (∀ c ∈ chars.head?, isBlankChar c = false) ∧ ∀ c ∈ chars.getLast?, isBlankChar c = false := by
  rw [← List.head?_reverse, ← dropWhile_eq_self_iff_head?, ← dropWhile_eq_self_iff_head?]
  constructor
  · intro trimmed
    exact ⟨dropWhile_of_trimmed trimmed, dropWhile_reverse_of_trimmed trimmed⟩
  · rintro ⟨front, back⟩
    rw [trimChars, front, back, List.reverse_reverse]

/-- White space around a trimmed text is taken off. -/
theorem trimChars_append_of_trimmed {before after : List Char} (blankBefore : Blank before)
    (blankAfter : Blank after) (trimmed : trimChars chars = chars) :
    trimChars (before ++ chars ++ after) = chars := by
  by_cases nothing : chars = []
  · rw [nothing, trimChars_eq_nil_iff]
    rw [List.append_nil]
    exact blank_append_iff.mpr ⟨blankBefore, blankAfter⟩
  · have start : (chars ++ after).dropWhile isBlankChar = chars ++ after := by
      rw [List.dropWhile_append, dropWhile_of_trimmed trimmed, if_neg (by simpa using nothing)]
    rw [trimChars, List.append_assoc, List.dropWhile_append_of_pos blankBefore, start,
      List.reverse_append, List.dropWhile_append_of_pos fun c member =>
        blankAfter c (List.mem_reverse.mp member), dropWhile_reverse_of_trimmed trimmed,
      List.reverse_reverse]

/-- Trimming twice is trimming once. -/
theorem trimChars_trimChars (chars : List Char) : trimChars (trimChars chars) = trimChars chars := by
  have back : (trimChars chars).rdropWhile isBlankChar = trimChars chars :=
    List.rdropWhile_idempotent isBlankChar (chars.dropWhile isBlankChar)
  -- What is left is the beginning of a text without white space in front.
  have front : (trimChars chars).dropWhile isBlankChar = trimChars chars := by
    obtain ⟨space, same⟩ := List.rdropWhile_prefix isBlankChar (chars.dropWhile isBlankChar)
    change trimChars chars ++ space = _ at same
    have kept := List.dropWhile_idempotent isBlankChar chars
    rw [← same, List.dropWhile_append] at kept
    split at kept
    · next nothing =>
      have longer := congrArg List.length kept
      have shorter := List.length_dropWhile_le isBlankChar space
      rw [List.length_append] at longer
      have empty : trimChars chars = [] := List.eq_nil_of_length_eq_zero (by omega)
      rw [empty, List.dropWhile_nil]
    · exact List.append_cancel_right kept
  change ((trimChars chars).dropWhile isBlankChar).rdropWhile isBlankChar = _
  rw [front, back]

/-- White space around a text makes no difference. -/
theorem trimChars_append {before after : List Char} (blankBefore : Blank before)
    (blankAfter : Blank after) (chars : List Char) :
    trimChars (before ++ chars ++ after) = trimChars chars := by
  obtain ⟨first, last, blankFirst, blankLast, whole⟩ := eq_append_trimChars chars
  have wider : before ++ chars ++ after =
      (before ++ first) ++ trimChars chars ++ (last ++ after) := by
    conv_lhs => rw [whole]
    simp only [List.append_assoc]
  rw [wider, trimChars_append_of_trimmed (blank_append_iff.mpr ⟨blankBefore, blankFirst⟩)
    (blank_append_iff.mpr ⟨blankLast, blankAfter⟩) (trimChars_trimChars chars)]

end Ends

end LogGate.Text

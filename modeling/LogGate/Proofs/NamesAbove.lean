import LogGate.Proofs.LoggerTree

/-!
The names above a dotted name, of which the last one is the part before the first dot. If no two dots are
neighbours, the names above a name are those above each name above it.
-/

namespace LogGate

namespace Text

/-- A character that is no mark does not move the last mark. -/
theorem cutAtLast_append_of_ne {mark c : Char} (other : c ≠ mark) (chars : List Char) :
    cutAtLast mark (chars ++ [c]) =
      (cutAtLast mark chars).map fun cut => (cut.1, cut.2 ++ [c]) := by
  induction chars with
  | nil => simp [cutAtLast, other]
  | cons first rest ih =>
      rw [List.cons_append, cutAtLast, cutAtLast, ih]
      cases cutAtLast mark rest with
      | some cut => rfl
      | none => by_cases same : first = mark <;> simp [same]

end Text

namespace Logger

/-- The names above a name start with the part before its last dot. -/
theorem namesAbove_of_cut {chars before after : List Char}
    (cut : Text.cutAtLast '.' chars = some (before, after)) :
    namesAbove chars = if before.isEmpty then [] else before :: namesAbove before.dropLast := by
  rw [namesAbove]
  split
  · next missing => rw [cut] at missing; contradiction
  · next other rest found =>
    rw [cut, Option.some.injEq, Prod.mk.injEq] at found
    rw [found.1]

/-- Nothing stands above a name without a dot. -/
theorem namesAbove_of_dotless {chars : List Char} (dotless : '.' ∉ chars) :
    namesAbove chars = [] := by
  rw [← Text.cutAtLast_eq_none_iff] at dotless
  rw [namesAbove]
  split
  · rfl
  · next found => rw [dotless] at found; contradiction

/-- Induction along the names above a name. -/
theorem namesAbove_induction {motive : List Char → List (List Char) → Prop}
    (top : ∀ chars, motive chars [])
    (under : ∀ before after, motive before.dropLast (namesAbove before.dropLast) →
      motive (before ++ '.' :: after) (before :: namesAbove before.dropLast))
    (chars : List Char) : motive chars (namesAbove chars) := by
  induction chars using namesAbove.induct with
  | case1 chars missing =>
      rw [namesAbove_of_dotless (Text.cutAtLast_eq_none_iff.mp missing)]
      exact top chars
  | case2 chars before after cut shorter empty =>
      rw [namesAbove_of_cut cut, if_pos empty]
      exact top chars
  | case3 chars before after cut shorter filled ih =>
      rw [namesAbove_of_cut cut, if_neg filled, Text.eq_of_cutAtLast cut]
      exact under before after ih

/-- Two neighbouring dots leave an empty name between them. -/
def Plain (chars : List Char) : Prop := ¬['.', '.'] <:+: chars

/-- Parts of a plain name are plain. -/
theorem Plain.of_infix {part chars : List Char} (plain : Plain chars) (inside : part <:+: chars) :
    Plain part := fun dots => plain (dots.trans inside)

/-- A name above is the start of the name. -/
theorem prefix_of_mem_namesAbove {chars above : List Char} (member : above ∈ namesAbove chars) :
    above <+: chars := by
  induction chars using namesAbove_induction with
  | top => contradiction
  | under before after ih =>
      have first : before <+: before ++ '.' :: after := ⟨'.' :: after, rfl⟩
      rcases List.mem_cons.mp member with rfl | further
      · exact first
      · exact (ih further).trans ((List.dropLast_prefix before).trans first)

/-- A name further up is shorter. -/
theorem pairwise_namesAbove (chars : List Char) :
    (namesAbove chars).Pairwise fun nearer further => further.length < nearer.length := by
  induction chars using namesAbove_induction with
  | top => exact .nil
  | under before after ih =>
      refine .cons (fun further member => ?_) ih
      have lower := length_of_mem_namesAbove member
      rw [List.length_dropLast] at lower
      omega

/-- There are at most as many names above as there are characters. -/
theorem length_namesAbove_le (chars : List Char) : (namesAbove chars).length ≤ chars.length := by
  induction chars using namesAbove_induction with
  | top => exact Nat.zero_le _
  | under before after ih =>
      rw [List.length_dropLast] at ih
      simp only [List.length_cons, List.length_append]
      omega

/-- Without two neighbouring dots, the names above a name are those above the part before its last
dot. -/
theorem namesAbove_dropLast {before after : List Char} (plain : Plain (before ++ '.' :: after)) :
    namesAbove before.dropLast = namesAbove before := by
  rcases List.eq_nil_or_concat before with rfl | ⟨front, last, rfl⟩
  · rfl
  have different : last ≠ '.' := by
    rintro rfl
    exact plain ⟨front, after, by simp⟩
  rw [List.concat_eq_append, List.dropLast_concat]
  have cut := Text.cutAtLast_append_of_ne different front
  cases found : Text.cutAtLast '.' front with
  | none =>
      rw [found] at cut
      rw [namesAbove_of_dotless (Text.cutAtLast_eq_none_iff.mp found),
        namesAbove_of_dotless (Text.cutAtLast_eq_none_iff.mp cut)]
  | some parts =>
      rw [found] at cut
      rw [namesAbove_of_cut found, namesAbove_of_cut cut]

/-- What stands above a name that is above another stands above that one too. -/
theorem namesAbove_of_split {chars above : List Char} {nearer further : List (List Char)}
    (plain : Plain chars) (split : namesAbove chars = nearer ++ above :: further) :
    further = namesAbove above := by
  induction chars using namesAbove_induction generalizing nearer with
  | top => simp at split
  | under before after ih =>
      cases nearer with
      | nil =>
          rw [List.nil_append, List.cons.injEq] at split
          rw [← split.1, ← split.2, namesAbove_dropLast plain]
      | cons first rest =>
          rw [List.cons_append, List.cons.injEq] at split
          have within : before <:+: before ++ '.' :: after := ⟨[], '.' :: after, rfl⟩
          exact ih (plain.of_infix ((List.dropLast_prefix before).isInfix.trans within)) split.2

/-- A name without a dot is the last one above another. -/
theorem eq_nil_of_split {chars above : List Char} {nearer further : List (List Char)}
    (dotless : '.' ∉ above) (split : namesAbove chars = nearer ++ above :: further) :
    further = [] := by
  induction chars using namesAbove_induction generalizing nearer with
  | top => simp at split
  | under before after ih =>
      cases nearer with
      | nil =>
          rw [List.nil_append, List.cons.injEq] at split
          rw [← split.1] at dotless
          rw [← split.2]
          exact namesAbove_of_dotless fun inside => dotless (List.dropLast_subset before inside)
      | cons first rest =>
          rw [List.cons_append, List.cons.injEq] at split
          exact ih split.2

end Logger

namespace LoggerTree

/-- The names above a name, the nearest first. -/
def namesAbove (name : String) : List String := (Logger.namesAbove name.toList).map String.ofList

theorem prefix_of_mem_namesAbove {name above : String} (member : above ∈ namesAbove name) :
    above.toList <+: name.toList := by
  obtain ⟨chars, inside, rfl⟩ := List.mem_map.mp member
  rw [String.toList_ofList]
  exact Logger.prefix_of_mem_namesAbove inside

/-- Nearer names are longer. -/
theorem pairwise_namesAbove (name : String) :
    (namesAbove name).Pairwise fun nearer further => further.length < nearer.length := by
  rw [namesAbove, List.pairwise_map]
  refine (Logger.pairwise_namesAbove name.toList).imp fun shorter => ?_
  rwa [← String.length_toList, ← String.length_toList, String.toList_ofList, String.toList_ofList]

/-- A split of the names above is a split of their characters. -/
theorem split_namesAbove {name above : String} {nearer further : List String}
    (split : namesAbove name = nearer ++ above :: further) :
    ∃ front rest, Logger.namesAbove name.toList = front ++ above.toList :: rest ∧
      further = rest.map String.ofList := by
  obtain ⟨front, rest, whole, -, last⟩ := List.map_eq_append_iff.mp split
  obtain ⟨chars, others, rfl, first, remaining⟩ := List.map_eq_cons_iff.mp last
  exact ⟨front, others, by rw [whole, ← first, String.toList_ofList], remaining.symm⟩

/-- The names further up are those above the nearer name. -/
theorem namesAbove_of_split {name above : String} {nearer further : List String}
    (plain : Logger.Plain name.toList) (split : namesAbove name = nearer ++ above :: further) :
    further = namesAbove above := by
  obtain ⟨front, rest, whole, rfl⟩ := split_namesAbove split
  rw [namesAbove, Logger.namesAbove_of_split plain whole]

/-- A name without a dot is the furthest one. -/
theorem eq_nil_of_split {name above : String} {nearer further : List String}
    (dotless : '.' ∉ above.toList) (split : namesAbove name = nearer ++ above :: further) :
    further = [] := by
  obtain ⟨front, rest, whole, rfl⟩ := split_namesAbove split
  rw [Logger.eq_nil_of_split dotless whole, List.map_nil]

/-- What comes later among the names above a name is shorter. -/
theorem shorter_of_split {name above : String} {nearer further : List String}
    (split : namesAbove name = nearer ++ above :: further) :
    (∀ first ∈ nearer, ∀ other ∈ above :: further, other.length < first.length) ∧
      ∀ other ∈ further, other.length < above.length := by
  have pairwise := pairwise_namesAbove name
  rw [split, List.pairwise_append] at pairwise
  exact ⟨pairwise.2.2, fun _ => List.rel_of_pairwise_cons pairwise.2.1⟩

/-- No name stands above itself. -/
theorem ne_of_mem_namesAbove {name above : String} (member : above ∈ namesAbove name) : above ≠ name := by
  intro same
  have shorter := length_of_mem_ofList_namesAbove member
  rw [same] at shorter
  exact Nat.lt_irrefl _ shorter

end LoggerTree

end LogGate

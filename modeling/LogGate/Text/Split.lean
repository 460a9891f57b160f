/-!
Cutting text at a mark: into all the pieces between marks, or in two at the last mark.
-/

namespace LogGate.Text

/-- A text without a mark is one piece. -/
def pieces (mark : Char) : List Char → List (List Char)
  | [] => [[]]
  | c :: rest =>
    if c == mark then [] :: pieces mark rest
    else
      match pieces mark rest with
      | [] => [[c]]
      | first :: others => (c :: first) :: others

/-- The parts before and after the last mark. -/
def cutAtLast (mark : Char) : List Char → Option (List Char × List Char)
  | [] => none
  | c :: rest =>
    match cutAtLast mark rest with
    | some (before, after) => some (c :: before, after)
    | none => if c == mark then some ([], rest) else none

/-- The two parts and the mark between them are the whole text. -/
theorem eq_of_cutAtLast {mark : Char} {chars before after : List Char}
    (cut : cutAtLast mark chars = some (before, after)) : chars = before ++ mark :: after := by
  induction chars generalizing before after with
  | nil => simp [cutAtLast] at cut
  | cons c rest ih =>
    unfold cutAtLast at cut
    split at cut
    · rename_i inner last found
      simp at cut
      obtain ⟨rfl, rfl⟩ := cut
      simp [ih found]
    · split at cut
      · rename_i equal
        simp at cut equal
        obtain ⟨rfl, rfl⟩ := cut
        simp [equal]
      · simp at cut

/-- Only a text with a mark can be cut. -/
theorem cutAtLast_eq_none_iff {mark : Char} {chars : List Char} :
    cutAtLast mark chars = none ↔ mark ∉ chars := by
  induction chars with
  | nil => simp [cutAtLast]
  | cons c rest ih =>
      rw [cutAtLast, List.mem_cons, not_or, ← ih]
      cases cut : cutAtLast mark rest with
      | some parts => simp
      | none =>
          by_cases marked : c = mark
          · simp [marked]
          · simp [marked, Ne.symm marked]

end LogGate.Text

import LogGate.Proofs.Interning

/-!
Capitals. Writing a text in capitals a second time changes nothing more. It makes neither white space nor
the marks of a listing, so that the normal form of a name is its own normal form.
-/

namespace LogGate

namespace Text

/-- The codes that no letter becomes: those of letters with capitals of their own, of white space, of the
comma and of the equals sign. -/
def neverCapitals : List CaseRun :=
  caseRuns ++ (spelledCases.map fun entry => ⟨entry.1, entry.1, 1, 0⟩) ++
    (blankRanges.map fun range => ⟨range.first, range.last, 1, 0⟩) ++
    [⟨0x2C, 0x2C, 1, 0⟩, ⟨0x3D, 0x3D, 1, 0⟩]

/-- The codes that a run covers. -/
def CaseRun.codes (run : CaseRun) : List Nat :=
  List.range' run.first ((run.last - run.first) / run.step + 1) run.step

/-- Sets of codes are numbers here, with a bit for each code: a kernel looks into them quickly. -/
def union (sets : List Nat) : Nat := sets.foldr (· ||| ·) 0

def CaseRun.set (run : CaseRun) : Nat := union (run.codes.map (1 <<< ·))

/-- A code that a letter may become. -/
def isCapital (code : Nat) : Bool := !(union (neverCapitals.map CaseRun.set)).testBit code

section Codes

variable {code : Nat}

/-- A run lists all that it covers. -/
theorem CaseRun.mem_codes {run : CaseRun} (covered : run.covers code = true) : code ∈ run.codes := by
  simp only [covers, Bool.and_eq_true, decide_eq_true_eq, beq_iff_eq] at covered
  obtain ⟨⟨above, below⟩, multiple⟩ := covered
  have steps := Nat.div_add_mod (code - run.first) run.step
  rw [codes, List.mem_range']
  refine ⟨(code - run.first) / run.step, ?_, by omega⟩
  exact Nat.lt_succ_of_le (Nat.div_le_div_right (Nat.sub_le_sub_right below _))

/-- A union has the bits of all its sets. -/
theorem testBit_union {sets : List Nat} {one : Nat} (listed : one ∈ sets)
    (inside : one.testBit code = true) : (union sets).testBit code = true := by
  induction sets with
  | nil => cases listed
  | cons first rest ih =>
      rw [union, List.foldr_cons, Nat.testBit_or, Bool.or_eq_true]
      rcases List.mem_cons.mp listed with rfl | later
      · exact .inl inside
      · exact .inr (ih later)

theorem CaseRun.testBit_set {run : CaseRun} (covered : run.covers code = true) :
    run.set.testBit code = true := by
  refine testBit_union (List.mem_map_of_mem (mem_codes covered)) ?_
  rw [Nat.one_shiftLeft, Nat.testBit_two_pow_self]

/-- A capital is in none of the runs of codes that no letter becomes. -/
theorem not_covers_of_isCapital (capital : isCapital code = true) {run : CaseRun}
    (listed : run ∈ neverCapitals) : run.covers code = false := by
  rw [Bool.eq_false_iff]
  intro covered
  rw [isCapital, testBit_union (List.mem_map_of_mem listed) (CaseRun.testBit_set covered)] at capital
  contradiction

/-- A single code is covered by the run of itself. -/
theorem covers_single (shift : Int) : (⟨code, code, 1, shift⟩ : CaseRun).covers code = true := by
  simp [CaseRun.covers]

/-- Capitals stay as they are. -/
theorem upperCodes_of_isCapital (capital : isCapital code = true) : upperCodes code = [code] := by
  have unspelled : spelledCases.lookup code = none := by
    rw [List.lookup_eq_none_iff]
    intro entry member
    have listed : (⟨entry.1, entry.1, 1, 0⟩ : CaseRun) ∈ neverCapitals := by
      simp only [neverCapitals, List.mem_append, List.mem_map]
      exact .inl (.inl (.inr ⟨entry, member, rfl⟩))
    have apart := not_covers_of_isCapital capital listed
    rw [bne_iff_ne]
    rintro rfl
    rw [covers_single] at apart
    contradiction
  have unmoved : caseRuns.find? (·.covers code) = none := by
    rw [List.find?_eq_none]
    intro run member
    have listed : run ∈ neverCapitals := by
      simp only [neverCapitals, List.mem_append]
      exact .inl (.inl (.inl member))
    rw [not_covers_of_isCapital capital listed]
    exact Bool.false_ne_true
  rw [upperCodes, unspelled]
  dsimp only
  rw [unmoved]

end Codes

section Listed

/-- The codes that letters become, those of the digits, and the code that stands in for an invalid one. -/
def capitals : List Nat :=
  spelledCases.flatMap (·.2) ++
    (caseRuns.flatMap fun run => run.codes.map fun (code : Nat) => (code + run.shift).toNat) ++
    List.range' 48 10 ++ [0]

/-- None of them is a letter with a capital of its own, nor white space, nor a mark of a listing. -/
theorem isCapital_of_listed {code : Nat} (listed : code ∈ capitals) : isCapital code = true := by
  have all : capitals.all isCapital = true := by decide +kernel
  exact List.all_eq_true.mp all code listed

/-- A code stays as it is, or it becomes capitals. -/
theorem upperCodes_cases (code : Nat) :
    upperCodes code = [code] ∨ ∀ other ∈ upperCodes code, isCapital other = true := by
  rw [upperCodes]
  cases spelled : spelledCases.lookup code with
  | some codes =>
      refine .inr fun other inside => isCapital_of_listed ?_
      simp only [capitals, List.mem_append]
      exact .inl (.inl (.inl (List.mem_flatMap.mpr ⟨_, mem_of_lookup spelled, inside⟩)))
  | none =>
      cases found : caseRuns.find? (·.covers code) with
      | none => exact .inl rfl
      | some run =>
          have covered : run.covers code = true := (List.find?_eq_some_iff_append.mp found).1
          have moved : (code + run.shift).toNat ∈ capitals := by
            simp only [capitals, List.mem_append]
            refine .inl (.inl (.inr (List.mem_flatMap.mpr ⟨run, List.mem_of_find?_eq_some found, ?_⟩)))
            exact List.mem_map.mpr ⟨code, CaseRun.mem_codes covered, rfl⟩
          exact .inr (List.forall_mem_singleton.mpr (isCapital_of_listed moved))

end Listed

/-- A character that a letter may become. -/
def Capital (c : Char) : Prop := isCapital c.toNat = true

theorem capital_ofNat {code : Nat} (capital : isCapital code = true) : Capital (Char.ofNat code) := by
  by_cases valid : code.isValidChar
  · have same : (Char.ofNat code).toNat = code := by
      rw [Char.ofNat, dif_pos valid]
      rfl
    rwa [Capital, same]
  · rw [Capital, Char.ofNat, dif_neg valid]
    exact isCapital_of_listed (List.mem_append_right _ (.head _))

/-- White space is a range of its own among the codes that no letter becomes. -/
theorem Capital.visible {c : Char} (capital : Capital c) : isBlankChar c = false := by
  rw [isBlankChar, anyCovers, List.any_eq_false]
  intro range member covered
  have listed : (⟨range.first, range.last, 1, 0⟩ : CaseRun) ∈ neverCapitals := by
    simp only [neverCapitals, List.mem_append, List.mem_map]
    exact .inl (.inr ⟨range, member, rfl⟩)
  have apart := not_covers_of_isCapital capital listed
  rw [CaseRun.covers, Nat.mod_one, beq_self_eq_true, Bool.and_true] at apart
  rw [CodeRange.covers, apart] at covered
  contradiction

theorem Capital.ne_comma {c : Char} (capital : Capital c) : c ≠ ',' := by
  rintro rfl
  have apart := not_covers_of_isCapital capital (List.mem_append_right _ (.head _))
  exact absurd apart (by decide)

theorem Capital.ne_equals {c : Char} (capital : Capital c) : c ≠ '=' := by
  rintro rfl
  have apart := not_covers_of_isCapital capital (List.mem_append_right _ (.tail _ (.head _)))
  exact absurd apart (by decide)

section Chars

/-- Letters change one by one. -/
theorem upperChars_append (first second : List Char) :
    upperChars (first ++ second) = upperChars first ++ upperChars second :=
  List.flatMap_append

theorem upperChars_cons (c : Char) (rest : List Char) :
    upperChars (c :: rest) = upperChars [c] ++ upperChars rest :=
  upperChars_append [c] rest

theorem upperChars_singleton (c : Char) : upperChars [c] = (upperCodes c.toNat).map Char.ofNat := by
  rw [upperChars, List.flatMap_singleton]

/-- No letter is lost. -/
theorem upperChars_singleton_ne_nil (c : Char) : upperChars [c] ≠ [] := by
  rw [upperChars_singleton, ne_eq, List.map_eq_nil_iff]
  exact upperCodes_ne_nil c.toNat

/-- A letter stays, or becomes capitals. -/
theorem upperChars_singleton_cases (c : Char) :
    upperChars [c] = [c] ∨ ∀ u ∈ upperChars [c], Capital u := by
  rw [upperChars_singleton]
  rcases upperCodes_cases c.toNat with same | all
  · rw [same, List.map_singleton, Char.ofNat_toNat]
    exact .inl rfl
  · exact .inr (List.forall_mem_map.mpr fun code member => capital_ofNat (all code member))

/-- Capitals hold what their text holds, and what holds of every capital. -/
theorem forall_mem_upperChars {condition : Char → Prop} (capital : ∀ u, Capital u → condition u)
    {chars : List Char} (all : ∀ c ∈ chars, condition c) : ∀ u ∈ upperChars chars, condition u := by
  induction chars with
  | nil => exact List.forall_mem_nil _
  | cons c rest ih =>
      obtain ⟨first, others⟩ := List.forall_mem_cons.mp all
      rw [upperChars_cons, List.forall_mem_append]
      refine ⟨?_, ih others⟩
      rcases upperChars_singleton_cases c with same | capitals
      · rw [same]
        exact List.forall_mem_singleton.mpr first
      · exact fun u member => capital u (capitals u member)

/-- Capitals stay as they are. -/
theorem upperChars_of_capital {chars : List Char} (all : ∀ c ∈ chars, Capital c) :
    upperChars chars = chars := by
  induction chars with
  | nil => rfl
  | cons c rest ih =>
      obtain ⟨first, others⟩ := List.forall_mem_cons.mp all
      rw [upperChars_cons, ih others, upperChars_singleton, upperCodes_of_isCapital first,
        List.map_singleton, Char.ofNat_toNat, List.singleton_append]

/-- Capitals of capitals are the same. -/
theorem upperChars_upperChars (chars : List Char) :
    upperChars (upperChars chars) = upperChars chars := by
  induction chars with
  | nil => rfl
  | cons c rest ih =>
      rw [upperChars_cons, upperChars_append, ih]
      rcases upperChars_singleton_cases c with same | capitals
      · rw [same, same]
      · rw [upperChars_of_capital capitals]

/-- A text without white space at its ends has none in capitals. -/
theorem trimChars_upperChars {chars : List Char} (trimmed : trimChars chars = chars) :
    trimChars (upperChars chars) = upperChars chars := by
  have visible {c : Char} (seen : isBlankChar c = false) :
      ∀ u ∈ upperChars [c], isBlankChar u = false :=
    forall_mem_upperChars (fun u capital => capital.visible) (List.forall_mem_singleton.mpr seen)
  obtain ⟨front, back⟩ := trimChars_eq_self_iff.mp trimmed
  -- The first capital comes from the first character, and the last one from the last character.
  refine trimChars_eq_self_iff.mpr ⟨?_, ?_⟩
  · cases chars with
    | nil => exact front
    | cons c rest =>
        have seen : isBlankChar c = false := front c rfl
        rw [upperChars_cons, List.head?_append_of_ne_nil _ (upperChars_singleton_ne_nil c)]
        exact fun u first => visible seen u (List.mem_of_mem_head? first)
  · rcases List.eq_nil_or_concat' chars with rfl | ⟨rest, c, rfl⟩
    · exact back
    · have seen : isBlankChar c = false := back c (by simp)
      rw [upperChars_append, List.getLast?_append_of_ne_nil _ (upperChars_singleton_ne_nil c)]
      exact fun u last => visible seen u (List.mem_of_mem_getLast? last)

end Chars

/-- A text in capitals stays as it is. -/
theorem upper_upper (text : String) : upper (upper text) = upper text := by
  rw [upper, upper, String.toList_ofList, upperChars_upperChars]

/-- Trimmed and then in capitals, a text is trimmed. -/
theorem trim_upper_trim (text : String) : trim (upper (trim text)) = upper (trim text) := by
  rw [trim, upper, String.toList_ofList, trim, String.toList_ofList,
    trimChars_upperChars (trimChars_trimChars text.toList)]

end Text

namespace Level

/-- A name in normal form has no white space at its ends, is in capitals, and is no alias. -/
structure IsNormal (name : String) : Prop where
  trimmed : Text.trim name = name
  capital : Text.upper name = name
  unlisted : aliases.lookup name = none

/-- Normal names stay as they are. -/
theorem IsNormal.normalName_eq {name : String} (normal : IsNormal name) : normalName name = name := by
  rw [normalName, normal.trimmed, normal.capital, normal.unlisted, Option.getD_none]

/-- An alias stands for a normal name. -/
theorem isNormal_of_alias {entry : String × String} (listed : entry ∈ aliases) : IsNormal entry.2 := by
  have all : ∀ entry ∈ aliases, Text.trim entry.2 = entry.2 ∧ Text.upper entry.2 = entry.2 ∧
      aliases.lookup entry.2 = none := by
    decide +kernel
  obtain ⟨trimmed, capital, unlisted⟩ := all entry listed
  exact ⟨trimmed, capital, unlisted⟩

/-- A normal form is what an alias stands for, or the trimmed name in capitals, which is no alias. -/
theorem normalName_cases (name : String) :
    (∃ entry ∈ aliases, normalName name = entry.2) ∨
      (normalName name = Text.upper (Text.trim name) ∧
        aliases.lookup (Text.upper (Text.trim name)) = none) := by
  cases found : aliases.lookup (Text.upper (Text.trim name)) with
  | some other =>
      refine .inl ⟨_, mem_of_lookup found, ?_⟩
      rw [normalName, found]
      rfl
  | none =>
      refine .inr ⟨?_, rfl⟩
      rw [normalName, found]
      rfl

/-- Normal names are reached at once. -/
theorem isNormal_normalName (name : String) : IsNormal (normalName name) := by
  rcases normalName_cases name with ⟨entry, listed, same⟩ | ⟨same, unlisted⟩
  · rw [same]
    exact isNormal_of_alias listed
  · rw [same]
    exact ⟨Text.trim_upper_trim name, Text.upper_upper _, unlisted⟩

/-- A normal form has only marks of listings that the name has. -/
theorem not_mem_normalName {mark : Char} (marks : mark = ',' ∨ mark = '=') {name : String}
    (unmarked : mark ∉ name.toList) : mark ∉ (normalName name).toList := by
  rcases normalName_cases name with ⟨entry, listed, same⟩ | ⟨same, -⟩
  · have apart : ∀ entry ∈ aliases, ',' ∉ entry.2.toList ∧ '=' ∉ entry.2.toList := by decide
    rw [same]
    rcases marks with rfl | rfl
    · exact (apart entry listed).1
    · exact (apart entry listed).2
  · have apart : ∀ u ∈ Text.upperChars (Text.trimChars name.toList), u ≠ mark := by
      apply Text.forall_mem_upperChars
      · rcases marks with rfl | rfl
        · exact fun u capital => capital.ne_comma
        · exact fun u capital => capital.ne_equals
      · exact fun c inside =>
          ne_of_mem_of_not_mem (Text.mem_of_mem_trimChars inside) unmarked
    rw [same, Text.upper, String.toList_ofList, Text.trim, String.toList_ofList]
    exact fun inside => apart mark inside rfl

end Level

end LogGate

import LogGate.Fields
import Mathlib.Data.List.Nodup

/-!
Laws of named entries: the last value of a name counts, and every name keeps its first place.
-/

namespace LogGate.Fields

variable {κ ν μ : Type} [BEq κ]

@[simp] theorem putAll_nil (fields : Fields κ ν) : fields.putAll [] = fields := rfl

@[simp] theorem putAll_cons (fields : Fields κ ν) (entry : κ × ν) (rest : List (κ × ν)) :
    fields.putAll (entry :: rest) = (fields.put entry.1 entry.2).putAll rest := rfl

/-- Only the last of two values that are put under one name counts. -/
theorem put_put [ReflBEq κ] (fields : Fields κ ν) (name : κ) (first second : ν) :
    (fields.put name first).put name second = fields.put name second := by
  induction fields with
  | nil => simp [put]
  | cons entry rest ih => by_cases found : entry.1 == name <;> simp [put, found, ih]

/-- Changing the values commutes with putting an entry. -/
theorem map_put (change : ν → μ) (fields : Fields κ ν) (name : κ) (value : ν) :
    (fields.put name value).map (fun entry => (entry.1, change entry.2)) =
      put (fields.map fun entry => (entry.1, change entry.2)) name (change value) := by
  induction fields with
  | nil => rfl
  | cons entry rest ih =>
      by_cases found : entry.1 == name
      · simp [put, found]
      · simp only [put, found, List.map_cons, ih, Bool.false_eq_true, if_false]

/-- Values can be changed before or after entries are added. -/
theorem map_putAll (change : ν → μ) (fields : Fields κ ν) (added : List (κ × ν)) :
    (fields.putAll added).map (fun entry => (entry.1, change entry.2)) =
      putAll (fields.map fun entry => (entry.1, change entry.2))
        (added.map fun entry => (entry.1, change entry.2)) := by
  induction added generalizing fields with
  | nil => rfl
  | cons entry rest ih => simp only [putAll_cons, List.map_cons, ih, map_put]

/-- What is in a table after an entry was put was there before, or has the value and the name of this
entry. -/
theorem mem_put {fields : Fields κ ν} {name : κ} {value : ν} {entry : κ × ν}
    (member : entry ∈ fields.put name value) :
    entry ∈ fields ∨ entry.2 = value ∧ (entry.1 = name ∨ (entry.1 == name) = true) := by
  induction fields with
  | nil =>
      rw [put, List.mem_singleton] at member
      exact Or.inr ⟨congrArg Prod.snd member, Or.inl (congrArg Prod.fst member)⟩
  | cons first rest ih =>
      by_cases found : first.1 == name
      · rw [put, if_pos found] at member
        rcases List.mem_cons.mp member with rfl | old
        · exact Or.inr ⟨rfl, Or.inr found⟩
        · exact Or.inl (List.mem_cons_of_mem _ old)
      · rw [put, if_neg found] at member
        rcases List.mem_cons.mp member with rfl | old
        · exact Or.inl List.mem_cons_self
        · exact (ih old).imp_left (List.mem_cons_of_mem _)

/-- An entry is an old one or the one that was put. -/
theorem eq_of_mem_put [LawfulBEq κ] {fields : Fields κ ν} {name : κ} {value : ν} {entry : κ × ν}
    (member : entry ∈ fields.put name value) : entry ∈ fields ∨ entry = (name, value) := by
  rcases mem_put member with old | ⟨same, named | named⟩
  · exact Or.inl old
  · exact Or.inr (Prod.ext named same)
  · exact Or.inr (Prod.ext (eq_of_beq named) same)

/-- Entries that are put are entries of the table before, or among those that were added. -/
theorem mem_of_mem_putAll [LawfulBEq κ] {fields : Fields κ ν} {added : List (κ × ν)}
    {entry : κ × ν} (member : entry ∈ fields.putAll added) : entry ∈ fields ∨ entry ∈ added := by
  induction added generalizing fields with
  | nil => exact .inl member
  | cons first rest ih =>
      rcases ih member with before | later
      · apply (eq_of_mem_put before).imp_right
        rintro rfl
        exact List.mem_cons_self
      · exact .inr (List.mem_cons_of_mem _ later)

/-- A condition on values holds after putting entries that meet it. -/
theorem forall_putAll (condition : ν → Prop) {fields : Fields κ ν} {added : List (κ × ν)}
    (old : ∀ entry ∈ fields, condition entry.2) (new : ∀ entry ∈ added, condition entry.2) :
    ∀ entry ∈ fields.putAll added, condition entry.2 := by
  induction added generalizing fields with
  | nil => exact old
  | cons first rest ih =>
      apply ih
      · intro entry member
        rcases mem_put member with before | ⟨same, -⟩
        · exact old entry before
        · rw [same]
          exact new first List.mem_cons_self
      · intro entry member
        exact new entry (List.mem_cons_of_mem _ member)

/-- The first fields come before the second ones. -/
theorem get?_append (first second : Fields κ ν) (name : κ) :
    get? (first ++ second) name = (first.get? name).or (second.get? name) := by
  induction first with
  | nil => rfl
  | cons entry rest ih => by_cases found : entry.1 == name <;> simp [get?, found, ih]

/-- Values can be changed before or after the lookup. -/
theorem get?_map (change : ν → μ) (fields : Fields κ ν) (name : κ) :
    get? (fields.map fun entry => (entry.1, change entry.2)) name =
      (fields.get? name).map change := by
  induction fields with
  | nil => rfl
  | cons entry rest ih => by_cases found : entry.1 == name <;> simp [get?, found, ih]

/-- What is found is an entry. -/
theorem mem_of_get? [LawfulBEq κ] {fields : Fields κ ν} {name : κ} {value : ν}
    (found : fields.get? name = some value) : (name, value) ∈ fields := by
  induction fields with
  | nil => simp at found
  | cons entry rest ih =>
      by_cases same : entry.1 == name
      · rw [get?, if_pos same, Option.some.injEq] at found
        rw [← eq_of_beq same, ← found]
        exact List.mem_cons_self
      · rw [get?, if_neg same] at found
        exact List.mem_cons_of_mem _ (ih found)

/-- What is found is the value of an entry, even where names can be the same without being equal. -/
theorem exists_mem_of_get? {fields : Fields κ ν} {name : κ} {value : ν}
    (found : fields.get? name = some value) : ∃ entry ∈ fields, entry.2 = value := by
  induction fields with
  | nil => simp at found
  | cons entry rest ih =>
      rw [get?_cons] at found
      split at found
      · exact ⟨entry, List.mem_cons_self, Option.some.inj found⟩
      · obtain ⟨other, member, same⟩ := ih found
        exact ⟨other, List.mem_cons_of_mem _ member, same⟩

/-- The value of a name is that of its first entry. -/
theorem get?_eq_find? (fields : Fields κ ν) (name : κ) :
    fields.get? name = (fields.find? fun entry => entry.1 == name).map (·.2) := by
  induction fields with
  | nil => rfl
  | cons entry rest ih => by_cases found : entry.1 == name <;> simp [get?, found, ih]

section Lawful

variable [LawfulBEq κ]

/-- The last value counts. -/
theorem get?_put (fields : Fields κ ν) (name other : κ) (value : ν) :
    (fields.put name value).get? other =
      if name == other then some value else fields.get? other := by
  by_cases same : name == other
  · rw [if_pos same, ← eq_of_beq same, get?_put_self]
  · rw [if_neg same, get?_put_of_ne fields value (by simpa using same)]

/-- A name that is removed is not found, and all others are found as before. -/
theorem get?_remove (fields : Fields κ ν) (name other : κ) :
    (fields.remove name).get? other = if name == other then none else fields.get? other := by
  induction fields with
  | nil => simp [remove]
  | cons entry rest ih =>
      simp only [remove] at ih
      by_cases gone : entry.1 == name
      · simp only [remove, List.filter_cons, gone, Bool.not_true, Bool.false_eq_true, if_false, ih]
        by_cases same : name == other
        · simp [same]
        · have different : (entry.1 == other) = false := by
            rw [eq_of_beq gone]
            simpa using same
          simp [get?, same, different]
      · by_cases found : entry.1 == other
        · have different : (name == other) = false := by
            rw [← eq_of_beq found, BEq.comm]
            simpa using gone
          simp [remove, gone, get?, found, different]
        · simp only [remove, List.filter_cons, gone, Bool.not_false, if_true, get?, found,
            Bool.false_eq_true, if_false]
          exact ih

/-- Removing a name undoes what was put under it, and leaves other entries in their places. -/
theorem remove_put (fields : Fields κ ν) (name other : κ) (value : ν) :
    (fields.put other value).remove name =
      if other == name then fields.remove name else (fields.remove name).put other value := by
  induction fields with
  | nil => by_cases same : other == name <;> simp [put, remove, same]
  | cons entry rest ih =>
      rw [remove, remove] at ih ⊢
      by_cases found : entry.1 == other
      · have equal : entry.1 = other := eq_of_beq found
        by_cases same : other == name <;> simp [put, equal, same]
      · rw [put, if_neg found, List.filter_cons, List.filter_cons, ih]
        by_cases gone : entry.1 == name <;> by_cases same : other == name <;>
          simp [put, found, gone, same]

/-- A name can be removed before or after other entries are added. -/
theorem remove_putAll (fields : Fields κ ν) (added : List (κ × ν)) (name : κ) :
    (fields.putAll added).remove name =
      (fields.remove name).putAll (added.filter fun entry => !(entry.1 == name)) := by
  induction added generalizing fields with
  | nil => rfl
  | cons entry rest ih =>
      rw [putAll_cons, ih, remove_put]
      by_cases same : entry.1 == name <;> simp [same]

omit [LawfulBEq κ] in
/-- Removing a name that is not there changes nothing. -/
theorem remove_of_get?_eq_none {fields : Fields κ ν} {name : κ} (missing : fields.get? name = none) :
    fields.remove name = fields := by
  have without : fields.has name = false := by rw [← isSome_get?, missing, Option.isSome_none]
  rw [has, List.any_eq_false] at without
  apply List.filter_eq_self.mpr
  intro entry member
  simp [without entry member]

theorem get?_eq_none_of_not_mem {fields : Fields κ ν} {name : κ}
    (free : name ∉ fields.map (·.1)) : fields.get? name = none := by
  cases found : fields.get? name with
  | none => rfl
  | some value => exact absurd (List.mem_map.mpr ⟨_, mem_of_get? found, rfl⟩) free

/-- A name without a value is the name of no entry. -/
theorem not_mem_of_get?_eq_none {fields : Fields κ ν} {name : κ}
    (missing : fields.get? name = none) : name ∉ fields.map (·.1) := by
  have without : fields.has name = false := by rw [← isSome_get?, missing, Option.isSome_none]
  rw [has, List.any_eq_false] at without
  intro member
  obtain ⟨entry, inside, rfl⟩ := List.mem_map.mp member
  exact without entry inside (beq_self_eq_true entry.1)

/-- Of several entries that are put, the last one of a name gives its value. -/
theorem get?_putAll (fields : Fields κ ν) (added : List (κ × ν)) (name : κ) :
    (fields.putAll added).get? name = (get? added.reverse name).or (fields.get? name) := by
  induction added generalizing fields with
  | nil => rfl
  | cons entry rest ih =>
      rw [putAll_cons, ih, get?_put, List.reverse_cons, get?_append, Option.or_assoc]
      by_cases same : entry.1 == name <;> simp [get?, same]

/-- The last entry for a name is found. -/
theorem get?_ofList (entries : List (κ × ν)) (name : κ) :
    (ofList entries).get? name = get? entries.reverse name := by
  rw [ofList, get?_putAll]
  simp

/-- The value of a name is that of its last entry. -/
theorem get?_ofList_eq_getLast? (entries : List (κ × ν)) (name : κ) :
    (ofList entries).get? name =
      (entries.filter fun entry => entry.1 == name).getLast?.map (·.2) := by
  rw [get?_ofList, get?_eq_find?, List.getLast?_filter]

/-- Every name stands once. -/
def Distinct (fields : Fields κ ν) : Prop := (fields.map (·.1)).Nodup

/-- A new name goes to the end. -/
theorem put_of_fresh {fields : Fields κ ν} {name : κ} (fresh : name ∉ fields.map (·.1))
    (value : ν) : fields.put name value = fields ++ [(name, value)] := by
  induction fields with
  | nil => rfl
  | cons entry rest ih =>
      rw [List.map_cons, List.mem_cons, not_or] at fresh
      have different : ¬(entry.1 == name) = true := fun same => fresh.1 (eq_of_beq same).symm
      rw [put, if_neg different, ih fresh.2, List.cons_append]

/-- A known name keeps its place. -/
theorem names_put_of_mem {fields : Fields κ ν} {name : κ} (known : name ∈ fields.map (·.1))
    (value : ν) : (fields.put name value).map (·.1) = fields.map (·.1) := by
  induction fields with
  | nil => simp at known
  | cons entry rest ih =>
      by_cases same : entry.1 == name
      · simp [put, same]
      · have later : name ∈ rest.map (·.1) := by
          rcases List.mem_cons.mp known with first | later
          · simp [first] at same
          · exact later
        simp only [put, same, List.map_cons, ih later, Bool.false_eq_true, if_false]

/-- New names follow the old ones in the order in which they are first put. -/
theorem names_putAll (fields : Fields κ ν) (added : List (κ × ν)) :
    (fields.putAll added).map (·.1) =
      fields.map (·.1) ++ ((added.map (·.1)).removeAll (fields.map (·.1))).eraseDups := by
  induction added generalizing fields with
  | nil => simp [List.removeAll]
  | cons entry rest ih =>
      rw [putAll_cons, ih, List.map_cons]
      by_cases known : entry.1 ∈ fields.map (·.1)
      · rw [names_put_of_mem known, List.removeAll, List.removeAll, List.filter_cons_of_neg]
        simpa using known
      · rw [put_of_fresh known, List.map_append, List.append_assoc, List.map_singleton,
          List.removeAll, List.removeAll, List.filter_cons_of_pos (by simpa using known),
          List.eraseDups_cons, List.filter_filter, List.singleton_append]
        congr 4
        funext other
        rw [Bool.eq_iff_iff]
        simp only [List.elem_eq_mem, Bool.not_eq_eq_eq_not, Bool.not_true, decide_eq_false_iff_not,
          List.mem_append, List.mem_singleton, Bool.and_eq_true, beq_eq_false_iff_ne, not_or]
        exact and_comm

/-- Names stand in the order of their first entries. -/
theorem names_ofList (entries : List (κ × ν)) :
    (ofList entries).map (·.1) = (entries.map (·.1)).eraseDups := by
  rw [ofList, names_putAll, List.map_nil, List.nil_append, List.removeAll]
  simp

/-- Putting an entry leaves the names distinct. -/
theorem Distinct.put {fields : Fields κ ν} (distinct : fields.Distinct) (name : κ) (value : ν) :
    (fields.put name value).Distinct := by
  by_cases known : name ∈ fields.map (·.1)
  · rw [Distinct, names_put_of_mem known]
    exact distinct
  · rw [Distinct, put_of_fresh known, List.map_append]
    exact List.nodup_append.mpr ⟨distinct, by simp, by
      intro first old second new same
      rw [List.map_cons, List.map_nil, List.mem_singleton] at new
      rw [same, new] at old
      exact known old⟩

theorem Distinct.putAll {fields : Fields κ ν} (distinct : fields.Distinct)
    (added : List (κ × ν)) : (fields.putAll added).Distinct := by
  induction added generalizing fields with
  | nil => exact distinct
  | cons entry rest ih => exact ih (distinct.put entry.1 entry.2)

/-- Each name stands once. -/
theorem distinct_ofList (entries : List (κ × ν)) : (ofList entries).Distinct := by
  have nothing : Distinct ([] : Fields κ ν) := List.nodup_nil
  exact nothing.putAll entries

omit [BEq κ] [LawfulBEq κ] in
theorem Distinct.filter {fields : Fields κ ν} (distinct : fields.Distinct)
    (keep : κ × ν → Bool) : Distinct (fields.filter keep) :=
  distinct.sublist (List.filter_sublist.map _)

/-- Of distinct names, each has the value that stands beside it. -/
theorem get?_eq_some_iff {fields : Fields κ ν} (distinct : fields.Distinct) {name : κ} {value : ν} :
    fields.get? name = some value ↔ (name, value) ∈ fields := by
  refine ⟨mem_of_get?, fun member => ?_⟩
  induction fields with
  | nil => contradiction
  | cons entry rest ih =>
      obtain ⟨fresh, others⟩ := List.nodup_cons.mp distinct
      rcases List.mem_cons.mp member with rfl | later
      · simp
      · have different : ¬(entry.1 == name) = true := by
          intro same
          exact fresh (List.mem_map.mpr ⟨_, later, (eq_of_beq same).symm⟩)
        rw [get?, if_neg different]
        exact ih others later

/-- Entries with distinct names are put as they stand. -/
theorem putAll_of_distinct {fields added : Fields κ ν}
    (distinct : Distinct (fields ++ added)) : fields.putAll added = fields ++ added := by
  induction added generalizing fields with
  | nil => simp
  | cons entry rest ih =>
      have split : Distinct ((fields ++ [entry]) ++ rest) := by simpa using distinct
      have fresh : entry.1 ∉ fields.map (·.1) := by
        rw [Distinct, List.map_append, List.nodup_append] at distinct
        intro old
        exact distinct.2.2 entry.1 old entry.1 (by simp) rfl
      rw [putAll_cons, put_of_fresh fresh, ih split]
      simp

/-- Entries with distinct names are taken over as they are. -/
theorem ofList_of_distinct {entries : Fields κ ν} (distinct : entries.Distinct) :
    ofList entries = entries := by
  have appended : Distinct ([] ++ entries) := distinct
  exact putAll_of_distinct appended

/-- Collapsing entries again after a change of their values changes nothing more. -/
theorem ofList_map_ofList (change : ν → μ) (entries : List (κ × ν)) :
    ofList ((ofList entries).map fun entry => (entry.1, change entry.2)) =
      ofList (entries.map fun entry => (entry.1, change entry.2)) := by
  have collapsed : (ofList entries).map (fun entry => (entry.1, change entry.2)) =
      ofList (entries.map fun entry => (entry.1, change entry.2)) := map_putAll change [] entries
  rw [collapsed, ofList_of_distinct (distinct_ofList _)]

/-- Of distinct names, each is left with its value or left out. -/
theorem Distinct.get?_filter {fields : Fields κ ν} (distinct : fields.Distinct)
    (keep : ν → Bool) (name : κ) :
    get? (fields.filter fun entry => keep entry.2) name = (fields.get? name).filter keep := by
  induction fields with
  | nil => rfl
  | cons entry rest ih =>
      obtain ⟨fresh, others⟩ := List.nodup_cons.mp distinct
      by_cases kept : keep entry.2
      · simp only [List.filter_cons, kept, if_true, get?, ih others]
        by_cases same : entry.1 == name <;> simp [same, Option.filter, kept]
      · simp only [List.filter_cons, kept, Bool.false_eq_true, if_false, get?, ih others]
        by_cases same : entry.1 == name
        · have missing : get? rest name = none := by
            cases found : get? rest name with
            | none => rfl
            | some value =>
                have inside : name ∈ rest.map (·.1) := List.mem_map_of_mem (mem_of_get? found)
                rw [← eq_of_beq same] at inside
                exact absurd inside fresh
          simp [same, missing, Option.filter, kept]
        · rw [if_neg same]

end Lawful

end LogGate.Fields

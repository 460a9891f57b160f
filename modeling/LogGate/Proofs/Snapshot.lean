import LogGate.Record
import LogGate.Proofs.Fields

/-!
Snapshots of contexts and of the records that carry them. A record that is given the merged context
of an event is judged by exactly this context, even when nothing is left in it.
-/

namespace LogGate

namespace Fields

variable {κ ν : Type} [BEq κ]

theorem put_ne_nil (fields : Fields κ ν) (name : κ) (value : ν) : fields.put name value ≠ [] := by
  cases fields with
  | nil => simp [put]
  | cons entry rest => by_cases found : entry.1 == name <;> simp [put, found]

/-- Nothing comes of nothing only. -/
theorem putAll_eq_nil {fields added : Fields κ ν} (nothing : fields.putAll added = []) :
    fields = [] ∧ added = [] := by
  induction added generalizing fields with
  | nil => exact ⟨nothing, rfl⟩
  | cons entry rest ih => exact absurd (ih nothing).1 (put_ne_nil fields entry.1 entry.2)

end Fields

namespace Record

/-- Exactly the names behind the mark are names of the context. -/
theorem contextName?_eq_some_iff {label name : String} :
    contextName? label = some name ↔ label = contextMark ++ name := by
  rw [contextName?]
  constructor
  · intro found
    split at found
    · next marked =>
      obtain ⟨rest, same⟩ := List.isPrefixOf_iff_prefix.mp marked
      rw [← same, List.drop_left, Option.some.injEq] at found
      apply String.toList_injective
      rw [String.toList_append, ← same, ← found, String.toList_ofList]
    · contradiction
  · intro same
    have marked : contextMark.toList.isPrefixOf label.toList = true := by
      rw [same, String.toList_append]
      exact List.isPrefixOf_iff_prefix.mpr (List.prefix_append _ _)
    rw [if_pos marked, same, String.toList_append, List.drop_left, String.ofList_toList]

@[simp] theorem contextName?_mark (name : String) :
    contextName? (contextMark ++ name) = some name :=
  contextName?_eq_some_iff.mpr rfl

/-- No field of a record has a name with the mark. -/
theorem assign_mark (record : Record) (name : String) (value : Value) :
    record.assign (contextMark ++ name) value =
      { record with attributes := record.attributes.put (contextMark ++ name) value } := by
  have marked (label : String) (unmarked : contextName? label = none) :
      contextMark ++ name ≠ label := by
    intro same
    rw [← same, contextName?_mark] at unmarked
    contradiction
  unfold assign
  split
  · exact absurd ‹_› (marked "name" (by decide))
  · exact absurd ‹_› (marked "levelname" (by decide))
  · exact absurd ‹_› (marked "levelno" (by decide))
  · exact absurd ‹_› (marked "msg" (by decide))
  · exact absurd ‹_› (marked "args" (by decide))
  · exact absurd ‹_› (marked "created" (by decide))
  · exact absurd ‹_› (marked "exc_info" (by decide))
  · rfl

/-- A context only adds attributes to a record. -/
theorem withContext_eq (record : Record) (context : Context) :
    record.withContext context = { record with
      attributes := record.attributes.putAll
        (context.map fun entry => (contextMark ++ entry.1.plain, entry.2)) } := by
  unfold withContext assignAll
  induction context generalizing record with
  | nil => rfl
  | cons entry rest ih =>
      simp only [List.map_cons, List.foldl_cons]
      rw [assign_mark, ih]
      rfl

/-- Putting a marked attribute puts an entry of the context. -/
theorem filterMap_contextName?_put (attributes : Fields String Value) (name : String)
    (value : Value) :
    (attributes.put (contextMark ++ name) value).filterMap
        (fun entry => (contextName? entry.1).map fun name => (name, entry.2)) =
      Fields.put (attributes.filterMap fun entry =>
        (contextName? entry.1).map fun name => (name, entry.2)) name value := by
  induction attributes with
  | nil => simp [Fields.put]
  | cons entry rest ih =>
      by_cases same : entry.1 == contextMark ++ name
      · simp [Fields.put, eq_of_beq same]
      · cases found : contextName? entry.1 with
        | none => simp [Fields.put, same, found, ih]
        | some other =>
            have different : (other == name) = false := by
              rw [beq_eq_false_iff_ne]
              intro equal
              rw [contextName?_eq_some_iff.mp found, equal, beq_self_eq_true] at same
              exact same rfl
            simp [Fields.put, same, found, different, ih]

/-- The context of a call is added to that of its record. -/
theorem contextEntries_withContext (record : Record) (context : Context) :
    (record.withContext context).contextEntries =
      Fields.putAll record.contextEntries
        (context.map fun entry => (entry.1.plain, entry.2)) := by
  rw [withContext_eq, contextEntries, contextEntries]
  generalize record.attributes = attributes
  induction context generalizing attributes with
  | nil => rfl
  | cons entry rest ih =>
      simp only [List.map_cons, Fields.putAll_cons]
      rw [ih, filterMap_contextName?_put]

end Record

namespace Context

/-- Absent values can be left out before or after the names are made values. -/
theorem present_ofNamed (fields : Fields String Value) :
    present (ofNamed fields) = ofNamed (fields.filter fun entry => !entry.2.isAbsent) := by
  simp [present, ofNamed, List.filter_map, Function.comp_def]

/-- A context without absent values is present as a whole. -/
theorem present_of_forall {context : Context}
    (all : ∀ entry ∈ context, entry.2.isAbsent = false) : present context = context :=
  List.filter_eq_self.mpr fun entry member => by simp [all entry member]

/-- No present value is absent. -/
theorem isAbsent_of_mem_present {context : Context} {entry : Value × Value}
    (member : entry ∈ present context) : entry.2.isAbsent = false := by
  simpa using (List.mem_filter.mp member).2

/-- Merging leaves no entry without a value. -/
theorem isAbsent_of_mem_merge {ambient : Context} {extra : Fields String Value} :
    ∀ entry ∈ merge ambient extra, entry.2.isAbsent = false :=
  Fields.forall_putAll (fun value : Value => value.isAbsent = false)
    (fun _ => isAbsent_of_mem_present)
    (fun _ => isAbsent_of_mem_present)

/-- A merged context has no absent value. -/
theorem present_merge (ambient : Context) (extra : Fields String Value) :
    present (merge ambient extra) = merge ambient extra :=
  present_of_forall isAbsent_of_mem_merge

/-- Nothing is left of a merged context only if the ambient one has no values either. -/
theorem present_of_merge_eq_nil {ambient : Context} {extra : Fields String Value}
    (nothing : merge ambient extra = []) : present ambient = [] :=
  (Fields.putAll_eq_nil nothing).1

end Context

namespace Snapshot

/-- A name shows the last value that is written under it. -/
theorem get?_ofEntries (entries : List (Value × Value)) (name : String) :
    (ofEntries entries).get? name =
      (entries.filter fun entry => entry.1.plain == name && !entry.2.isAbsent).getLast?.map
        (·.2.plain) := by
  rw [get?, ofEntries, Fields.get?_ofList_eq_getLast?, List.filter_map, List.getLast?_map,
    Context.present, List.filter_filter, Option.map_map]
  rfl

/-- The names of a snapshot stand in the order in which they first have a value. -/
theorem names_ofEntries (entries : List (Value × Value)) :
    (ofEntries entries).entries.map (·.1) =
      ((Context.present entries).map (·.1.plain)).eraseDups := by
  rw [ofEntries, Fields.names_ofList, List.map_map]
  rfl

/-- The marked attributes of a record have the same snapshot as the context they came from. -/
theorem ofEntries_collapsed {context : Context} (full : Context.present context = context) :
    ofEntries (Context.ofNamed (Fields.ofList (context.map fun entry => (entry.1.plain, entry.2)))) =
      ofEntries context := by
  have collapsed : ∀ entry ∈ Fields.ofList (context.map fun entry => (entry.1.plain, entry.2)),
      entry.2.isAbsent = false := by
    apply Fields.forall_putAll fun value : Value => value.isAbsent = false
    · simp
    · intro entry member
      obtain ⟨source, inside, rfl⟩ := List.mem_map.mp member
      rw [← full] at inside
      exact Context.isAbsent_of_mem_present inside
  rw [ofEntries, ofEntries, full, Context.present_ofNamed,
    List.filter_eq_self.mpr fun entry member => by simp [collapsed entry member]]
  have values := Fields.ofList_map_ofList Value.plain
    (context.map fun entry => (entry.1.plain, entry.2))
  simpa [Context.ofNamed, List.map_map, Function.comp_def, Value.plain] using values

end Snapshot

namespace Record

/-- A record with context entries has the snapshot of them. -/
theorem snapshot?_of_contextEntries {record : Record} {fields : Fields String Value}
    (carried : record.contextEntries = fields) (filled : fields ≠ []) :
    record.snapshot? = some (Snapshot.ofEntries (Context.ofNamed fields)) := by
  rw [snapshot?, carried]
  cases fields with
  | nil => contradiction
  | cons entry rest => rfl

/-- A record without context entries has no snapshot. -/
theorem snapshot?_of_unmarked {record : Record} (unmarked : record.contextEntries = []) :
    record.snapshot? = none := by
  rw [snapshot?, unmarked]

/-- A record that carries the merged context is judged by it, also when the ambient context has to
stand in because nothing was merged. -/
theorem snapshot?_merge {record : Record} (unmarked : record.contextEntries = [])
    (ambient : Context) (extra : Fields String Value) :
    (record.withContext (Context.merge ambient extra)).snapshot?.getD
        (Snapshot.ofEntries ambient) =
      Snapshot.ofEntries (Context.merge ambient extra) := by
  have carried := contextEntries_withContext record (Context.merge ambient extra)
  rw [unmarked] at carried
  by_cases nothing : Context.merge ambient extra = []
  · have absent := Context.present_of_merge_eq_nil nothing
    rw [nothing] at carried ⊢
    rw [snapshot?_of_unmarked carried, Option.getD_none, Snapshot.ofEntries, absent]
    rfl
  · have kept : Fields.ofList ((Context.merge ambient extra).map
        fun entry => (entry.1.plain, entry.2)) ≠ [] := by
      intro empty
      exact nothing (List.map_eq_nil_iff.mp (Fields.putAll_eq_nil empty).2)
    rw [snapshot?_of_contextEntries carried kept, Option.getD_some]
    exact Snapshot.ofEntries_collapsed (Context.present_merge ambient extra)

end Record

end LogGate

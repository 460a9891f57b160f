import LogGate.Proofs.CallShapes
import LogGate.Proofs.RunEvolution

/-!
What a snapshot holds. An entry without a value neither gives a name nor takes one away; of several values
under one name the last one counts, and the name keeps the place of the first one.
-/

namespace LogGate

namespace Snapshot

/-- A name is in a snapshot exactly when an entry with a value is written under it. -/
theorem isSome_get?_ofEntries (entries : List (Value × Value)) (name : String) :
    ((ofEntries entries).get? name).isSome = true ↔
      ∃ entry ∈ entries, entry.1.plain = name ∧ entry.2.isAbsent = false := by
  rw [get?_ofEntries, Option.isSome_map, List.getLast?_isSome]
  simp only [ne_eq, List.filter_eq_nil_iff, Bool.and_eq_true, beq_iff_eq, Bool.not_eq_true',
    not_forall, not_not, exists_prop]

/-- Each name stands once in a snapshot. -/
theorem distinct_ofEntries (entries : List (Value × Value)) : (ofEntries entries).entries.Distinct :=
  Fields.distinct_ofList _

/-- A snapshot of the contents of a snapshot is the same snapshot. -/
theorem ofValue_toValue {snapshot : Snapshot} (distinct : snapshot.entries.Distinct) :
    ofValue snapshot.toValue = .ok snapshot := by
  obtain ⟨entries⟩ := snapshot
  have texts : Context.present (entries.map fun entry => (Value.text entry.1, Value.text entry.2)) =
      entries.map fun entry => (Value.text entry.1, Value.text entry.2) :=
    Context.present_of_forall fun entry member => by
      obtain ⟨source, -, rfl⟩ := List.mem_map.mp member
      rfl
  have plain : (entries.map fun entry => (Value.text entry.1, Value.text entry.2)).map
      (fun entry => (entry.1.plain, entry.2.plain)) = entries := by
    simp [List.map_map, Function.comp_def, Value.plain]
  rw [toValue, ofValue, Value.entriesOrNone, Except.map, ofEntries, texts, plain,
    Fields.ofList_of_distinct distinct]

/-- A snapshot with distinct names is the same as itself. -/
theorem same_self {snapshot : Snapshot} (distinct : snapshot.entries.Distinct) :
    snapshot.same snapshot = true := by
  rw [same, Fields.sameAs, beq_self_eq_true, Bool.true_and, List.all_eq_true]
  intro entry member
  rw [(Fields.get?_eq_some_iff distinct).mpr member]
  exact beq_self_eq_true entry.2

/-- Whatever counts as false has the empty snapshot. -/
theorem ofValue_of_false {data : Value} (empty : data.isTrue = false) : ofValue data = .ok .empty := by
  have nothing : data.entriesOrNone = .ok [] := by
    cases data with
    | mapping entries =>
        rw [Value.isTrue, Bool.not_eq_false', List.isEmpty_iff] at empty
        rw [Value.entriesOrNone, empty]
    | _ => simp [Value.entriesOrNone, empty]
  rw [ofValue, nothing]
  rfl

end Snapshot

/-- The data that a provider takes a snapshot of. -/
def Provider.data? (session : Session) (context : Context) : Provider → Option Value
  | ambient => some (.mapping context)
  | source number _ => some (session.source number).data
  | silent => none

namespace Act

/-- A provider gives the snapshot of its data, and fails where the data has none. -/
theorem exec_ask {session : Session} {context : Context} {provider : Provider} {data : Value}
    (given : provider.data? session context = some data) :
    ∃ later, (ask context provider).exec session = ((Snapshot.ofValue data).map some, later) := by
  cases provider with
  | ambient =>
      cases given
      exact ⟨session, rfl⟩
  | source number label =>
      cases given
      exact ⟨_, by rw [ask, askSource, exec_map, exec_bind_ok (exec_get session),
        exec_bind_ok (exec_modify _ _), exec_attempt]⟩
  | silent => contradiction

/-- A name that a provider has is found in the session. -/
theorem exec_provider {session : Session} {name : String} {found : Provider}
    (named : session.objects.get? name = some (.provider found)) :
    (provider name).exec session = (.ok found, session) := by
  simp [provider, object, exec_bind, named]

end Act

open Act

/-- Asking a provider answers as taking a snapshot of its data does. -/
theorem answer_askProvider {session : Session} {context : Context} {name : String}
    {provider : Provider} (named : session.objects.get? name = some (.provider provider))
    {data : Value} (given : provider.data? session context = some data) (id : Option String) :
    (Operation.askProvider id name).answer context session =
      (Snapshot.ofValue data).map fun snapshot => .snapshot (some snapshot) := by
  obtain ⟨later, asked⟩ := exec_ask given
  rw [Operation.answer, Operation.perform, exec_bind_ok (exec_provider named), exec_bind, asked]
  cases Snapshot.ofValue data with
  | error failure => rfl
  | ok snapshot =>
      simp only [Except.map, answerSnapshot, exec_bind_ok (exec_store _ _ _), exec_pure]

/-- A snapshot of a mapping has a name exactly when an entry with a value is written under it, with the
text of the last such value; the names stand once each, in the order of the first such entries. A snapshot
of its contents is the same snapshot. Providers give the snapshot of their data, which is the empty one
for nothing and for an empty mapping. -/
theorem snapshot_shows_last_values (entries : List (Value × Value)) :
    let snapshot := Snapshot.ofEntries entries
    Snapshot.ofValue (.mapping entries) = .ok snapshot ∧
    (∀ name,
      ((snapshot.get? name).isSome = true ↔
        ∃ entry ∈ entries, entry.1.plain = name ∧ entry.2.isAbsent = false) ∧
      snapshot.get? name =
        (entries.filter fun entry => entry.1.plain == name && !entry.2.isAbsent).getLast?.map
          (·.2.plain)) ∧
    snapshot.entries.map (·.1) =
      ((entries.filter fun entry => !entry.2.isAbsent).map (·.1.plain)).eraseDups ∧
    (snapshot.entries.map (·.1)).Nodup ∧
    Snapshot.ofValue snapshot.toValue = .ok snapshot ∧ snapshot.same snapshot = true ∧
    (∀ data : Value, data.isTrue = false → Snapshot.ofValue data = .ok .empty) ∧
    ∀ (session : Session) (context : Context) (name : String) (provider : Provider) (data : Value),
      session.objects.get? name = some (.provider provider) →
      provider.data? session context = some data →
      ∀ id, (Operation.askProvider id name).answer context session =
        (Snapshot.ofValue data).map fun snapshot => .snapshot (some snapshot) := by
  intro snapshot
  have distinct : snapshot.entries.Distinct := Snapshot.distinct_ofEntries entries
  refine ⟨rfl, fun name => ⟨?_, ?_⟩, ?_, distinct, ?_, ?_, fun data => ?_, ?_⟩
  · exact Snapshot.isSome_get?_ofEntries entries name
  · exact Snapshot.get?_ofEntries entries name
  · exact Snapshot.names_ofEntries entries
  · exact Snapshot.ofValue_toValue distinct
  · exact Snapshot.same_self distinct
  · exact Snapshot.ofValue_of_false
  · intro session context name provider data named given id
    exact answer_askProvider named given id

/-- A value whose name collides with an earlier one, and entries without a value between the two. -/
def collidingEntries : List (Value × Value) :=
  [(.bool true, .text "first"), (.text "None", .absent), (.text "True", .absent),
    (.absent, .text "kept"), (.text "True", .bool false)]

/-- A session with a source of these entries and a source of nothing. -/
def collidingSession : Session :=
  { Session.initial with
    objects := [("entries", .provider (.source 0 (.text "custom"))),
      ("nothing", .provider (.source 1 (.text "custom")))]
    sources := [⟨.mapping collidingEntries, 0⟩, ⟨.absent, 0⟩] }

theorem colliding_names_show_last_value :
    (Snapshot.ofEntries collidingEntries).get? "True" = some "False" ∧
    (Snapshot.ofEntries collidingEntries).entries.map (·.1) = ["True", "None"] ∧
    (Operation.askProvider none "entries").answer [] collidingSession =
      .ok (.snapshot (some (Snapshot.ofEntries collidingEntries))) ∧
    (Operation.askProvider none "nothing").answer [] collidingSession =
      .ok (.snapshot (some .empty)) := by
  obtain ⟨taken, shown, names, -, -, -, empty, provided⟩ :=
    snapshot_shows_last_values collidingEntries
  have first := provided collidingSession [] "entries" (.source 0 (.text "custom"))
    (.mapping collidingEntries) rfl rfl none
  have second := provided collidingSession [] "nothing" (.source 1 (.text "custom")) .absent
    rfl rfl none
  rw [taken] at first
  rw [empty .absent rfl] at second
  exact ⟨(shown "True").2.trans rfl, names.trans rfl, first, second⟩

end LogGate

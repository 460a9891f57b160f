import LogGate.Proofs.CallShapes
import LogGate.Proofs.Thresholds

/-!
Decisions of a created filter. The pairs and the default that a filter is created from give each value a
threshold, once and for all, and a decision compares the level of the event with it.
-/

namespace LogGate

namespace ThresholdTable

/-- No entry is for the text. -/
def Unlisted (entries : List Value) (content : String) : Prop :=
  ∀ entry ∈ entries, ∀ name, entry.halves? ≠ some (.text content, name)

/-- The threshold that a text has when a filter is created: the level of the last entry for the text, or
else that of the default, or else ERROR. -/
inductive ThresholdFor (registry : Registry) (entries : List Value) (default : Value)
    (content : String) : Level → Prop
  | listed {earlier later : List Value} {entry name : Value} {level : Level}
      (split : entries = earlier ++ entry :: later)
      (halves : entry.halves? = some (.text content, name)) (last : Unlisted later content)
      (resolved : registry.resolve name none = .ok level) :
      ThresholdFor registry entries default content level
  | default {level : Level} (unlisted : Unlisted entries content)
      (given : default.isAbsent = false) (resolved : registry.resolve default none = .ok level) :
      ThresholdFor registry entries default content level
  | error (unlisted : Unlisted entries content) (missing : default.isAbsent = true) :
      ThresholdFor registry entries default content Level.error

/-- An entry for a text counts if no later one does. -/
theorem lastFor?_cons_listed {entry name : Value} {content : String}
    (halves : entry.halves? = some (.text content, name)) (rest : List Value) :
    lastFor? (entry :: rest) content = (lastFor? rest content).or (some name) := by
  have same : (Value.text content == .text content) = true := Value.beq_text_iff.mpr rfl
  rw [lastFor?_cons, halves, Option.bind_some, if_pos same]

/-- An entry for another value does not count. -/
theorem lastFor?_cons_other {entry : Value} {content : String}
    (other : ∀ name, entry.halves? ≠ some (.text content, name)) (rest : List Value) :
    lastFor? (entry :: rest) content = lastFor? rest content := by
  rw [lastFor?_cons]
  cases halves : entry.halves? with
  | none => simp
  | some pair =>
      obtain ⟨value, name⟩ := pair
      have different : ¬(value == .text content) = true := by
        intro same
        exact other name (by rw [halves, Value.beq_text_iff.mp same])
      simp [different]

/-- A text without an entry is unlisted. -/
theorem lastFor?_eq_none_iff {entries : List Value} {content : String} :
    lastFor? entries content = none ↔ Unlisted entries content := by
  induction entries with
  | nil => simp [lastFor?, Unlisted]
  | cons entry rest ih =>
      by_cases listed : ∃ name, entry.halves? = some (.text content, name)
      · obtain ⟨name, halves⟩ := listed
        rw [lastFor?_cons_listed halves, Option.or_eq_none_iff]
        constructor
        · rintro ⟨-, impossible⟩
          contradiction
        · intro unlisted
          exact absurd halves (unlisted entry List.mem_cons_self name)
      · have other := not_exists.mp listed
        rw [lastFor?_cons_other other, ih, Unlisted, Unlisted, List.forall_mem_cons]
        exact (and_iff_right other).symm

/-- The name that the last entry for a text gives. -/
theorem lastFor?_eq_some_iff {entries : List Value} {content : String} {name : Value} :
    lastFor? entries content = some name ↔ ∃ earlier entry later,
      entries = earlier ++ entry :: later ∧ entry.halves? = some (.text content, name) ∧
        Unlisted later content := by
  constructor
  · intro found
    induction entries with
    | nil => simp [lastFor?] at found
    | cons entry rest ih =>
        cases others : lastFor? rest content with
        | some last =>
            rw [lastFor?_cons, others, Option.some_or, Option.some.injEq] at found
            obtain ⟨earlier, chosen, later, split, halves, unlisted⟩ := ih (others.trans (by rw [found]))
            exact ⟨entry :: earlier, chosen, later, by rw [split, List.cons_append], halves, unlisted⟩
        | none =>
            have unlisted := lastFor?_eq_none_iff.mp others
            by_cases listed : ∃ name, entry.halves? = some (.text content, name)
            · obtain ⟨given, halves⟩ := listed
              rw [lastFor?_cons_listed halves, others, Option.none_or, Option.some.injEq] at found
              exact ⟨[], entry, rest, rfl, by rw [halves, found], unlisted⟩
            · rw [lastFor?_cons_other (not_exists.mp listed), others] at found
              contradiction
  · rintro ⟨earlier, entry, later, rfl, halves, last⟩
    induction earlier with
    | nil => simp [lastFor?_cons_listed halves, lastFor?_eq_none_iff.mpr last]
    | cons first rest ih => rw [List.cons_append, lastFor?_cons, ih, Option.some_or]

/-- The relation and the function say the same of a threshold. -/
theorem thresholdFor_iff {registry : Registry} {pairs default : Value} {entries : List Value}
    (items : pairs.itemsOrNone = .ok entries) {content : String} {level : Level} :
    ThresholdFor registry entries default content level ↔
      configured registry pairs default content = .ok level := by
  simp only [configured, items, Except.bind]
  constructor
  · intro threshold
    cases threshold with
    | listed split halves last resolved =>
        rw [lastFor?_eq_some_iff.mpr ⟨_, _, _, split, halves, last⟩]
        exact resolved
    | default unlisted given resolved =>
        rw [lastFor?_eq_none_iff.mpr unlisted]
        simp [resolveDefault, given, resolved]
    | error unlisted missing =>
        rw [lastFor?_eq_none_iff.mpr unlisted]
        simp [resolveDefault, missing]
  · intro resolved
    cases found : lastFor? entries content with
    | some name =>
        rw [found] at resolved
        obtain ⟨earlier, entry, later, split, halves, last⟩ := lastFor?_eq_some_iff.mp found
        exact .listed split halves last resolved
    | none =>
        rw [found] at resolved
        have unlisted := lastFor?_eq_none_iff.mp found
        by_cases missing : default.isAbsent
        · simp only [resolveDefault, missing, if_true, Except.ok.injEq] at resolved
          exact resolved ▸ .error unlisted missing
        · simp only [resolveDefault, missing, Bool.false_eq_true, if_false] at resolved
          exact .default unlisted (by simpa using missing) resolved

/-- A table finds the one threshold that each text has. -/
theorem thresholdFor_iff_lookup {registry : Registry} {pairs default : Value}
    {entries : List Value} {table : ThresholdTable} (items : pairs.itemsOrNone = .ok entries)
    (made : ofPairs registry pairs default = .ok table) (content : String) (level : Level) :
    ThresholdFor registry entries default content level ↔
      level = table.lookup (.text content) := by
  rw [thresholdFor_iff items, lookup_ofPairs made, Except.ok.injEq]
  exact eq_comm

end ThresholdTable

/-- A created filter decides as its pairs say, whatever levels are registered later. -/
theorem decision_follows_pairs {registry : Registry}
    {key pairs default onMatch onMismatch : Value} {rule : Rule}
    (created : Rule.create registry key pairs default onMatch onMismatch = .ok rule) :
    ∃ name entries accepted refused, key = .text name ∧ pairs.itemsOrNone = .ok entries ∧
      Verdict.ofTokenOr onMatch .neutral = .ok accepted ∧
      Verdict.ofTokenOr onMismatch .deny = .ok refused ∧
      (onMatch = .absent → accepted = .neutral) ∧ (onMismatch = .absent → refused = .deny) ∧
      ∀ (passes : Level → Level → Bool) (level : Level) (snapshot : Snapshot),
        (snapshot.get? name = none → rule.outcomeBy passes level snapshot = .verdict .neutral) ∧
        (∀ value, snapshot.get? name = some value → ∃ threshold,
          (∀ other, ThresholdTable.ThresholdFor registry entries default value other ↔
            other = threshold) ∧
          rule.outcomeBy passes level snapshot =
            .verdict (if passes level threshold then accepted else refused)) ∧
        ∀ (order : LevelOrder) (provider : Provider) (later : Session) (context : Context)
          (id : String) (own : Nat) (literal : Literal) (form : SnapshotForm),
          later.objects.get? id = some (.filter own ⟨rule, order, provider⟩) →
          literal.read later.registry = .ok (.level level) →
          (Act.snapshotOf form).exec later = (.ok snapshot, later) →
          (Operation.evaluate id literal form).answer context later =
            .ok (.value (rule.outcomeBy order.passes level snapshot)) := by
  obtain ⟨named, -, tabled, ⟨accepted, read, matched⟩, refused, readMismatch, mismatched⟩ :=
    Rule.create_eq_ok_iff.mp created
  obtain ⟨entries, items, -⟩ := ThresholdTable.ofPairs_eq_ok_iff.mp tabled
  refine ⟨rule.key, entries, accepted, refused, named, items, read, readMismatch, ?_, ?_, ?_⟩
  · rintro rfl
    exact (Except.ok.inj read).symm
  · rintro rfl
    exact (Except.ok.inj readMismatch).symm
  · intro passes level snapshot
    refine ⟨?_, ?_, ?_⟩
    · intro missing
      rw [Rule.outcomeBy, missing]
    · intro value found
      refine ⟨rule.table.lookup (.text value), ?_, ?_⟩
      · exact ThresholdTable.thresholdFor_iff_lookup items tabled value
      · rw [Rule.outcomeBy, found]
        dsimp only
        split
        · exact matched
        · exact mismatched
    · intro order provider later context id own literal form kept given taken
      exact answer_evaluate_of_taken kept given taken

/-- A tenant is listed twice, the second time under another name of the level WARN. The level of the
event is registered after the filter was created. -/
theorem decision_follows_pairs_of_tenant :
    let pairs : Value := .list
      [.pair (.text "acme") (.text "error"), .tuple [.text "acme", .text " Warning "]]
    let rule : Rule := ⟨"tenant", ⟨[(.text "acme", ⟨"WARN", 30, true⟩)], .error⟩,
      .verdict .accept, .verdict .deny⟩
    let later := { Session.initial with
      registry := Registry.standard.add "LOUD" 35
      objects := [("filter", .filter 0 ⟨rule, .severity, .ambient⟩)] }
    Rule.create .standard (.text "tenant") pairs .absent (.text "accept") .absent = .ok rule ∧
    (Operation.evaluate "filter" (.levelNamed "loud")
      (.data (.mapping [(.text "tenant", .text "acme")]))).answer [] later =
        .ok (.value (.verdict .accept)) := by
  intro pairs rule later
  have created : Rule.create .standard (.text "tenant") pairs .absent (.text "accept") .absent =
      .ok rule := rfl
  refine ⟨created, ?_⟩
  obtain ⟨name, entries, accepted, refused, named, items, read, -, -, -, decides⟩ :=
    decision_follows_pairs created
  obtain rfl : "tenant" = name := Value.text.inj named
  obtain rfl : _ = entries := Except.ok.inj items
  obtain rfl : Verdict.accept = accepted := Except.ok.inj read
  obtain ⟨-, decided, answers⟩ :=
    decides LevelOrder.severity.passes ⟨"LOUD", 35, true⟩ ⟨[("tenant", "acme")]⟩
  obtain ⟨threshold, unique, outcome⟩ := decided "acme" rfl
  have unlisted : ThresholdTable.Unlisted [] "acme" := by
    intro other member
    contradiction
  have split : [Value.pair (.text "acme") (.text "error"),
      .tuple [.text "acme", .text " Warning "]] =
      [.pair (.text "acme") (.text "error")] ++ [.tuple [.text "acme", .text " Warning "]] := rfl
  obtain rfl : ⟨"WARN", 30, true⟩ = threshold :=
    (unique ⟨"WARN", 30, true⟩).mp (.listed split rfl unlisted rfl)
  rw [answers .severity .ambient later [] "filter" 0 (.levelNamed "loud") _ rfl rfl rfl, outcome]
  rfl

end LogGate

import LogGate.Config
import LogGate.Proofs.Registry

/-!
The thresholds of a rule. A rule that is built from a configuration applies to each text the threshold
of the last pair that was configured for it, and it stays the same while levels are registered.
-/

namespace LogGate

section Success

variable {ε α β : Type}

theorem Except.bind_eq_ok_iff {result : Except ε α} {next : α → Except ε β} {value : β} :
    result.bind next = .ok value ↔ ∃ middle, result = .ok middle ∧ next middle = .ok value := by
  cases result <;> simp [Except.bind]

theorem Except.map_eq_ok_iff {result : Except ε α} {change : α → β} {value : β} :
    result.map change = .ok value ↔ ∃ middle, result = .ok middle ∧ change middle = value := by
  cases result <;> simp [Except.map]

theorem Except.toOption_eq_some_iff {result : Except ε α} {value : α} :
    result.toOption = some value ↔ result = .ok value := by
  cases result <;> simp [Except.toOption]

end Success

namespace Value

/-- Only the text itself equals a text. -/
theorem beq_text_iff {value : Value} {content : String} :
    (value == .text content) = true ↔ value = .text content := by
  change value.same (.text content) = true ↔ _
  cases value <;> simp [same, isAbsent, quantity?]

/-- Only the same text is equal to a text. -/
theorem text_beq_iff {value : Value} {content : String} :
    (Value.text content == value) = true ↔ value = .text content := by
  change (Value.text content).same value = true ↔ _
  cases value with
  | text other =>
      rw [same, beq_iff_eq, Value.text.injEq]
      exact eq_comm
  | _ => simp [same]

end Value

/-- Among values of all kinds, a text is found under itself only. -/
theorem Fields.get?_put_text {ν : Type} (fields : Fields Value ν) (name : Value) (value : ν)
    (content : String) :
    (fields.put name value).get? (.text content) =
      if name == .text content then some value else fields.get? (.text content) := by
  induction fields with
  | nil => rfl
  | cons entry rest ih =>
      obtain ⟨first, old⟩ := entry
      by_cases found : first == name
      · rw [put, if_pos found, get?_cons, get?_cons]
        by_cases same : name == .text content
        · rw [Value.beq_text_iff.mp same] at found
          rw [if_pos found, if_pos same]
        · have different : ¬(first == .text content) = true := by
            intro text
            rw [Value.beq_text_iff.mp text] at found
            rw [Value.text_beq_iff.mp found] at same
            exact same (Value.beq_text_iff.mpr rfl)
          rw [if_neg different, if_neg same, if_neg different]
      · rw [put, if_neg found, get?_cons, get?_cons, ih]
        by_cases text : first == .text content
        · have different : ¬(name == .text content) = true := by
            intro same
            rw [Value.beq_text_iff.mp text, Value.beq_text_iff.mp same] at found
            exact found (Value.beq_text_iff.mpr rfl)
          rw [if_pos text, if_neg different]
          rw [if_pos text]
        · rw [if_neg text, if_neg text]

namespace ThresholdTable

/-- The name of the level that the last entry for a text gives. -/
def lastFor? (entries : List Value) (content : String) : Option Value :=
  ((entries.filterMap Value.halves?).reverse.find? fun pair => pair.1 == .text content).map (·.2)

/-- The first entry counts if no later one does. -/
theorem lastFor?_cons (entry : Value) (rest : List Value) (content : String) :
    lastFor? (entry :: rest) content =
      (lastFor? rest content).or (entry.halves?.bind fun pair =>
        if pair.1 == .text content then some pair.2 else none) := by
  cases halves : entry.halves? with
  | none => simp [lastFor?, halves]
  | some pair =>
      by_cases same : pair.1 == .text content <;>
        simp [lastFor?, halves, List.find?_append, same]

/-- An entry is added if it has two halves, a value that is there and can be looked up, and a known
level. -/
theorem addEntry_eq_ok_iff {registry : Registry} {levels later : Fields Value Level}
    {entry : Value} : addEntry registry levels entry = .ok later ↔
      ∃ value name level, entry.halves? = some (value, name) ∧ value.isAbsent = false ∧
        registry.resolve name none = .ok level ∧ value.isHashable = true ∧
          later = levels.put value level := by
  cases halves : entry.halves? with
  | none => simp [addEntry, halves]
  | some pair =>
      obtain ⟨value, name⟩ := pair
      by_cases absent : value.isAbsent
      · simp [addEntry, halves, absent]
      · simp only [addEntry, halves, absent, Bool.false_eq_true, if_false, Except.bind_eq_ok_iff]
        constructor
        · rintro ⟨level, named, put⟩
          by_cases hashable : value.isHashable
          · rw [if_pos hashable, Except.ok.injEq] at put
            exact ⟨value, name, level, rfl, by simpa using absent, named, hashable, put.symm⟩
          · simp [hashable] at put
        · rintro ⟨_, _, level, same, -, named, hashable, rfl⟩
          rw [Option.some.injEq, Prod.mk.injEq] at same
          obtain ⟨rfl, rfl⟩ := same
          exact ⟨level, named, by rw [if_pos hashable]⟩

/-- The level under a text is the one that the last entry for it names. -/
theorem get?_addEntries {registry : Registry} {entries : List Value}
    {levels later : Fields Value Level} (added : addEntries registry levels entries = .ok later)
    (content : String) :
    match lastFor? entries content with
    | some name => ∃ level, registry.resolve name none = .ok level ∧
        later.get? (.text content) = some level
    | none => later.get? (.text content) = levels.get? (.text content) := by
  induction entries generalizing levels with
  | nil =>
      rw [addEntries, Except.ok.injEq] at added
      rw [added]
      rfl
  | cons entry rest ih =>
      rw [addEntries, Except.bind_eq_ok_iff] at added
      obtain ⟨middle, first, others⟩ := added
      obtain ⟨value, name, level, halves, -, named, -, rfl⟩ := addEntry_eq_ok_iff.mp first
      have last := ih others
      rw [lastFor?_cons, halves, Option.bind_some]
      cases found : lastFor? rest content with
      | some other =>
          rw [found] at last
          exact last
      | none =>
          simp only [found, Fields.get?_put_text] at last
          by_cases same : value == .text content
          · rw [if_pos same] at last ⊢
            exact ⟨level, named, last⟩
          · rw [if_neg same] at last ⊢
            exact last

/-- A table that could be built for one registry is built in the same way for a later one. -/
theorem addEntries_of_extends {later earlier : Registry} (grown : later.Extends earlier)
    {entries : List Value} {levels final : Fields Value Level}
    (added : addEntries earlier levels entries = .ok final) :
    addEntries later levels entries = .ok final := by
  induction entries generalizing levels with
  | nil => exact added
  | cons entry rest ih =>
      rw [addEntries, Except.bind_eq_ok_iff] at added ⊢
      obtain ⟨middle, first, others⟩ := added
      obtain ⟨value, name, level, halves, filled, named, hashable, same⟩ :=
        addEntry_eq_ok_iff.mp first
      exact ⟨middle, addEntry_eq_ok_iff.mpr
        ⟨value, name, level, halves, filled, grown.resolve named, hashable, same⟩, ih others⟩

/-- The default level stays the same when levels are added. -/
theorem resolveDefault_of_extends {later earlier : Registry} (grown : later.Extends earlier)
    {default : Value} {level : Level} (resolved : resolveDefault earlier default = .ok level) :
    resolveDefault later default = .ok level := by
  unfold resolveDefault at resolved ⊢
  split at resolved
  · next absent => rw [if_pos absent, resolved]
  · next given => rw [if_neg given, grown.resolve resolved]

/-- A table is made of entries that are all added, and of a default level. -/
theorem ofPairs_eq_ok_iff {registry : Registry} {pairs default : Value} {table : ThresholdTable} :
    ofPairs registry pairs default = .ok table ↔
      ∃ entries, pairs.itemsOrNone = .ok entries ∧
        addEntries registry [] entries = .ok table.levels ∧
          resolveDefault registry default = .ok table.default := by
  simp only [ofPairs, Except.bind_eq_ok_iff, Except.map_eq_ok_iff]
  constructor
  · rintro ⟨entries, items, levels, added, level, resolved, rfl⟩
    exact ⟨entries, items, added, resolved⟩
  · rintro ⟨entries, items, added, resolved⟩
    exact ⟨entries, items, table.levels, added, table.default, resolved, rfl⟩

/-- A table stays the same when levels are added. -/
theorem ofPairs_of_extends {later earlier : Registry} (grown : later.Extends earlier)
    {pairs default : Value} {table : ThresholdTable}
    (made : ofPairs earlier pairs default = .ok table) :
    ofPairs later pairs default = .ok table := by
  rw [ofPairs_eq_ok_iff] at made ⊢
  obtain ⟨entries, items, added, resolved⟩ := made
  exact ⟨entries, items, addEntries_of_extends grown added,
    resolveDefault_of_extends grown resolved⟩

/-- The threshold that a sequence of pairs and a default give to a text. -/
def configured (registry : Registry) (pairs default : Value) (content : String) :
    Except Failure Level :=
  pairs.itemsOrNone.bind fun entries =>
    match lastFor? entries content with
    | some name => registry.resolve name none
    | none => resolveDefault registry default

/-- A table finds for every text the threshold that was configured for it. -/
theorem lookup_ofPairs {registry : Registry} {pairs default : Value} {table : ThresholdTable}
    (made : ofPairs registry pairs default = .ok table) (content : String) :
    configured registry pairs default content = .ok (table.lookup (.text content)) := by
  obtain ⟨entries, items, added, resolved⟩ := ofPairs_eq_ok_iff.mp made
  have last := get?_addEntries added content
  rw [configured, items]
  change (match lastFor? entries content with
    | some name => registry.resolve name none
    | none => resolveDefault registry default) = _
  cases found : lastFor? entries content with
  | none =>
      simp only [found, Fields.get?_nil] at last
      simp [lookup, last, resolved]
  | some name =>
      simp only [found] at last
      obtain ⟨level, named, held⟩ := last
      simp [lookup, held, named]

end ThresholdTable

/-- A rule is created from a key with more than white space, a table and two outcomes. -/
theorem Rule.create_eq_ok_iff {registry : Registry} {key pairs default onMatch onMismatch : Value}
    {rule : Rule} : create registry key pairs default onMatch onMismatch = .ok rule ↔
      key = .text rule.key ∧ Text.isBlank rule.key = false ∧
        ThresholdTable.ofPairs registry pairs default = .ok rule.table ∧
        (∃ accepted, Verdict.ofTokenOr onMatch .neutral = .ok accepted ∧
          rule.onMatch = .verdict accepted) ∧
        ∃ refused, Verdict.ofTokenOr onMismatch .deny = .ok refused ∧
          rule.onMismatch = .verdict refused := by
  constructor
  · intro created
    unfold create at created
    split at created
    · contradiction
    · simp only [Except.bind_eq_ok_iff] at created
      obtain ⟨table, tabled, accepted, read, refused, readMismatch, made⟩ := created
      cases key with
      | text content =>
          by_cases blank : Text.isBlank content
          · simp [new, blank] at made
          · simp only [new, blank, Bool.false_eq_true, if_false, Except.ok.injEq] at made
            rw [← made]
            exact ⟨rfl, by simpa using blank, tabled, ⟨accepted, read, rfl⟩, refused,
              readMismatch, rfl⟩
      | _ => simp [new] at made
  · rintro ⟨rfl, filled, tabled, ⟨accepted, read, matched⟩, refused, readMismatch, mismatched⟩
    obtain ⟨key, table, onMatch, onMismatch⟩ := rule
    dsimp only at filled tabled matched mismatched
    simp [create, Value.isAbsent, Value.plain, filled, tabled, read, readMismatch, new, matched,
      mismatched, Except.bind]

namespace Config

/-- The threshold of a text is that of its last pair, or else the default threshold, or else
ERROR. -/
def threshold (config : Config) (registry : Registry) (content : String) : Except Failure Level :=
  ThresholdTable.configured registry config.thresholds config.defaultThreshold content

/-- A rule is built for a key that is there. -/
theorem buildRule_eq_ok_iff {config : Config} {registry : Registry} {rule : Rule} :
    config.buildRule registry = .ok rule ↔ config.key.isTrue = true ∧
      Rule.create registry config.key config.thresholds config.defaultThreshold config.onMatch
        config.onMismatch = .ok rule := by
  by_cases keyed : config.key.isTrue <;> simp [buildRule, keyed]

/-- Registering levels does not change the rule that a configuration stands for. -/
theorem buildRule_of_extends {later earlier : Registry} (grown : later.Extends earlier)
    {config : Config} {rule : Rule} (built : config.buildRule earlier = .ok rule) :
    config.buildRule later = .ok rule := by
  rw [buildRule_eq_ok_iff, Rule.create_eq_ok_iff] at built ⊢
  obtain ⟨keyed, key, filled, tabled, outcomes⟩ := built
  exact ⟨keyed, key, filled, ThresholdTable.ofPairs_of_extends grown tabled, outcomes⟩

/-- The rule of a configuration looks up the configured thresholds under the configured key. -/
theorem threshold_of_buildRule {config : Config} {registry : Registry} {rule : Rule}
    (built : config.buildRule registry = .ok rule) (content : String) :
    config.threshold registry content = .ok (rule.table.lookup (.text content)) := by
  obtain ⟨-, created⟩ := buildRule_eq_ok_iff.mp built
  exact ThresholdTable.lookup_ofPairs (Rule.create_eq_ok_iff.mp created).2.2.1 content

end Config

end LogGate

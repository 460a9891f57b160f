import LogGate.Proofs.ConfiguredPairs
import LogGate.Proofs.Interning
import LogGate.Proofs.RuleFailures

/-!
Rules of valid parts. A rule is created exactly when each of its parts is valid, of whatever kinds the values
are that were given for them. Otherwise it is a misconfiguration, and no level is registered in either case.
-/

namespace LogGate

theorem Value.isAbsent_eq_false_iff {value : Value} : value.isAbsent = false ↔ value ≠ .absent := by
  cases value <;> simp [isAbsent]

/-- If an entry gives a level to a value, the value can be a name in a table. -/
def Value.Storable (entry : Value) : Prop :=
  ∀ value name, entry.halves? = some (value, name) → value.isHashable = true

namespace Registry

/-- What stands for a level: the level itself, or a text whose normal form is registered. -/
inductive Names (registry : Registry) : Value → Prop
  | level (grade : Level) : Names registry (.level grade)
  | text {content : String} {level : Level}
      (registered : registry.byName.get? (Level.normalName content) = some level) :
      Names registry (.text content)

/-- A level is found exactly for a name of one. -/
theorem exists_resolve_iff {registry : Registry} {name : Value} :
    (∃ level, registry.resolve name none = .ok level) ↔ registry.Names name := by
  constructor
  · rintro ⟨level, resolved⟩
    cases name with
    | level grade => exact .level grade
    | text content => exact .text (resolve_text_eq_ok_iff.mp resolved)
    | _ => contradiction
  · intro named
    cases named with
    | level grade => exact ⟨grade, rfl⟩
    | text registered => exact ⟨_, resolve_text_eq_ok_iff.mpr registered⟩

end Registry

namespace Verdict

/-- What stands for a verdict, or for the default one. -/
inductive Token : Value → Prop
  | absent : Token .absent
  | verdict (outcome : Verdict) : Token (.verdict outcome)
  | text {content : String}
      (known : Text.upper (Text.trim content) ∈ ["ACCEPT", "NEUTRAL", "DENY"]) :
      Token (.text content)

/-- There are three names of verdicts. -/
theorem exists_ofName?_iff {name : String} :
    (∃ outcome, ofName? name = some outcome) ↔ name ∈ ["ACCEPT", "NEUTRAL", "DENY"] := by
  rw [← Option.isSome_iff_exists, ofName?, List.find?_isSome]
  simp [Verdict.name, @eq_comm _ name]

/-- A verdict is read exactly from a token. -/
theorem exists_ofTokenOr_iff {token : Value} (default : Verdict) :
    (∃ outcome, ofTokenOr token default = .ok outcome) ↔ Token token := by
  constructor
  · rintro ⟨outcome, read⟩
    cases token with
    | absent => exact .absent
    | verdict given => exact .verdict given
    | text content =>
        apply Token.text
        rw [← exists_ofName?_iff]
        cases known : ofName? (Text.upper (Text.trim content)) with
        | some found => exact ⟨found, rfl⟩
        | none => simp [ofTokenOr, ofToken, Value.isAbsent, known] at read
    | _ => contradiction
  · intro given
    cases given with
    | absent => exact ⟨default, rfl⟩
    | verdict outcome => exact ⟨outcome, rfl⟩
    | text known =>
        obtain ⟨outcome, found⟩ := exists_ofName?_iff.mpr known
        exact ⟨outcome, by simp [ofTokenOr, ofToken, Value.isAbsent, found]⟩

end Verdict

namespace ThresholdTable

variable {registry : Registry}

/-- What stands for a threshold of some value: a configured pair, or whatever has exactly two items. -/
inductive Entry (registry : Registry) : Value → Prop
  | pair {value name : Value} (given : value ≠ .absent) (named : registry.Names name) :
      Entry registry (.pair value name)
  | items {entry value name : Value} (walked : entry.items? = some [value, name])
      (given : value ≠ .absent) (named : registry.Names name) : Entry registry entry

/-- A valid entry has two halves, a value and the name of a level. -/
theorem entry_iff_halves {entry : Value} : Entry registry entry ↔
    ∃ value name, entry.halves? = some (value, name) ∧ value.isAbsent = false ∧
      registry.Names name := by
  simp only [Value.halves?_eq_some_iff, Value.isAbsent_eq_false_iff]
  constructor
  · intro valid
    cases valid with
    | pair given named => exact ⟨_, _, .inl rfl, given, named⟩
    | items walked given named => exact ⟨_, _, .inr walked, given, named⟩
  · rintro ⟨value, name, rfl | walked, given, named⟩
    · exact .pair given named
    · exact .items walked given named

/-- An entry whose value can be a name is added if it is valid, whatever entries stand before it. -/
theorem exists_addEntry_iff (levels : Fields Value Level) {entry : Value} (storable : entry.Storable) :
    (∃ later, addEntry registry levels entry = .ok later) ↔ Entry registry entry := by
  rw [entry_iff_halves]
  constructor
  · rintro ⟨later, added⟩
    obtain ⟨value, name, level, halves, given, resolved, -⟩ := addEntry_eq_ok_iff.mp added
    exact ⟨value, name, halves, given, Registry.exists_resolve_iff.mp ⟨level, resolved⟩⟩
  · rintro ⟨value, name, halves, given, named⟩
    obtain ⟨level, resolved⟩ := Registry.exists_resolve_iff.mpr named
    refine ⟨levels.put value level, addEntry_eq_ok_iff.mpr ?_⟩
    exact ⟨value, name, level, halves, given, resolved, storable value name halves, rfl⟩

/-- Entries that can be stored are added exactly if all are valid. -/
theorem exists_addEntries_iff (levels : Fields Value Level) {entries : List Value}
    (storable : ∀ entry ∈ entries, entry.Storable) :
    (∃ later, addEntries registry levels entries = .ok later) ↔
      ∀ entry ∈ entries, Entry registry entry := by
  induction entries generalizing levels with
  | nil => exact iff_of_true ⟨levels, rfl⟩ (List.forall_mem_nil _)
  | cons entry rest ih =>
      obtain ⟨first, others⟩ := List.forall_mem_cons.mp storable
      simp only [addEntries, Except.bind_eq_ok_iff, List.forall_mem_cons,
        ← exists_addEntry_iff levels first]
      constructor
      · rintro ⟨later, middle, added, done⟩
        exact ⟨⟨middle, added⟩, (ih middle others).mp ⟨later, done⟩⟩
      · rintro ⟨⟨middle, added⟩, valid⟩
        obtain ⟨later, done⟩ := (ih middle others).mpr valid
        exact ⟨later, middle, added, done⟩

/-- A default level is nothing or the name of a level. -/
theorem exists_resolveDefault_iff {default : Value} :
    (∃ level, resolveDefault registry default = .ok level) ↔
      default = .absent ∨ registry.Names default := by
  rw [← Registry.exists_resolve_iff, resolveDefault]
  cases default <;> simp [Value.isAbsent]

end ThresholdTable

namespace Rule

variable {registry : Registry} {key default onMatch onMismatch : Value} {entries : List Value}

/-- The parts from which a rule can be created. -/
structure Valid (registry : Registry) (key : Value) (entries : List Value)
    (default onMatch onMismatch : Value) : Prop where
  keyed : ∃ content, key = .text content ∧ ∃ c ∈ content.toList, Text.isBlankChar c = false
  listed : ∀ entry ∈ entries, ThresholdTable.Entry registry entry
  defaulted : default = .absent ∨ registry.Names default
  matched : Verdict.Token onMatch
  mismatched : Verdict.Token onMismatch

/-- A rule is made exactly of valid parts. -/
theorem exists_create_iff (storable : ∀ entry ∈ entries, entry.Storable) :
    (∃ rule, create registry key (.list entries) default onMatch onMismatch = .ok rule) ↔
      Valid registry key entries default onMatch onMismatch := by
  constructor
  · rintro ⟨rule, created⟩
    obtain ⟨keyed, filled, tabled, ⟨accepted, read, -⟩, refused, readMismatch, -⟩ :=
      create_eq_ok_iff.mp created
    obtain ⟨_, items, added, resolved⟩ := ThresholdTable.ofPairs_eq_ok_iff.mp tabled
    obtain rfl := Except.ok.inj ((Value.itemsOrNone_list entries).symm.trans items)
    exact {
      keyed := ⟨rule.key, keyed, by simpa [Text.isBlank] using filled⟩
      listed := (ThresholdTable.exists_addEntries_iff [] storable).mp ⟨_, added⟩
      defaulted := ThresholdTable.exists_resolveDefault_iff.mp ⟨_, resolved⟩
      matched := (Verdict.exists_ofTokenOr_iff _).mp ⟨accepted, read⟩
      mismatched := (Verdict.exists_ofTokenOr_iff _).mp ⟨refused, readMismatch⟩ }
  · intro valid
    obtain ⟨content, keyed, filled⟩ := valid.keyed
    obtain ⟨levels, added⟩ := (ThresholdTable.exists_addEntries_iff [] storable).mpr valid.listed
    obtain ⟨level, resolved⟩ := ThresholdTable.exists_resolveDefault_iff.mpr valid.defaulted
    obtain ⟨accepted, read⟩ := (Verdict.exists_ofTokenOr_iff .neutral).mpr valid.matched
    obtain ⟨refused, readMismatch⟩ := (Verdict.exists_ofTokenOr_iff .deny).mpr valid.mismatched
    have tabled : ThresholdTable.ofPairs registry (.list entries) default = .ok ⟨levels, level⟩ :=
      ThresholdTable.ofPairs_eq_ok_iff.mpr ⟨entries, Value.itemsOrNone_list entries, added, resolved⟩
    refine ⟨⟨content, ⟨levels, level⟩, .verdict accepted, .verdict refused⟩, create_eq_ok_iff.mpr ?_⟩
    exact ⟨keyed, by simpa [Text.isBlank] using filled, tabled, ⟨accepted, read, rfl⟩, refused,
      readMismatch, rfl⟩

/-- Of invalid parts a rule is misconfigured, if every value of an entry can be a name in a table. -/
theorem misconfigured_of_not_valid (storable : ∀ entry ∈ entries, entry.Storable)
    (invalid : ¬Valid registry key entries default onMatch onMismatch) :
    ∃ cause, create registry key (.list entries) default onMatch onMismatch =
      .error (.misconfigured cause) := by
  cases created : create registry key (.list entries) default onMatch onMismatch with
  | ok rule => exact absurd ((exists_create_iff storable).mp ⟨rule, created⟩) invalid
  | error failure =>
      let config : Config :=
        { key, thresholds := .list entries, defaultThreshold := default, onMatch, onMismatch }
      have unbuildable : config.Unbuildable failure := Config.unbuildable_of_create created
      cases unbuildable with
      | misconfigured cause => exact ⟨cause, rfl⟩
      | notIterable _ itemless => contradiction
      | unhashable listed member halves unhashable =>
          cases listed
          rw [storable _ member _ _ halves] at unhashable
          contradiction

end Rule

section Creating

variable {session : Session} {form : FilterForm} {key pairs default onMatch onMismatch : Value}
  {provider : Provider}

/-- What the parts of a filter, as they are written, stand for in a session. -/
structure FilterForm.Reads (form : FilterForm) (session : Session)
    (key pairs default onMatch onMismatch : Value) (provider : Provider) : Prop where
  key : ∃ literal, form.key = some literal ∧ literal.read session.registry = .ok key
  pairs : form.pairs.read session.registry = .ok pairs
  default : form.default.read session.registry = .ok default
  onMatch : form.onMatch.read session.registry = .ok onMatch
  onMismatch : form.onMismatch.read session.registry = .ok onMismatch
  provider : (Act.findProvider form.provider).exec session = (.ok provider, session)

/-- A filter of parts that can be read is that of their values. -/
theorem FilterForm.Reads.exec_createFilter
    (reads : form.Reads session key pairs default onMatch onMismatch provider) :
    (Act.createFilter form).exec session =
      ((Rule.create session.registry key pairs default onMatch onMismatch).map
        fun rule => ⟨rule, form.order, provider⟩, session) := by
  obtain ⟨literal, given, keyRead⟩ := reads.key
  have first : (Act.readOption form.key).exec session = (.ok (some key), session) := by
    rw [given, Act.readOption, Act.exec_map, Act.exec_read, keyRead]
    rfl
  have part {literal : Literal} {value : Value} (read : literal.read session.registry = .ok value) :
      (Act.read literal).exec session = (.ok value, session) := by
    rw [Act.exec_read, read]
  have required : (Act.requireKey (some key)).exec session = (.ok key, session) := rfl
  rw [Act.createFilter, Act.exec_bind_ok first, Act.exec_bind_ok (part reads.pairs),
    Act.exec_bind_ok (part reads.default), Act.exec_bind_ok (part reads.onMatch),
    Act.exec_bind_ok (part reads.onMismatch), Act.exec_bind_ok reads.provider,
    Act.exec_bind_ok required, Act.exec_bind_ok (Act.exec_get session), Act.exec_bind,
    Act.exec_attempt]
  cases Rule.create session.registry key pairs default onMatch onMismatch <;> rfl

/-- A filter is kept with the next number, or it fails and nothing is kept. -/
theorem Step.run_createFilter
    (reads : form.Reads session key pairs default onMatch onMismatch provider) (ambient : Ambient)
    (id : Option String) :
    (Step.operation (.createFilter id form)).run ambient session =
      match Rule.create session.registry key pairs default onMatch onMismatch with
      | .ok rule =>
        let filter : Filter := ⟨rule, form.order, provider⟩
        (.ok (.filter (some filter)), ambient,
          Session.storing { session with built := session.built + 1 } id (.filter session.built filter))
      | .error failure => (.error failure, ambient, session) := by
  have tried := reads.exec_createFilter
  cases created : Rule.create session.registry key pairs default onMatch onMismatch with
  | ok rule =>
      rw [created] at tried
      apply run_operation
      have numbered : Act.nextNumber.exec session =
          (.ok session.built, { session with built := session.built + 1 }) := rfl
      rw [Operation.perform, Act.exec_bind_ok tried, Act.answerFilter, Act.exec_bind_ok numbered,
        Act.exec_bind_ok (Act.exec_store _ _ _), Act.exec_pure]
  | error failure =>
      rw [created] at tried
      apply run_operation
      rw [Operation.perform, Act.exec_bind_error tried]

end Creating

/-- Creating a filter succeeds exactly if all its parts are valid, whatever kinds of values they are, as long
as the values in its entries can be names in a table. Otherwise it is a misconfiguration, and in both cases
the levels that are registered stay as they are. -/
theorem filter_created_iff_valid {registry : Registry} {key default onMatch onMismatch : Value}
    {entries : List Value} (storable : ∀ entry ∈ entries, entry.Storable) :
    let created := Rule.create registry key (.list entries) default onMatch onMismatch
    let valid := Rule.Valid registry key entries default onMatch onMismatch
    ((∃ rule, created = .ok rule) ↔ valid) ∧
    (¬valid → ∃ cause, created = .error (.misconfigured cause)) ∧
    ∀ (session : Session) (form : FilterForm) (provider : Provider) (ambient : Ambient)
      (id : Option String), session.registry = registry →
      form.Reads session key (.list entries) default onMatch onMismatch provider →
      ∃ answer later,
        (Step.operation (.createFilter id form)).run ambient session = (answer, ambient, later) ∧
        ((∃ filter, answer = .ok (.filter (some filter))) ↔ valid) ∧
        (¬valid → ∃ cause, answer = .error (.misconfigured cause)) ∧
        later.registry = session.registry := by
  intro created valid
  have succeeds : (∃ rule, created = .ok rule) ↔ valid := Rule.exists_create_iff storable
  have otherwise : ¬valid → ∃ cause, created = .error (.misconfigured cause) :=
    Rule.misconfigured_of_not_valid storable
  refine ⟨succeeds, otherwise, ?_⟩
  rintro session form provider ambient id rfl reads
  have ran := Step.run_createFilter reads ambient id
  by_cases good : valid
  · obtain ⟨rule, made⟩ := succeeds.mpr good
    dsimp only [created] at made
    rw [made] at ran
    refine ⟨_, _, ran, iff_of_true ⟨_, rfl⟩ good, fun bad => absurd good bad, ?_⟩
    rw [Session.registry_storing]
  · obtain ⟨cause, failed⟩ := otherwise good
    dsimp only [created] at failed
    rw [failed] at ran
    refine ⟨_, _, ran, iff_of_false nofun good, fun _ => ⟨cause, rfl⟩, rfl⟩

/-- A filter of two customers, one given as a pair and one by the names of a mapping. -/
def customerForm (key : Literal) : FilterForm where
  key := some key
  pairs := .list [.pair (.text "gold") (.text "debug"),
    .mapping [(.text "vip", .int 1), (.text " warning ", .int 2)]]
  onMatch := .text " accept "
  onMismatch := .verdict .deny

/-- A number is no key, though it can be written as a text. -/
theorem filter_created_iff_valid_on_customers :
    (∃ filter later, (Step.operation (.createFilter none (customerForm (.text "tenant")))).run ⟨0, []⟩
      Session.initial = (.ok (.filter (some filter)), ⟨0, []⟩, later) ∧
      later.registry = .standard) ∧
    ∃ cause later, (Step.operation (.createFilter none (customerForm (.int 5)))).run ⟨0, []⟩
      Session.initial = (.error (.misconfigured cause), ⟨0, []⟩, later) ∧
      later.registry = .standard := by
  let entries : List Value := [.pair (.text "gold") (.text "debug"),
    .mapping [(.text "vip", .int 1), (.text " warning ", .int 2)]]
  have storable : ∀ entry ∈ entries, entry.Storable := by
    simp only [entries, List.forall_mem_cons]
    refine ⟨?_, ?_, List.forall_mem_nil _⟩
    all_goals
      rintro value name ⟨⟩
      rfl
  have reads {literal : Literal} {key : Value} (read : literal.read .standard = .ok key) :
      (customerForm literal).Reads Session.initial key (.list entries) .absent (.text " accept ")
        (.verdict .deny) .ambient :=
    ⟨⟨literal, rfl, read⟩, rfl, rfl, rfl, rfl, rfl⟩
  have levels : Registry.standard.Names (.text "debug") ∧
      Registry.standard.Names (.text " warning ") := by
    constructor
    · exact @Registry.Names.text _ _ ⟨"DEBUG", 10, true⟩ (by decide +kernel)
    · exact @Registry.Names.text _ _ ⟨"WARN", 30, true⟩ (by decide +kernel)
  have listed : ∀ entry ∈ entries, ThresholdTable.Entry .standard entry := by
    simp only [entries, List.forall_mem_cons]
    exact ⟨.pair nofun levels.1, .items rfl nofun levels.2, List.forall_mem_nil _⟩
  have text : (Literal.text "tenant").read .standard = .ok (.text "tenant") := rfl
  have number : (Literal.int 5).read .standard = .ok (.int 5) := rfl
  constructor
  · obtain ⟨-, -, steps⟩ := @filter_created_iff_valid .standard (.text "tenant") .absent
      (.text " accept ") (.verdict .deny) entries storable
    obtain ⟨answer, later, ran, succeeds, -, kept⟩ :=
      steps Session.initial _ _ ⟨0, []⟩ none rfl (reads text)
    obtain ⟨filter, rfl⟩ := succeeds.mpr {
      keyed := ⟨"tenant", rfl, 't', by decide, by decide⟩
      listed
      defaulted := .inl rfl
      matched := .text (by decide +kernel)
      mismatched := .verdict .deny }
    exact ⟨filter, later, ran, kept⟩
  · obtain ⟨-, -, steps⟩ := @filter_created_iff_valid .standard (.int 5) .absent
      (.text " accept ") (.verdict .deny) entries storable
    obtain ⟨answer, later, ran, -, otherwise, kept⟩ :=
      steps Session.initial _ _ ⟨0, []⟩ none rfl (reads number)
    obtain ⟨cause, rfl⟩ := otherwise fun valid => by
      obtain ⟨content, textual, -⟩ := valid.keyed
      contradiction
    exact ⟨cause, later, ran, kept⟩

end LogGate

import LogGate.Proofs.Thresholds

/-!
What a rule that cannot be built fails with. It is a misconfiguration, unless the thresholds are no
sequence or give a level to a value that cannot be a name in a table.
-/

namespace LogGate

/-- The ways in which no rule can be built from a configuration. -/
inductive Config.Unbuildable (config : Config) : Failure → Prop
  | misconfigured (cause : Misconfiguration) : config.Unbuildable (.misconfigured cause)
  | notIterable (filled : config.thresholds.isTrue = true)
      (itemless : config.thresholds.items? = none) : config.Unbuildable .notIterable
  | unhashable {entries : List Value} {entry value name : Value}
      (listed : config.thresholds.items? = some entries) (member : entry ∈ entries)
      (halves : entry.halves? = some (value, name)) (unhashable : value.isHashable = false) :
      config.Unbuildable .unhashable

section Failing

variable {ε α β : Type} {failure : ε}

theorem Except.bind_eq_error_iff {result : Except ε α} {next : α → Except ε β} :
    result.bind next = .error failure ↔
      result = .error failure ∨ ∃ middle, result = .ok middle ∧ next middle = .error failure := by
  cases result <;> simp [Except.bind]

theorem Except.map_eq_error_iff {result : Except ε α} {change : α → β} :
    result.map change = .error failure ↔ result = .error failure := by
  cases result <;> simp [Except.map]

end Failing

/-- Failing is a misconfiguration for an outcome or a level that is not known. -/
theorem Registry.misconfigured_of_resolve {registry : Registry} {name : Value} {failure : Failure}
    (failed : registry.resolve name none = .error failure) :
    ∃ cause, failure = .misconfigured cause := by
  cases name with
  | text content =>
      cases found : registry.find? content with
      | some level => simp [resolve, found] at failed
      | none =>
          simp only [resolve, found, Except.error.injEq] at failed
          exact ⟨_, failed.symm⟩
  | level grade => simp [resolve] at failed
  | _ => exact ⟨_, (Except.error.inj failed).symm⟩

/-- Reading a verdict fails only as a misconfiguration. -/
theorem Verdict.misconfigured_of_ofTokenOr {token : Value} {default : Verdict} {failure : Failure}
    (failed : ofTokenOr token default = .error failure) :
    ∃ cause, failure = .misconfigured cause := by
  rw [ofTokenOr] at failed
  split at failed
  · contradiction
  · cases token with
    | verdict outcome => simp [ofToken] at failed
    | text content =>
        cases read : ofName? (Text.upper (Text.trim content)) with
        | some outcome => simp [ofToken, read] at failed
        | none =>
            simp only [ofToken, read, Except.error.injEq] at failed
            exact ⟨_, failed.symm⟩
    | _ => exact ⟨_, (Except.error.inj failed).symm⟩

/-- Making a rule of a table fails only as a misconfiguration. -/
theorem Rule.misconfigured_of_new {key onMatch onMismatch : Value} {table : Option ThresholdTable}
    {failure : Failure} (failed : new key table onMatch onMismatch = .error failure) :
    ∃ cause, failure = .misconfigured cause := by
  cases key with
  | text content =>
      by_cases blank : Text.isBlank content
      · rw [new, if_pos blank] at failed
        exact ⟨_, (Except.error.inj failed).symm⟩
      · rw [new, if_neg blank] at failed
        contradiction
  | _ => exact ⟨_, (Except.error.inj failed).symm⟩

namespace ThresholdTable

/-- An entry fails as a misconfiguration or for a value that cannot be a name. -/
theorem failure_of_addEntry {registry : Registry} {levels : Fields Value Level} {entry : Value}
    {failure : Failure} (failed : addEntry registry levels entry = .error failure) :
    (∃ cause, failure = .misconfigured cause) ∨ failure = .unhashable ∧
      ∃ value name, entry.halves? = some (value, name) ∧ value.isHashable = false := by
  cases halves : entry.halves? with
  | none =>
      simp only [addEntry, halves, Except.error.injEq] at failed
      exact .inl ⟨_, failed.symm⟩
  | some pair =>
      obtain ⟨value, name⟩ := pair
      simp only [addEntry, halves] at failed
      split at failed
      · exact .inl ⟨_, (Except.error.inj failed).symm⟩
      · rcases Except.bind_eq_error_iff.mp failed with unknown | ⟨level, -, refused⟩
        · exact .inl (Registry.misconfigured_of_resolve unknown)
        · cases hashable : value.isHashable with
          | true => simp [hashable] at refused
          | false =>
              simp only [hashable, Bool.false_eq_true, if_false, Except.error.injEq] at refused
              exact .inr ⟨refused.symm, value, name, rfl, hashable⟩

/-- An entry is refused for its value only after its level was found. -/
theorem addEntry_eq_unhashable_iff {registry : Registry} {levels : Fields Value Level}
    {entry : Value} : addEntry registry levels entry = .error .unhashable ↔
      ∃ value name level, entry.halves? = some (value, name) ∧ value.isAbsent = false ∧
        registry.resolve name none = .ok level ∧ value.isHashable = false := by
  cases halves : entry.halves? with
  | none => simp [addEntry, halves]
  | some pair =>
      obtain ⟨value, name⟩ := pair
      cases absent : value.isAbsent with
      | true => simp [addEntry, halves, absent]
      | false =>
          cases resolved : registry.resolve name none with
          | error failure =>
              obtain ⟨cause, rfl⟩ := Registry.misconfigured_of_resolve resolved
              simp [addEntry, halves, absent, resolved, Except.bind]
          | ok level =>
              cases hashable : value.isHashable <;>
                simp [addEntry, halves, absent, resolved, hashable, Except.bind]

/-- Adding entries fails as a misconfiguration, or on a value that cannot be looked up. -/
theorem failure_of_addEntries {registry : Registry} {levels : Fields Value Level}
    {entries : List Value} {failure : Failure}
    (failed : addEntries registry levels entries = .error failure) :
    (∃ cause, failure = .misconfigured cause) ∨ failure = .unhashable ∧
      ∃ entry ∈ entries, ∃ value name, entry.halves? = some (value, name) ∧
        value.isHashable = false := by
  induction entries generalizing levels with
  | nil => contradiction
  | cons entry rest ih =>
      rcases Except.bind_eq_error_iff.mp failed with first | ⟨more, -, others⟩
      · refine (failure_of_addEntry first).imp_right fun ⟨same, halves⟩ => ?_
        exact ⟨same, entry, List.mem_cons_self, halves⟩
      · refine (ih others).imp_right fun ⟨same, other, member, halves⟩ => ?_
        exact ⟨same, other, List.mem_cons_of_mem _ member, halves⟩

end ThresholdTable

/-- A table that cannot be made leaves the configuration unbuildable for the same failure. -/
theorem Config.unbuildable_of_ofPairs {config : Config} {registry : Registry} {default : Value}
    {failure : Failure}
    (failed : ThresholdTable.ofPairs registry config.thresholds default = .error failure) :
    config.Unbuildable failure := by
  rcases Except.bind_eq_error_iff.mp failed with unlisted | ⟨entries, listed, entered⟩
  · rw [Value.itemsOrNone] at unlisted
    split at unlisted
    · next filled =>
      split at unlisted
      · contradiction
      · next itemless =>
        cases unlisted
        exact .notIterable filled itemless
    · contradiction
  · rcases Except.bind_eq_error_iff.mp entered with refused | ⟨levels, -, unread⟩
    · rcases ThresholdTable.failure_of_addEntries refused with
        ⟨cause, rfl⟩ | ⟨rfl, entry, member, value, name, halves, unhashable⟩
      · exact .misconfigured cause
      · rw [Value.itemsOrNone] at listed
        split at listed
        · split at listed
          · next items walked =>
            cases listed
            exact .unhashable walked member halves unhashable
          · contradiction
        · cases listed
          contradiction
    · rw [Except.map_eq_error_iff, ThresholdTable.resolveDefault] at unread
      split at unread
      · contradiction
      · obtain ⟨cause, rfl⟩ := Registry.misconfigured_of_resolve unread
        exact .misconfigured cause

/-- A rule that cannot be made leaves the configuration unbuildable for the same failure. -/
theorem Config.unbuildable_of_create {config : Config} {registry : Registry} {failure : Failure}
    (failed : Rule.create registry config.key config.thresholds config.defaultThreshold config.onMatch
      config.onMismatch = .error failure) : config.Unbuildable failure := by
  have misconfigured (known : ∃ cause, failure = .misconfigured cause) :
      config.Unbuildable failure := by
    obtain ⟨cause, rfl⟩ := known
    exact .misconfigured cause
  rw [Rule.create] at failed
  split at failed
  · exact misconfigured ⟨_, (Except.error.inj failed).symm⟩
  rcases Except.bind_eq_error_iff.mp failed with table | ⟨table, -, outcomes⟩
  · exact unbuildable_of_ofPairs table
  · rcases Except.bind_eq_error_iff.mp outcomes with first | ⟨onMatch, -, second⟩
    · exact misconfigured (Verdict.misconfigured_of_ofTokenOr first)
    · rcases Except.bind_eq_error_iff.mp second with second | ⟨onMismatch, -, last⟩
      · exact misconfigured (Verdict.misconfigured_of_ofTokenOr second)
      · exact misconfigured (Rule.misconfigured_of_new last)

/-- Every failure of a configuration to give a rule is one of the three. -/
theorem Config.unbuildable_of_buildRule {config : Config} {registry : Registry} {failure : Failure}
    (failed : config.buildRule registry = .error failure) : config.Unbuildable failure := by
  rw [buildRule] at failed
  split at failed
  · exact unbuildable_of_create failed
  · rw [← Except.error.inj failed]
    exact .misconfigured _

end LogGate

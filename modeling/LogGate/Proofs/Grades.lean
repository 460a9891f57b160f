import LogGate.Filter
import LogGate.Logger
import LogGate.Proofs.Registry

/-!
Ranks of events. A whole number of any kind, and a level, are judged like a level of this rank, by a rule of
its own as by the rules of a logger. The rank of a value is the same in all registries that are built by
registering levels.
-/

namespace LogGate

namespace Value

/-- The rank that an event's level or level number stands for. -/
def rank? (value : Value) : Option Int :=
  match value.grade? with
  | some grade => some grade.rank
  | none => value.whole?

/-- Levels and numbers can be looked up, and they name levels. -/
theorem gradable_of_rank? {value : Value} {rank : Int} (ranked : value.rank? = some rank) :
    value.isHashable = true ∧ value.isNameable = true := by
  cases value <;> first | exact ⟨rfl, rfl⟩ | cases ranked

end Value

/-- A rank that is a whole number passes like every level that has it. -/
theorem LevelOrder.accepts_int (order : LevelOrder) (candidate threshold : Level) :
    order.accepts (.int candidate.rank) threshold = .ok (order.passes candidate threshold) := by
  cases order with
  | severity => exact congrArg Except.ok (decide_eq_decide.mpr Rat.intCast_le_intCast)
  | inverted => exact congrArg Except.ok (decide_eq_decide.mpr Rat.intCast_le_intCast)
  | exact =>
      have same : Quantity.exact threshold.rank = .exact candidate.rank ↔
          candidate.rank = threshold.rank := by
        rw [Quantity.exact.injEq, Rat.intCast_inj, eq_comm]
      exact congrArg Except.ok (decide_eq_decide.mpr same)

/-- A rank that is a number is judged like every level that has it. -/
theorem Rule.judge_int (rule : Rule) (order : LevelOrder) (level : Level) (snapshot : Snapshot) :
    rule.judge order (.int level.rank) snapshot = .ok (rule.outcome order level snapshot) := by
  rw [judge, outcome, outcomeBy]
  cases snapshot.get? rule.key with
  | none => rfl
  | some value =>
      dsimp only
      rw [LevelOrder.accepts_int]
      rfl

/-- A filter judges a rank that is a whole number like every level that has it. -/
theorem Filter.judge_int (filter : Filter) (level : Level) (snapshot : Snapshot) :
    filter.judge (.int level.rank) snapshot = .ok (filter.evaluate level snapshot) :=
  filter.rule.judge_int filter.order level snapshot

namespace Registry

variable {registry : Registry}

/-- A level number stands for a level, whatever levels there are. -/
theorem rankOf_int (registry : Registry) (number : Int) :
    registry.rankOf (.int number) = .ok (.int (registry.ofNumber number).rank) := rfl

/-- A level, and a number that is whole, have the rank that they show. -/
theorem rankOf_of_rank? (reached : registry.Reachable) {value : Value} {rank : Int}
    (ranked : value.rank? = some rank) : registry.rankOf value = .ok (.int rank) := by
  obtain ⟨hashable, -⟩ := Value.gradable_of_rank? ranked
  rw [Value.rank?] at ranked
  rw [rankOf]
  cases graded : value.grade? with
  | some grade =>
      rw [graded] at ranked
      exact congrArg (Except.ok ∘ Value.int) (Option.some.inj ranked)
  | none =>
      rw [graded] at ranked
      dsimp only at ranked ⊢
      rw [if_pos hashable, ranked]
      exact congrArg (Except.ok ∘ Value.int) (rank_ofNumber reached rank)

/-- The rank of a value does not depend on which levels are registered. -/
theorem rankOf_congr {later : Registry} (before : registry.Reachable) (after : later.Reachable)
    (level : Value) : later.rankOf level = registry.rankOf level := by
  simp only [rankOf, rank_ofNumber before, rank_ofNumber after]

/-- A value has a rank if it can be looked up and can name a level. -/
theorem isSome_rankOf (registry : Registry) (level : Value) :
    (registry.rankOf level).toOption.isSome = (level.isHashable && level.isNameable) := by
  rw [rankOf]
  cases graded : level.grade? with
  | some grade =>
      have ranked : level.rank? = some grade.rank := by rw [Value.rank?, graded]
      obtain ⟨hashable, nameable⟩ := Value.gradable_of_rank? ranked
      rw [hashable, nameable]
      rfl
  | none =>
      dsimp only
      cases hashable : level.isHashable with
      | false => rfl
      | true =>
          rw [if_pos rfl]
          cases whole : level.whole? with
          | some number =>
              have ranked : level.rank? = some number := by rw [Value.rank?, graded, ← whole]
              rw [(Value.gradable_of_rank? ranked).2]
              rfl
          | none => cases level.isNameable <;> rfl

end Registry

namespace Logger

variable {registry : Registry} {context : Context} {record : Record} {number : Int}

/-- A record at a level number is judged like an event of the level that the number stands for. -/
theorem ruleOutcome_int (rule : Rule) (registry : Registry) (context : Context)
    (leveled : record.level = .int number) :
    ruleOutcome rule registry context record =
      .ok (rule.outcome .severity (registry.ofNumber number)
        (record.snapshot?.getD (Snapshot.ofEntries context))) := by
  rw [ruleOutcome, leveled, Registry.rankOf_int]
  exact rule.judge_int .severity _ _

/-- At a level number no judgement of a logger fails, so that all its rules have to let the record pass. -/
theorem admits_int (logger : Logger) (registry : Registry) (context : Context)
    (leveled : record.level = .int number) :
    logger.admits registry context record = .ok ((logger.rules.map (·.2)).all fun rule =>
      !Rule.denies (rule.outcome .severity (registry.ofNumber number)
        (record.snapshot?.getD (Snapshot.ofEntries context)))) := by
  simp only [admits, ruleOutcome_int _ registry context leveled, Except.map]
  exact List.allM_pure

end Logger

end LogGate

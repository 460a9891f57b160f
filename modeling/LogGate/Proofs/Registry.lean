import LogGate.Level.Registry
import LogGate.Proofs.Fields

/-!
Registries that registrations reach. A level keeps its name for good, and the level found under a
number has the rank of that number.
-/

namespace LogGate.Registry

/-- A registration finds the level of the name or issues a new one. -/
theorem register_cases {registry later : Registry} {name : Value} {rank : Int} {level : Level}
    (registered : registry.register name rank = .ok (level, later)) :
    ∃ content, name = .text content ∧ Text.isBlank content = false ∧
      ((registry.find? content = some level ∧ level.rank = rank ∧ later = registry) ∨
        (registry.find? content = none ∧ level = ⟨Level.normalName content, rank, true⟩ ∧
          later = registry.add (Level.normalName content) rank)) := by
  cases name with
  | text content =>
      by_cases blank : Text.isBlank content
      · simp [register, blank] at registered
      · refine ⟨content, rfl, by simpa using blank, ?_⟩
        cases found : registry.find? content with
        | some known =>
            rw [find?] at found
            by_cases same : known.rank = rank
            · left
              simp only [register, blank, found, same, beq_self_eq_true, if_true,
                Bool.false_eq_true, if_false, Except.ok.injEq, Prod.mk.injEq] at registered
              obtain ⟨rfl, rfl⟩ := registered
              exact ⟨rfl, same, rfl⟩
            · simp [register, blank, found, same] at registered
        | none =>
            right
            rw [find?] at found
            simp only [register, blank, found, Bool.false_eq_true, if_false, Except.ok.injEq,
              Prod.mk.injEq] at registered
            exact ⟨rfl, registered.1.symm, registered.2.symm⟩
  | _ => simp [register] at registered

/-- A registry that registrations reach from the standard one. -/
inductive Reachable : Registry → Prop
  | standard : Reachable .standard
  | register {registry later : Registry} {name : Value} {rank : Int} {level : Level}
      (reached : Reachable registry)
      (registered : registry.register name rank = .ok (level, later)) : Reachable later

/-- The level under a rank has this rank. -/
def RanksAgree (registry : Registry) : Prop :=
  ∀ rank level, registry.byRank.get? rank = some level → level.rank = rank

/-- A new level agrees with its own rank. -/
theorem RanksAgree.add {registry : Registry} (agree : registry.RanksAgree) (name : String)
    (rank : Int) : (registry.add name rank).RanksAgree := by
  intro other level found
  by_cases taken : registry.byRank.has rank
  · rw [Registry.add, if_pos taken] at found
    exact agree other level found
  · rw [Registry.add, if_neg taken, Fields.get?_put] at found
    by_cases same : rank == other
    · rw [if_pos same, Option.some.injEq] at found
      rw [← found]
      exact eq_of_beq same
    · rw [if_neg same] at found
      exact agree other level found

/-- The standard levels agree with their ranks. -/
theorem ranksAgree_standard : standard.RanksAgree := by
  have all (entries : List (String × Int)) (registry : Registry) (agree : registry.RanksAgree) :
      (entries.foldl (fun result entry => result.add entry.1 entry.2) registry).RanksAgree := by
    induction entries generalizing registry with
    | nil => exact agree
    | cons entry rest ih => exact ih _ (agree.add entry.1 entry.2)
  exact all standardLevels empty (by simp [RanksAgree, empty])

/-- In every registry that can be reached, the level of a number has it as its rank. -/
theorem Reachable.ranksAgree {registry : Registry} (reached : registry.Reachable) :
    registry.RanksAgree := by
  induction reached with
  | standard => exact ranksAgree_standard
  | register _ registered ih =>
      obtain ⟨content, -, -, ⟨-, -, rfl⟩ | ⟨-, -, rfl⟩⟩ := register_cases registered
      · exact ih
      · exact ih.add _ _

/-- A number always stands for a level of that rank. -/
theorem rank_ofNumber {registry : Registry} (reached : registry.Reachable) (number : Int) :
    (registry.ofNumber number).rank = number := by
  cases found : registry.byRank.get? number with
  | none => simp [ofNumber, found]
  | some level => simpa [ofNumber, found] using reached.ranksAgree number level found

/-- A later registry has every level of an earlier one under the same name. -/
def Extends (later earlier : Registry) : Prop :=
  ∀ name level, earlier.byName.get? name = some level → later.byName.get? name = some level

theorem Extends.refl (registry : Registry) : registry.Extends registry := fun _ _ found => found

theorem Extends.trans {first second third : Registry} (later : third.Extends second)
    (earlier : second.Extends first) : third.Extends first :=
  fun name level found => later name level (earlier name level found)

/-- Registering keeps what is found. -/
theorem extends_of_register {registry later : Registry} {name : Value} {rank : Int} {level : Level}
    (registered : registry.register name rank = .ok (level, later)) : later.Extends registry := by
  obtain ⟨content, -, -, ⟨-, -, rfl⟩ | ⟨unknown, -, rfl⟩⟩ := register_cases registered
  · exact Extends.refl later
  · intro other known found
    have different : Level.normalName content ≠ other := by
      intro same
      rw [find?, same, found] at unknown
      contradiction
    rw [add, Fields.get?_put_of_ne registry.byName _ (beq_eq_false_iff_ne.mpr different)]
    exact found

/-- What a name stands for without a default does not change. -/
theorem Extends.resolve {later earlier : Registry} (grown : later.Extends earlier)
    {name : Value} {level : Level} (resolved : earlier.resolve name none = .ok level) :
    later.resolve name none = .ok level := by
  cases name with
  | text content =>
      cases found : earlier.find? content with
      | none => simp [Registry.resolve, found] at resolved
      | some known =>
          have kept : later.find? content = some known := grown _ _ found
          simp only [Registry.resolve, found, Except.ok.injEq] at resolved
          simp [Registry.resolve, kept, resolved]
  | level grade => simpa [Registry.resolve] using resolved
  | _ => simp [Registry.resolve] at resolved

end LogGate.Registry

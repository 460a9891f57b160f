import LogGate.Proofs.RunEvolution
import LogGate.Proofs.Thresholds

/-!
What holds in every reachable session: of its levels, of its loggers, and of the rules that were built
for its configurations.
-/

namespace LogGate.Session

variable {session later : Session}

/-- No level ever changes or goes away. -/
theorem Transition.extends (changed : session.Transition later) :
    later.registry.Extends session.registry := by
  cases changed with
  | registered registered => exact Registry.extends_of_register registered
  | _ => exact .refl _

/-- Levels are only added. -/
theorem Evolves.extends (evolved : session.Evolves later) :
    later.registry.Extends session.registry := by
  induction evolved with
  | refl => exact .refl _
  | tail _ changed ih => exact changed.extends.trans ih

/-- The levels were registered, parents have shorter names, only a logger with a handler has a rule,
and rules belong to configurations. -/
structure Consistent (session : Session) : Prop where
  registry : session.registry.Reachable
  loggers : session.loggers.Layered
  ruleless : ∀ target, (session.loggers.get target).handlers = 0 →
    (session.loggers.get target).rules = []
  configured : ∀ number rule, session.rules.get? number = some rule →
    number < session.configs.length

/-- A session starts consistent. -/
theorem consistent_initial : initial.Consistent where
  registry := .standard
  loggers := LoggerTree.layered_initial
  ruleless target _ := by cases target <;> rfl
  configured number rule found := by simp [initial] at found

/-- A number without a configuration has the empty one, which has no rule. -/
theorem lt_length_of_isActive {number : Nat} (on : (session.config number).isActive = true) :
    number < session.configs.length := by
  by_contra beyond
  have none_there : session.configs[number]? = none :=
    List.getElem?_eq_none (Nat.le_of_not_lt beyond)
  rw [config, none_there] at on
  contradiction

namespace Transition

/-- Each transition registers levels or leaves the registry alone. -/
theorem registry_reachable (changed : session.Transition later)
    (reached : session.registry.Reachable) : later.registry.Reachable := by
  cases changed with
  | registered registered => exact .register reached registered
  | _ => exact reached

/-- Parents stay shorter than their children. -/
theorem layered (changed : session.Transition later) (layered : session.loggers.Layered) :
    later.loggers.Layered := by
  cases changed with
  | ensured target => exact layered.ensure target
  | equipped bare read kept => exact layered.set_of_parent rfl
  | _ => exact layered

/-- A logger without a handler gets no rule. -/
theorem ruleless (changed : session.Transition later)
    (ruleless : ∀ target, (session.loggers.get target).handlers = 0 →
      (session.loggers.get target).rules = [])
    (target : Option String) (bare : (later.loggers.get target).handlers = 0) :
    (later.loggers.get target).rules = [] := by
  cases changed with
  | ensured other =>
      rw [Session.ensured, LoggerTree.handlers_ensure] at bare
      rw [Session.ensured, LoggerTree.rules_ensure]
      exact ruleless target bare
  | @equipped other =>
      rw [Session.change, LoggerTree.get_set] at bare ⊢
      by_cases same : other = target
      · rw [if_pos same] at bare
        exact absurd bare (Nat.succ_ne_zero _)
      · rw [if_neg same] at bare ⊢
        exact ruleless target bare
  | _ => exact ruleless target bare

/-- Rules are only kept for configurations that are there. -/
theorem rules_lt (changed : session.Transition later)
    (configured : ∀ number rule, session.rules.get? number = some rule →
      number < session.configs.length)
    (number : Nat) (rule : Nat × Rule) (found : later.rules.get? number = some rule) :
    number < later.configs.length := by
  cases changed with
  | configured config =>
      rw [List.length_append]
      exact Nat.lt_add_right _ (configured number rule found)
  | reconfigured other config =>
      rw [List.length_set]
      exact configured number rule found
  | @ruled other _ on missing built =>
      rw [Fields.get?_put] at found
      by_cases same : other == number
      · rw [← eq_of_beq same]
        exact lt_length_of_isActive on
      · rw [if_neg same] at found
        exact configured number rule found
  | _ => exact configured number rule found

/-- Every transition keeps a session consistent. -/
theorem consistent (changed : session.Transition later) (consistent : session.Consistent) :
    later.Consistent where
  registry := changed.registry_reachable consistent.registry
  loggers := changed.layered consistent.loggers
  ruleless := changed.ruleless consistent.ruleless
  configured := changed.rules_lt consistent.configured

end Transition

/-- Every session that can be reached is consistent. -/
theorem Reachable.consistent (reached : session.Reachable) : session.Consistent :=
  Evolves.preserves Transition.consistent reached consistent_initial

/-- A reachable session in which a configuration is as it was made. -/
inductive Holds (number : Nat) (config : Config) : Session → Prop
  | made {session : Session} (reached : session.Reachable) (new : session.configs.length = number) :
      Holds number config { session with configs := session.configs ++ [config] }
  | kept {session later : Session} (held : session.Holds number config)
      (changed : session.Transition later) (same : later.config number = config) :
      Holds number config later

namespace Holds

variable {number : Nat} {config : Config}

/-- A session that holds a configuration can be reached. -/
theorem reachable (held : session.Holds number config) : session.Reachable := by
  induction held with
  | made reached new => exact reached.tail (.configured config)
  | kept held changed same ih => exact ih.tail changed

/-- The configuration is found under its number. -/
theorem config_eq (held : session.Holds number config) : session.config number = config := by
  cases held with
  | @made session reached new => simp [Session.config, ← new]
  | kept held changed same => exact same

/-- The rule that is kept for a configuration is the one that it stands for. -/
theorem buildRule_eq (held : session.Holds number config) {own : Nat} {rule : Rule}
    (found : session.rules.get? number = some (own, rule)) :
    config.buildRule session.registry = .ok rule := by
  induction held with
  | made reached new =>
      have beyond := reached.consistent.configured number _ found
      rw [new] at beyond
      exact absurd beyond (Nat.lt_irrefl number)
  | kept held changed same ih =>
      refine Config.buildRule_of_extends changed.extends ?_
      cases changed with
      | @ruled other made on missing built =>
          rw [Fields.get?_put] at found
          by_cases own : other == number
          · rw [if_pos own, Option.some.injEq, Prod.mk.injEq] at found
            rw [← found.2, ← held.config_eq, ← eq_of_beq own]
            exact built
          · rw [if_neg own] at found
            exact ih found
      | _ => exact ih found

end Holds

end LogGate.Session

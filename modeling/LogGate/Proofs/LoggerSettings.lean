import LogGate.Proofs.Consistency

/-!
What is set up on the loggers of a session. A logger is set up once at most: it never gets a second
handler, and before it has one, it has no level of its own either.
-/

namespace LogGate

namespace Session

variable {session later : Session}

/-- No logger has two handlers, and a named logger without a handler leaves its level to those above. -/
structure SetUpOnce (session : Session) : Prop where
  handlers_le_one : ∀ target, (session.loggers.get target).handlers ≤ 1
  level_eq_zero : ∀ name, (session.loggers.get (some name)).handlers = 0 →
    (session.loggers.get (some name)).level = 0

/-- No logger is set up at the start. -/
theorem setUpOnce_initial : initial.SetUpOnce where
  handlers_le_one target := by cases target <;> exact Nat.zero_le 1
  level_eq_zero _ _ := rfl

/-- No transition gives a second handler. -/
theorem Transition.setUpOnce (changed : session.Transition later) (once : session.SetUpOnce) :
    later.SetUpOnce := by
  cases changed with
  | ensured other =>
      refine ⟨fun target => ?_, fun name bare => ?_⟩
      · rw [Session.ensured, LoggerTree.handlers_ensure]
        exact once.handlers_le_one target
      · rw [Session.ensured, LoggerTree.handlers_ensure] at bare
        rw [Session.ensured, LoggerTree.level_ensure]
        exact once.level_eq_zero name bare
  | @equipped other number level rule bare read kept =>
      refine ⟨fun target => ?_, fun name still => ?_⟩
      · rw [Session.change, LoggerTree.get_set]
        split
        · exact Nat.succ_le_succ (Nat.le_of_eq bare)
        · exact once.handlers_le_one target
      · rw [Session.change, LoggerTree.get_set] at still ⊢
        split at still
        · exact absurd still (Nat.succ_ne_zero _)
        · next different =>
          rw [if_neg different]
          exact once.level_eq_zero name still
  | _ => exact ⟨once.handlers_le_one, once.level_eq_zero⟩

/-- No logger is ever set up twice. -/
theorem Reachable.setUpOnce (reached : session.Reachable) : session.SetUpOnce :=
  Evolves.preserves Transition.setUpOnce reached setUpOnce_initial

end Session

end LogGate

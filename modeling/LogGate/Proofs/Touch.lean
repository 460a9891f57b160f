import LogGate.Proofs.Operations

/-!
What operations leave alone. Reading leaves the whole session as it is; only a few operations can change
the sources of data or the configurations, and only those that set or may need the default configuration
can change which one it is.
-/

namespace LogGate

/-- What an action gives in a session, if it succeeds. -/
def Session.result? {α : Type} (session : Session) (act : Act α) : Option α :=
  (act.exec session).1.toOption

/-- Whatever may not be touched is as it was. -/
structure Touch.Allows (touch : Touch) (session later : Session) : Prop where
  sources : touch.sources = false → later.sources = session.sources
  configs : touch.configs = false → later.configs = session.configs
  default : touch.default = false → later.defaultConfig = session.defaultConfig

instance (touch : Touch) : IsPreorder Session touch.Allows where
  refl _ := ⟨fun _ => rfl, fun _ => rfl, fun _ => rfl⟩
  trans _ _ _ earlier later :=
    ⟨fun kept => (later.sources kept).trans (earlier.sources kept),
      fun kept => (later.configs kept).trans (earlier.configs kept),
      fun kept => (later.default kept).trans (earlier.default kept)⟩

namespace Act

variable {touch : Touch}

/-- A change leaves each part as it is, unless this may be touched. -/
theorem within_modify {change : Session → Session}
    (sources : touch.sources = true ∨ (fun session => (change session).sources) = Session.sources)
    (configs : touch.configs = true ∨ (fun session => (change session).configs) = Session.configs)
    (default : touch.default = true ∨
      (fun session => (change session).defaultConfig) = Session.defaultConfig) :
    (modify change : Act Unit).Within touch.Allows := by
  intro session
  refine ⟨fun kept => ?_, fun kept => ?_, fun kept => ?_⟩
  · exact congrFun (sources.resolve_left (by simp [kept])) session
  · exact congrFun (configs.resolve_left (by simp [kept])) session
  · exact congrFun (default.resolve_left (by simp [kept])) session

/-- A change elsewhere touches nothing. -/
theorem within_modify_apart {change : Session → Session}
    (same : (fun session => ((change session).sources, (change session).configs,
        (change session).defaultConfig)) =
      fun session : Session => (session.sources, session.configs, session.defaultConfig)) :
    (modify change : Act Unit).Within touch.Allows :=
  within_modify (.inr (congrArg (Prod.fst ∘ ·) same))
    (.inr (congrArg (Prod.fst ∘ Prod.snd ∘ ·) same)) (.inr (congrArg (Prod.snd ∘ Prod.snd ∘ ·) same))

theorem within_store (name : Option String) (object : Object) :
    (store name object).Within touch.Allows := by
  cases name with
  | none => exact closed_within.pure _
  | some name => exact within_modify_apart (by rfl)

theorem within_addConfig (free : touch.configs = true) (config : Config) :
    (addConfig config).Within touch.Allows :=
  closed_within.get rfl fun _ => (within_modify (.inr (by rfl)) (.inl free) (.inr (by rfl))).bind
    fun _ => closed_within.pure _

/-- Building a rule touches neither sources nor configurations. -/
theorem within_ruleOf (number : Nat) : (ruleOf number).Within touch.Allows := by
  intro session
  cases looked : (ruleOf number).exec session with
  | mk result later =>
      cases exec_ruleOf_iff.mp looked <;> exact ⟨fun _ => rfl, fun _ => rfl, fun _ => rfl⟩

theorem within_logger (name : String) : (logger name).Within touch.Allows :=
  (within_modify_apart (by rfl)).bind fun _ => closed_within.pure _

/-- Setting up a logger touches neither sources nor configurations. -/
theorem within_setUp (target : Option String) (number : Nat) :
    (setUp target number).Within touch.Allows :=
  closed_within.setUp (fun _ => within_modify_apart (by rfl)) (within_ruleOf number)

/-- Asking for a logger touches what choosing its configuration touches. -/
theorem within_getLogger {name : Value} {config : Option Nat}
    (chosen : (configOrDefault config).Within touch.Allows) :
    (getLogger name config).Within touch.Allows :=
  closed_within.getLogger (closed_within.loggerOf within_logger name) chosen within_setUp

theorem within_answerConfig (id : Option String) (number : Nat) :
    (answerConfig id number).Within touch.Allows :=
  (within_store _ _).bind fun _ => closed_within.get rfl fun _ => closed_within.pure _

theorem within_register (context : Context) (id : Option String) (name : Literal) (rank : Int) :
    ((Operation.register id name rank).perform context).Within touch.Allows := by
  refine closed_within.get rfl fun _ => (closed_within.read name).bind fun _ =>
    (closed_within.attempt _).bind ?_
  rintro ⟨level, registry⟩
  exact (within_modify_apart (by rfl)).bind fun _ => (within_store _ _).bind fun _ =>
    closed_within.pure _

end Act

open Act

/-- An operation changes only what it may touch. -/
theorem Operation.covers_within (operation : Operation) :
    operation.Covers fun _ act => act.Within operation.touch.Allows where
  toClosed := closed_within
  registered := by
    rintro context id name rank rfl
    exact within_register context id name rank
  stored := within_store _
  numbered := closed_within.get rfl fun _ => (within_modify_apart (by rfl)).bind fun _ =>
    closed_within.pure _
  requested := closed_within.get rfl fun _ => (within_modify_apart (by rfl)).bind fun _ =>
    closed_within.pure _
  assigned _ := within_modify_apart (by rfl)
  timed _ := within_modify_apart (by rfl)
  made := within_logger
  sourced free _ _ := within_modify (.inl free) (.inr (by rfl)) (.inr (by rfl))
  configured := within_addConfig
  reconfigured free _ _ := within_modify (.inr (by rfl)) (.inl free) (.inr (by rfl))
  defaulted free _ := within_modify (.inr (by rfl)) (.inr (by rfl)) (.inl free)
  found _ := within_ruleOf
  setUp _ _ _ := within_getLogger

/-- Every operation touches at most what it is listed with. -/
theorem Operation.within_perform (context : Context) (operation : Operation) :
    (operation.perform context).Within operation.touch.Allows :=
  operation.covers_within.perform context

end LogGate

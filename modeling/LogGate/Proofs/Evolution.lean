import LogGate.Proofs.Footprint
import LogGate.Proofs.Sequencing
import Mathlib.Logic.Relation

/-!
The evolution of a session. Whatever a script does to the shared session is a sequence of a few kinds
of changes, so that an invariant needs one case for each kind and not one for each operation. Each
action moves a session inside a footprint.
-/

namespace LogGate

namespace Session

/-- The changes of a session. -/
inductive Transition : Session → Session → Prop
  | registered {session : Session} {registry : Registry} {name : Value} {rank : Int} {level : Level}
      (registered : session.registry.register name rank = .ok (level, registry)) :
      Transition session { session with registry }
  | stored {session : Session} (name : String) (object : Object) :
      Transition session { session with objects := session.objects.put name object }
  | sourced {session : Session} (sources : List Source) :
      Transition session { session with sources }
  | configured {session : Session} (config : Config) :
      Transition session { session with configs := session.configs ++ [config] }
  | reconfigured {session : Session} (number : Nat) (config : Config) :
      Transition session { session with configs := session.configs.set number config }
  /-- A rule is built once for a configuration. -/
  | ruled {session : Session} {number : Nat} {rule : Rule}
      (on : (session.config number).isActive = true) (missing : session.rules.get? number = none)
      (built : (session.config number).buildRule session.registry = .ok rule) :
      Transition session { session with
        rules := session.rules.put number (session.built, rule)
        built := session.built + 1 }
  | numbered {session : Session} : Transition session { session with built := session.built + 1 }
  | defaulted {session : Session} (defaultConfig : Option Nat) :
      Transition session { session with defaultConfig }
  | assigned {session : Session} (environment : Environment) :
      Transition session { session with environment }
  | ensured {session : Session} (target : Option String) :
      Transition session (session.ensured target)
  /-- A logger without a handler gets the level of a configuration, and its rule unless there is
  none. -/
  | equipped {session : Session} {target : Option String} {number : Nat} {level : Level}
      {rule : Option (Nat × Rule)} (bare : (session.loggers.get target).handlers = 0)
      (read : session.registry.resolve (session.config number).logLevel none = .ok level)
      (kept : ∀ found, rule = some found → session.rules.get? number = some found) :
      Transition session (session.change target (Logger.equipped · level rule))
  | timed {session : Session} (clock : Binary64) : Transition session { session with clock }
  | requested {session : Session} (requests : Nat) : Transition session { session with requests }
  | scoped {session : Session} (scopes : Fields String Scope) :
      Transition session { session with scopes }
  | homed {session : Session} (homes : Nat) : Transition session { session with homes }

/-- A session evolves into another one by any number of changes. -/
def Evolves (session later : Session) : Prop :=
  Relation.ReflTransGen Transition session later

/-- The sessions that evolve from a new one. -/
def Reachable (session : Session) : Prop := Session.initial.Evolves session

/-- Nothing has to change. -/
theorem Evolves.refl (session : Session) : session.Evolves session := Relation.ReflTransGen.refl

/-- Sessions evolve step by step. -/
theorem Evolves.trans {first second third : Session} (earlier : first.Evolves second)
    (later : second.Evolves third) : first.Evolves third :=
  Relation.ReflTransGen.trans earlier later

theorem Transition.evolves {session later : Session} (changed : session.Transition later) :
    session.Evolves later := Relation.ReflTransGen.single changed

/-- What every change preserves, evolution preserves. -/
theorem Evolves.preserves {condition : Session → Prop} {session later : Session}
    (step : ∀ {before after : Session}, before.Transition after → condition before →
      condition after) (evolved : session.Evolves later) (holds : condition session) :
    condition later := by
  induction evolved with
  | refl => exact holds
  | tail _ changed ih => exact step changed ih

end Session

/-- A session evolves into another one inside a footprint. -/
structure Session.Moves (foot : Footprint) (session later : Session) : Prop where
  evolves : session.Evolves later
  allowed : foot.Allows session later

namespace Session.Moves

variable {foot : Footprint}

theorem refl (session : Session) : session.Moves foot session :=
  ⟨Evolves.refl session, Footprint.Allows.refl session⟩

theorem trans {first second third : Session} (earlier : first.Moves foot second)
    (later : second.Moves foot third) : first.Moves foot third :=
  ⟨earlier.evolves.trans later.evolves, earlier.allowed.trans later.allowed⟩

end Session.Moves

namespace Act

variable {α β : Type} {foot : Footprint}

/-- An action by which every session moves inside a footprint, whether it succeeds or fails. -/
def Moves (foot : Footprint) (act : Act α) : Prop :=
  ∀ session : Session, session.Moves foot (act.exec session).2

instance (foot : Footprint) : IsPreorder Session (Session.Moves foot) where
  refl := Session.Moves.refl
  trans _ _ _ := Session.Moves.trans

/-- Sequences of actions that move a session along a footprint do so as well. -/
theorem closed_moves : Closed fun _ act => act.Moves foot := @closed_within (Session.Moves foot) _

/-- A change that is one transition moves the session. -/
theorem moves_modify {change : Session → Session}
    (step : ∀ session : Session, session.Transition (change session))
    (allowed : ∀ session : Session, foot.Allows session (change session)) :
    (modify change : Act Unit).Moves foot :=
  fun session => ⟨(step session).evolves, allowed session⟩

/-- An action by which every session moves inside a footprint, and in which the open scopes play no
part. -/
structure Regular (foot : Footprint) (act : Act α) : Prop where
  moves : act.Moves foot
  scopeless : act.Scopeless

/-- A session evolves along a regular action. -/
theorem Regular.evolves {act : Act α} (regular : act.Regular foot) (session : Session) :
    session.Evolves (act.exec session).2 := (regular.moves session).evolves

/-- A regular action stays within its footprint. -/
theorem Regular.allowed {act : Act α} (regular : act.Regular foot) (session : Session) :
    foot.Allows session (act.exec session).2 := (regular.moves session).allowed

/-- Regular actions are closed under sequencing. -/
theorem closed_regular : Closed fun _ act => act.Regular foot where
  pure value := ⟨closed_moves.pure value, scopeless_pure value⟩
  throw failure := ⟨closed_moves.throw failure, scopeless_throw failure⟩
  get blind rest :=
    ⟨closed_moves.get blind fun session => (rest session).moves,
      scopeless_get blind fun session => (rest session).scopeless⟩
  bind first second :=
    ⟨closed_moves.bind first.moves fun value => (second value).moves,
      first.scopeless.bind fun value => (second value).scopeless⟩

/-- A change is regular if it is one transition, allowed, and blind to scopes. -/
theorem regular_modify_within {change : Session → Session}
    (step : ∀ session : Session, session.Transition (change session))
    (apart : (fun session scopes homes => change (Session.withScopes session scopes homes)) =
      fun session => (change session).withScopes)
    (allowed : ∀ session : Session, foot.Allows session (change session)) :
    (modify change : Act Unit).Regular foot :=
  ⟨moves_modify step allowed, scopeless_modify apart⟩

/-- What no footprint restricts may always change. -/
theorem regular_modify {change : Session → Session}
    (step : ∀ session : Session, session.Transition (change session))
    (apart : (fun session scopes homes => change (Session.withScopes session scopes homes)) =
      fun session => (change session).withScopes)
    (same : (fun session => ((change session).objects, (change session).rules,
        (change session).loggers)) =
      fun session : Session => (session.objects, session.rules, session.loggers)) :
    (modify change : Act Unit).Regular foot := by
  refine regular_modify_within step apart fun session => ?_
  have parts := congrFun same session
  simp only [Prod.mk.injEq] at parts
  exact .of_same parts.1 parts.2.1 parts.2.2

theorem Regular.bind {act : Act α} {next : α → Act β} (first : act.Regular foot)
    (second : ∀ value, (next value).Regular foot) : (act >>= next).Regular foot :=
  closed_regular.bind first second

theorem Regular.map {act : Act α} (first : act.Regular foot) (change : α → β) :
    (change <$> act).Regular foot := closed_regular.map first change

section Changing

theorem regular_store {name : Option String} (place : foot.place = name) (object : Object) :
    (store name object).Regular foot := by
  cases name with
  | none => exact closed_regular.pure _
  | some name =>
      refine regular_modify_within (fun _ => .stored name object) rfl fun session => ?_
      refine ⟨fun other free => ?_, fun _ => rfl, fun _ _ => rfl, .refl⟩
      rw [place, ne_eq, Option.some.injEq] at free
      exact Fields.get?_put_of_ne _ _ (beq_eq_false_iff_ne.mpr free)

theorem regular_nextNumber : nextNumber.Regular foot :=
  closed_regular.get rfl fun _ => (regular_modify (fun _ => .numbered) rfl rfl).bind fun _ =>
    closed_regular.pure _

theorem regular_addConfig (config : Config) : (addConfig config).Regular foot :=
  closed_regular.get rfl fun _ => (regular_modify (fun _ => .configured config) rfl rfl).bind fun _ =>
    closed_regular.pure _

theorem regular_replaceConfig (number : Nat) (config : Config) :
    (replaceConfig number config).Regular foot :=
  regular_modify (fun _ => .reconfigured number config) rfl rfl

theorem regular_nextRequest : nextRequest.Regular foot :=
  closed_regular.get rfl fun _ => (regular_modify (fun _ => .requested _) rfl (by rfl)).bind fun _ =>
    closed_regular.pure _

theorem regular_setEnvironment (assignments : List (String × Option String)) :
    (setEnvironment assignments).Regular foot := regular_modify (fun _ => .assigned _) rfl rfl

theorem regular_defaultConfig : defaultConfig.Regular foot :=
  closed_regular.defaultConfig regular_addConfig
    fun number => regular_modify (fun _ => .defaulted (some number)) rfl rfl

theorem regular_configOrDefault (config : Option Nat) : (configOrDefault config).Regular foot :=
  closed_regular.configOrDefault fun _ => regular_defaultConfig

/-- Looking for a rule may build it. -/
theorem moves_ruleOf (builds : foot.builds = true) (number : Nat) : (ruleOf number).Moves foot := by
  intro session
  cases looked : (ruleOf number).exec session with
  | mk result later =>
      cases exec_ruleOf_iff.mp looked with
      | inactive off => exact .refl _
      | kept on found => exact .refl _
      | built on missing built =>
          exact ⟨(Session.Transition.ruled on missing built).evolves,
            fun _ _ => rfl, fun none_built => by simp [builds] at none_built, fun _ _ => rfl, .refl⟩
      | unbuilt on missing unbuilt => exact .refl _

/-- Building a rule looks at no scope. -/
theorem scopeless_ruleOf (number : Nat) : (ruleOf number).Scopeless := by
  intro session scopes homes
  cases looked : (ruleOf number).exec session with
  | mk result later =>
      apply exec_ruleOf
      cases exec_ruleOf_iff.mp looked with
      | inactive off => exact .inactive off
      | kept on found => exact .kept on found
      | built on missing built => exact .built on missing built
      | unbuilt on missing unbuilt => exact .unbuilt on missing unbuilt

/-- Building a rule is regular where the footprint has rules. -/
theorem regular_ruleOf (builds : foot.builds = true) (number : Nat) :
    (ruleOf number).Regular foot :=
  ⟨moves_ruleOf builds number, scopeless_ruleOf number⟩

/-- A logger that is made adds to the tree. -/
theorem allows_ensured (session : Session) (target : Option String) :
    foot.Allows session (session.ensured target) :=
  ⟨fun _ _ => rfl, fun _ => rfl, fun _ => LoggerTree.settings_ensure _ _, .ensured .refl target⟩

theorem regular_logger (name : String) : (logger name).Regular foot :=
  (regular_modify_within (fun _ => .ensured _) rfl fun session => allows_ensured session _).bind
    fun _ => closed_regular.pure _

/-- A rule that was found is kept under the number of its configuration. -/
theorem get?_rules_of_ruleOf {number : Nat} {session later : Session} {rule : Nat × Rule}
    (found : (ruleOf number).exec session = (.ok (some rule), later)) :
    later.rules.get? number = some rule := by
  cases exec_ruleOf_iff.mp found with
  | kept on kept => exact kept
  | built on missing built => exact Fields.get?_put_self _ _ _

/-- Building a rule leaves all configurations as they are. -/
theorem config_of_ruleOf {number : Nat} {session later : Session}
    {result : Except Failure (Option (Nat × Rule))}
    (found : (ruleOf number).exec session = (result, later)) (other : Nat) :
    later.config other = session.config other := by
  cases exec_ruleOf_iff.mp found <;> rfl

/-- A logger that was bare before the configuration and its rule were looked for can be equipped. -/
theorem moves_equipped {session middle later : Session} {target : Option String}
    {config : Option Nat} {number : Nat} {level : Level}
    {result : Except Failure (Option (Nat × Rule))} (rule : Option (Nat × Rule))
    (builds : foot.builds = true) (known : session.loggers.Knows target)
    (bare : (session.loggers.get target).handlers = 0)
    (chosen : (configOrDefault config).exec session = (.ok number, middle))
    (read : middle.registry.resolve (middle.config number).logLevel none = .ok level)
    (found : (ruleOf number).exec middle = (result, later))
    (kept : ∀ own, rule = some own → result = .ok (some own)) :
    later.Moves foot (later.change target (Logger.equipped · level rule)) := by
  obtain ⟨registered, same, -⟩ := ruleOf_frame found
  have unchanged : later.loggers = session.loggers :=
    same.trans (configOrDefault_frame chosen).2.1
  have changed : later.Transition (later.change target (Logger.equipped · level rule)) := by
    apply Session.Transition.equipped
    · rw [unchanged]
      exact bare
    · rw [registered, config_of_ruleOf found number]
      exact read
    · intro own given
      rw [kept own given] at found
      exact get?_rules_of_ruleOf found
  refine ⟨changed.evolves, fun _ _ => rfl, fun _ => rfl, fun none_built => ?_, .changed .refl ?_ rfl⟩
  · rw [builds] at none_built
    contradiction
  · rw [unchanged]
    exact known

/-- Setting a logger up is one change of the logger, after its rule was looked for. -/
theorem moves_getLogger_text (builds : foot.builds = true) (name : String) (config : Option Nat) :
    (getLogger (.text name) config).Moves foot := by
  intro session
  refine Session.Moves.trans ⟨(Session.Transition.ensured (LoggerTree.target name)).evolves,
    allows_ensured session _⟩ ?_
  have known : (session.ensured (LoggerTree.target name)).loggers.Knows (LoggerTree.target name) :=
    session.loggers.knows_ensure _
  have outcome := setUpOutcome name config session
  generalize session.ensured (LoggerTree.target name) = session at outcome known ⊢
  generalize (getLogger (.text name) config).exec _ = run at outcome ⊢
  obtain ⟨result, final⟩ := run
  have choosing : (configOrDefault config).Regular foot := regular_configOrDefault config
  have first := choosing.moves session
  cases outcome with
  | kept handled => exact .refl _
  | unchosen bare unchosen =>
      rw [unchosen] at first
      exact first
  | unread bare chosen unread =>
      rw [chosen] at first
      exact first
  | @unbuilt number level failure middle later bare chosen read unbuilt =>
      have second := moves_ruleOf builds number middle
      have third : later.Moves foot _ :=
        moves_equipped none builds known bare chosen read unbuilt nofun
      simp only [Logger.equipped_none] at third
      rw [chosen] at first
      rw [unbuilt] at second
      exact (first.trans second).trans third
  | @done number rule level middle later bare chosen read found =>
      have second := moves_ruleOf builds number middle
      have third : later.Moves foot _ :=
        moves_equipped rule builds known bare chosen read found fun _ same => congrArg _ same
      rw [chosen] at first
      rw [found] at second
      exact (first.trans second).trans third

/-- Every name that a logger can have is the name of a text. -/
theorem loggerOf_cases (name : Value) :
    (∃ content, loggerOf name = loggerOf (.text content)) ∨ loggerOf name = throw .unsuitable := by
  cases name with
  | text content => exact .inl ⟨content, rfl⟩
  | _ =>
    dsimp only [loggerOf]
    split
    · exact .inr rfl
    · exact .inl ⟨"", rfl⟩

/-- Asking for a logger moves the session along a footprint that has rules. -/
theorem moves_getLogger (builds : foot.builds = true) (name : Value) (config : Option Nat) :
    (getLogger name config).Moves foot := by
  obtain ⟨content, same⟩ | failed := loggerOf_cases name
  · have text := moves_getLogger_text builds content config
    rw [getLogger, ← same] at text
    exact text
  · rw [getLogger, failed]
    exact closed_moves.throw _

/-- Asking for a logger looks at no scope. -/
theorem scopeless_getLogger (name : Value) (config : Option Nat) :
    (getLogger name config).Scopeless := by
  have named : (loggerOf name).Regular {} := closed_regular.loggerOf regular_logger name
  have chosen : (configOrDefault config).Regular {} := regular_configOrDefault config
  exact closed_scopeless.getLogger named.scopeless chosen.scopeless fun _ number =>
    closed_scopeless.setUp (fun _ => scopeless_modify rfl) (scopeless_ruleOf number)

theorem regular_getLogger (builds : foot.builds = true) (name : Value) (config : Option Nat) :
    (getLogger name config).Regular foot :=
  ⟨moves_getLogger builds name config, scopeless_getLogger name config⟩

end Changing

end Act

end LogGate

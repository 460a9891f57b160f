import LogGate.Proofs.FilterCache
import LogGate.Proofs.LoggerSettings

/-!
Loggers that have a handler. One call gives a logger its handler, and with it the rule that is kept for
the configuration of this call, if there is one; no later call changes what is set up on the logger.
-/

namespace LogGate

open Act

namespace Session

variable {session middle later : Session} {number : Nat} {target : Option String}

/-- No change touches a logger that has a handler. -/
theorem Transition.settings_of_handled (changed : session.Transition later)
    (handled : (session.loggers.get target).handlers ≠ 0) :
    (later.loggers.get target).settings = (session.loggers.get target).settings := by
  cases changed with
  | ensured other => exact LoggerTree.settings_ensure _ other target
  | @equipped other _ _ _ bare =>
      have different : other ≠ target := by
        rintro rfl
        exact handled bare
      rw [Session.change, LoggerTree.get_set_of_ne _ _ different]
  | _ => rfl

/-- The settings of a logger with a handler never change. -/
theorem Evolves.settings_of_handled (evolved : session.Evolves later)
    (handled : (session.loggers.get target).handlers ≠ 0) :
    (later.loggers.get target).settings = (session.loggers.get target).settings := by
  induction evolved with
  | refl => rfl
  | tail _ changed ih =>
      refine (changed.settings_of_handled ?_).trans ih
      exact (congrArg Logger.Settings.handlers ih).trans_ne handled

/-- A handler stays. -/
theorem Evolves.handled (evolved : session.Evolves later)
    (handled : (session.loggers.get target).handlers ≠ 0) :
    (later.loggers.get target).handlers ≠ 0 :=
  (congrArg Logger.Settings.handlers (evolved.settings_of_handled handled)).trans_ne handled

/-- A rule comes with a handler. -/
theorem Transition.rules_le_handlers (changed : session.Transition later)
    (within : ∀ target,
      (session.loggers.get target).rules.length ≤ (session.loggers.get target).handlers)
    (target : Option String) :
    (later.loggers.get target).rules.length ≤ (later.loggers.get target).handlers := by
  cases changed with
  | ensured other =>
      rw [Session.ensured, LoggerTree.rules_ensure, LoggerTree.handlers_ensure]
      exact within target
  | @equipped other number level rule =>
      rw [Session.change, LoggerTree.get_set]
      split
      · have before := within other
        have one : rule.toList.length ≤ 1 := by cases rule <;> simp
        simp only [Logger.equipped, Logger.started, List.length_append]
        omega
      · exact within target
  | _ => exact within target

/-- A logger has at most one rule for each handler. -/
theorem Reachable.rules_le_handlers (reached : session.Reachable) :
    ∀ target, (session.loggers.get target).rules.length ≤ (session.loggers.get target).handlers :=
  Evolves.preserves Transition.rules_le_handlers reached fun target => by
    cases target <;> exact Nat.le_refl 0

/-- All rules of a logger are the one object that is kept for a configuration. -/
def RulesFrom (session : Session) (number : Nat) (target : Option String) : Prop :=
  ∀ kept ∈ (session.loggers.get target).rules, session.rules.get? number = some kept

/-- The rules of a logger with a handler stay those of its configuration. -/
theorem RulesFrom.evolves (kept : session.RulesFrom number target)
    (handled : (session.loggers.get target).handlers ≠ 0) (evolved : session.Evolves later) :
    later.RulesFrom number target := by
  intro rule member
  rw [show (later.loggers.get target).rules = (session.loggers.get target).rules from
    congrArg Logger.Settings.rules (evolved.settings_of_handled handled)] at member
  exact evolved.get?_rules (kept rule member)

/-- A session evolves, and no logger is set up meanwhile. -/
structure Unequipped (session later : Session) : Prop where
  evolves : session.Evolves later
  settings : ∀ target,
    (later.loggers.get target).settings = (session.loggers.get target).settings

/-- A session evolves, and a logger that gets its handler meanwhile gets no rule but the one that is kept
for a configuration. -/
structure EquippedFrom (number : Nat) (session later : Session) : Prop where
  evolves : session.Evolves later
  kept : ∀ target, (session.loggers.get target).handlers = 0 →
    (later.loggers.get target).handlers ≠ 0 → later.RulesFrom number target

namespace Unequipped

theorem trans (earlier : session.Unequipped middle) (last : middle.Unequipped later) :
    session.Unequipped later :=
  ⟨earlier.evolves.trans last.evolves,
    fun target => (last.settings target).trans (earlier.settings target)⟩

instance : IsPreorder Session Session.Unequipped where
  refl session := ⟨.refl session, fun _ => rfl⟩
  trans _ _ _ := trans

theorem handlers (unequipped : session.Unequipped later) (target : Option String) :
    (later.loggers.get target).handlers = (session.loggers.get target).handlers :=
  congrArg Logger.Settings.handlers (unequipped.settings target)

end Unequipped

theorem EquippedFrom.trans (equipped : EquippedFrom number session middle)
    (rest : middle.Unequipped later) : EquippedFrom number session later where
  evolves := equipped.evolves.trans rest.evolves
  kept target bare handled := by
    rw [rest.handlers] at handled
    exact (equipped.kept target bare handled).evolves handled rest.evolves

theorem Unequipped.equippedFrom (first : session.Unequipped middle)
    (equipped : EquippedFrom number middle later) : EquippedFrom number session later where
  evolves := first.evolves.trans equipped.evolves
  kept target bare := equipped.kept target ((first.handlers target).trans bare)

end Session

namespace Act

variable {α β : Type} {session later : Session} {number : Nat}

/-- An action that sets no logger up. -/
def SetsUpNone (act : Act α) : Prop := ∀ session : Session, session.Unequipped (act.exec session).2

/-- Actions that set up no logger are closed under sequencing. -/
theorem closed_setsUpNone : Closed fun _ act => act.SetsUpNone := @closed_within Session.Unequipped _

theorem SetsUpNone.bind {act : Act α} {next : α → Act β} (first : act.SetsUpNone)
    (second : ∀ value, (next value).SetsUpNone) : (act >>= next).SetsUpNone :=
  closed_setsUpNone.bind first second

/-- Only actions that may build rules set loggers up. -/
theorem Regular.setsUpNone {act : Act α} {foot : Footprint} (regular : act.Regular foot)
    (none_built : foot.builds = false) : act.SetsUpNone :=
  fun session => ⟨regular.evolves session, (regular.allowed session).settings none_built⟩

/-- Building a rule sets up no logger. -/
theorem setsUpNone_ruleOf (number : Nat) : (ruleOf number).SetsUpNone := by
  intro session
  have looks : (ruleOf number).Regular { builds := true } := regular_ruleOf rfl number
  refine ⟨looks.evolves session, fun target => ?_⟩
  cases looked : (ruleOf number).exec session with
  | mk result later => rw [(ruleOf_frame looked).2.1]

/-- Choosing a configuration sets up no logger. -/
theorem setsUpNone_configOrDefault (config : Option Nat) : (configOrDefault config).SetsUpNone :=
  (regular_configOrDefault config : Regular {} _).setsUpNone rfl

/-- Logging sets up no logger. -/
theorem setsUpNone_logWithContext (context : Context) (target : Option String)
    (level message : Value) (config : Option Nat) (extra : Fields String Value) :
    (logWithContext context target level message config extra).SetsUpNone :=
  closed_setsUpNone.logWithContext (setsUpNone_configOrDefault config) setsUpNone_ruleOf _ _ _ _ _

theorem setsUpNone_serveTenants (context : Context) (target : Option String) (config : Nat)
    (tenants : List String) : (serveTenants context target config tenants).SetsUpNone := by
  have requested : nextRequest.SetsUpNone := (regular_nextRequest : Regular {} _).setsUpNone rfl
  exact closed_setsUpNone.serveTenants requested setsUpNone_ruleOf _ _ _

/-- In this session, the action gives a logger that gets its handler no rule but the one that is kept for
a configuration. -/
def EquipsFrom (number : Nat) (session : Session) (act : Act α) : Prop :=
  Session.EquippedFrom number session (act.exec session).2

/-- What follows may set up no other logger. -/
theorem EquipsFrom.bind {act : Act α} {next : α → Act β} (equips : act.EquipsFrom number session)
    (rest : ∀ value, (next value).SetsUpNone) : (act >>= next).EquipsFrom number session := by
  rw [EquipsFrom] at equips ⊢
  rw [exec_bind]
  cases done : act.exec session with
  | mk result later =>
      rw [done] at equips
      cases result with
      | error failure => exact equips
      | ok value => exact equips.trans (rest value later)

/-- A set-up gives one logger a handler, if any, and then the rule of its configuration, if any. -/
theorem SetUpOutcome.rulesFrom {target other : Option String} {config : Option Nat}
    {result : Except Failure (Option String)}
    (outcome : SetUpOutcome session target config result later)
    (ruleless : (session.loggers.get other).rules = [])
    (bare : (session.loggers.get other).handlers = 0)
    (handled : (later.loggers.get other).handlers ≠ 0) :
    later.RulesFrom (session.chosen config) other := by
  cases outcome with
  | kept => exact absurd bare handled
  | unchosen _ unchosen =>
      rw [(configOrDefault_frame unchosen).2.1] at handled
      exact absurd bare handled
  | unread _ chosen =>
      rw [(configOrDefault_frame chosen).2.1] at handled
      exact absurd bare handled
  | @unbuilt number level failure middle last _ chosen _ unbuilt =>
      have same : last.loggers = session.loggers :=
        (ruleOf_frame unbuilt).2.1.trans (configOrDefault_frame chosen).2.1
      intro rule member
      rw [Session.change, same, LoggerTree.get_set] at handled member
      split at member
      · next own =>
        rw [Logger.started, own, ruleless] at member
        contradiction
      · rw [ruleless] at member
        contradiction
  | @done number rule level middle last _ chosen _ found =>
      have same : last.loggers = session.loggers :=
        (ruleOf_frame found).2.1.trans (configOrDefault_frame chosen).2.1
      intro given member
      rw [Session.change, same, LoggerTree.get_set] at member
      split at member
      · next own =>
        rw [Logger.equipped, own, ruleless, List.nil_append, Option.mem_toList] at member
        obtain rfl : rule = some given := member
        have stays : last.rules.get? number = some given := get?_rules_of_ruleOf found
        rw [chosen_of_configOrDefault chosen]
        exact stays
      · rw [ruleless] at member
        contradiction

/-- A call for a logger equips it from the chosen configuration, or sets up none. -/
theorem equipsFrom_getLogger (reached : session.Reachable) (name : Value) (config : Option Nat) :
    (getLogger name config).EquipsFrom (session.chosen config) session := by
  have regular : (getLogger name config).Regular { builds := true } := regular_getLogger rfl _ _
  refine ⟨regular.evolves session, fun target bare handled => ?_⟩
  have ruleless := reached.consistent.ruleless target bare
  obtain ⟨content, same⟩ | failed := loggerOf_cases name
  · have text : getLogger name config = getLogger (.text content) config := by
      rw [getLogger, getLogger, same]
    rw [text] at handled ⊢
    have outcome := setUpOutcome content config session
    rw [← LoggerTree.rules_ensure _ (LoggerTree.target content)] at ruleless
    rw [← LoggerTree.handlers_ensure _ (LoggerTree.target content)] at bare
    exact outcome.rulesFrom ruleless bare handled
  · have refused : (loggerOf name).exec session = (.error .unsuitable, session) := by
      rw [failed, exec_throw]
    rw [getLogger, exec_bind_error refused] at handled
    exact absurd bare handled

/-- A demonstration equips its logger from its new configuration. -/
theorem equipsFrom_demonstrate (reached : session.Reachable) (context : Context) :
    (demonstrate context).EquipsFrom session.configs.length session := by
  let ready : Session := { session with configs := session.configs ++ [demonstrationConfig] }
  have added : (addConfig demonstrationConfig).exec session =
      (.ok session.configs.length, ready) := rfl
  have started : session.Unequipped ready :=
    ⟨(Session.Transition.configured _).evolves, fun _ => rfl⟩
  have equips : (getLogger (.text "tenant_service") (some session.configs.length)).EquipsFrom
      session.configs.length ready :=
    equipsFrom_getLogger (reached.trans started.evolves) (.text "tenant_service")
      (some session.configs.length)
  rw [EquipsFrom, demonstrate, exec_bind_ok added]
  refine started.equippedFrom (equips.bind fun target => ?_)
  exact (closed_setsUpNone.log _ _ _ _ _ _).bind fun _ =>
    (setsUpNone_serveTenants _ _ _ _).bind fun _ => (closed_setsUpNone.log _ _ _ _ _ _).bind fun _ =>
      closed_setsUpNone.pure _

end Act

namespace Operation

variable {session : Session}

theorem setsUpNone_getFilter (context : Context) (id name : Option String) :
    ((Operation.getFilter id name).perform context).SetsUpNone := by
  have stored (object : Object) : (store id object).Regular { place := id } := regular_store rfl _
  refine (closed_setsUpNone.findConfig name).bind fun config => ?_
  refine (setsUpNone_configOrDefault config).bind fun number => ?_
  refine (setsUpNone_ruleOf number).bind fun found => ?_
  cases found with
  | none => exact closed_setsUpNone.pure _
  | some rule => exact ((stored _).setsUpNone rfl).bind fun _ => closed_setsUpNone.pure _

theorem setsUpNone_logWithContext (context : Context) (name : String) (level message : Literal)
    (config : ConfigArgument) (extra : List (String × Literal)) :
    ((Operation.logWithContext name level message config extra).perform context).SetsUpNone := by
  have asked : (logger name).Regular {} := regular_logger name
  refine (asked.setsUpNone rfl).bind fun target => ?_
  refine (closed_setsUpNone.read level).bind fun level => ?_
  refine (closed_setsUpNone.read message).bind fun message => ?_
  refine (closed_setsUpNone.readFields extra).bind fun extra => ?_
  refine (closed_setsUpNone.callConfig config extra).bind fun (config, extra) => ?_
  cases config with
  | some config =>
      exact (Act.setsUpNone_logWithContext _ _ _ _ _ _).bind fun _ => closed_setsUpNone.pure _
  | none =>
      exact closed_setsUpNone.get rfl fun _ => (closed_setsUpNone.attempt _).bind fun _ =>
        closed_setsUpNone.throw _

/-- An operation sets no logger up, or it is a call with a configuration, from which a logger gets its
rule. -/
theorem setsUp_cases (reached : session.Reachable) (context : Context) (operation : Operation) :
    session.Unequipped ((operation.perform context).exec session).2 ∨
      ∃ number, operation.Asks session number ∧
        (operation.perform context).EquipsFrom number session := by
  cases operation with
  | getFilter id name => exact .inl (setsUpNone_getFilter context id name session)
  | logWithContext name level message config extra =>
      exact .inl (setsUpNone_logWithContext context name level message config extra session)
  | getLogger name config =>
      have given := exec_read name session
      cases read : name.read session.registry with
      | error failure =>
          rw [read] at given
          rw [perform, exec_bind_error given]
          exact .inl (refl_of Session.Unequipped session)
      | ok value =>
          rw [read] at given
          have finding : (findConfig config).Regular {} := closed_regular.findConfig config
          have looked := (finding.setsUpNone rfl) session
          cases found : (findConfig config).exec session with
          | mk result later =>
              rw [found] at looked
              cases result with
              | error failure =>
                  rw [perform, exec_bind_ok given, exec_bind_error found]
                  exact .inl looked
              | ok chosen =>
                  obtain ⟨rfl, means⟩ := means_of_findConfig found
                  refine .inr ⟨_, means, ?_⟩
                  rw [EquipsFrom, perform, exec_bind_ok given, exec_bind_ok found]
                  exact (equipsFrom_getLogger reached value chosen).bind fun _ =>
                    closed_setsUpNone.get rfl fun _ => closed_setsUpNone.pure _
  | demonstrate =>
      have equips := equipsFrom_demonstrate reached context
      exact .inr ⟨_, rfl, equips.bind fun _ => closed_setsUpNone.pure _⟩
  | _ => exact .inl ((regular_perform context _).setsUpNone rfl session)

/-- A call is a call on one configuration. -/
theorem Asks.unique {operation : Operation} {first second : Nat}
    (asked : operation.Asks session first) (again : operation.Asks session second) :
    first = second := by
  have named {name : Option String} (means : session.Means name first)
      (other : session.Means name second) : first = second := by
    cases name with
    | none => exact means.symm.trans other
    | some name => exact Object.config.inj (Option.some.inj (means.symm.trans other))
  cases operation with
  | getFilter | getLogger | logWithContext => exact named asked again
  | demonstrate => exact asked.symm.trans again
  | _ => exact asked.elim

end Operation

mutual

/-- In the step, a call with a configuration gives a logger its handler. -/
def Step.SetsUp (target : Option String) (number : Nat) (ambient : Ambient) (session : Session) :
    Step → Prop
  | .change _ | .scope _ => False
  | .operation operation =>
    operation.Asks session number ∧ (session.loggers.get target).handlers = 0 ∧
      ((operation.run ambient session).2.loggers.get target).handlers ≠ 0
  | .thread steps => RunSetsUp target number ⟨session.homes, []⟩ session.withHome steps
  | .task steps => RunSetsUp target number ⟨session.homes, ambient.context⟩ session.withHome steps

/-- In one of its steps, the run gives a logger its handler. -/
def RunSetsUp (target : Option String) (number : Nat) (ambient : Ambient) (session : Session) :
    List Step → Prop
  | [] => False
  | step :: rest =>
    let after := (step.run ambient session).2
    step.SetsUp target number ambient session ∨ RunSetsUp target number after.1 after.2 rest

end

section Running

variable {target : Option String} {number : Nat}

/-- Scopes have no part in loggers. -/
theorem ScopeStep.loggers_run (ambient : Ambient) (session : Session) (step : ScopeStep) :
    (step.run ambient session).2.2.loggers = session.loggers := by
  obtain ⟨scopes, requests, same⟩ := step.run_frame ambient session
  exact (congrArg Session.loggers same).trans rfl

/-- A logger has a handler after an operation if it had one before or the operation sets it up. -/
theorem Operation.handled_run {ambient : Ambient} {session : Session}
    (reached : session.Reachable) {operation : Operation} :
    ((operation.run ambient session).2.loggers.get target).handlers ≠ 0 ↔
      (session.loggers.get target).handlers ≠ 0 ∨
        ∃ number, (Step.operation operation).SetsUp target number ambient session := by
  constructor
  · intro handled
    by_cases bare : (session.loggers.get target).handlers = 0
    · obtain unequipped | ⟨number, asked, -⟩ := operation.setsUp_cases reached ambient.context
      · exact absurd ((unequipped.handlers target).trans bare) handled
      · exact .inr ⟨number, asked, bare, handled⟩
    · exact .inl bare
  · rintro (handled | ⟨number, -, -, handled⟩)
    · exact ((operation.regular_perform ambient.context).evolves session).handled handled
    · exact handled

mutual

theorem Step.handled_run {ambient : Ambient} {session : Session} (reached : session.Reachable)
    (step : Step) :
    ((step.run ambient session).2.2.loggers.get target).handlers ≠ 0 ↔
      (session.loggers.get target).handlers ≠ 0 ∨
        ∃ number, step.SetsUp target number ambient session := by
  cases step with
  | change change =>
      rw [Step.run]
      simp only [Step.SetsUp, exists_false, or_false]
      split <;> rfl
  | scope scope =>
      simp only [Step.run, Step.SetsUp, exists_false, or_false, scope.loggers_run ambient session]
  | operation operation => exact Operation.handled_run reached
  | thread steps => exact handled_runAll (reached.tail (.homed _)) steps
  | task steps => exact handled_runAll (reached.tail (.homed _)) steps

/-- A logger has a handler after a run if it had one before or a call in the run gave it one. -/
theorem handled_runAll {ambient : Ambient} {session : Session} (reached : session.Reachable)
    (steps : List Step) :
    ((runAll ambient session steps).2.2.loggers.get target).handlers ≠ 0 ↔
      (session.loggers.get target).handlers ≠ 0 ∨
        ∃ number, RunSetsUp target number ambient session steps := by
  cases steps with
  | nil => simp only [runAll, RunSetsUp, exists_false, or_false]
  | cons step rest =>
      have further := reached.trans (step.evolves_run ambient session)
      simp only [runAll, RunSetsUp, exists_or]
      rw [handled_runAll further rest, step.handled_run reached, or_assoc]

end

mutual

theorem Step.rulesFrom_of_setsUp {ambient : Ambient} {session : Session}
    (reached : session.Reachable) {step : Step}
    (equipped : step.SetsUp target number ambient session) :
    (step.run ambient session).2.2.RulesFrom number target := by
  cases step with
  | change change => exact equipped.elim
  | scope scope => exact equipped.elim
  | operation operation =>
      obtain ⟨asked, bare, handled⟩ := equipped
      obtain unequipped | ⟨other, again, equips⟩ :=
        operation.setsUp_cases reached ambient.context
      · exact absurd ((unequipped.handlers target).trans bare) handled
      · rw [asked.unique again]
        exact equips.kept target bare handled
  | thread steps => exact rulesFrom_of_runSetsUp (reached.tail (.homed _)) equipped
  | task steps => exact rulesFrom_of_runSetsUp (reached.tail (.homed _)) equipped

/-- A logger has the rule that is kept for the configuration of the call that gave it its handler. -/
theorem rulesFrom_of_runSetsUp {ambient : Ambient} {session : Session}
    (reached : session.Reachable) {steps : List Step}
    (equipped : RunSetsUp target number ambient session steps) :
    (runAll ambient session steps).2.2.RulesFrom number target := by
  cases steps with
  | nil => exact equipped.elim
  | cons step rest =>
      have evolved := step.evolves_run ambient session
      rw [runAll]
      rcases equipped with now | later
      · have handled := (step.handled_run reached).mpr (.inr ⟨number, now⟩)
        exact (step.rulesFrom_of_setsUp reached now).evolves handled (evolves_runAll _ _ rest)
      · exact rulesFrom_of_runSetsUp (reached.trans evolved) later

end

mutual

theorem Step.bare_of_setsUp {ambient : Ambient} {session : Session} {step : Step}
    (equipped : step.SetsUp target number ambient session) :
    (session.loggers.get target).handlers = 0 := by
  cases step with
  | change change => exact equipped.elim
  | scope scope => exact equipped.elim
  | operation operation => exact equipped.2.1
  | thread steps =>
      have bare : (session.withHome.loggers.get target).handlers = 0 := bare_of_runSetsUp equipped
      exact bare
  | task steps =>
      have bare : (session.withHome.loggers.get target).handlers = 0 := bare_of_runSetsUp equipped
      exact bare

/-- A run gives a handler only to a logger that had none before it. -/
theorem bare_of_runSetsUp {ambient : Ambient} {session : Session} {steps : List Step}
    (equipped : RunSetsUp target number ambient session steps) :
    (session.loggers.get target).handlers = 0 := by
  cases steps with
  | nil => exact equipped.elim
  | cons step rest =>
      rcases equipped with now | later
      · exact step.bare_of_setsUp now
      · by_contra handled
        exact (step.evolves_run ambient session).handled handled (bare_of_runSetsUp later)

end

mutual

theorem Step.setsUp_unique {ambient : Ambient} {session : Session} (reached : session.Reachable)
    {step : Step} {other : Nat}
    (equipped : step.SetsUp target number ambient session)
    (again : step.SetsUp target other ambient session) : number = other := by
  cases step with
  | change change => exact equipped.elim
  | scope scope => exact equipped.elim
  | operation operation => exact equipped.1.unique again.1
  | thread steps => exact runSetsUp_unique (reached.tail (.homed _)) equipped again
  | task steps => exact runSetsUp_unique (reached.tail (.homed _)) equipped again

/-- No logger gets its handler in two calls. -/
theorem runSetsUp_unique {ambient : Ambient} {session : Session} (reached : session.Reachable)
    {steps : List Step} {other : Nat}
    (equipped : RunSetsUp target number ambient session steps)
    (again : RunSetsUp target other ambient session steps) : number = other := by
  cases steps with
  | nil => exact equipped.elim
  | cons step rest =>
      have once {which : Nat} (now : step.SetsUp target which ambient session) :=
        (step.handled_run reached).mpr (.inr ⟨which, now⟩)
      rcases equipped with now | later <;> rcases again with nowAgain | laterAgain
      · exact step.setsUp_unique reached now nowAgain
      · exact absurd (bare_of_runSetsUp laterAgain) (once now)
      · exact absurd (bare_of_runSetsUp later) (once nowAgain)
      · exact runSetsUp_unique (reached.trans (step.evolves_run ambient session)) later laterAgain

end

end Running

/-- A logger is set up once. After any run it has one handler and at most one rule, or no handler and no
rule. It has a handler exactly if one call in the run gave it one, and its rule is the very object that is
kept for the configuration of this call. From then on, every call on it succeeds and changes nothing, and no
run changes its level, its handler or its rule. -/
theorem logger_is_set_up_once (start : Ambient) (steps : List Step) (target : Option String) :
    let session := (runAll start Session.initial steps).2.2
    let logger := session.loggers.get target
    logger.handlers ≤ 1 ∧ logger.rules.length ≤ 1 ∧
    (logger.rules ≠ [] → logger.handlers = 1) ∧
    (logger.handlers = 1 ↔ ∃! number, RunSetsUp target number start Session.initial steps) ∧
    (∀ number, RunSetsUp target number start Session.initial steps →
      ∀ kept ∈ logger.rules, session.rules.get? number = some kept) ∧
    (logger.handlers = 1 →
      (∀ (name : String) (config : Option Nat), LoggerTree.target name = target →
        (getLogger (.text name) config).exec session = (.ok target, session.ensured target)) ∧
      ∀ (ambient : Ambient) (more : List Step),
        ((runAll ambient session more).2.2.loggers.get target).settings = logger.settings) := by
  intro session logger
  have reached : session.Reachable := reachable_runAll start steps
  have once : logger.handlers ≤ 1 := reached.setUpOnce.handlers_le_one target
  have within : logger.rules.length ≤ logger.handlers := reached.rules_le_handlers target
  have one_iff : logger.handlers = 1 ↔ logger.handlers ≠ 0 := by omega
  refine ⟨once, Nat.le_trans within once, fun ruled => ?_, ?_, ?_, fun handled => ⟨?_, ?_⟩⟩
  · have filled := List.length_pos_of_ne_nil ruled
    omega
  · have given : logger.handlers ≠ 0 ↔ _ := handled_runAll (.refl _) steps
    have bare : (Session.initial.loggers.get target).handlers = 0 := by cases target <;> rfl
    rw [one_iff, given, or_iff_right (not_not.mpr bare)]
    constructor
    · rintro ⟨number, equipped⟩
      exact ⟨number, equipped, fun other again => runSetsUp_unique (.refl _) again equipped⟩
    · rintro ⟨number, equipped, -⟩
      exact ⟨number, equipped⟩
  · intro number equipped
    exact rulesFrom_of_runSetsUp (.refl _) equipped
  · rintro name config rfl
    exact exec_getLogger_handled rfl (one_iff.mp handled) config
  · intro ambient more
    have evolved : session.Evolves _ := evolves_runAll ambient session more
    exact evolved.settings_of_handled (one_iff.mp handled)

/-- A call that fails for an unknown level, then one that sets up the root with another configuration, a
call on it with a third one, and a change of the configuration that the root was set up with. -/
def rootScript : List Step :=
  [.operation (.newConfig (some "a") [("key", .text "user"), ("log_level", .text "loud")]),
    .operation (.newConfig (some "b") [("key", .text "tenant"), ("log_level", .text "info")]),
    .operation (.newConfig (some "c") [("key", .text "user")]),
    .operation (.getLogger (.text "") (some "a")),
    .thread [.operation (.getLogger (.text "root") (some "b"))],
    .operation (.getLogger (.text "root") (some "c")),
    .operation (.setConfig "b" "key" (.text "user"))]

/-- The root keeps the level and the rule of the second configuration. -/
theorem logger_is_set_up_once_on_root :
    let session := (runAll ⟨0, []⟩ Session.initial rootScript).2.2
    let kept : Nat × Rule := (0, ⟨"tenant", ⟨[], .error⟩, .verdict .neutral, .verdict .deny⟩)
    session.rules.get? 1 = some kept ∧
    ∀ (ambient : Ambient) (more : List Step),
      ((runAll ambient session more).2.2.loggers.get none).settings = ⟨20, 1, [kept]⟩ := by
  intro session kept
  have equipped : RunSetsUp none 1 ⟨0, []⟩ Session.initial rootScript :=
    .inr (.inr (.inr (.inr (.inl (.inl ⟨rfl, rfl, by decide⟩)))))
  obtain ⟨-, -, -, -, rule, still⟩ := logger_is_set_up_once ⟨0, []⟩ rootScript none
  have settings : (session.loggers.get none).settings = ⟨20, 1, [kept]⟩ := rfl
  have rules : (session.loggers.get none).rules = [kept] := congrArg Logger.Settings.rules settings
  have member : kept ∈ (session.loggers.get none).rules := by
    rw [rules]
    exact List.mem_singleton_self kept
  obtain ⟨-, unchanged⟩ := still rfl
  exact ⟨rule 1 equipped kept member, fun ambient more => (unchanged ambient more).trans settings⟩

end LogGate

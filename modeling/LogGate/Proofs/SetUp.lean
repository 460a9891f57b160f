import LogGate.Proofs.LoggerTree
import LogGate.Proofs.Precheck
import LogGate.Run

/-!
Setting up a logger. It goes through level, handler and rule, and keeps what it has done when a later
part fails; so it is undone by a failure exactly when the level could not be read.
-/

namespace LogGate

/-- A logger that has got its level and its handler. -/
def Logger.started (logger : Logger) (level : Level) : Logger := { logger with
  level := level.rank
  handlers := logger.handlers + 1 }

/-- A logger that is started has the level and one handler more. -/
theorem Logger.settings_started (logger : Logger) (level : Level) :
    (logger.started level).settings = ⟨level.rank, logger.handlers + 1, logger.rules⟩ := rfl

/-- A logger that has got its level, its handler and the rule, if there is one. -/
def Logger.equipped (logger : Logger) (level : Level) (rule : Option (Nat × Rule)) : Logger :=
  { logger.started level with rules := logger.rules ++ rule.toList }

/-- Setting up a logger leaves its parent. -/
theorem Logger.parent_equipped (logger : Logger) (level : Level) (rule : Option (Nat × Rule)) :
    (logger.equipped level rule).parent = logger.parent := rfl

theorem Logger.equipped_none (logger : Logger) (level : Level) :
    logger.equipped level none = logger.started level := by
  simp [equipped, started]

namespace Session

/-- A session with other settings of one logger. -/
def change (session : Session) (target : Option String) (change : Logger → Logger) : Session :=
  { session with loggers := session.loggers.set target (change (session.loggers.get target)) }

/-- Two changes of a logger are one. -/
theorem change_change (session : Session) (target : Option String)
    (first second : Logger → Logger) :
    (session.change target first).change target second =
      session.change target (second ∘ first) := by
  simp [change, LoggerTree.set_set, LoggerTree.get_set_self]

/-- A session that has the logger of a name. -/
def ensured (session : Session) (target : Option String) : Session :=
  { session with loggers := session.loggers.ensure target }

end Session

/-- The logger that a value names, if it can name one. -/
def Value.target? : Value → Option (Option String)
  | .text content => some (LoggerTree.target content)
  | value => if value.isTrue then none else some none

namespace Act

/-- A logger that is asked for by a text is there afterwards. -/
theorem exec_logger (name : String) (session : Session) :
    (logger name).exec session =
      (.ok (LoggerTree.target name), session.ensured (LoggerTree.target name)) := by
  simp [logger, Session.ensured, Except.map]

/-- A value that names a logger is read as its target. -/
theorem exec_loggerOf {session : Session} {value : Value} {target : Option String}
    (named : value.target? = some target) :
    (loggerOf value).exec session = (.ok target, session.ensured target) := by
  cases value with
  | text content =>
      cases named
      exact exec_logger content session
  | _ =>
      dsimp only [Value.target?] at named
      split at named
      · contradiction
      · next empty =>
        cases named
        simp only [loggerOf, empty, Bool.false_eq_true, if_false]
        exact exec_logger "" session

/-- Other values name no logger, and change nothing. -/
theorem exec_loggerOf_none {session : Session} {value : Value} (unnamed : value.target? = none) :
    (loggerOf value).exec session = (.error .unsuitable, session) := by
  cases value with
  | text content => contradiction
  | _ =>
      dsimp only [Value.target?] at unnamed
      split at unnamed
      · next filled =>
        simp only [loggerOf, filled, if_true]
        rfl
      · contradiction

/-- A logger without a handler is set up with the configuration that is chosen. -/
theorem exec_getLogger_bare {session : Session} {value : Value} {target : Option String}
    (named : value.target? = some target) (bare : (session.loggers.get target).handlers = 0)
    (config : Option Nat) :
    (getLogger value config).exec session =
      (configOrDefault config >>= fun number => setUp target number >>= fun _ => pure target).exec
        (session.ensured target) := by
  have unhandled : (((session.ensured target).loggers.get target).handlers == 0) = true := by
    rw [beq_iff_eq, Session.ensured, LoggerTree.handlers_ensure, bare]
  rw [getLogger, exec_bind_ok (exec_loggerOf named), exec_bind_ok (exec_get _), if_pos unhandled]

/-- A logger with a handler is left alone, whatever the configuration. -/
theorem exec_getLogger_handled {session : Session} {value : Value} {target : Option String}
    (named : value.target? = some target) (handled : (session.loggers.get target).handlers ≠ 0)
    (config : Option Nat) :
    (getLogger value config).exec session = (.ok target, session.ensured target) := by
  have kept : ¬(((session.ensured target).loggers.get target).handlers == 0) = true := by
    rw [beq_iff_eq, Session.ensured, LoggerTree.handlers_ensure]
    exact handled
  rw [getLogger, exec_bind_ok (exec_loggerOf named), exec_bind_ok (exec_get _), if_neg kept]
  rfl

theorem exec_changeLogger (target : Option String) (change : Logger → Logger) (session : Session) :
    (changeLogger target change).exec session = (.ok (), session.change target change) := rfl

/-- Choosing a configuration leaves rules, levels and loggers alone. -/
theorem configOrDefault_frame {config : Option Nat} {session later : Session}
    {result : Except Failure Nat} (chosen : (configOrDefault config).exec session = (result, later)) :
    later.registry = session.registry ∧ later.loggers = session.loggers ∧
      later.rules = session.rules := by
  cases config with
  | some number =>
      cases chosen
      exact ⟨rfl, rfl, rfl⟩
  | none => cases exec_defaultConfig_iff.mp chosen <;> exact ⟨rfl, rfl, rfl⟩

/-- Choosing a configuration does not depend on the loggers. -/
theorem exec_configOrDefault_loggers {config : Option Nat} {session later : Session}
    {result : Except Failure Nat} (chosen : (configOrDefault config).exec session = (result, later))
    (loggers : LoggerTree) :
    (configOrDefault config).exec { session with loggers } = (result, { later with loggers }) := by
  cases config with
  | some number =>
      cases chosen
      rfl
  | none =>
      apply exec_defaultConfig
      cases exec_defaultConfig_iff.mp chosen with
      | kept known => exact .kept known
      | made unknown read => exact .made unknown read
      | unread unknown unread => exact .unread unknown unread

/-- Finding a rule does not depend on the loggers. -/
theorem exec_ruleOf_loggers {number : Nat} {session later : Session}
    {result : Except Failure (Option (Nat × Rule))}
    (found : (ruleOf number).exec session = (result, later)) (loggers : LoggerTree) :
    (ruleOf number).exec { session with loggers } = (result, { later with loggers }) := by
  apply exec_ruleOf
  cases exec_ruleOf_iff.mp found with
  | inactive off => exact .inactive off
  | kept on kept => exact .kept on kept
  | built on missing built => exact .built on missing built
  | unbuilt on missing unbuilt => exact .unbuilt on missing unbuilt

/-- Building a rule does not look at loggers. -/
theorem exec_ruleOf_change {number : Nat} {session later : Session}
    {result : Except Failure (Option (Nat × Rule))}
    (found : (ruleOf number).exec session = (result, later)) (target : Option String)
    (change : Logger → Logger) :
    (ruleOf number).exec (session.change target change) = (result, later.change target change) := by
  obtain ⟨-, same, -⟩ := ruleOf_frame found
  rw [Session.change, Session.change, same]
  exact exec_ruleOf_loggers found _

/-- The ways in which a logger, once it exists, is set up. -/
inductive SetUpOutcome (session : Session) (target : Option String) (config : Option Nat) :
    Except Failure (Option String) → Session → Prop
  | kept (handled : (session.loggers.get target).handlers ≠ 0) :
      SetUpOutcome session target config (.ok target) session
  | unchosen {failure : Failure} {later : Session}
      (bare : (session.loggers.get target).handlers = 0)
      (unchosen : (configOrDefault config).exec session = (.error failure, later)) :
      SetUpOutcome session target config (.error failure) later
  | unread {number : Nat} {failure : Failure} {later : Session}
      (bare : (session.loggers.get target).handlers = 0)
      (chosen : (configOrDefault config).exec session = (.ok number, later))
      (unread : later.registry.resolve (later.config number).logLevel none = .error failure) :
      SetUpOutcome session target config (.error failure) later
  | unbuilt {number : Nat} {level : Level} {failure : Failure} {middle later : Session}
      (bare : (session.loggers.get target).handlers = 0)
      (chosen : (configOrDefault config).exec session = (.ok number, middle))
      (read : middle.registry.resolve (middle.config number).logLevel none = .ok level)
      (unbuilt : (ruleOf number).exec middle = (.error failure, later)) :
      SetUpOutcome session target config (.error failure)
        (later.change target (Logger.started · level))
  | done {number : Nat} {rule : Option (Nat × Rule)} {level : Level} {middle later : Session}
      (bare : (session.loggers.get target).handlers = 0)
      (chosen : (configOrDefault config).exec session = (.ok number, middle))
      (read : middle.registry.resolve (middle.config number).logLevel none = .ok level)
      (found : (ruleOf number).exec middle = (.ok rule, later)) :
      SetUpOutcome session target config (.ok target)
        (later.change target (Logger.equipped · level rule))

/-- The level and the handler are there before the rule is looked for. -/
theorem exec_setUp_read (target : Option String) {number : Nat} {level : Level} {session : Session}
    (read : session.registry.resolve (session.config number).logLevel none = .ok level) :
    (setUp target number).exec session = (do
      match ← ruleOf number with
      | some kept =>
        changeLogger target fun logger => { logger with rules := logger.rules ++ [kept] }
      | none => pure () : Act Unit).exec (session.change target (Logger.started · level)) := by
  have resolved : (attempt (session.registry.resolve (session.config number).logLevel none)).exec
      session = (.ok level, session) := by rw [exec_attempt, read]
  rw [setUp, exec_bind_ok (exec_get session), exec_bind_ok (exec_get session),
    exec_bind_ok resolved, exec_bind_ok (exec_changeLogger _ _ _),
    exec_bind_ok (exec_changeLogger _ _ _), Session.change_change]
  rfl

/-- Setting up a logger with a good configuration equips it. -/
theorem exec_setUp (target : Option String) {number : Nat} {level : Level}
    {session later : Session} {rule : Option (Nat × Rule)}
    (read : session.registry.resolve (session.config number).logLevel none = .ok level)
    (found : (ruleOf number).exec session = (.ok rule, later)) :
    (setUp target number).exec session =
      (.ok (), later.change target (Logger.equipped · level rule)) := by
  rw [exec_setUp_read target read, exec_bind_ok (exec_ruleOf_change found target _)]
  cases rule with
  | none => simp [Logger.equipped, Logger.started, Session.change]
  | some kept =>
      change (changeLogger target _).exec _ = _
      rw [exec_changeLogger, Session.change_change]
      rfl

/-- Where the rule cannot be built, the logger has its level and its handler already. -/
theorem exec_setUp_unbuilt (target : Option String) {number : Nat} {level : Level}
    {session later : Session} {failure : Failure}
    (read : session.registry.resolve (session.config number).logLevel none = .ok level)
    (unbuilt : (ruleOf number).exec session = (.error failure, later)) :
    (setUp target number).exec session =
      (.error failure, later.change target (Logger.started · level)) := by
  rw [exec_setUp_read target read, exec_bind_error (exec_ruleOf_change unbuilt target _)]

/-- Where the level cannot be read, nothing is changed. -/
theorem exec_setUp_unread (target : Option String) {number : Nat} {failure : Failure}
    {session : Session}
    (unread : session.registry.resolve (session.config number).logLevel none = .error failure) :
    (setUp target number).exec session = (.error failure, session) := by
  have resolved : (attempt (session.registry.resolve (session.config number).logLevel none)).exec
      session = (.error failure, session) := by rw [exec_attempt, unread]
  rw [setUp, exec_bind_ok (exec_get session), exec_bind_ok (exec_get session),
    exec_bind_error resolved]

/-- Every call for a logger ends in one of these ways. -/
theorem setUpOutcome (name : String) (config : Option Nat) (session : Session) :
    SetUpOutcome (session.ensured (LoggerTree.target name)) (LoggerTree.target name) config
      ((getLogger (.text name) config).exec session).1
      ((getLogger (.text name) config).exec session).2 := by
  have made : (loggerOf (.text name)).exec session = _ := exec_logger name session
  rw [getLogger, exec_bind_ok made, exec_bind_ok (exec_get _)]
  generalize session.ensured (LoggerTree.target name) = session
  generalize LoggerTree.target name = target
  by_cases bare : (session.loggers.get target).handlers = 0
  · simp only [bare, beq_self_eq_true, if_true]
    cases chosen : (configOrDefault config).exec session with
    | mk result middle =>
        cases result with
        | error failure =>
            simp only [exec_bind, chosen]
            exact .unchosen bare chosen
        | ok number =>
            rw [exec_bind_ok chosen]
            cases read : middle.registry.resolve (middle.config number).logLevel none with
            | error failure =>
                rw [exec_bind_error (exec_setUp_unread target read)]
                exact .unread bare chosen read
            | ok level =>
                cases found : (ruleOf number).exec middle with
                | mk result later =>
                    cases result with
                    | error failure =>
                        rw [exec_bind_error (exec_setUp_unbuilt target read found)]
                        exact .unbuilt bare chosen read found
                    | ok rule =>
                        rw [exec_bind_ok (exec_setUp target read found)]
                        exact .done bare chosen read found
  · have handled : ((session.loggers.get target).handlers == 0) = false := by simpa using bare
    simp only [handled, Bool.false_eq_true, if_false]
    exact .kept bare

/-- The level that a logger is set up with. -/
def configuredLevel (config : Option Nat) : Act Level := do
  let number ← configOrDefault config
  attempt ((← get).registry.resolve ((← get).config number).logLevel none)

/-- The level of a configuration is that of the chosen one. -/
theorem exec_configuredLevel {config : Option Nat} {number : Nat} {session later : Session}
    (chosen : (configOrDefault config).exec session = (.ok number, later)) :
    (configuredLevel config).exec session =
      (later.registry.resolve (later.config number).logLevel none, later) := by
  rw [configuredLevel, exec_bind_ok chosen, exec_bind_ok (exec_get later),
    exec_bind_ok (exec_get later), exec_attempt]

/-- The level of a configuration does not depend on the loggers. -/
theorem exec_configuredLevel_loggers (config : Option Nat) (session : Session)
    (loggers : LoggerTree) :
    ((configuredLevel config).exec { session with loggers }).1 =
      ((configuredLevel config).exec session).1 := by
  cases chosen : (configOrDefault config).exec session with
  | mk result later =>
      have same := exec_configOrDefault_loggers chosen loggers
      cases result with
      | error failure =>
          rw [configuredLevel, exec_bind_error same, exec_bind_error chosen]
      | ok number =>
          rw [exec_configuredLevel same, exec_configuredLevel chosen]
          rfl

/-- A set-up fails while the level is read, and changes no logger, or after it, and leaves the level
and a handler behind. -/
theorem SetUpOutcome.failed {session later : Session} {target : Option String}
    {config : Option Nat} {failure : Failure}
    (outcome : SetUpOutcome session target config (.error failure) later) :
    (session.loggers.get target).handlers = 0 ∧
      ((∃ cause, ((configuredLevel config).exec session).1 = .error cause) ∧
          later.loggers = session.loggers ∨
        ∃ level, ((configuredLevel config).exec session).1 = .ok level ∧
          later.loggers.get target = (session.loggers.get target).started level) := by
  cases outcome with
  | unchosen bare unchosen =>
      refine ⟨bare, .inl ⟨⟨failure, ?_⟩, (configOrDefault_frame unchosen).2.1⟩⟩
      rw [configuredLevel, exec_bind_error unchosen]
  | unread bare chosen unread =>
      refine ⟨bare, .inl ⟨⟨failure, ?_⟩, (configOrDefault_frame chosen).2.1⟩⟩
      rw [exec_configuredLevel chosen, unread]
  | unbuilt bare chosen read unbuilt =>
      refine ⟨bare, .inr ⟨_, by rw [exec_configuredLevel chosen, read], ?_⟩⟩
      rw [Session.change, LoggerTree.get_set_self, (ruleOf_frame unbuilt).2.1,
        (configOrDefault_frame chosen).2.1]

/-- A logger that could not be set up had no handler. It keeps its settings if its level could not be
read, and otherwise it has the level and a handler, and the rules from before. -/
theorem settings_of_failed_getLogger {session later : Session} {name : String}
    {config : Option Nat} {failure : Failure}
    (failed : (getLogger (.text name) config).exec session = (.error failure, later)) :
    let before := (session.loggers.get (LoggerTree.target name)).settings
    let after := (later.loggers.get (LoggerTree.target name)).settings
    before.handlers = 0 ∧
      ((∃ cause, ((configuredLevel config).exec session).1 = .error cause) ∧ after = before ∨
        ∃ level, ((configuredLevel config).exec session).1 = .ok level ∧
          after = ⟨level.rank, 1, before.rules⟩) := by
  intro before after
  let target := LoggerTree.target name
  have outcome := setUpOutcome name config session
  rw [failed] at outcome
  obtain ⟨bare, level⟩ := outcome.failed
  have same_level : ((configuredLevel config).exec (session.ensured target)).1 =
      ((configuredLevel config).exec session).1 := exec_configuredLevel_loggers config _ _
  rw [same_level] at level
  have kept : ((session.ensured target).loggers.get target).settings = before :=
    LoggerTree.settings_ensure _ _ _
  refine ⟨(congrArg Logger.Settings.handlers kept).symm.trans bare, ?_⟩
  obtain ⟨unread, same⟩ | ⟨grade, read, started⟩ := level
  · refine .inl ⟨unread, ?_⟩
    rw [← kept]
    exact congrArg (fun tree => (LoggerTree.get tree target).settings) same
  · refine .inr ⟨grade, read, ?_⟩
    rw [← show ((session.ensured target).loggers.get target).rules = before.rules from
      congrArg Logger.Settings.rules kept]
    refine (congrArg Logger.settings started).trans ?_
    rw [Logger.settings_started, bare]

/-- A logger without a handler is set up once it exists. -/
theorem exec_getLogger_of_bare {session later : Session} {name : String} {number : Nat}
    {result : Except Failure Unit}
    (bare : (session.loggers.get (LoggerTree.target name)).handlers = 0)
    (done : (setUp (LoggerTree.target name) number).exec
      (session.ensured (LoggerTree.target name)) = (result, later)) :
    (getLogger (.text name) (some number)).exec session =
      (result.map fun _ => LoggerTree.target name, later) := by
  have asked : (getLogger (.text name) (some number)).exec session = _ :=
    exec_getLogger_bare rfl bare (some number)
  rw [asked, configOrDefault, exec_bind_ok (exec_pure number _)]
  cases result with
  | error failure =>
      rw [exec_bind_error done]
      rfl
  | ok _ =>
      rw [exec_bind_ok done]
      rfl

/-- It gets the level and the rule of an active configuration. -/
theorem settings_getLogger_of_bare {session later : Session} {name : String} {number own : Nat}
    {level : Level} {rule : Rule}
    (bare : (session.loggers.get (LoggerTree.target name)).handlers = 0)
    (read : session.registry.resolve (session.config number).logLevel none = .ok level)
    (found : (ruleOf number).exec session = (.ok (some (own, rule)), later)) :
    ∃ final, (getLogger (.text name) (some number)).exec session =
        (.ok (LoggerTree.target name), final) ∧
      (final.loggers.get (LoggerTree.target name)).settings =
        ⟨level.rank, 1, (session.loggers.get (LoggerTree.target name)).rules ++ [(own, rule)]⟩ := by
  let target := LoggerTree.target name
  let ready := session.ensured target
  have same : (ready.loggers.get target).settings = (session.loggers.get target).settings :=
    LoggerTree.settings_ensure _ _ _
  rw [Logger.settings, Logger.settings, Logger.Settings.mk.injEq] at same
  obtain ⟨-, handlers, rules⟩ := same
  have looked : (ruleOf number).exec ready = (.ok (some (own, rule)), _) :=
    exec_ruleOf_loggers found ready.loggers
  have resolved : ready.registry.resolve (ready.config number).logLevel none = .ok level := read
  refine ⟨_, exec_getLogger_of_bare bare (exec_setUp target resolved looked), ?_⟩
  rw [Session.change, LoggerTree.get_set_self]
  rw [Logger.equipped, Logger.started, Logger.settings, handlers.trans bare, rules]
  rfl

end Act

/-- A logger that cannot be set up keeps its settings exactly if its level could not be read; it can
then still be given a rule. Otherwise it has the level and a handler without a rule, and no later
set-up gives it one. -/
theorem settings_of_failed_setUp {session later : Session} {name : String} {config : Option Nat}
    {failure : Failure}
    (failed : (Act.getLogger (.text name) config).exec session = (.error failure, later)) :
    let target := LoggerTree.target name
    let before := (session.loggers.get target).settings
    let after := (later.loggers.get target).settings
    (after = before ↔ ∃ cause, ((Act.configuredLevel config).exec session).1 = .error cause) ∧
    (after = before → ∀ (next last : Session) (number own : Nat) (rule : Rule) (level : Level),
      (next.loggers.get target).settings = after →
      next.registry.resolve (next.config number).logLevel none = .ok level →
      (Act.ruleOf number).exec next = (.ok (some (own, rule)), last) →
      ∃ final, (Act.getLogger (.text name) (some number)).exec next = (.ok target, final) ∧
        (final.loggers.get target).settings = ⟨level.rank, 1, before.rules ++ [(own, rule)]⟩) ∧
    (after ≠ before →
      (∃ level, ((Act.configuredLevel config).exec session).1 = .ok level ∧
        after = ⟨level.rank, 1, before.rules⟩) ∧
      ∀ (next : Session) (config : Option Nat), (next.loggers.get target).settings = after →
        (Act.getLogger (.text name) config).exec next = (.ok target, next.ensured target) ∧
          ((next.ensured target).loggers.get target).settings = after) := by
  intro target before after
  obtain ⟨none_before, ⟨unread, unchanged⟩ | ⟨grade, read, left⟩⟩ :=
    Act.settings_of_failed_getLogger failed
  · refine ⟨⟨fun _ => unread, fun _ => unchanged⟩, fun _ => ?_,
      fun different => absurd unchanged different⟩
    intro next last number own rule level untouched resolved found
    have same : (next.loggers.get target).settings = before := untouched.trans unchanged
    have done := Act.settings_getLogger_of_bare
      ((congrArg Logger.Settings.handlers same).trans none_before) resolved found
    rwa [show (next.loggers.get target).rules = before.rules from
      congrArg Logger.Settings.rules same] at done
  · have changed : after ≠ before := by
      intro same
      have handlers : 1 = before.handlers := congrArg Logger.Settings.handlers (left.symm.trans same)
      rw [none_before] at handlers
      contradiction
    refine ⟨⟨fun same => absurd same changed, ?_⟩, fun same => absurd same changed, fun _ => ?_⟩
    · rintro ⟨cause, unread⟩
      rw [read] at unread
      contradiction
    · refine ⟨⟨grade, read, left⟩, ?_⟩
      intro next config untouched
      have handled : (next.loggers.get target).handlers ≠ 0 := by
        rw [show (next.loggers.get target).handlers = 1 from
          congrArg Logger.Settings.handlers (untouched.trans left)]
        decide
      refine ⟨Act.exec_getLogger_handled rfl handled config, ?_⟩
      rw [← untouched]
      exact LoggerTree.settings_ensure _ _ _

/-- A key of white space counts as a key, but no rule can be built for it. -/
def blankKeyConfig : Config where
  key := .text " "

/-- The level is not known, so that set-up ends before the logger is touched. -/
def unknownLevelConfig : Config where
  key := .text "tenant"
  logLevel := .text "LOUD"

/-- The script that makes both configurations. -/
def unusableConfigs : List Step :=
  [.operation (.newConfig none [("key", .text " ")]),
    .operation (.newConfig none [("key", .text "tenant"), ("log_level", .text "LOUD")])]

def unusableSession : Session := { Session.initial with
  configs := [blankKeyConfig, unknownLevelConfig] }

/-- The logger that is to be set up. -/
def service : Option String := LoggerTree.target "service"

def unreadSession : Session := unusableSession.ensured service

def unbuiltSession : Session :=
  unreadSession.change service (Logger.started · ⟨"DEBUG", 10, true⟩)

/-- The second configuration of the session has a level that cannot be read. -/
theorem getLogger_unread : (Act.getLogger (.text "service") (some 1)).exec unusableSession =
    (.error (.misconfigured (.unknownLevel (.text "LOUD"))), unreadSession) :=
  Act.exec_getLogger_of_bare rfl (Act.exec_setUp_unread service rfl)

/-- The first configuration of the session has a blank key. -/
theorem getLogger_unbuilt : (Act.getLogger (.text "service") (some 0)).exec unusableSession =
    (.error (.misconfigured .keyBlank), unbuiltSession) :=
  Act.exec_getLogger_of_bare rfl (Act.exec_setUp_unbuilt service rfl
    (Act.exec_ruleOf (.unbuilt rfl rfl rfl)))

/-- A handler is left behind when no rule can be built. -/
theorem handlers_unbuiltSession : (unbuiltSession.loggers.get service).handlers = 1 := by
  have before : (unreadSession.loggers.get service).handlers = 0 :=
    LoggerTree.handlers_ensure _ service service
  rw [unbuiltSession, Session.change, LoggerTree.get_set_self, Logger.started, before]

/-- With an unknown level the logger stays as it was, and with a key of white space it does not. -/
theorem settings_of_failed_setUp_on_two_configs :
    (∃ failure, (Act.getLogger (.text "service") (some 1)).exec unusableSession =
      (.error failure, unreadSession)) ∧
    (unreadSession.loggers.get service).settings = ⟨0, 0, []⟩ ∧
    (∃ failure, (Act.getLogger (.text "service") (some 0)).exec unusableSession =
      (.error failure, unbuiltSession)) ∧
    (unbuiltSession.loggers.get service).settings = ⟨10, 1, []⟩ ∧
    ∀ config, (Act.getLogger (.text "service") config).exec unbuiltSession =
      (.ok service, unbuiltSession.ensured service) := by
  have changed : (unbuiltSession.loggers.get service).settings ≠
      (unusableSession.loggers.get service).settings := by
    intro same
    have handlers := handlers_unbuiltSession.symm.trans (congrArg Logger.Settings.handlers same)
    contradiction
  obtain ⟨kept, -, -⟩ := settings_of_failed_setUp getLogger_unread
  obtain ⟨-, -, left⟩ := settings_of_failed_setUp getLogger_unbuilt
  obtain ⟨⟨level, read, after⟩, ignored⟩ := left changed
  have debug : (Except.ok ⟨"DEBUG", 10, true⟩ : Except Failure Level) = .ok level := read
  rw [Except.ok.injEq] at debug
  rw [← debug] at after
  exact ⟨⟨_, getLogger_unread⟩, kept.mpr ⟨_, rfl⟩, ⟨_, getLogger_unbuilt⟩, after,
    fun config => (ignored unbuiltSession config rfl).1⟩

/-- After a script that only makes configurations, a failing set-up can leave a level and a handler
behind. -/
theorem failed_setUp_leaves_handler :
    ¬ ∀ (steps : List Step) (name : String) (config : Option Nat) (failure : Failure)
      (later : Session), (Act.getLogger (.text name) config).exec
        (runAll ⟨0, []⟩ Session.initial steps).2.2 = (.error failure, later) →
      (later.loggers.get (LoggerTree.target name)).settings =
        ((runAll ⟨0, []⟩ Session.initial steps).2.2.loggers.get
          (LoggerTree.target name)).settings := by
  intro undone
  have same := undone unusableConfigs "service" (some 0) _ _ getLogger_unbuilt
  have handlers := handlers_unbuiltSession.symm.trans (congrArg Logger.Settings.handlers same)
  contradiction

end LogGate

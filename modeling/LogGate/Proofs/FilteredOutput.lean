import LogGate.Proofs.ServingLogger

/-!
The output of a filtered logger. Along every run it is one line for each event that the configuration
admits, in the order of the events.
-/

namespace LogGate

/-- Everything that a logger needs to become a filtered logger of a configuration: the configuration
is as it was made, wants a rule and can be built, and nothing is set up on the logger or above it. -/
structure Session.Ready (session : Session) (name id : String) (number : Nat) (config : Config)
    (level : Level) : Prop where
  held : session.Holds number config
  named : session.objects.get? id = some (.config number)
  on : config.isActive = true
  builds : ∃ rule, config.buildRule session.registry = .ok rule
  accepts : ∃ verdict, Verdict.ofTokenOr config.onMatch .neutral = .ok verdict ∧ verdict ≠ .deny
  refuses : Verdict.ofTokenOr config.onMismatch .deny = .ok .deny
  read : session.registry.resolve config.logLevel none = .ok level
  positive : 1 ≤ level.rank
  target : LoggerTree.target name = some name
  bare : ∀ logger ∈ (session.loggers.ensure (some name)).chain (some name), logger.handlers = 0

namespace Session.Ready

variable {session : Session} {name id : String} {number : Nat} {config : Config} {level : Level}

/-- The number stands for the configuration. -/
theorem config_eq (ready : session.Ready name id number config level) :
    session.config number = config := ready.held.config_eq

/-- The rule that is found is the one that the configuration stands for now, also if it was built
earlier. -/
theorem exec_ruleOf (ready : session.Ready name id number config level) {rule : Rule}
    (built : config.buildRule session.registry = .ok rule) :
    ∃ own rules count, rules.get? number = some (own, rule) ∧
      (Act.ruleOf number).exec session = (.ok (some (own, rule)), { session with
        rules
        built := count }) := by
  have on : (session.config number).isActive = true := by
    rw [ready.config_eq]
    exact ready.on
  cases found : session.rules.get? number with
  | some kept =>
      have same := ready.held.buildRule_eq found
      rw [built, Except.ok.injEq] at same
      rw [same]
      exact ⟨kept.1, session.rules, session.built, found, Act.exec_ruleOf (.kept on found)⟩
  | none =>
      rw [← ready.config_eq] at built
      exact ⟨_, _, _, Fields.get?_put_self _ _ _, Act.exec_ruleOf (.built on found built)⟩

/-- The rule of the configuration judges as its thresholds say. -/
theorem judges (ready : session.Ready name id number config level) {rule : Rule}
    (built : config.buildRule session.registry = .ok rule) :
    Judges rule level (config.admits session.registry) := by
  obtain ⟨-, -, -, ⟨accepted, readMatch, matched⟩, refused, readMismatch, mismatched⟩ :=
    Rule.create_eq_ok_iff.mp (Config.buildRule_eq_ok_iff.mp built).2
  obtain ⟨verdict, token, passes⟩ := ready.accepts
  rw [token, Except.ok.injEq] at readMatch
  rw [ready.refuses, Except.ok.injEq] at readMismatch
  have accepts : Rule.denies rule.onMatch = false := by
    rw [matched, ← readMatch]
    cases verdict <;> first | rfl | exact absurd rfl passes
  have refuses : Rule.denies rule.onMismatch = true := by
    rw [mismatched, ← readMismatch]
    rfl
  intro grade context contextNamed
  exact Config.admits_eq built ready.read accepts refuses contextNamed grade

/-- The logger itself has nothing set up. -/
theorem settings_eq (ready : session.Ready name id number config level) :
    ((session.ensured (some name)).loggers.get (some name)).handlers = 0 ∧
      ((session.ensured (some name)).loggers.get (some name)).rules = [] := by
  have handlers := ready.bare _ (LoggerTree.get_mem_chain _ name)
  refine ⟨handlers, ?_⟩
  rw [LoggerTree.handlers_ensure] at handlers
  rw [Session.ensured, LoggerTree.rules_ensure]
  exact ready.held.reachable.consistent.ruleless (some name) handlers

/-- The session after the logger was set up, with whatever rules are kept by then. -/
def equipped (session : Session) (name : String) (rules : Fields Nat (Nat × Rule)) (count : Nat)
    (level : Level) (kept : Nat × Rule) : Session :=
  Session.change { session with
    rules
    built := count
    loggers := session.loggers.ensure (some name) } (some name)
    (Logger.equipped · level (some kept))

/-- Asking for the logger equips it with the rule of the configuration and one handler. -/
theorem exec_getLogger (ready : session.Ready name id number config level) {rule : Rule}
    (built : config.buildRule session.registry = .ok rule) :
    ∃ own rules count, rules.get? number = some (own, rule) ∧
      (Act.getLogger (.text name) (some number)).exec session =
        (.ok (some name), equipped session name rules count level (own, rule)) := by
  obtain ⟨own, rules, count, kept, looked⟩ := ready.exec_ruleOf built
  have bare : (session.loggers.get (LoggerTree.target name)).handlers = 0 := by
    have handlers := ready.settings_eq.1
    rwa [Session.ensured, LoggerTree.handlers_ensure, ← ready.target] at handlers
  have resolved : (session.ensured (some name)).registry.resolve
      ((session.ensured (some name)).config number).logLevel none = .ok level := by
    have read := ready.read
    rwa [← ready.config_eq] at read
  have done := Act.exec_setUp (some name) resolved
    (Act.exec_ruleOf_loggers looked (session.loggers.ensure (some name)))
  rw [← ready.target] at done
  have got := Act.exec_getLogger_of_bare bare done
  rw [ready.target] at got
  exact ⟨own, rules, count, kept, got⟩

/-- Setting the logger up puts it in service. -/
theorem serves (ready : session.Ready name id number config level) {rule : Rule} {own : Nat}
    {rules : Fields Nat (Nat × Rule)} (kept : rules.get? number = some (own, rule)) (count : Nat) :
    (equipped session name rules count level (own, rule)).Serves name id number rule level := by
  obtain ⟨bare, ruleless⟩ := ready.settings_eq
  have consistent := ready.held.reachable.consistent
  have tree : (equipped session name rules count level (own, rule)).loggers =
      (session.loggers.ensure (some name)).set (some name)
        (((session.loggers.ensure (some name)).get (some name)).equipped level (some (own, rule))) := rfl
  have place := LoggerTree.get_set_self (session.loggers.ensure (some name)) (some name)
    (((session.loggers.ensure (some name)).get (some name)).equipped level (some (own, rule)))
  rw [← tree] at place
  have above : ∀ logger ∈ ((session.loggers.ensure (some name)).chain (some name)).tail,
      logger.handlers = 0 := fun logger inside =>
    ready.bare logger (List.mem_of_mem_tail inside)
  constructor
  · exact consistent.registry
  · exact ready.named
  · have on := ready.on
    rwa [← ready.config_eq] at on
  · refine ⟨own, kept, ?_⟩
    rw [place]
    exact congrArg (· ++ [(own, rule)]) ruleless
  · rw [← Fields.isSome_get?]
    exact Option.isSome_of_eq_some (Fields.get?_put_self _ _ _)
  · rw [place]
    rfl
  · rw [tree, (consistent.loggers.ensure (some name)).handlerCount_set
      (Logger.parent_equipped _ _ _) above]
    exact congrArg (· + 1) bare

/-- The step that sets the logger up answers with its view. -/
theorem run_getLogger (ready : session.Ready name id number config level) {rule : Rule}
    (built : config.buildRule session.registry = .ok rule) (ambient : Ambient) :
    ∃ view later, (Step.operation (.getLogger (.text name) (some id))).run ambient session =
        (.ok (.logger view), ambient, later) ∧
      later.Serves name id number rule level ∧ later.scopes = session.scopes := by
  obtain ⟨own, rules, count, kept, got⟩ := ready.exec_getLogger built
  have read : (Act.read (.text name)).exec session = (.ok (.text name), session) :=
    Act.exec_read (.text name) session
  have found : (Act.findConfig (some id)).exec session = (.ok (some number), session) :=
    Act.exec_findConfig ready.named
  have done : ((Operation.getLogger (.text name) (some id)).perform ambient.context).exec session =
      (.ok (.logger ((equipped session name rules count level (own, rule)).loggers.view (some name))),
        equipped session name rules count level (own, rule)) := by
    rw [Operation.perform, Act.exec_bind_ok read, Act.exec_bind_ok found, Act.exec_bind_ok got,
      Act.exec_bind_ok (Act.exec_get _), Act.exec_pure]
  exact ⟨_, _, Step.run_operation done, ready.serves kept count, rfl⟩

end Session.Ready

/-- The lines of the admitted events, in their order. An event whose record cannot be written has
none. -/
def admittedLines (admits : Int → Context → Bool) (events : List Event) : List String :=
  (events.filter fun event => admits event.rank event.context).filterMap fun event =>
    event.line.toOption

/-- The text of all events is the lines of those that are admitted. -/
theorem admittedText_eq (admits : Int → Context → Bool) (events : List Event) :
    admittedText admits events =
      String.join ((admittedLines admits events).map fun line => line ++ "\n") := by
  rw [admittedText, admittedLines]
  induction events.filter fun event => admits event.rank event.context with
  | nil => rfl
  | cons event rest ih =>
      rw [List.map_cons, String.join_cons, ih]
      cases line : event.line with
      | error failure => simp [line, Event.textOf, Except.toOption]
      | ok text => simp [line, Event.textOf, Except.toOption]

/-- After a logger was set up with a configuration that nobody changes, every run that uses only this
logger and this configuration writes one line for each admitted event that can be written, in the
order of the events, and nothing else. -/
theorem output_of_filteredLogger {session : Session} {name id : String} {number : Nat}
    {config : Config} {level : Level} (ready : session.Ready name id number config level)
    {ambient : Ambient} (names : HasNames ambient session) {steps : List Step}
    (uses : ∀ step ∈ steps, step.Uses name id) :
    let start := (Step.operation (.getLogger (.text name) (some id))).run ambient session
    (∃ view, start.1 = .ok (.logger view)) ∧
    stdout steps (runAll start.2.1 start.2.2 steps).1 =
      String.join ((admittedLines (config.admits session.registry)
        (events start.2.1 start.2.2 steps)).map fun line => line ++ "\n") := by
  intro start
  obtain ⟨rule, built⟩ := ready.builds
  obtain ⟨view, later, done, serves, saved⟩ := ready.run_getLogger built ambient
  have started : start = (.ok (.logger view), ambient, later) := done
  have named : HasNames ambient later := ⟨names.context, by rw [saved]; exact names.saved⟩
  rw [started]
  refine ⟨⟨view, rfl⟩, ?_⟩
  rw [← admittedText_eq]
  exact output_of_steps ready.positive (ready.judges built) ready.target serves named uses

/-- Tenants log errors, and the tenant `acme` logs everything from INFO on. -/
def tenantConfig : Config where
  key := .text "tenant"
  thresholds := .list [Config.textPair "acme" "INFO"]

def tenantSession : Session := { Session.initial with
  configs := [tenantConfig]
  objects := [("config", .config 0)] }

def tenantRule : Rule :=
  ⟨"tenant", ⟨[(.text "acme", ⟨"INFO", 20, true⟩)], .error⟩, .verdict .neutral, .verdict .deny⟩

theorem ready_tenantSession :
    tenantSession.Ready "service" "config" 0 tenantConfig ⟨"DEBUG", 10, true⟩ where
  held := .kept (.made (.refl _) rfl) (.stored "config" (.config 0)) rfl
  named := rfl
  on := rfl
  builds := ⟨tenantRule, rfl⟩
  accepts := ⟨.neutral, rfl, by decide⟩
  refuses := rfl
  read := rfl
  positive := by decide
  target := rfl
  bare := by decide +kernel

theorem hasNames_tenantSession : HasNames ⟨0, []⟩ tenantSession where
  context := Context.isNamed_nil
  saved scope member := by simp [tenantSession, Session.initial] at member

/-- Inside a scope the tenant is `acme`, outside there is none, and a field of an event overrides
it. -/
def tenantSteps : List Step :=
  [.scope (.enter "scope" [("tenant", .text "acme")]),
    .operation (.log "service" 20 (.text "kept") []),
    .operation (.log "service" 10 (.text "left out") []),
    .operation (.logWithContext "service" (.text "warn") (.text "left out") (some (some "config"))
      [("tenant", .text "globex")]),
    .scope (.leave "scope"),
    .operation (.register none (.text "audit") 45),
    .operation (.logWithContext "service" (.text "audit") (.text "kept") (some (some "config"))
      [("tenant", .text "globex")])]

theorem uses_tenantSteps : ∀ step ∈ tenantSteps, step.Uses "service" "config" := by
  intro step member
  simp only [tenantSteps, List.mem_cons, List.not_mem_nil, or_false] at member
  rcases member with rfl | rfl | rfl | rfl | rfl | rfl | rfl
  · exact .scope _
  · exact .log _ _ _
  · exact .log _ _ _
  · exact .logWithContext _ _ _
  · exact .scope _
  · exact .register _ _ (by decide)
  · exact .logWithContext _ _ _

/-- Two of the four events are admitted. -/
theorem output_of_filteredLogger_on_tenants :
    let start := (Step.operation (.getLogger (.text "service") (some "config"))).run ⟨0, []⟩
      tenantSession
    stdout tenantSteps (runAll start.2.1 start.2.2 tenantSteps).1 =
      "\x7b\"level\":\"INFO\",\"logger\":\"service\",\"message\":\"kept\"," ++
        "\"timestamp\":\"2023-11-14T22:13:20Z\"\x7d\n" ++
      "\x7b\"level\":\"Level 45\",\"logger\":\"service\",\"message\":\"kept\"," ++
        "\"timestamp\":\"2023-11-14T22:13:20Z\",\"tenant\":\"globex\"\x7d\n" := by
  intro start
  obtain ⟨-, output⟩ :=
    output_of_filteredLogger ready_tenantSession hasNames_tenantSession uses_tenantSteps
  refine output.trans ?_
  decide +kernel

/-- One event, at the level ERROR, with a field that JSON cannot write: a mapping whose key is a
tuple. -/
def unwritableSteps : List Step :=
  [.operation (.logWithContext "service" (.text "error") (.text "lost") (some (some "config"))
    [("field", .mapping [(.tuple [.int 1], .int 1)])])]

theorem uses_unwritableSteps : ∀ step ∈ unwritableSteps, step.Uses "service" "config" := by
  intro step member
  simp only [unwritableSteps, List.mem_cons, List.not_mem_nil, or_false] at member
  rw [member]
  exact .logWithContext _ _ _

/-- Not every admitted event has a line: a record that cannot be written is lost. -/
theorem admitted_event_without_line :
    ¬ ∀ (session : Session) (name id : String) (number : Nat) (config : Config) (level : Level)
      (ambient : Ambient) (steps : List Step), session.Ready name id number config level →
      HasNames ambient session → (∀ step ∈ steps, step.Uses name id) →
      let start := (Step.operation (.getLogger (.text name) (some id))).run ambient session
      ∃ lines : List String,
        lines.length = ((events start.2.1 start.2.2 steps).filter fun event =>
          config.admits session.registry event.rank event.context).length ∧
        stdout steps (runAll start.2.1 start.2.2 steps).1 =
          String.join (lines.map fun line => line ++ "\n") := by
  intro told
  obtain ⟨lines, count, output⟩ := told tenantSession "service" "config" 0 tenantConfig _ ⟨0, []⟩
    unwritableSteps ready_tenantSession hasNames_tenantSession uses_unwritableSteps
  have one : lines.length = 1 := count.trans (by decide +kernel)
  obtain ⟨line, rfl⟩ := List.length_eq_one_iff.mp one
  have nothing : "" = line ++ "\n" := by
    refine Eq.trans ?_ (output.trans (by simp [String.join]))
    decide +kernel
  have characters : 0 = line.length + 1 :=
    (congrArg String.length nothing).trans (String.length_append _ _)
  omega

end LogGate

import LogGate.Proofs.Admission

/-!
A logger in service. It writes once, and judges by the rule of one configuration; no step of a run
that uses it ends this, and every step writes exactly the event that it is asked to log, if that is
admitted.
-/

namespace LogGate

/-- The steps of a run that only uses a logger and its configuration: changes of the context, scopes,
registrations, and events of the logger. -/
inductive Step.Uses (name id : String) : Step → Prop
  | change {change : ContextChange} (text : change.NamesText) : Uses name id (.change change)
  | scope (scope : ScopeStep) : Uses name id (.scope scope)
  | register {other : Option String} (level : Literal) (rank : Int) (free : other ≠ some id) :
      Uses name id (.operation (.register other level rank))
  | log (rank : Int) (message : Literal) (arguments : List Literal) :
      Uses name id (.operation (.log name rank message arguments))
  | logWithContext (level message : Literal) (extra : List (String × Literal)) :
      Uses name id (.operation (.logWithContext name level message (some (some id)) extra))

/-- A session whose logger of a name writes once and judges by the rule of a configuration. -/
structure Session.Serves (session : Session) (name id : String) (number : Nat) (rule : Rule)
    (level : Level) : Prop where
  registry : session.registry.Reachable
  named : session.objects.get? id = some (.config number)
  on : (session.config number).isActive = true
  kept : ∃ own, session.rules.get? number = some (own, rule) ∧
    (session.loggers.get (some name)).rules = [(own, rule)]
  known : session.loggers.named.has name = true
  level_eq : (session.loggers.get (some name)).level = level.rank
  handlerCount_eq : session.loggers.handlerCount (some name) = 1

namespace Session.Serves

variable {session : Session} {name id : String} {number : Nat} {rule : Rule} {level : Level}

/-- Nothing is made when a known logger is asked for. -/
theorem ensured_eq (serves : session.Serves name id number rule level) :
    session.ensured (some name) = session := by
  rw [Session.ensured, LoggerTree.ensure, if_pos serves.known]

/-- The rule of a serving logger is kept, and found. -/
theorem exec_ruleOf (serves : session.Serves name id number rule level) :
    ∃ own, (Act.ruleOf number).exec session = (.ok (some (own, rule)), session) := by
  obtain ⟨own, found, -⟩ := serves.kept
  exact ⟨own, Act.exec_ruleOf (.kept serves.on found)⟩

/-- Only the level of the logger decides whether an event is looked at. -/
theorem isEnabled_eq (serves : session.Serves name id number rule level) (positive : 1 ≤ level.rank)
    (rank : Int) : session.loggers.isEnabled (some name) rank = decide (level.rank ≤ rank) := by
  have own : (session.loggers.get (some name)).level ≠ 0 := by
    rw [serves.level_eq]
    omega
  rw [LoggerTree.isEnabled, LoggerTree.effectiveLevel_of_level own, serves.level_eq]
  by_cases reached : level.rank ≤ rank
  · have above : 0 < rank := by omega
    simp [reached, above]
  · simp [reached]

/-- A record is written once, unless the rule denies it. -/
theorem output_eq (serves : session.Serves name id number rule level) {context : Context}
    {record : Record} {outcome : Value}
    (judged : Logger.ruleOutcome rule session.registry context record = .ok outcome) :
    Act.output session context (some name) record =
      .ok (if Rule.denies outcome then "" else Act.lineOf record) := by
  obtain ⟨own, -, attached⟩ := serves.kept
  have admits : (session.loggers.get (some name)).admits session.registry context record =
      .ok (!Rule.denies outcome) := by
    rw [Logger.admits, attached, List.map_singleton, List.allM_cons, judged]
    dsimp only [Except.map]
    cases Rule.denies outcome <;> rfl
  rw [Act.output, admits, serves.handlerCount_eq]
  cases Rule.denies outcome with
  | true => rfl
  | false => simp [Except.map, String.join]

/-- The output of an event whose record is judged in a known way. -/
theorem exec_log (serves : session.Serves name id number rule level) (positive : 1 ≤ level.rank)
    (context fields : Context) {rank : Int} {message : Value} {arguments : List Value}
    {outcome : Value}
    (judged : ∀ record, Record.new session.clock name rank message arguments none = .ok record →
      Logger.ruleOutcome rule session.registry context (record.withContext fields) = .ok outcome) :
    ∃ result, (Act.log context (some name) rank message arguments fields).exec session =
        (result, session) ∧
      result.toOption.getD "" = if decide (level.rank ≤ rank) && !Rule.denies outcome then
        Event.textOf (Event.lineAt session.clock (some name) rank message arguments fields)
      else "" := by
  have enabled := serves.isEnabled_eq positive rank
  by_cases reached : level.rank ≤ rank
  · rw [decide_eq_true reached] at enabled
    rw [decide_eq_true reached, Bool.true_and]
    cases made : Record.new session.clock (LoggerTree.nameOf (some name)) rank message arguments
        none with
    | error failure =>
        refine ⟨.error failure, by simp [Act.log, Act.exec_bind, enabled, made], ?_⟩
        simp [Event.lineAt, made, Except.bind, Event.textOf, Except.toOption]
    | ok record =>
        refine ⟨_, Act.exec_log made fields, ?_⟩
        rw [if_pos enabled, serves.output_eq (judged record made), Event.lineAt, made]
        cases Rule.denies outcome <;> rfl
  · rw [decide_eq_false reached] at enabled
    refine ⟨.ok "", by simp [Act.log, Act.exec_bind, enabled], ?_⟩
    rw [decide_eq_false reached]
    rfl

end Session.Serves

/-- What admitted events write, in their order. -/
def admittedText (admits : Int → Context → Bool) (events : List Event) : String :=
  String.join ((events.filter fun event => admits event.rank event.context).map fun event =>
    Event.textOf event.line)

/-- Events are written in order. -/
theorem admittedText_append (admits : Int → Context → Bool) (first second : List Event) :
    admittedText admits (first ++ second) =
      admittedText admits first ++ admittedText admits second := by
  rw [admittedText, List.filter_append, List.map_append, String.join_append]
  rfl

/-- One event is written or not. -/
theorem admittedText_single (admits : Int → Context → Bool) (event : Event) :
    admittedText admits [event] =
      if admits event.rank event.context then Event.textOf event.line else "" := by
  by_cases admitted : admits event.rank event.context <;>
    simp [admittedText, admitted, String.join]

/-- An admission that is the judgement of a rule behind the gate of a level. -/
def Judges (rule : Rule) (level : Level) (admits : Int → Context → Bool) : Prop :=
  ∀ (grade : Level) (context : Context), context.IsNamed →
    admits grade.rank context = (decide (level.rank ≤ grade.rank) &&
      !Rule.denies (rule.outcome .severity grade (Snapshot.ofEntries context)))

namespace Session.Serves

variable {session : Session} {name id : String} {number : Nat} {rule : Rule} {level : Level}
  {admits : Int → Context → Bool} {context : Context}

/-- A plain event is written exactly if it is admitted in the ambient context. -/
theorem perform_log (serves : session.Serves name id number rule level) (positive : 1 ≤ level.rank)
    (judges : Judges rule level admits) (target : LoggerTree.target name = some name)
    (named : context.IsNamed) (rank : Int) (message : Literal) (arguments : List Literal) :
    let operation := Operation.log name rank message arguments
    ∃ answer, (operation.perform context).exec session = (answer, session) ∧
      (Step.operation operation).output answer =
        admittedText admits (operation.event? context session).toList := by
  intro operation
  have read := Operation.exec_log context session name rank message arguments
  rw [target, serves.ensured_eq] at read
  dsimp only [operation, Operation.event?]
  rw [read]
  cases message.read session.registry with
  | error failure => exact ⟨.error failure, rfl, rfl⟩
  | ok content =>
      cases Literal.readItems session.registry arguments with
      | error failure => exact ⟨.error failure, rfl, rfl⟩
      | ok values =>
          have ranked := Registry.rank_ofNumber serves.registry rank
          obtain ⟨result, done, output⟩ := serves.exec_log positive context [] fun record made => by
            change Logger.ruleOutcome rule session.registry context record = .ok
              (rule.outcome .severity (session.registry.ofNumber rank) (Snapshot.ofEntries context))
            rw [Logger.ruleOutcome_int rule _ context (Record.new_cases made).2.1,
              Record.snapshot?_of_unmarked (Record.contextEntries_new made), Option.getD_none]
          have judged := judges (session.registry.ofNumber rank) context named
          rw [ranked] at judged
          refine ⟨result.map .text, ?_, ?_⟩
          · change (Answer.text <$> Act.log context (some name) rank content values []).exec session = _
            rw [Act.exec_map, done]
          · rw [Option.toList_some, admittedText_single, judged, target, ← output]
            cases result <;> rfl

/-- A call with a named configuration fails exactly if a field has the name of a parameter. -/
theorem exec_callConfig (serves : session.Serves name id number rule level)
    (extra : Fields String Value) :
    (Act.callConfig (some (some id)) extra).exec session =
      if parameterNames.any (extra.has ·) then (.error .wrongArguments, session)
      else (.ok (some (some number), extra), session) := by
  have found := Act.exec_findConfig serves.named
  have split : parameterNames.any (extra.has ·) =
      (["logger", "level", "message"].any (extra.has ·) || extra.has "config") := by
    simp [parameterNames, Bool.or_assoc]
  rw [split, ← Fields.isSome_get?]
  unfold Act.callConfig
  by_cases reserved : ["logger", "level", "message"].any (extra.has ·)
  · cases extra.get? "config" <;> simp [reserved]
  · cases extra.get? "config" with
    | some value => simp [reserved]
    | none => simp [reserved, found, Except.map]

/-- A call of the logger is read before anything else happens. -/
theorem exec_call (serves : session.Serves name id number rule level)
    (target : LoggerTree.target name = some name) (given message : Literal)
    (config : ConfigArgument) (extra : List (String × Literal)) :
    ((Operation.logWithContext name given message config extra).perform context).exec session =
      match readCall session.registry given message extra with
      | .error failure => (.error failure, session)
      | .ok (given, message, extra) =>
        (Act.callConfig config extra >>= fun configured =>
          Act.logCall context (some name) given message configured.1 configured.2).exec session := by
  have read := Operation.exec_logWithContext context session name given message config extra
  rw [target, serves.ensured_eq] at read
  exact read

/-- A call whose level is known writes its event exactly if the rule lets the merged context pass and
the level of the logger is reached. -/
theorem exec_logCall (serves : session.Serves name id number rule level) (positive : 1 ≤ level.rank)
    (context : Context) {value : Value} {grade : Level}
    (resolved : session.registry.resolve value none = .ok grade) (content : Value)
    (fields : Fields String Value) :
    ∃ answer, (Act.logCall context (some name) value content (some (some number)) fields).exec
        session = (answer, session) ∧
      ∀ given message config extra,
        (Step.operation (.logWithContext name given message config extra)).output answer =
          if decide (level.rank ≤ grade.rank) && !Rule.denies
            (rule.outcome .severity grade (Snapshot.ofEntries (context.merge fields))) then
            Event.textOf (Event.lineAt session.clock (some name) grade.rank content []
              (context.merge fields))
          else "" := by
  obtain ⟨own, found⟩ := serves.exec_ruleOf
  have chosen : (Act.configOrDefault (some number)).exec session = (.ok number, session) := rfl
  have logged := Act.exec_logWithContext chosen found resolved context (some name) content fields
  dsimp only at logged
  rw [Option.any_some] at logged
  rw [Act.logCall]
  cases denied : Rule.denies
      (rule.outcome .severity grade (Snapshot.ofEntries (context.merge fields))) with
  | true =>
      rw [if_pos denied] at logged
      rw [Act.exec_bind_ok logged]
      refine ⟨_, rfl, ?_⟩
      simp [Step.output]
  | false =>
      rw [denied, if_neg Bool.false_ne_true, Act.exec_map] at logged
      obtain ⟨result, done, output⟩ := serves.exec_log positive context (context.merge fields)
        fun record made => Logger.ruleOutcome_merge serves.registry rule context fields grade
          (Record.contextEntries_new made) (Record.new_cases made).2.1
      rw [denied] at output
      rw [done] at logged
      rw [← output]
      cases result with
      | error failure =>
          rw [Act.exec_bind_error logged]
          exact ⟨_, rfl, fun _ _ _ _ => rfl⟩
      | ok written =>
          rw [Act.exec_bind_ok logged]
          exact ⟨_, rfl, fun _ _ _ _ => rfl⟩

/-- An event with a context is written exactly if it is admitted in the merged context. -/
theorem perform_logWithContext (serves : session.Serves name id number rule level)
    (positive : 1 ≤ level.rank) (judges : Judges rule level admits)
    (target : LoggerTree.target name = some name) (named : context.IsNamed)
    (given message : Literal) (extra : List (String × Literal)) :
    let operation := Operation.logWithContext name given message (some (some id)) extra
    ∃ answer, (operation.perform context).exec session = (answer, session) ∧
      (Step.operation operation).output answer =
        admittedText admits (operation.event? context session).toList := by
  intro operation
  rw [serves.exec_call target]
  dsimp only [operation, Operation.event?]
  cases readCall session.registry given message extra with
  | error failure => exact ⟨.error failure, rfl, rfl⟩
  | ok call =>
      obtain ⟨value, content, fields⟩ := call
      have configured := serves.exec_callConfig fields
      by_cases reserved : parameterNames.any (fields.has ·)
      · rw [if_pos reserved] at configured
        dsimp only
        rw [if_pos reserved, Act.exec_bind_error configured]
        exact ⟨_, rfl, rfl⟩
      · rw [if_neg reserved] at configured
        dsimp only
        rw [if_neg reserved, Act.exec_bind_ok configured]
        cases resolved : session.registry.resolve value none with
        | error failure =>
            rw [Act.logCall,
              Act.exec_bind_error (Act.exec_logWithContext_unknown resolved _ _ _ _ _)]
            exact ⟨_, rfl, rfl⟩
        | ok grade =>
            obtain ⟨answer, done, output⟩ :=
              serves.exec_logCall positive context resolved content fields
            refine ⟨answer, done, ?_⟩
            rw [output, Option.toList_some, admittedText_single,
              judges grade _ (named.merge fields), target]

/-- Scopes and requests do not matter. -/
theorem of_scopes (serves : session.Serves name id number rule level) (scopes : Fields String Scope)
    (requests : Nat) : Serves { session with
      scopes
      requests } name id number rule level :=
  ⟨serves.registry, serves.named, serves.on, serves.kept, serves.known, serves.level_eq,
    serves.handlerCount_eq⟩

/-- A registration that stores its level elsewhere leaves the logger to its configuration. -/
theorem of_register (serves : session.Serves name id number rule level) {given : Value} {rank : Int}
    {grade : Level} {registry : Registry} {other : Option String}
    (registered : session.registry.register given rank = .ok (grade, registry))
    (free : other ≠ some id) :
    (Session.storing { session with registry } other (.level grade)).Serves name id number rule
      level := by
  have reached := Registry.Reachable.register serves.registry registered
  cases other with
  | none =>
      exact ⟨reached, serves.named, serves.on, serves.kept, serves.known, serves.level_eq,
        serves.handlerCount_eq⟩
  | some other =>
      refine ⟨reached, ?_, serves.on, serves.kept, serves.known, serves.level_eq,
        serves.handlerCount_eq⟩
      have different : (other == id) = false := by
        rw [beq_eq_false_iff_ne]
        exact fun same => free (congrArg some same)
      rw [Session.storing, Fields.get?_put_of_ne _ _ different]
      exact serves.named

end Session.Serves

section Run

variable {session : Session} {ambient : Ambient} {name id : String} {number : Nat} {rule : Rule}
  {level : Level} {admits : Int → Context → Bool}

/-- Every step of the run keeps the logger in service and writes exactly its admitted event. -/
theorem output_of_step (positive : 1 ≤ level.rank) (judges : Judges rule level admits)
    (target : LoggerTree.target name = some name)
    (serves : session.Serves name id number rule level) (names : HasNames ambient session)
    {step : Step} (uses : step.Uses name id) :
    let later := step.run ambient session
    later.2.2.Serves name id number rule level ∧ HasNames later.2.1 later.2.2 ∧
      step.output later.1 = admittedText admits (step.event? ambient session).toList := by
  intro later
  cases uses with
  | @change change text =>
      dsimp only [later]
      rw [Step.run]
      cases applied : change.apply session.registry ambient.context with
      | error failure => exact ⟨serves, names, rfl⟩
      | ok context =>
          exact ⟨serves, ⟨ContextChange.isNamed_apply text names.context applied, names.saved⟩, rfl⟩
  | scope scope =>
      obtain ⟨scopes, requests, same⟩ := scope.run_frame ambient session
      dsimp only [later]
      rw [Step.run]
      refine ⟨?_, scope.hasNames_run names, ?_⟩
      · rw [same]
        exact serves.of_scopes scopes requests
      · rfl
  | @register other grade rank free =>
      dsimp only [later]
      obtain ⟨failure, done⟩ | ⟨given, found, registry, registered, done⟩ :=
        Operation.register_cases ambient.context other grade rank session
      · rw [Step.run_operation done]
        exact ⟨serves, names, rfl⟩
      · rw [Step.run_operation done]
        refine ⟨serves.of_register registered free, ⟨names.context, ?_⟩, rfl⟩
        cases other <;> exact names.saved
  | log rank message arguments =>
      obtain ⟨answer, done, output⟩ := serves.perform_log positive judges target names.context rank
        message arguments
      dsimp only [later]
      rw [Step.run_operation done]
      exact ⟨serves, names, output⟩
  | logWithContext given message extra =>
      obtain ⟨answer, done, output⟩ := serves.perform_logWithContext positive judges target
        names.context given message extra
      dsimp only [later]
      rw [Step.run_operation done]
      exact ⟨serves, names, output⟩

/-- A run writes its admitted events and nothing else. -/
theorem output_of_steps (positive : 1 ≤ level.rank) (judges : Judges rule level admits)
    (target : LoggerTree.target name = some name)
    (serves : session.Serves name id number rule level) (names : HasNames ambient session)
    {steps : List Step} (uses : ∀ step ∈ steps, step.Uses name id) :
    stdout steps (runAll ambient session steps).1 =
      admittedText admits (events ambient session steps) := by
  induction steps generalizing ambient session with
  | nil => rfl
  | cons step rest ih =>
      obtain ⟨still, named, output⟩ :=
        output_of_step positive judges target serves names (uses step List.mem_cons_self)
      have others := ih still named fun other member => uses other (List.mem_cons_of_mem _ member)
      rw [events, admittedText_append, ← output, ← others, runAll]
      simp only [stdout, List.zipWith_cons_cons, String.join_cons]

end Run

end LogGate

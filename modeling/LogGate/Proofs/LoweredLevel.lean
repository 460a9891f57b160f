import LogGate.Proofs.FilteredOutput
import LogGate.Proofs.LineCount
import LogGate.Proofs.StandingRules

/-!
Lowered levels. Two runs of the same steps differ in the level that one logger was set up with. What the run
with the higher level writes, the run with the lower level writes too, unless the lower level is zero: then
the logger has no level of its own, and the loggers above can have a higher one than it was given before.
-/

namespace LogGate

namespace LoggerTree

/-- The root inherits no level. -/
theorem effectiveLevel_none (tree : LoggerTree) :
    tree.effectiveLevel none = (tree.get none).level := by
  have alone : (tree.chain none).map (·.level) = [(tree.get none).level] := rfl
  rw [effectiveLevel, alone]
  by_cases zero : (tree.get none).level = 0
  · rw [List.find?_cons_of_neg (by simpa using zero), zero]
    rfl
  · rw [List.find?_cons_of_pos (by simpa using zero), Option.getD_some]

/-- The level that a logger has from those above it, if it has none of its own. -/
def inherited (tree : LoggerTree) (name : String) : Int :=
  tree.effectiveLevel (tree.get (some name)).parent

/-- Trees that differ in the level of one logger alone, and in the numbers of rules. -/
structure Lowered (name : String) (hi lo : Int) (high low : LoggerTree) : Prop where
  shape : low.bare = high.bare
  levels : ∀ target, target ≠ some name → (low.get target).level = (high.get target).level
  high_level : (high.get (some name)).level = hi
  low_level : (low.get (some name)).level = lo
  handlers : ∀ target, (low.get target).handlers = (high.get target).handlers
  rules : ∀ target, (low.get target).rules.map (·.2) = (high.get target).rules.map (·.2)

/-- Every event that is enabled under the level `hi` is enabled under the level `lo`: zero has not taken the
place of a level that is lower than the inherited one. -/
def Carries (hi lo inherited : Int) : Prop := lo ≠ 0 ∨ hi ≤ 0 ∨ inherited ≤ hi

namespace Lowered

variable {name : String} {hi lo : Int} {high low : LoggerTree}

/-- The trees still differ in one level once a logger is there in both. -/
theorem ensure (lowered : Lowered name hi lo high low) (other : Option String) :
    Lowered name hi lo (high.ensure other) (low.ensure other) := by
  refine ⟨?_, fun target apart => ?_, ?_, ?_, fun target => ?_, fun target => ?_⟩
  · rw [bare_ensure, bare_ensure, lowered.shape]
  · rw [level_ensure, level_ensure, lowered.levels target apart]
  · rw [level_ensure, lowered.high_level]
  · rw [level_ensure, lowered.low_level]
  · rw [handlers_ensure, handlers_ensure, lowered.handlers]
  · rw [rules_ensure, rules_ensure, lowered.rules]

/-- The trees have the same parents. -/
theorem parent_eq (lowered : Lowered name hi lo high low) (target : Option String) :
    (low.get target).parent = (high.get target).parent := by
  have same : (low.bare.get target).parent = (high.bare.get target).parent := by rw [lowered.shape]
  rwa [get_bare, get_bare] at same

variable (lowered : Lowered name hi lo high low) (highLayered : high.Layered)
  (lowLayered : low.Layered)

include lowered highLayered lowLayered

/-- The loggers above the one that differs have the same levels. -/
theorem effectiveLevel_above {target : Option String}
    (shorter : ∀ other, target = some other → other.length < name.length) :
    low.effectiveLevel target = high.effectiveLevel target := by
  -- Names get shorter on the way up, so that it never comes to the logger that differs.
  induction target using highLayered.induction with
  | root => rw [effectiveLevel_none, effectiveLevel_none, lowered.levels none (by simp)]
  | named other ih =>
      have short := shorter other rfl
      have apart : some other ≠ some name := fun same => by
        rw [Option.some.inj same] at short
        exact Nat.lt_irrefl _ short
      rw [lowLayered.effectiveLevel_some, highLayered.effectiveLevel_some, lowered.levels _ apart,
        lowered.parent_eq, ih]
      intro parent above
      exact Nat.lt_trans (highLayered.parent_lt above) short

/-- What the logger inherits does not depend on its own level. -/
theorem inherited_eq : low.inherited name = high.inherited name := by
  rw [inherited, inherited, lowered.parent_eq]
  exact lowered.effectiveLevel_above highLayered lowLayered fun _ above => highLayered.parent_lt above

/-- Every logger has the same level in both trees, or has its level from the one that differs. -/
theorem effectiveLevel_cases (target : Option String) :
    low.effectiveLevel target = high.effectiveLevel target ∨
      high.effectiveLevel target = high.effectiveLevel (some name) ∧
        low.effectiveLevel target = low.effectiveLevel (some name) := by
  induction target using highLayered.induction with
  | root => exact .inl (by rw [effectiveLevel_none, effectiveLevel_none, lowered.levels none (by simp)])
  | named other ih =>
      by_cases same : some other = some name
      · rw [same]
        exact .inr ⟨rfl, rfl⟩
      · rw [lowLayered.effectiveLevel_some other, highLayered.effectiveLevel_some other,
          lowered.levels _ same, lowered.parent_eq]
        split
        · exact ih
        · exact .inl rfl

/-- A level of zero gives way to the level that is inherited. -/
theorem effectiveLevel_own :
    high.effectiveLevel (some name) = (if hi = 0 then high.inherited name else hi) ∧
      low.effectiveLevel (some name) = if lo = 0 then high.inherited name else lo := by
  rw [lowLayered.effectiveLevel_some, highLayered.effectiveLevel_some, lowered.high_level,
    lowered.low_level, ← lowered.inherited_eq highLayered lowLayered]
  exact ⟨by rw [lowered.inherited_eq highLayered lowLayered]; rfl, rfl⟩

/-- What is enabled under the higher level stays enabled under the lower one. -/
theorem isEnabled (lower : lo ≤ hi) (carries : Carries hi lo (high.inherited name))
    {target : Option String} {level : Int} (enabled : high.isEnabled target level = true) :
    low.isEnabled target level = true := by
  obtain ⟨own_high, own_low⟩ := lowered.effectiveLevel_own highLayered lowLayered
  rw [LoggerTree.isEnabled, Bool.and_eq_true, decide_eq_true_eq, decide_eq_true_eq] at enabled ⊢
  refine ⟨enabled.1, ?_⟩
  obtain same | ⟨from_high, from_low⟩ := lowered.effectiveLevel_cases highLayered lowLayered target
  · rw [same]
    exact enabled.2
  · rw [from_high, own_high] at enabled
    rw [from_low, own_low]
    rw [Carries] at carries
    -- Each of the two levels is the own one or, if this is zero, the inherited one.
    split at enabled <;> split <;> omega

/-- Otherwise the events between the higher level and the inherited one are lost. -/
theorem isEnabled_lost (lost : ¬Carries hi lo (high.inherited name)) {level : Int}
    (reached : hi ≤ level) (below : level < high.inherited name) :
    high.isEnabled (some name) level = true ∧ low.isEnabled (some name) level = false := by
  obtain ⟨own_high, own_low⟩ := lowered.effectiveLevel_own highLayered lowLayered
  rw [Carries] at lost
  have zero : lo = 0 := by omega
  have positive : hi ≠ 0 := by omega
  rw [if_pos zero] at own_low
  rw [if_neg positive] at own_high
  rw [LoggerTree.isEnabled, LoggerTree.isEnabled, own_high, own_low]
  constructor
  · rw [Bool.and_eq_true, decide_eq_true_eq, decide_eq_true_eq]
    omega
  · rw [Bool.and_eq_false_iff, decide_eq_false_iff_not, decide_eq_false_iff_not]
    omega

end Lowered

end LoggerTree

/-- What is written in the first place is written in the second one, too. -/
def Kept (first second : String) : Prop := first = "" ∨ second = first

/-- Sessions that are alike but for the level of one logger. -/
structure Session.Lowered (name : String) (hi lo : Int) (high low : Session) : Prop where
  alike : high.Alike low
  loggers : LoggerTree.Lowered name hi lo high.loggers low.loggers

namespace Session.Lowered

variable {name : String} {hi lo : Int} {high low : Session}

/-- The sessions still differ in one level once a logger is there in both. -/
theorem ensured (lowered : Session.Lowered name hi lo high low) (target : Option String) :
    Session.Lowered name hi lo (high.ensured target) (low.ensured target) := by
  obtain ⟨loggers, rules, built, rfl⟩ := lowered.alike.same
  exact ⟨⟨⟨_, rules, built, rfl⟩, lowered.alike.standing, lowered.alike.reachable.tail (.ensured target),
    lowered.alike.reachable_other.tail (.ensured target)⟩, lowered.loggers.ensure target⟩

/-- What is enabled with the higher level is enabled with the lower one. -/
theorem isEnabled (lowered : Session.Lowered name hi lo high low) (lower : lo ≤ hi)
    (carries : LoggerTree.Carries hi lo (high.loggers.inherited name)) {target : Option String}
    {level : Int} (enabled : high.loggers.isEnabled target level = true) :
    low.loggers.isEnabled target level = true :=
  lowered.loggers.isEnabled lowered.alike.reachable.consistent.loggers
    lowered.alike.reachable_other.consistent.loggers lower carries enabled

/-- An event that is written is written by the same handlers, with the same line. -/
theorem written (lowered : Session.Lowered name hi lo high low) (lower : lo ≤ hi)
    (carries : LoggerTree.Carries hi lo (high.loggers.inherited name)) (context : Context)
    (target : Option String) (level : Int) (message : Value) (arguments : List Value)
    (fields : Context) :
    Kept (high.written context target level message arguments fields)
      (low.written context target level message arguments fields) := by
  have carried : high.loggers.isEnabled target level = true →
      low.loggers.isEnabled target level = true := lowered.isEnabled lower carries
  have rules := lowered.loggers.rules target
  have handlers : low.loggers.handlerCount target = high.loggers.handlerCount target :=
    LoggerTree.handlerCount_congr lowered.loggers.shape lowered.loggers.handlers
  obtain ⟨loggers, kept, built, rfl⟩ := lowered.alike.same
  have output (record : Record) : Act.output (high.keeping loggers kept built) context target record =
      Act.output high context target record := by
    rw [Act.output, Act.output, Logger.admits, Logger.admits, rules, handlers]
    rfl
  rw [Session.written, Session.written, show (high.keeping loggers kept built).clock = high.clock from rfl]
  cases Record.new high.clock (LoggerTree.nameOf target) level message arguments none with
  | error failure => exact .inl rfl
  | ok record =>
      dsimp only
      by_cases enabled : high.loggers.isEnabled target level
      · rw [if_pos enabled, if_pos (carried enabled), output]
        exact .inr rfl
      · rw [if_neg enabled]
        exact .inl rfl

/-- A plain event. -/
theorem log (lowered : Session.Lowered name hi lo high low) (context : Context)
    (target : Option String) (level : Int) (message : Value) (arguments : List Value)
    (fields : Context) (lower : lo ≤ hi) :
    ∃ first second, (Act.log context target level message arguments fields).exec high = (first, high) ∧
      (Act.log context target level message arguments fields).exec low = (second, low) ∧
      (LoggerTree.Carries hi lo (high.loggers.inherited name) →
        Kept (first.toOption.getD "") (second.toOption.getD "")) := by
  obtain ⟨first, done, output⟩ :=
    Act.exec_log_written high context target level message arguments fields
  obtain ⟨second, other_done, other_output⟩ :=
    Act.exec_log_written low context target level message arguments fields
  refine ⟨first, second, done, other_done, fun carries => ?_⟩
  rw [output, other_output]
  exact lowered.written lower carries context target level message arguments fields

/-- The text of an event with a context. -/
def textOf (result : Except Failure (Bool × String)) : String := (result.toOption.map (·.2)).getD ""

/-- Once its rule is found, an event is judged alike in both sessions, and written if it is let pass. -/
theorem judged (lowered : Session.Lowered name hi lo high low) (lower : lo ≤ hi)
    {rule other_rule : Option (Nat × Rule)} (rules : other_rule.map (·.2) = rule.map (·.2))
    (context : Context) (target : Option String) (level : Level) (message : Value) (merged : Context) :
    let denied (kept : Nat × Rule) : Bool :=
      Rule.denies (kept.2.outcome .severity level (Snapshot.ofEntries merged))
    let rest (session : Session) (found : Option (Nat × Rule)) :
        Except Failure (Bool × String) × Session :=
      if found.any denied then (.ok (false, ""), session)
      else ((true, ·) <$> Act.log context target level.rank message [] merged).exec session
    ∃ first second, rest high rule = (first, high) ∧ rest low other_rule = (second, low) ∧
      (LoggerTree.Carries hi lo (high.loggers.inherited name) → Kept (textOf first) (textOf second)) := by
  intro denied rest
  have same : other_rule.any denied = rule.any denied := by
    have mapped := congrArg
      (Option.any fun kept => Rule.denies (kept.outcome .severity level (Snapshot.ofEntries merged))) rules
    rwa [Option.any_map, Option.any_map] at mapped
  dsimp only [rest]
  rw [same]
  by_cases out : rule.any denied
  · rw [if_pos out, if_pos out]
    exact ⟨_, _, rfl, rfl, fun _ => .inl rfl⟩
  · obtain ⟨written, other_written, logging, other_logging, kept⟩ :=
      lowered.log context target level.rank message [] merged lower
    rw [if_neg out, if_neg out, Act.exec_map, Act.exec_map, logging, other_logging]
    refine ⟨_, _, rfl, rfl, fun carries => ?_⟩
    have both := kept carries
    cases written <;> cases other_written <;> exact both

/-- An event with a context is judged by the same rule in both sessions. -/
theorem logWithContext (lowered : Session.Lowered name hi lo high low) (lower : lo ≤ hi)
    (context : Context) (target : Option String) (given message : Value) (config : Option Nat)
    (extra : Fields String Value) :
    ∃ first later second other,
      (Act.logWithContext context target given message config extra).exec high = (first, later) ∧
      (Act.logWithContext context target given message config extra).exec low = (second, other) ∧
      Session.Lowered name hi lo later other ∧ later.loggers = high.loggers ∧
      (LoggerTree.Carries hi lo (high.loggers.inherited name) → Kept (textOf first) (textOf second)) := by
  have same := lowered.alike.registry_eq
  cases resolved : high.registry.resolve given none with
  | error failure =>
      refine ⟨_, _, _, _, Act.exec_logWithContext_unknown resolved _ _ _ _ _,
        Act.exec_logWithContext_unknown (same ▸ resolved) _ _ _ _ _, lowered, rfl, fun _ => .inl rfl⟩
  | ok level =>
      have other_resolved : low.registry.resolve given none = .ok level := same ▸ resolved
      obtain ⟨chosen, middle, other_middle, choosing, other_choosing, alike, loggers, other_loggers⟩ :=
        Act.configOrDefault_of_alike lowered.alike config
      cases chosen with
      | error failure =>
          exact ⟨_, _, _, _, Act.exec_logWithContext_unchosen choosing resolved _ _ _ _,
            Act.exec_logWithContext_unchosen other_choosing other_resolved _ _ _ _,
            ⟨alike, by rw [loggers, other_loggers]; exact lowered.loggers⟩, loggers,
            fun _ => .inl rfl⟩
      | ok number =>
          obtain ⟨found, later, other_found, other, finding, other_finding, rules, still, loggers_later,
            loggers_other⟩ := Act.ruleOf_of_alike alike number
          rw [loggers] at loggers_later
          rw [other_loggers] at loggers_other
          have lasting : Session.Lowered name hi lo later other :=
            ⟨still, by rw [loggers_later, loggers_other]; exact lowered.loggers⟩
          obtain _ | rule := found <;> obtain _ | other_rule := other_found
          · exact ⟨_, _, _, _, Act.exec_logWithContext_unbuilt choosing finding resolved _ _ _ _,
              Act.exec_logWithContext_unbuilt other_choosing other_finding other_resolved _ _ _ _,
              lasting, loggers_later, fun _ => .inl rfl⟩
          · contradiction
          · contradiction
          · have first := Act.exec_logWithContext choosing finding resolved context target message extra
            have second := Act.exec_logWithContext other_choosing other_finding other_resolved context
              target message extra
            obtain ⟨written, other_written, judged, other_judged, kept⟩ := lasting.judged lower
              (Except.ok.inj rules) context target level message (context.merge extra)
            rw [loggers_later] at kept
            exact ⟨written, later, other_written, other, first.trans judged, second.trans other_judged,
              lasting, loggers_later, kept⟩

end Session.Lowered

/-- The steps of code at work: it changes and reads its context, enters and leaves scopes, and logs events. -/
inductive Step.AtWork : Step → Prop
  | change (change : ContextChange) : AtWork (.change change)
  | scope (scope : ScopeStep) : AtWork (.scope scope)
  | showContext : AtWork (.operation .showContext)
  | getContext (name default : Literal) : AtWork (.operation (.getContext name default))
  | log (name : String) (level : Int) (message : Literal) (arguments : List Literal) :
      AtWork (.operation (.log name level message arguments))
  | logWithContext (name : String) (level message : Literal) (config : ConfigArgument)
      (extra : List (String × Literal)) :
      AtWork (.operation (.logWithContext name level message config extra))

/-- Scopes play no part in the loggers and the rules. -/
theorem ScopeStep.run_keeping (ambient : Ambient) (session : Session) (loggers : LoggerTree)
    (rules : Fields Nat (Nat × Rule)) (built : Nat) (step : ScopeStep) :
    step.run ambient (session.keeping loggers rules built) =
      let after := step.run ambient session
      (after.1, after.2.1, after.2.2.keeping loggers rules built) := by
  cases step with
  | enter scope fields =>
      simp only [run, Session.keeping]
      split <;> rfl
  | enterRequest scope request fields =>
      simp only [run, Session.keeping]
      split <;> rfl
  | leave scope failing =>
      simp only [run, leaveScope, Session.keeping]
      split
      · rfl
      · split <;> rfl

/-- Asking for the context changes nothing. -/
theorem Operation.exec_getContext (context : Context) (name default : Literal) (session : Session) :
    (((Operation.getContext name default).perform context).exec session).2 = session := by
  simp only [Operation.perform, Act.exec_bind, Act.exec_read, Act.exec_attempt, Act.exec_pure]
  cases name.read session.registry with
  | error failure => rfl
  | ok name =>
      dsimp only
      cases default.read session.registry with
      | error failure => rfl
      | ok default =>
          dsimp only
          cases Context.checkName name <;> rfl

/-- Something else in place of a configuration ends a call. -/
theorem Act.exec_logCall_none (context : Context) (target : Option String) (level message : Value)
    (extra : Fields String Value) (session : Session) : ∃ failure,
      (logCall context target level message none extra).exec session = (.error failure, session) := by
  have read := exec_attempt (session.registry.resolve level none) session
  rw [logCall, exec_bind_ok (exec_get session)]
  cases resolved : session.registry.resolve level none with
  | error failure =>
      rw [resolved] at read
      exact ⟨failure, exec_bind_error read _⟩
  | ok grade =>
      rw [resolved] at read
      exact ⟨.memberMissing, exec_bind_ok read _⟩

/-- A call with a configuration logs with it. -/
theorem Act.exec_logCall_some {context : Context} {target : Option String} {level message : Value}
    {config : Option Nat} {extra : Fields String Value} {session later : Session}
    {result : Except Failure (Bool × String)}
    (logged : (logWithContext context target level message config extra).exec session =
      (result, later)) :
    (logCall context target level message (some config) extra).exec session =
      (result.map fun written => .logged written.1 written.2, later) := by
  rw [logCall, exec_bind, logged]
  cases result <;> rfl

section Work

variable {name : String} {hi lo : Int} {high low : Session}

/-- What a step comes to in the two sessions: the same context, sessions that differ as before, and every
text that the first one writes. -/
structure WorksAlike (name : String) (hi lo : Int) (step : Step)
    (first second : Except Failure Answer × Ambient × Session) : Prop where
  ambient : second.2.1 = first.2.1
  lowered : Session.Lowered name hi lo first.2.2 second.2.2
  kept : LoggerTree.Carries hi lo (first.2.2.loggers.inherited name) →
    Kept (step.output first.1) (step.output second.1)

/-- A plain event that is written with the higher level is written with the lower one. -/
theorem Session.Lowered.run_log (lowered : Session.Lowered name hi lo high low) (lower : lo ≤ hi)
    (ambient : Ambient) (target : String) (level : Int) (message : Literal)
    (arguments : List Literal) :
    let event := Step.operation (.log target level message arguments)
    WorksAlike name hi lo event (event.run ambient high) (event.run ambient low) := by
  intro event
  obtain ⟨after, output⟩ := LogGate.run_log ambient high target level message arguments
  obtain ⟨other_after, other_output⟩ := LogGate.run_log ambient low target level message arguments
  have same := lowered.alike.registry_eq
  have ready := lowered.ensured (LoggerTree.target target)
  refine ⟨?_, ?_, fun carries => ?_⟩
  · rw [after, other_after]
  · rw [after, other_after]
    exact ready
  · rw [after] at carries
    rw [output, other_output, same]
    cases message.read high.registry with
    | error failure => exact .inl rfl
    | ok content =>
        cases Literal.readItems high.registry arguments with
        | error failure => exact .inl rfl
        | ok values => exact ready.written lower carries _ _ _ _ _ _

/-- An event with extra fields that is written with the higher level is written with the lower one. -/
theorem Session.Lowered.run_logWithContext (lowered : Session.Lowered name hi lo high low)
    (lower : lo ≤ hi) (ambient : Ambient) (target : String) (level message : Literal)
    (config : ConfigArgument) (extra : List (String × Literal)) :
    let event := Step.operation (.logWithContext target level message config extra)
    WorksAlike name hi lo event (event.run ambient high) (event.run ambient low) := by
  intro event
  have same := lowered.alike.registry_eq
  have read := Operation.exec_logWithContext ambient.context high target level message config extra
  have other_read :=
    Operation.exec_logWithContext ambient.context low target level message config extra
  have ready := lowered.ensured (LoggerTree.target target)
  rw [same] at other_read
  cases called : readCall high.registry level message extra with
  | error failure =>
      rw [called] at read other_read
      rw [Step.run_operation read, Step.run_operation other_read]
      exact ⟨rfl, ready, fun _ => .inl rfl⟩
  | ok call =>
      obtain ⟨given, content, fields⟩ := call
      rw [called] at read other_read
      obtain ⟨found, finding, other_finding⟩ := Act.callConfig_of_alike ready.alike config fields
      cases found with
      | error failure =>
          have done := read.trans (Act.exec_bind_error finding _)
          have other_done := other_read.trans (Act.exec_bind_error other_finding _)
          rw [Step.run_operation done, Step.run_operation other_done]
          exact ⟨rfl, ready, fun _ => .inl rfl⟩
      | ok configured =>
          obtain ⟨_ | chosen, rest⟩ := configured
          · obtain ⟨failure, ends⟩ := Act.exec_logCall_none ambient.context (LoggerTree.target target)
              given content rest (high.ensured (LoggerTree.target target))
            obtain ⟨other_failure, other_ends⟩ := Act.exec_logCall_none ambient.context
              (LoggerTree.target target) given content rest (low.ensured (LoggerTree.target target))
            have done := read.trans ((Act.exec_bind_ok finding _).trans ends)
            have other_done := other_read.trans ((Act.exec_bind_ok other_finding _).trans other_ends)
            rw [Step.run_operation done, Step.run_operation other_done]
            exact ⟨rfl, ready, fun _ => .inl rfl⟩
          · obtain ⟨first, later, second, other, logging, other_logging, lasting, loggers, kept⟩ :=
              ready.logWithContext lower ambient.context (LoggerTree.target target) given content chosen
                rest
            have done := read.trans ((Act.exec_bind_ok finding _).trans
              (Act.exec_logCall_some logging))
            have other_done := other_read.trans ((Act.exec_bind_ok other_finding _).trans
              (Act.exec_logCall_some other_logging))
            rw [Step.run_operation done, Step.run_operation other_done]
            refine ⟨rfl, lasting, fun carries => ?_⟩
            dsimp only at carries
            rw [loggers] at carries
            have both := kept carries
            cases first <;> cases second <;> exact both

/-- A step of code at work writes in the second session what it writes in the first one. -/
theorem Session.Lowered.run_step (lowered : Session.Lowered name hi lo high low) (lower : lo ≤ hi)
    {step : Step} (work : step.AtWork) (ambient : Ambient) :
    WorksAlike name hi lo step (step.run ambient high) (step.run ambient low) := by
  cases work with
  | change change =>
      obtain ⟨loggers, rules, built, rfl⟩ := lowered.alike.same
      rw [Step.run, Step.run, show (high.keeping loggers rules built).registry = high.registry from rfl]
      split <;> exact ⟨rfl, lowered, fun _ => .inl rfl⟩
  | scope scope =>
      have evolves := scope.evolves_run ambient high
      have other_evolves := scope.evolves_run ambient low
      obtain ⟨scopes, requests, framed⟩ := scope.run_frame ambient high
      obtain ⟨loggers, rules, built, rfl⟩ := lowered.alike.same
      rw [scope.run_keeping] at other_evolves
      dsimp only at other_evolves
      rw [framed] at evolves other_evolves
      rw [Step.run, Step.run, scope.run_keeping]
      refine ⟨rfl, ?_, fun _ => .inl rfl⟩
      dsimp only
      rw [framed]
      exact ⟨⟨⟨loggers, rules, built, rfl⟩, lowered.alike.standing,
        lowered.alike.reachable.trans evolves, lowered.alike.reachable_other.trans other_evolves⟩,
        lowered.loggers⟩
  | showContext => exact ⟨rfl, lowered, fun _ => .inl rfl⟩
  | getContext name default =>
      have still := Operation.exec_getContext ambient.context name default high
      have other_still := Operation.exec_getContext ambient.context name default low
      refine ⟨rfl, ?_, fun _ => .inl rfl⟩
      exact (still.symm ▸ other_still.symm ▸ lowered)
  | log target level message arguments => exact lowered.run_log lower ambient target level _ _
  | logWithContext target level message config extra =>
      exact lowered.run_logWithContext lower ambient target level message config extra

/-- Work leaves the sessions different in one level only. -/
theorem Session.Lowered.runAll (lowered : Session.Lowered name hi lo high low) (lower : lo ≤ hi)
    {steps : List Step} (work : ∀ step ∈ steps, step.AtWork) (ambient : Ambient) :
    (LogGate.runAll ambient low steps).2.1 = (LogGate.runAll ambient high steps).2.1 ∧
      Session.Lowered name hi lo (LogGate.runAll ambient high steps).2.2
        (LogGate.runAll ambient low steps).2.2 := by
  induction steps generalizing ambient high low with
  | nil => exact ⟨rfl, lowered⟩
  | cons step rest ih =>
      obtain ⟨first, others⟩ := List.forall_mem_cons.mp work
      obtain ⟨same, still, -⟩ := lowered.run_step lower first ambient
      obtain ⟨ambients, sessions⟩ := ih still others (step.run ambient high).2.1
      rw [LogGate.runAll, LogGate.runAll]
      dsimp only
      rw [same]
      exact ⟨ambients, sessions⟩

end Work

/-- A configuration that a logger can be set up with: it is as it was made, its level is known, and its rule
can be built, if it wants one. -/
structure Session.Usable (session : Session) (id : String) (number : Nat) (config : Config)
    (level : Level) : Prop where
  held : session.Holds number config
  named : session.objects.get? id = some (.config number)
  read : session.registry.resolve config.logLevel none = .ok level
  builds : config.isActive = true → ∃ rule, config.buildRule session.registry = .ok rule

namespace Session.Usable

variable {session : Session} {name id : String} {number : Nat} {config : Config} {level : Level}

/-- The configuration has a rule. -/
theorem standing (usable : session.Usable id number config level) :
    ∃ rule, session.standing number = .ok rule := by
  rw [usable.held.standing_eq]
  split
  · next on =>
    obtain ⟨rule, built⟩ := usable.builds on
    exact ⟨some rule, by rw [built]; rfl⟩
  · exact ⟨none, rfl⟩

/-- A logger without a handler is set up with it. -/
theorem run_getLogger (usable : session.Usable id number config level) {rule : Option Rule}
    (stands : session.standing number = .ok rule) (target : LoggerTree.target name = some name)
    (bare : (session.loggers.get (some name)).handlers = 0) (ambient : Ambient) :
    ∃ view later rules built found, found.map (·.2) = rule ∧
      (Step.operation (.getLogger (.text name) (some id))).run ambient session =
        (.ok (.logger view), ambient, later) ∧
      later = (session.keeping (session.loggers.ensure (some name)) rules built).change (some name)
        (Logger.equipped · level found) ∧
      ∀ other, later.standing other = session.standing other := by
  have known : (session.ensured (some name)).registry.resolve
      ((session.ensured (some name)).config number).logLevel none = .ok level := by
    have read := usable.read
    rwa [← usable.held.config_eq] at read
  cases looked : (Act.ruleOf number).exec (session.ensured (some name)) with
  | mk result later =>
      obtain ⟨same, ⟨rules, built, rfl⟩, kept⟩ := Act.standing_of_ruleOf looked
      obtain _ | found := result
      · rw [show (session.ensured (some name)).standing number = session.standing number from rfl,
          stands] at same
        contradiction
      have judged : found.map (·.2) = rule := Except.ok.inj (same.trans stands)
      have done := Act.exec_setUp (some name) known looked
      rw [← target] at done bare
      have got := Act.exec_getLogger_of_bare bare done
      rw [target] at got
      have read : (Act.read (.text name)).exec session = (.ok (.text name), session) :=
        Act.exec_read (.text name) session
      let final := (session.keeping (session.loggers.ensure (some name)) rules built).change (some name)
        (Logger.equipped · level found)
      have answered : ((Operation.getLogger (.text name) (some id)).perform ambient.context).exec
          session = (.ok (.logger (final.loggers.view (some name))), final) := by
        rw [Operation.perform, Act.exec_bind_ok read, Act.exec_bind_ok (Act.exec_findConfig usable.named),
          Act.exec_bind_ok got, Act.exec_bind_ok (Act.exec_get _), Act.exec_pure]
        rfl
      exact ⟨_, final, rules, built, found, judged, Step.run_operation answered, rfl, kept⟩

end Session.Usable

/-- Two levels given to one logger, with the same rule, make trees that differ in the level of this logger
alone. -/
theorem LoggerTree.lowered_equipped (tree : LoggerTree) (name : String) (hi lo : Level)
    {rule other : Option (Nat × Rule)} (same : other.map (·.2) = rule.map (·.2)) :
    Lowered name hi.rank lo.rank
      (tree.set (some name) ((tree.get (some name)).equipped hi rule))
      (tree.set (some name) ((tree.get (some name)).equipped lo other)) := by
  refine ⟨?_, fun target apart => ?_, ?_, ?_, fun target => ?_, fun target => ?_⟩
  · rw [bare_set, bare_set]
    rfl
  · rw [get_set_of_ne _ _ (Ne.symm apart), get_set_of_ne _ _ (Ne.symm apart)]
  · rw [get_set_self]
    rfl
  · rw [get_set_self]
    rfl
  · rw [get_set, get_set]
    split <;> rfl
  · rw [get_set, get_set]
    split
    · rw [Logger.equipped, Logger.equipped, List.map_append, List.map_append, ← Option.toList_map,
        ← Option.toList_map, same]
    · rfl

/-- A logger that is set up with two configurations that differ in the level alone leaves two sessions that
are alike but for its level. -/
theorem Session.Usable.lowered {session : Session} {name highId lowId : String}
    {highNumber lowNumber : Nat} {high low : Config} {hi lo : Level}
    (highUsable : session.Usable highId highNumber high hi)
    (lowUsable : session.Usable lowId lowNumber low lo)
    (differ : low = { high with logLevel := low.logLevel }) (target : LoggerTree.target name = some name)
    (bare : (session.loggers.get (some name)).handlers = 0) (ambient : Ambient) :
    ∃ view other_view later other,
      (Step.operation (.getLogger (.text name) (some highId))).run ambient session =
        (.ok (.logger view), ambient, later) ∧
      (Step.operation (.getLogger (.text name) (some lowId))).run ambient session =
        (.ok (.logger other_view), ambient, other) ∧
      Session.Lowered name hi.rank lo.rank later other := by
  have reached := highUsable.held.reachable
  obtain ⟨rule, stands⟩ := highUsable.standing
  have other_stands : session.standing lowNumber = .ok rule := by
    rw [← stands, highUsable.held.standing_eq, lowUsable.held.standing_eq, differ]
    rfl
  obtain ⟨view, later, rules, built, found, judged, started, equipped, kept⟩ :=
    highUsable.run_getLogger stands target bare ambient
  obtain ⟨other_view, other, other_rules, other_built, other_found, other_judged, other_started,
    other_equipped, other_kept⟩ := lowUsable.run_getLogger other_stands target bare ambient
  have evolves := (Step.operation (.getLogger (.text name) (some highId))).evolves_run ambient session
  have other_evolves :=
    (Step.operation (.getLogger (.text name) (some lowId))).evolves_run ambient session
  rw [started] at evolves
  rw [other_started] at other_evolves
  refine ⟨view, other_view, later, other, started, other_started,
    ⟨?_, ?_, reached.trans evolves, reached.trans other_evolves⟩, ?_⟩
  · rw [equipped, other_equipped]
    exact ⟨_, _, _, rfl⟩
  · intro number
    rw [kept, other_kept]
  · rw [equipped, other_equipped]
    exact LoggerTree.lowered_equipped (session.loggers.ensure (some name)) name hi lo
      (other_judged.trans judged.symm)

/-- A logger without a handler is set up in two sessions that are alike, with two configurations that differ
in the level alone. Then every event of code at work that is written under the higher level is written under
the lower one, if this is not zero, if the higher one is not positive, or if the logger inherits no level above
it. In all other cases, the events of the logger from the higher level up to the inherited one are lost. -/
theorem lines_of_lower_level {session : Session} {name highId lowId : String}
    {highNumber lowNumber : Nat} {high low : Config} {hi lo : Level}
    (highUsable : session.Usable highId highNumber high hi)
    (lowUsable : session.Usable lowId lowNumber low lo)
    (differ : low = { high with logLevel := low.logLevel }) (lower : lo.rank ≤ hi.rank)
    (target : LoggerTree.target name = some name)
    (bare : (session.loggers.get (some name)).handlers = 0) (ambient : Ambient) {steps : List Step}
    (work : ∀ step ∈ steps, step.AtWork) :
    let start (id : String) := (Step.operation (.getLogger (.text name) (some id))).run ambient session
    let after (id : String) := (runAll (start id).2.1 (start id).2.2 steps).2
    (∃ view, (start highId).1 = .ok (.logger view)) ∧ (∃ view, (start lowId).1 = .ok (.logger view)) ∧
    ∀ event : Step, event.AtWork →
      let underHigh := event.run (after highId).1 (after highId).2
      let underLow := event.run (after lowId).1 (after lowId).2
      let inherited := underHigh.2.2.loggers.inherited name
      (LoggerTree.Carries hi.rank lo.rank inherited →
        Kept (event.output underHigh.1) (event.output underLow.1)) ∧
      (¬LoggerTree.Carries hi.rank lo.rank inherited →
        ∀ level, hi.rank ≤ level → level < inherited →
          underHigh.2.2.loggers.isEnabled (some name) level = true ∧
            underLow.2.2.loggers.isEnabled (some name) level = false) := by
  intro start after
  obtain ⟨view, other_view, later, other, started, other_started, lowered⟩ :=
    highUsable.lowered lowUsable differ target bare ambient
  have run : after highId = (runAll ambient later steps).2 := by
    dsimp only [after, start]
    rw [started]
  have other_run : after lowId = (runAll ambient other steps).2 := by
    dsimp only [after, start]
    rw [other_started]
  refine ⟨⟨view, congrArg Prod.fst started⟩, ⟨other_view, congrArg Prod.fst other_started⟩, ?_⟩
  intro event working
  obtain ⟨same, still⟩ := lowered.runAll lower work ambient
  obtain ⟨-, lasting, written⟩ :=
    still.run_step lower working (runAll ambient later steps).2.1
  rw [run, other_run, same]
  refine ⟨written, fun lost level reached_level below => ?_⟩
  exact lasting.loggers.isEnabled_lost lasting.alike.reachable.consistent.loggers
    lasting.alike.reachable_other.consistent.loggers lost reached_level below

/-- Tenants log errors, and `acme` everything from INFO on; the level of the logger is open. -/
def tenantConfigAt (level : String) : Config where
  key := .text "tenant"
  thresholds := .list [Config.textPair "acme" "INFO"]
  logLevel := .text level

def twoLevelSession (high low : String) : Session := { Session.initial with
  configs := [tenantConfigAt high, tenantConfigAt low]
  objects := [("high", .config 0), ("low", .config 1)] }

theorem usable_twoLevelSession {high low : String} {hi lo : Level}
    (readHigh : Registry.standard.resolve (.text high) none = .ok hi)
    (readLow : Registry.standard.resolve (.text low) none = .ok lo) :
    (twoLevelSession high low).Usable "high" 0 (tenantConfigAt high) hi ∧
      (twoLevelSession high low).Usable "low" 1 (tenantConfigAt low) lo := by
  have first : Session.Reachable { Session.initial with configs := [tenantConfigAt high] } :=
    .single (.configured (tenantConfigAt high))
  have tenants : tenantConfig.buildRule .standard = .ok tenantRule := rfl
  have built (level : String) : (tenantConfigAt level).buildRule .standard = .ok tenantRule := tenants
  refine ⟨⟨?_, rfl, readHigh, fun _ => ⟨tenantRule, built high⟩⟩,
    ⟨?_, rfl, readLow, fun _ => ⟨tenantRule, built low⟩⟩⟩
  · exact .kept (.kept (.kept (.made (.refl _) rfl) (.configured (tenantConfigAt low)) rfl)
      (.stored "high" (.config 0)) rfl) (.stored "low" (.config 1)) rfl
  · exact .kept (.kept (.made first rfl) (.stored "high" (.config 0)) rfl)
      (.stored "low" (.config 1)) rfl

/-- A tenant's scope around an event that the rule denies, and one that it lets pass. -/
def scopedSteps : List Step :=
  [.scope (.enter "scope" [("tenant", .text "acme")]),
    .operation (.log "svc" 10 (.text "left out") []),
    .operation (.logWithContext "svc" (.text "info") (.text "kept") (some (some "low")) [])]

theorem atWork_scopedSteps : ∀ step ∈ scopedSteps, step.AtWork := by
  intro step member
  simp only [scopedSteps, List.mem_cons, List.not_mem_nil, or_false] at member
  rcases member with rfl | rfl | rfl
  · exact .scope _
  · exact .log _ _ _ _
  · exact .logWithContext _ _ _ _ _

/-- An error is written under the level INFO as it is under the level WARN. -/
theorem lines_of_lower_level_from_warn_to_info :
    let start := (Step.operation (.getLogger (.text "svc") (some "low"))).run ⟨0, []⟩
      (twoLevelSession "WARN" "INFO")
    let after := (runAll start.2.1 start.2.2 scopedSteps).2
    let event := Step.operation (.log "svc" 40 (.text "down") [])
    event.output (event.run after.1 after.2).1 =
      "\x7b\"level\":\"ERROR\",\"logger\":\"svc\",\"message\":\"down\"," ++
        "\"timestamp\":\"2023-11-14T22:13:20Z\"\x7d\n" := by
  have lo : Registry.standard.resolve (.text "INFO") none = .ok ⟨"INFO", 20, true⟩ := rfl
  have hi : Registry.standard.resolve (.text "WARN") none = .ok ⟨"WARN", 30, true⟩ := rfl
  obtain ⟨usableHigh, usableLow⟩ := usable_twoLevelSession hi lo
  obtain ⟨-, -, kept⟩ := lines_of_lower_level usableHigh usableLow rfl (by decide)
    (show LoggerTree.target "svc" = some "svc" by decide) rfl ⟨0, []⟩ atWork_scopedSteps
  have written := (kept _ (.log "svc" 40 (.text "down") [])).1 (.inl (by decide))
  obtain nothing | same := written
  · exact absurd nothing (by decide +kernel)
  · refine same.trans ?_
    decide +kernel

/-- Under the level ALL, which is zero, an event is lost that is written under DEBUG. -/
theorem level_all_loses_events :
    ¬ ∀ (session : Session) (name highId lowId : String) (highNumber lowNumber : Nat)
      (high low : Config) (hi lo : Level) (ambient : Ambient) (event : Step),
      session.Usable highId highNumber high hi → session.Usable lowId lowNumber low lo →
      low = { high with logLevel := low.logLevel } → lo.rank ≤ hi.rank →
      LoggerTree.target name = some name → (session.loggers.get (some name)).handlers = 0 →
      event.AtWork →
      let start (id : String) :=
        (Step.operation (.getLogger (.text name) (some id))).run ambient session
      Kept (event.output (event.run (start highId).2.1 (start highId).2.2).1)
        (event.output (event.run (start lowId).2.1 (start lowId).2.2).1) := by
  intro kept
  have hi : Registry.standard.resolve (.text "DEBUG") none = .ok ⟨"DEBUG", 10, true⟩ := rfl
  have lo : Registry.standard.resolve (.text "ALL") none = .ok ⟨"ALL", 0, true⟩ := rfl
  obtain ⟨usableHigh, usableLow⟩ := usable_twoLevelSession hi lo
  obtain nothing | same := kept _ "svc" _ _ _ _ _ _ _ _ ⟨0, []⟩ _ usableHigh usableLow rfl (by decide)
    (by decide) rfl (.log "svc" 20 (.text "ready") [])
  · exact absurd nothing (by decide +kernel)
  · exact absurd same (by decide +kernel)

end LogGate

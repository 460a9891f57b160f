import LogGate.Proofs.Consistency
import LogGate.Proofs.RuleFailures

/-!
The filters that are kept for configurations. The first call on a configuration that can build a filter
keeps it, and every later call gets this filter, until the configuration is inactive.
-/

namespace LogGate

namespace Session

/-- The number of the configuration that stands for an argument. Without one it is the default one, which
is made at its first use. -/
def chosen (session : Session) (config : Option Nat) : Nat :=
  config.getD (session.defaultConfig.getD session.configs.length)

/-- The configuration that a name in a call means. -/
def Means (session : Session) (name : Option String) (number : Nat) : Prop :=
  match name with
  | some name => session.objects.get? name = some (.config number)
  | none => session.chosen none = number

/-- A logger that is made changes no name of a configuration. -/
theorem means_ensured {session : Session} {target name : Option String} {number : Nat} :
    (session.ensured target).Means name number ↔ session.Means name number := by
  cases name <;> rfl

end Session

/-- The calls on a configuration: they look for its filter, in a session in which it is the one that they
name. The demonstration makes a configuration of its own. -/
def Operation.Asks (session : Session) (number : Nat) : Operation → Prop
  | .getFilter _ name | .getLogger _ name => session.Means name number
  | .logWithContext _ _ _ name _ => session.Means (name.getD none) number
  | .demonstrate => session.configs.length = number
  | _ => False

namespace Act

variable {α β : Type} {session later : Session} {other : Nat}

/-- A configuration that is found is the chosen one. -/
theorem chosen_of_configOrDefault {config : Option Nat} {number : Nat}
    (done : (configOrDefault config).exec session = (.ok number, later)) :
    session.chosen config = number := by
  cases config with
  | some given => exact Except.ok.inj (congrArg Prod.fst done)
  | none =>
      cases exec_defaultConfig_iff.mp done with
      | kept known =>
          rw [Session.chosen, known]
          rfl
      | made unknown read =>
          rw [Session.chosen, unknown]
          rfl

/-- Finding a configuration changes nothing, and gives what the name means. -/
theorem means_of_findConfig {name : Option String} {config : Option Nat}
    (done : (findConfig name).exec session = (.ok config, later)) :
    later = session ∧ session.Means name (session.chosen config) := by
  cases name with
  | none =>
      cases done
      exact ⟨rfl, rfl⟩
  | some name =>
      simp only [findConfig, exec_map, Act.config, object, exec_bind, exec_get] at done
      cases found : session.objects.get? name with
      | none => simp [found, Except.map] at done
      | some object =>
          cases object with
          | config number =>
              simp only [found, exec_pure, Except.map, Prod.mk.injEq, Except.ok.injEq] at done
              obtain ⟨rfl, rfl⟩ := done
              exact ⟨rfl, found⟩
          | _ => simp [found, Except.map] at done

/-- A call that comes to a configuration has found the one that it names. -/
theorem findConfig_of_callConfig {argument : ConfigArgument} {extra rest : Fields String Value}
    {config : Option Nat}
    (done : (callConfig argument extra).exec session = (.ok (some config, rest), later)) :
    (findConfig (argument.getD none)).exec session = (.ok config, later) := by
  unfold callConfig at done
  by_cases reserved : ["logger", "level", "message"].any (extra.has ·)
  · cases argument <;> cases extra.get? "config" <;> simp [reserved] at done
  simp only [reserved, Bool.false_eq_true, if_false] at done
  cases argument with
  | some name =>
      cases given : extra.get? "config" with
      | some value => simp [given] at done
      | none =>
          simp only [given, exec_bind] at done
          rw [Option.getD_some]
          generalize (findConfig name).exec session = found at done ⊢
          obtain ⟨_ | number, middle⟩ := found
          · simp at done
          · simp only [exec_pure, Prod.mk.injEq, Except.ok.injEq, Option.some.injEq] at done
            rw [done.1.1, done.2]
  | none =>
      rw [Option.getD_none, findConfig, exec_pure]
      cases given : extra.get? "config" with
      | none =>
          simp only [given, exec_pure, Prod.mk.injEq, Except.ok.injEq, Option.some.injEq] at done
          rw [done.1.1, done.2]
      | some value =>
          simp only [given, exec_pure, Prod.mk.injEq, Except.ok.injEq] at done
          cases filled : value.isTrue with
          | true => simp [filled] at done
          | false =>
              rw [filled, if_neg Bool.false_ne_true, Option.some.injEq] at done
              rw [done.1.1, done.2]

/-- Asking for a logger by any name comes to making it. -/
theorem ensured_of_loggerOf {name : Value} {target : Option String}
    (done : (loggerOf name).exec session = (.ok target, later)) :
    later = session.ensured target := by
  obtain ⟨content, same⟩ | failed := loggerOf_cases name
  · rw [same, show loggerOf (.text content) = logger content from rfl, exec_logger] at done
    cases done
    rfl
  · rw [failed] at done
    cases done

/-- In this session, the action keeps the rule of a configuration as it is. -/
def KeepsRule (number : Nat) (session : Session) (act : Act α) : Prop :=
  (act.exec session).2.rules.get? number = session.rules.get? number

/-- Actions that keep the rule of a configuration keep it one after the other. -/
theorem KeepsRule.bind {act : Act α} {next : α → Act β} (first : act.KeepsRule other session)
    (second : ∀ value later, act.exec session = (.ok value, later) →
      (next value).KeepsRule other later) : (act >>= next).KeepsRule other session := by
  rw [KeepsRule] at first ⊢
  rw [exec_bind]
  cases done : act.exec session with
  | mk result later =>
      rw [done] at first
      cases result with
      | error failure => exact first
      | ok value => exact (second value later done).trans first

/-- An action that changes nothing can come first. -/
theorem KeepsRule.bind_of_still {act : Act α} {next : α → Act β}
    (still : (act.exec session).2 = session)
    (second : ∀ value, (next value).KeepsRule other session) :
    (act >>= next).KeepsRule other session := by
  have kept : act.KeepsRule other session := by rw [KeepsRule, still]
  refine kept.bind fun value later done => ?_
  have same : later = session := (congrArg Prod.snd done).symm.trans still
  rw [same]
  exact second value

/-- Only actions that may build rules change them. -/
theorem Regular.keepsRule {act : Act α} {foot : Footprint} (regular : act.Regular foot)
    (none_built : foot.builds = false) : act.KeepsRule other session := by
  rw [KeepsRule, (regular.allowed session).rules none_built]

/-- Building the rule of one configuration does not build that of another one. -/
theorem keepsRule_ruleOf {number : Nat} (different : number ≠ other) :
    (ruleOf number).KeepsRule other session := by
  rw [KeepsRule]
  cases looked : (ruleOf number).exec session with
  | mk result later =>
      cases exec_ruleOf_iff.mp looked with
      | built on missing built => exact Fields.get?_put_of_ne _ _ (beq_eq_false_iff_ne.mpr different)
      | _ => rfl

/-- Setting up a logger builds the rule of its own configuration only. -/
theorem keepsRule_setUp {target : Option String} {number : Nat} (different : number ≠ other) :
    (setUp target number).KeepsRule other session := by
  refine KeepsRule.bind rfl fun _ _ _ => KeepsRule.bind rfl fun _ _ _ => ?_
  refine KeepsRule.bind rfl fun _ _ _ => KeepsRule.bind rfl fun _ _ _ => ?_
  refine KeepsRule.bind rfl fun _ _ _ => (keepsRule_ruleOf different).bind fun found _ _ => ?_
  cases found <;> rfl

/-- Asking for a logger builds the rule of the chosen configuration only. -/
theorem keepsRule_getLogger {name : Value} {config : Option Nat}
    (different : session.chosen config ≠ other) :
    (getLogger name config).KeepsRule other session := by
  have made : (loggerOf name).Regular {} := closed_regular.loggerOf regular_logger name
  refine KeepsRule.bind (made.keepsRule rfl) fun target later done => ?_
  have same : later.chosen config = session.chosen config := by
    rw [ensured_of_loggerOf done]
    rfl
  refine KeepsRule.bind_of_still rfl fun _ => ?_
  split
  · have choosing : (configOrDefault config).Regular {} := regular_configOrDefault config
    refine KeepsRule.bind (choosing.keepsRule rfl) fun number last done => ?_
    rw [← same, chosen_of_configOrDefault done] at different
    exact (keepsRule_setUp different).bind fun _ _ _ => rfl
  · rfl

/-- The filter of an event's configuration is looked for once. -/
theorem keepsRule_logWithContext {context : Context} {target : Option String} {level message : Value}
    {config : Option Nat} {extra : Fields String Value} (different : session.chosen config ≠ other) :
    (logWithContext context target level message config extra).KeepsRule other session := by
  refine KeepsRule.bind_of_still rfl fun _ => KeepsRule.bind_of_still rfl fun level => ?_
  have choosing : (configOrDefault config).Regular {} := regular_configOrDefault config
  refine KeepsRule.bind (choosing.keepsRule rfl) fun number middle done => ?_
  rw [chosen_of_configOrDefault done] at different
  refine (keepsRule_ruleOf different).bind fun found later _ => ?_
  have logged : (log context target level.rank message [] (Context.merge context extra)).Regular {} :=
    closed_regular.log _ _ _ _ _ _
  have answered : ((true, ·) <$> log context target level.rank message []
      (Context.merge context extra)).KeepsRule other later := (logged.map _).keepsRule rfl
  rw [map_eq_pure_bind] at answered
  cases found with
  | none => exact answered
  | some rule =>
      dsimp only
      split
      · rfl
      · exact answered

theorem keepsRule_serveTenants {context : Context} {target : Option String} {number : Nat}
    (different : number ≠ other) (tenants : List String) :
    (serveTenants context target number tenants).KeepsRule other session := by
  induction tenants generalizing session with
  | nil => rfl
  | cons tenant rest ih =>
      have requested : nextRequest.Regular {} := regular_nextRequest
      have logged (inside : Context) (level : Int) (message : String) :
          (logText inside target level message).Regular {} := closed_regular.log _ _ _ _ _ _
      refine (requested.keepsRule rfl).bind fun _ _ _ => ?_
      refine ((logged _ _ _).keepsRule rfl).bind fun _ _ _ => ?_
      refine ((logged _ _ _).keepsRule rfl).bind fun _ _ _ => ?_
      refine KeepsRule.bind (keepsRule_logWithContext different) fun _ _ _ => ?_
      exact ih.bind fun _ _ _ => rfl

/-- A demonstration builds the rule of its new configuration only. -/
theorem keepsRule_demonstrate {context : Context} (different : session.configs.length ≠ other) :
    (demonstrate context).KeepsRule other session := by
  have added : (addConfig demonstrationConfig).Regular {} := regular_addConfig _
  refine (added.keepsRule rfl).bind fun number _ done => ?_
  have same : session.configs.length = number := Except.ok.inj (congrArg Prod.fst done)
  rw [same] at different
  have logged (inside : Context) (target : Option String) (level : Int) (message : String) :
      (logText inside target level message).Regular {} := closed_regular.log _ _ _ _ _ _
  refine KeepsRule.bind (keepsRule_getLogger different) fun target _ _ => ?_
  refine ((logged _ _ _ _).keepsRule rfl).bind fun _ _ _ => ?_
  refine (keepsRule_serveTenants different _).bind fun _ _ _ => ?_
  exact ((logged _ _ _ _).keepsRule rfl).bind fun _ _ _ => rfl

end Act

open Act

/-- Only a call on a configuration can give it a rule. -/
theorem Operation.keepsRule_perform {context : Context} {session : Session} {other : Nat}
    {operation : Operation} (unasked : ¬operation.Asks session other) :
    (operation.perform context).KeepsRule other session := by
  cases operation with
  | getFilter id name =>
      have finding : (findConfig name).Regular {} := closed_regular.findConfig name
      refine (finding.keepsRule rfl).bind fun config later found => ?_
      obtain ⟨rfl, means⟩ := means_of_findConfig found
      have choosing : (configOrDefault config).Regular {} := regular_configOrDefault config
      refine (choosing.keepsRule rfl).bind fun number middle chosen => ?_
      rw [chosen_of_configOrDefault chosen] at means
      have different : number ≠ other := fun same => unasked (same ▸ means)
      refine (keepsRule_ruleOf different).bind fun rule _ _ => ?_
      cases rule with
      | none => rfl
      | some rule => cases id <;> rfl
  | getLogger name config =>
      refine KeepsRule.bind_of_still (congrArg Prod.snd (exec_read name session)) fun name => ?_
      have finding : (findConfig config).Regular {} := closed_regular.findConfig config
      refine (finding.keepsRule rfl).bind fun chosen later found => ?_
      obtain ⟨rfl, means⟩ := means_of_findConfig found
      have different : Session.chosen _ chosen ≠ other := fun same => unasked (same ▸ means)
      exact (keepsRule_getLogger different).bind fun _ _ _ => rfl
  | logWithContext name level message config extra =>
      have asked : (logger name).Regular {} := regular_logger name
      refine (asked.keepsRule rfl).bind fun target made done => ?_
      rw [exec_logger, Prod.mk.injEq] at done
      rw [← done.2]
      refine KeepsRule.bind_of_still (congrArg Prod.snd (exec_read level _)) fun level => ?_
      refine KeepsRule.bind_of_still (congrArg Prod.snd (exec_read message _)) fun message => ?_
      refine KeepsRule.bind_of_still (congrArg Prod.snd (exec_readFields extra _)) fun extra => ?_
      have calling : (callConfig config extra).Regular {} := closed_regular.callConfig config extra
      refine (calling.keepsRule rfl).bind fun called later given => ?_
      obtain ⟨chosen, rest⟩ := called
      cases chosen with
      | none => exact KeepsRule.bind_of_still rfl fun _ => KeepsRule.bind_of_still rfl fun _ => rfl
      | some chosen =>
          obtain ⟨rfl, means⟩ := means_of_findConfig (findConfig_of_callConfig given)
          rw [Session.means_ensured] at means
          have different : Session.chosen (session.ensured _) chosen ≠ other :=
            fun same => unasked (same ▸ means)
          exact (keepsRule_logWithContext different).bind fun _ _ _ => rfl
  | demonstrate =>
      exact (keepsRule_demonstrate unasked).bind fun _ _ _ => rfl
  | _ => exact (regular_perform context _).keepsRule rfl

namespace Session

variable {session later : Session} {number : Nat}

/-- A rule that is kept for a configuration is never given up. -/
theorem Transition.get?_rules (changed : session.Transition later) {found : Nat × Rule}
    (kept : session.rules.get? number = some found) : later.rules.get? number = some found := by
  cases changed with
  | @ruled other rule on missing built =>
      have different : other ≠ number := by
        rintro rfl
        rw [kept] at missing
        contradiction
      exact (Fields.get?_put_of_ne _ _ (beq_eq_false_iff_ne.mpr different)).trans kept
  | _ => exact kept

/-- A rule that is kept stays as it is. -/
theorem Evolves.get?_rules (evolved : session.Evolves later) {found : Nat × Rule}
    (kept : session.rules.get? number = some found) : later.rules.get? number = some found := by
  induction evolved with
  | refl => exact kept
  | tail _ changed ih => exact changed.get?_rules ih

/-- The kept rules have numbers of their own, which were given out before. -/
structure RulesApart (session : Session) : Prop where
  given : ∀ number found, session.rules.get? number = some found → found.1 < session.built
  distinct : ∀ first second found other, session.rules.get? first = some found →
    session.rules.get? second = some other → first ≠ second → found.1 ≠ other.1

/-- No transition gives two rules the same number. -/
theorem Transition.rulesApart (changed : session.Transition later) (apart : session.RulesApart) :
    later.RulesApart := by
  cases changed with
  | @ruled number rule on missing built =>
      have cases_of {other : Nat} {found : Nat × Rule}
          (kept : (session.rules.put number (session.built, rule)).get? other = some found) :
          number = other ∧ found.1 = session.built ∨
            number ≠ other ∧ session.rules.get? other = some found := by
        rw [Fields.get?_put] at kept
        split at kept
        · next same => exact .inl ⟨eq_of_beq same, (congrArg Prod.fst (Option.some.inj kept)).symm⟩
        · next different => exact .inr ⟨fun same => different (beq_iff_eq.mpr same), kept⟩
      constructor
      · intro other found kept
        rcases cases_of kept with ⟨-, new⟩ | ⟨-, old⟩
        · rw [new]
          exact Nat.lt_succ_self _
        · exact Nat.lt_succ_of_lt (apart.given other found old)
      · intro first second found other keptFirst keptSecond different
        rcases cases_of keptFirst with ⟨rfl, new⟩ | ⟨-, old⟩ <;>
          rcases cases_of keptSecond with ⟨rfl, newSecond⟩ | ⟨-, oldSecond⟩
        · exact absurd rfl different
        · rw [new]
          exact (Nat.ne_of_lt (apart.given _ _ oldSecond)).symm
        · rw [newSecond]
          exact Nat.ne_of_lt (apart.given _ _ old)
        · exact apart.distinct _ _ _ _ old oldSecond different
  | numbered => exact ⟨fun other found kept => Nat.lt_succ_of_lt (apart.given other found kept),
      apart.distinct⟩
  | _ => exact ⟨apart.given, apart.distinct⟩

/-- Every rule has a number of its own. -/
theorem Reachable.rulesApart (reached : session.Reachable) : session.RulesApart :=
  Evolves.preserves Transition.rulesApart reached ⟨nofun, nofun⟩

end Session

mutual

/-- In the step, a call on a configuration without a rule builds one. -/
def Step.Builds (number : Nat) (found : Nat × Rule) (ambient : Ambient) (session : Session) :
    Step → Prop
  | .change _ | .scope _ => False
  | .operation operation =>
    operation.Asks session number ∧ session.rules.get? number = none ∧
      (operation.run ambient session).2.rules.get? number = some found
  | .thread steps => RunBuilds number found ⟨session.homes, []⟩ session.withHome steps
  | .task steps => RunBuilds number found ⟨session.homes, ambient.context⟩ session.withHome steps

/-- In one of its steps, the run builds a rule. -/
def RunBuilds (number : Nat) (found : Nat × Rule) (ambient : Ambient) (session : Session) :
    List Step → Prop
  | [] => False
  | step :: rest =>
    let after := (step.run ambient session).2
    step.Builds number found ambient session ∨ RunBuilds number found after.1 after.2 rest

end

/-- Scopes have no part in rules. -/
theorem ScopeStep.rules_run (ambient : Ambient) (session : Session) (step : ScopeStep) :
    (step.run ambient session).2.2.rules = session.rules := by
  obtain ⟨scopes, requests, same⟩ := step.run_frame ambient session
  exact (congrArg Session.rules same).trans rfl

/-- A rule is kept after an operation if it was kept before or the operation builds it. -/
theorem Operation.get?_rules_run {ambient : Ambient} {session : Session} {operation : Operation}
    {number : Nat} {found : Nat × Rule} :
    (operation.run ambient session).2.rules.get? number = some found ↔
      session.rules.get? number = some found ∨
        (Step.operation operation).Builds number found ambient session := by
  constructor
  · intro after
    cases before : session.rules.get? number with
    | some kept =>
        have still := ((operation.regular_perform ambient.context).evolves session).get?_rules before
        exact .inl (still.symm.trans after)
    | none =>
        refine .inr ⟨?_, before, after⟩
        by_contra unasked
        have same : (operation.perform ambient.context).KeepsRule number session :=
          Operation.keepsRule_perform unasked
        rw [KeepsRule, before] at same
        rw [Operation.run] at after
        exact absurd (same.symm.trans after) (by simp)
  · rintro (before | ⟨-, -, after⟩)
    · exact ((operation.regular_perform ambient.context).evolves session).get?_rules before
    · exact after

mutual

/-- A rule is kept after a step if it was kept before or the step builds it. -/
theorem Step.get?_rules_run {ambient : Ambient} {session : Session} (step : Step) {number : Nat}
    {found : Nat × Rule} :
    (step.run ambient session).2.2.rules.get? number = some found ↔
      session.rules.get? number = some found ∨ step.Builds number found ambient session := by
  cases step with
  | change change =>
      rw [Step.run, Step.Builds, or_false]
      split <;> rfl
  | scope scope => rw [Step.run, Step.Builds, or_false, scope.rules_run]
  | operation operation => exact Operation.get?_rules_run
  | thread steps => exact get?_rules_runAll steps
  | task steps => exact get?_rules_runAll steps

/-- After a run, the rule of a configuration is the one that was there before or that a call built. -/
theorem get?_rules_runAll {ambient : Ambient} {session : Session} (steps : List Step) {number : Nat}
    {found : Nat × Rule} :
    (runAll ambient session steps).2.2.rules.get? number = some found ↔
      session.rules.get? number = some found ∨ RunBuilds number found ambient session steps := by
  cases steps with
  | nil => rw [runAll, RunBuilds, or_false]
  | cons step rest =>
      rw [runAll, RunBuilds, get?_rules_runAll rest, step.get?_rules_run, or_assoc]

end

/-- The filter that a call gets for a rule. -/
def Rule.filter (rule : Rule) : Filter := ⟨rule, .severity, .ambient⟩

section Asking

variable {session later : Session} {ambient : Ambient} {id : Option String} {name : String}
  {number : Nat}

/-- A call for a filter answers as its rule is found. -/
theorem run_getFilter (named : session.objects.get? name = some (.config number))
    {result : Except Failure (Option (Nat × Rule))} (looked : RuleFound number session result later) :
    (Step.operation (.getFilter id (some name))).run ambient session =
      match result with
      | .error failure => (.error failure, ambient, later)
      | .ok none => (.ok (.filter none), ambient, later)
      | .ok (some (own, rule)) =>
        (.ok (.filter (some rule.filter)), ambient, later.storing id (.filter own rule.filter)) := by
  have chosen : (configOrDefault (some number)).exec session = (.ok number, session) := rfl
  have found := exec_ruleOf looked
  obtain _ | (_ | rule) := result
  · apply Step.run_operation
    rw [Operation.perform, exec_bind_ok (exec_findConfig named), exec_bind_ok chosen,
      exec_bind_error found]
  · apply Step.run_operation
    rw [Operation.perform, exec_bind_ok (exec_findConfig named), exec_bind_ok chosen,
      exec_bind_ok found, exec_pure]
  · apply Step.run_operation
    rw [Operation.perform, exec_bind_ok (exec_findConfig named), exec_bind_ok chosen,
      exec_bind_ok found, exec_bind_ok (exec_store _ _ _), exec_pure]
    rfl

/-- A call for the filter of a configuration without a rule builds the rule that is kept after it. -/
theorem builds_getFilter (named : session.objects.get? name = some (.config number))
    (missing : session.rules.get? number = none) {found : Nat × Rule} {answer : Except Failure Answer}
    (done : (Step.operation (.getFilter id (some name))).run ambient session = (answer, ambient, later))
    (kept : later.rules.get? number = some found) :
    (Step.operation (.getFilter id (some name))).Builds number found ambient session := by
  refine ⟨named, missing, ?_⟩
  have same : (Operation.run ambient session (.getFilter id (some name))).2 = later :=
    congrArg (·.2.2) done
  rw [same]
  exact kept

end Asking

/-- A call for the filter of a configuration gets none exactly while this is inactive. Otherwise it gets
the filter that a call on this configuration built, whatever happened since; if none did, it builds one
from what the configuration says now and keeps it, or it fails and changes nothing. No two configurations
have one filter. -/
theorem filter_is_built_once (start : Ambient) (steps : List Step) :
    let session := (runAll start Session.initial steps).2.2
    (∀ first second found other, RunBuilds first found start Session.initial steps →
      RunBuilds second other start Session.initial steps → first ≠ second → found.1 ≠ other.1) ∧
    ∀ (ambient : Ambient) (id : Option String) (name : String) (number : Nat),
      session.objects.get? name = some (.config number) →
      let config := session.config number
      let call := Step.operation (.getFilter id (some name))
      (config.isActive = false → call.run ambient session = (.ok (.filter none), ambient, session)) ∧
      (config.isActive = true →
        (∀ own rule, RunBuilds number (own, rule) start Session.initial steps →
          call.run ambient session = (.ok (.filter (some rule.filter)), ambient,
            session.storing id (.filter own rule.filter))) ∧
        ((∀ found, ¬RunBuilds number found start Session.initial steps) →
          (∃ rule, config.buildRule session.registry = .ok rule ∧
            call.run ambient session = (.ok (.filter (some rule.filter)), ambient,
              Session.storing { session with
                rules := session.rules.put number (session.built, rule)
                built := session.built + 1 } id (.filter session.built rule.filter)) ∧
            call.Builds number (session.built, rule) ambient session) ∨
          ∃ failure, config.buildRule session.registry = .error failure ∧
            config.Unbuildable failure ∧
            call.run ambient session = (.error failure, ambient, session))) := by
  intro session
  have reached : session.Reachable := reachable_runAll start steps
  have remembered {number : Nat} {found : Nat × Rule} :
      session.rules.get? number = some found ↔ RunBuilds number found start Session.initial steps := by
    have either : session.rules.get? number = some found ↔ _ := get?_rules_runAll steps
    rwa [show Session.initial.rules.get? number = none from rfl, or_iff_right nofun] at either
  -- The kept rules are those that the run built: the cases of a call are the cases of `RuleFound`.
  constructor
  · intro first second found other firstBuilt secondBuilt different
    exact reached.rulesApart.distinct _ _ _ _ (remembered.mpr firstBuilt)
      (remembered.mpr secondBuilt) different
  intro ambient id name number named config call
  refine ⟨?_, fun on => ⟨?_, fun unbuilt => ?_⟩⟩
  · intro off
    exact run_getFilter named (.inactive off)
  · intro own rule built
    exact run_getFilter named (.kept on (remembered.mpr built))
  · have missing : session.rules.get? number = none := by
      rw [Option.eq_none_iff_forall_ne_some]
      exact fun found kept => unbuilt found (remembered.mp kept)
    cases made : config.buildRule session.registry with
    | ok rule =>
        have done : call.run ambient session = _ := run_getFilter named (.built on missing made)
        refine .inl ⟨rule, rfl, done, builds_getFilter named missing done ?_⟩
        have kept := Fields.get?_put_self session.rules number (session.built, rule)
        cases id <;> exact kept
    | error failure =>
        exact .inr ⟨failure, rfl, Config.unbuildable_of_buildRule made,
          run_getFilter named (.unbuilt on missing made)⟩

/-- A call that fails for an unknown level, one that builds after the level is registered, and changes of
the configuration. -/
def lateLevelScript : List Step :=
  [.operation (.newConfig (some "c") [("key", .text "tenant"),
      ("thresholds", .list [.tuple [.text "acme", .text "loud"]])]),
    .operation (.getFilter none (some "c")),
    .operation (.register none (.text "loud") 35),
    .operation (.getFilter none (some "c")),
    .operation (.setConfig "c" "enabled" (.bool false)),
    .operation (.setConfig "c" "key" (.text "user")),
    .operation (.setConfig "c" "enabled" (.bool true))]

theorem filter_is_built_once_on_late_level :
    let session := (runAll ⟨0, []⟩ Session.initial lateLevelScript).2.2
    let rule : Rule := ⟨"tenant", ⟨[(.text "acme", ⟨"LOUD", 35, true⟩)], .error⟩,
      .verdict .neutral, .verdict .deny⟩
    (Step.operation (.getFilter (some "f") (some "c"))).run ⟨0, []⟩ session =
      (.ok (.filter (some rule.filter)), ⟨0, []⟩,
        session.storing (some "f") (.filter 0 rule.filter)) := by
  intro session rule
  have built : RunBuilds 0 (0, rule) ⟨0, []⟩ Session.initial lateLevelScript :=
    .inr (.inr (.inr (.inl ⟨rfl, rfl, rfl⟩)))
  obtain ⟨-, calls⟩ := filter_is_built_once ⟨0, []⟩ lateLevelScript
  obtain ⟨-, active⟩ := calls ⟨0, []⟩ (some "f") "c" 0 rfl
  exact (active rfl).1 0 rule built

/-- A number in place of the thresholds cannot be walked through, which is no misconfiguration. -/
theorem unwalkable_thresholds_fail :
    ¬ ∀ (start ambient : Ambient) (steps : List Step) (id : Option String) (name : String)
      (number : Nat) (failure : Failure),
      let session := (runAll start Session.initial steps).2.2
      session.objects.get? name = some (.config number) →
      ((Step.operation (.getFilter id (some name))).run ambient session).1 = .error failure →
      ∃ cause, failure = .misconfigured cause := by
  intro told
  obtain ⟨cause, same⟩ := told ⟨0, []⟩ ⟨0, []⟩
    [.operation (.newConfig (some "c") [("key", .text "tenant"), ("thresholds", .int 5)])]
    none "c" 0 .notIterable rfl rfl
  contradiction

end LogGate

import LogGate.Proofs.Calls
import LogGate.Proofs.DefaultUses
import LogGate.Proofs.EnvironmentConfig
import Mathlib.Data.List.DropRight

/-!
The default configuration along a run. It is the one that was last set; if none was, since the start or
since the last reset, it is made from the environment at its first use, and stays the same whatever the
environment becomes. A use that cannot read the environment leaves nothing behind.
-/

namespace LogGate

open Act

namespace Call

/-- What a call sets the default configuration to, if it finds what it names. -/
def sets? (call : Call) : Option (Option Nat) :=
  match call.operation with
  | .setDefaultConfig name => call.session.result? (findConfig name)
  | _ => none

/-- A call that needs the default configuration can make it when the environment can be read. -/
def makesDefault (call : Call) : Bool :=
  call.operation.needsDefault call.session &&
    (Config.ofEnvironment call.session.environment).toOption.isSome

end Call

/-- What the default configuration was last set to. -/
def lastSet? (calls : List Call) : Option (Option Nat) := calls.reverse.findSome? Call.sets?

/-- The calls since the default configuration was last set. -/
def sinceSet (calls : List Call) : List Call := calls.rtakeWhile fun call => call.sets?.isNone

/-- The default configuration after some calls: the one that was last set or, if none was since the start
or since the last reset, the one that was made at the first use since then. -/
def standingDefault (calls : List Call) : Option Nat :=
  match lastSet? calls with
  | some (some number) => some number
  | _ => ((sinceSet calls).find? Call.makesDefault).map (·.session.configs.length)

/-- One more call sets the default configuration, or makes it if there is none. -/
theorem standingDefault_concat (calls : List Call) (call : Call) :
    standingDefault (calls ++ [call]) = match call.sets? with
      | some given => given
      | none => (standingDefault calls).or
        (if call.makesDefault then some call.session.configs.length else none) := by
  rw [standingDefault, lastSet?, sinceSet, List.reverse_append, List.reverse_singleton,
    List.singleton_append, List.findSome?_cons, List.rtakeWhile_concat]
  cases set : call.sets? with
  | some given => cases given <;> rfl
  | none =>
      simp only [Option.isNone_none, if_true, List.find?_append, List.find?_singleton, Option.map_or]
      rw [standingDefault, lastSet?, sinceSet]
      rcases calls.reverse.findSome? Call.sets? with _ | _ | number
      · cases call.makesDefault <;> rfl
      · cases call.makesDefault <;> rfl
      · rfl

namespace Call

/-- Setting the default configuration sets the one that stands, if the name is known. -/
theorem later_default_setDefaultConfig (context : Context) (session : Session)
    (name : Option String) :
    let call : Call := ⟨context, session, .setDefaultConfig name⟩
    call.later.defaultConfig = match call.sets? with
      | some given => given
      | none => session.defaultConfig.or (if call.makesDefault then some session.configs.length
        else none) := by
  have reads : (findConfig name).Within Eq := closed_within.findConfig name
  have still := reads session
  simp only [later, sets?, Session.result?, makesDefault, Operation.perform, exec_bind]
  generalize (findConfig name).exec session = found at still
  obtain ⟨failure | given, last⟩ := found <;> obtain rfl : session = last := still
  · exact (Option.or_none).symm
  · rfl

/-- The default configuration after a call: what the call sets or, if there is none, what it makes. -/
theorem later_default (call : Call) :
    call.later.defaultConfig = match call.sets? with
      | some given => given
      | none => call.session.defaultConfig.or
        (if call.makesDefault then some call.session.configs.length else none) := by
  obtain ⟨context, session, operation⟩ := call
  by_cases setting : ∃ name, operation = .setDefaultConfig name
  · obtain ⟨name, rfl⟩ := setting
    exact later_default_setDefaultConfig context session name
  have free : sets? ⟨context, session, operation⟩ = none := by
    cases operation with
    | setDefaultConfig name => exact absurd ⟨name, rfl⟩ setting
    | _ => rfl
  rw [free]
  cases needs : operation.needsDefault session with
  | false =>
      have kept := Operation.default_kept context needs fun name same => setting ⟨name, same⟩
      have idle : makesDefault ⟨context, session, operation⟩ = false := by
        rw [makesDefault, needs, Bool.false_and]
      rw [later, kept, idle]
      exact (Option.or_none).symm
  | true =>
      have looked := defaultFound session
      rw [later, Operation.default_of_needed needs looked, makesDefault, needs, Bool.true_and]
      generalize defaultConfig.exec session = done at looked
      obtain ⟨result, last⟩ := done
      cases looked with
      | kept known => rw [known, Option.some_or]
      | made unknown read =>
          rw [unknown, read]
          rfl
      | unread unknown unread =>
          rw [unknown, unread]
          rfl

end Call

/-- The default configuration that a call finds is the one that the calls before it leave standing. -/
theorem callInvariant_standing : CallInvariant fun calls session =>
    session.defaultConfig = standingDefault calls ∧ ∀ before call after,
      calls = before ++ call :: after → call.session.defaultConfig = standingDefault before where
  aside _ _ _ := id
  called := by
    rintro calls call ⟨known, found⟩
    constructor
    · rw [call.later_default, standingDefault_concat, known]
    · intro before other after same
      rcases after.eq_nil_or_concat with rfl | ⟨between, last, rfl⟩
      · obtain ⟨rfl, rfl⟩ := List.append_singleton_inj.mp same
        exact known
      · rw [List.concat_eq_append, ← List.cons_append, ← List.append_assoc] at same
        obtain ⟨rfl, -⟩ := List.append_singleton_inj.mp same
        exact found before other between rfl

/-- The calls of a run find the default configuration that the calls before them left. -/
theorem found_default {ambient : Ambient} {steps : List Step} {before after : List Call} {call : Call}
    (calls : runCalls ambient Session.initial steps = before ++ call :: after) :
    call.session.defaultConfig = standingDefault before := by
  have nothing (before : List Call) (call : Call) (after : List Call)
      (same : [] = before ++ call :: after) :
      call.session.defaultConfig = standingDefault before := by simp at same
  exact (callInvariant_standing.runAll ⟨rfl, nothing⟩ ambient steps).2 before call after calls

namespace Call

/-- A call finds the configuration of a number as the default one, which it may have made: the call does
the same when it is given the configuration that asking for the default one answers. -/
structure Sees (call : Call) (number : Nat) (made : List Config) : Prop where
  configs : call.later.configs = call.session.configs ++ made
  standing : call.later.defaultConfig = some number
  answered : ∀ id, (Operation.getDefaultConfig id).answer call.context call.session =
    .ok (.config (call.later.config number))
  named : ∀ name,
    let asking : Call := { call with operation := .getDefaultConfig (some name) }
    let given : Call := ⟨call.context, asking.later, call.operation.naming name⟩
    asking.later.objects.get? name = some (.config number) ∧ given.answer = call.answer ∧
      given.later.unnamed = call.later.unnamed

/-- A call that needs the default configuration, and finds or makes one, sees this one. -/
theorem sees_of_found {call : Call} (needs : call.operation.needsDefault call.session = true)
    {number : Nat} {middle : Session}
    (found : DefaultFound call.session (.ok number) middle) {made : List Config}
    (configs : middle.configs = call.session.configs ++ made) : call.Sees number made := by
  obtain ⟨place, rest, settled, went, goes⟩ := Operation.exec_of_found needs found call.context
  have kept := settled.within number (middle.readied place)
  have same : (middle.readied place).configs = middle.configs := by cases place <;> rfl
  have left : call.later.configs = middle.configs := by
    rw [later, went, kept.configs rfl, same]
  have asked (id : Option String) :
      ((Operation.getDefaultConfig id).perform call.context).exec call.session =
        (.ok (.config (middle.config number)), middle.storing id (.config number)) := by
    rw [Operation.perform, exec_bind_ok (exec_defaultConfig found), answerConfig,
      exec_bind_ok (exec_store _ _ _), exec_bind_ok (exec_get _), exec_pure]
    cases id <;> rfl
  refine ⟨left.trans configs, ?_, fun id => ?_, fun name => ?_⟩
  · rw [later, Operation.default_of_needed needs found, found.known]
  · rw [Operation.answer, asked, Session.config, Session.config, left]
  · dsimp only
    have named : Call.later { call with operation := .getDefaultConfig (some name) } =
        middle.storing (some name) (.config number) := congrArg Prod.snd (asked (some name))
    have alike := settled.nameless number (middle.readied place)
      ((middle.storing (some name) (.config number)).readied place)
      (Session.unnamed_readied (Session.unnamed_storing _ _ _) place)
    rw [named]
    refine ⟨Fields.get?_put_self _ _ _, ?_, ?_⟩
    · rw [answer, answer, Operation.answer, Operation.answer, goes, went]
      exact alike.1
    · rw [later, later, goes, went]
      exact alike.2

/-- A call fails and leaves nothing behind but a logger that it asked for; once the environment can be
read, each call that needs the default configuration makes it. -/
structure Forgets (call : Call) (failure : Failure) : Prop where
  failed : call.answer = .error failure
  malformed : ∃ entry, failure = .misconfigured (.malformedEntry entry)
  left : call.later = call.session ∨ ∃ target, call.later = call.session.ensured target
  corrected : ∀ (assignments : List (String × Option String)) (again : Call) (config : Config),
    again.session = Call.later ⟨call.context, call.later, .setEnvironment assignments⟩ →
    Config.ofEnvironment again.session.environment = .ok config →
    again.operation.needsDefault again.session = true →
    again.Sees again.session.configs.length [config]

/-- A call that needs the default configuration, and cannot read it from the environment, fails and leaves
none behind. -/
theorem forgets_of_unread {call : Call} (needs : call.operation.needsDefault call.session = true)
    (unknown : call.session.defaultConfig = none) {failure : Failure}
    (unread : Config.ofEnvironment call.session.environment = .error failure) :
    call.Forgets failure := by
  obtain ⟨place, ended⟩ := Operation.exec_of_unread needs (.unread unknown unread) call.context
  have left : call.later = call.session.readied place := congrArg Prod.snd ended
  refine ⟨congrArg Prod.fst ended, ?_, ?_, ?_⟩
  · rw [Config.ofEnvironment_eq_map] at unread
    cases listed : Listing.readValue (Config.setting call.session.environment "THRESHOLDS") with
    | ok entries => simp [listed, Except.map] at unread
    | error cause =>
        rw [listed] at unread
        cases unread
        exact Config.malformed_of_setting listed
  · cases place with
    | none => exact .inl left
    | some target => exact .inr ⟨target, left⟩
  · intro assignments again config corrected read needed
    have unset : again.session.defaultConfig = none := by
      rw [corrected, left]
      cases place <;> exact unknown
    exact sees_of_found needed (.made unset read) rfl

end Call

/-- A logger with a handler is answered and left alone, whatever the default configuration and the
environment are, and both stay as they are. -/
theorem exec_getLogger_of_handled {session : Session} {name : Literal} {value : Value}
    {target : Option String} (read : name.read session.registry = .ok value)
    (named : value.target? = some target) (handled : (session.loggers.get target).handlers ≠ 0)
    (context : Context) (defaultConfig : Option Nat) (environment : Environment) :
    ((Operation.getLogger name none).perform context).exec { session with
        defaultConfig
        environment } =
      (.ok (.logger ((session.ensured target).loggers.view target)), { session.ensured target with
        defaultConfig
        environment }) := by
  let other : Session := { session with
    defaultConfig
    environment }
  have given := (exec_read name other).trans (by rw [show other.registry = session.registry from rfl, read])
  have chosen : (findConfig none).exec other = (.ok none, other) := rfl
  have kept : (getLogger value none).exec other = (.ok target, other.ensured target) :=
    @exec_getLogger_handled other value target named handled none
  rw [Operation.perform, exec_bind_ok given, exec_bind_ok chosen, exec_bind_ok kept,
    exec_bind_ok (exec_get _), exec_pure]
  rfl

/-- Every call of a run that needs the default configuration sees the one that was last set. If none was,
since the start or since the last reset, it sees the one that was made from the environment at the first
use since then, or makes it; while the environment cannot be read it fails and leaves nothing behind, so
that a later use can make it. Asking for a logger with a handler neither makes nor reads the default
configuration. -/
theorem default_config_is_made_once (ambient : Ambient) (steps : List Step) :
    (∀ before call after, runCalls ambient Session.initial steps = before ++ call :: after →
      call.operation.needsDefault call.session = true →
      (∀ number, standingDefault before = some number → call.Sees number []) ∧
      (standingDefault before = none →
        (∀ config, Config.ofEnvironment call.session.environment = .ok config →
          call.Sees call.session.configs.length [config]) ∧
        ∀ failure, Config.ofEnvironment call.session.environment = .error failure →
          call.Forgets failure)) ∧
    ∀ (session : Session) (name : Literal) (value : Value) (target : Option String),
      name.read session.registry = .ok value → value.target? = some target →
      (session.loggers.get target).handlers ≠ 0 →
      ∀ (context : Context) (defaultConfig : Option Nat) (environment : Environment),
        ((Operation.getLogger name none).perform context).exec { session with
            defaultConfig
            environment } =
          (.ok (.logger ((session.ensured target).loggers.view target)), { session.ensured target with
            defaultConfig
            environment }) := by
  constructor
  · intro before call after calls needs
    have found := found_default calls
    refine ⟨fun number known => ?_, fun unset => ⟨fun config read => ?_, fun failure unread => ?_⟩⟩
    · exact Call.sees_of_found needs (.kept (found.trans known)) (List.append_nil _).symm
    · exact Call.sees_of_found needs (.made (found.trans unset) read) rfl
    · exact Call.forgets_of_unread needs (found.trans unset) unread
  · intro session name value target read named handled context defaultConfig environment
    exact exec_getLogger_of_handled read named handled context defaultConfig environment

/-- Thresholds that are corrected after a use has failed, a use in a thread, a change of the environment
and a use after it, and a use after a reset. -/
def correctedScript : List Step :=
  [.operation (.setEnvironment [("DYNAMIC_LOG_THRESHOLDS", some "acme")]),
    .operation (.getFilter none none),
    .operation (.setEnvironment [("DYNAMIC_LOG_THRESHOLDS", some "acme=DEBUG")]),
    .thread [.operation (.getDefaultConfig none)],
    .operation (.setEnvironment [("DYNAMIC_LOG_THRESHOLDS", none)]),
    .operation (.getFilter none none),
    .operation (.setDefaultConfig none),
    .operation (.getDefaultConfig none)]

/-- The second use fails, the next ones see one configuration, and the last one makes another. -/
theorem default_config_is_made_once_after_correction :
    let config : Config := { thresholds := .list [Config.textPair "acme" "DEBUG"] }
    let other : Config := { thresholds := .list [] }
    let misread : Session := { Session.initial with
      environment := [("DYNAMIC_LOG_THRESHOLDS", "acme")] }
    let corrected : Session := { Session.initial with
      environment := [("DYNAMIC_LOG_THRESHOLDS", "acme=DEBUG")] }
    let made : Session := { corrected with
      configs := [config]
      defaultConfig := some 0
      homes := 2 }
    let changed : Session := { made with environment := [] }
    let reset : Session := { changed with defaultConfig := none }
    let handled : Session := { changed with loggers := ⟨⟨none, 30, 1, []⟩, [], []⟩ }
    let calls : List Call :=
      [⟨[], .initial, .setEnvironment [("DYNAMIC_LOG_THRESHOLDS", some "acme")]⟩,
        ⟨[], misread, .getFilter none none⟩,
        ⟨[], misread, .setEnvironment [("DYNAMIC_LOG_THRESHOLDS", some "acme=DEBUG")]⟩,
        ⟨[], corrected.withHome, .getDefaultConfig none⟩,
        ⟨[], made, .setEnvironment [("DYNAMIC_LOG_THRESHOLDS", none)]⟩,
        ⟨[], changed, .getFilter none none⟩,
        ⟨[], changed, .setDefaultConfig none⟩,
        ⟨[], reset, .getDefaultConfig none⟩]
    runCalls ⟨0, []⟩ Session.initial correctedScript = calls ∧
    Call.Forgets ⟨[], misread, .getFilter none none⟩ (.misconfigured (.malformedEntry "acme")) ∧
    Call.Sees ⟨[], corrected.withHome, .getDefaultConfig none⟩ 0 [config] ∧
    Call.Sees ⟨[], changed, .getFilter none none⟩ 0 [] ∧
    Call.Sees ⟨[], reset, .getDefaultConfig none⟩ 1 [other] ∧
    ((Operation.getLogger (.text "root") none).perform []).exec { handled with
        defaultConfig := none
        environment := misread.environment } =
      (.ok (.logger (handled.loggers.view none)), { handled with
        defaultConfig := none
        environment := misread.environment }) := by
  intro config other misread corrected made changed reset handled calls
  have called : runCalls ⟨0, []⟩ Session.initial correctedScript = calls := rfl
  have read : Config.ofEnvironment corrected.environment = .ok config := by
    dsimp only [corrected, config]
    rfl
  have unset : Config.ofEnvironment reset.environment = .ok other := by
    dsimp only [reset, changed, other]
    rfl
  obtain ⟨uses, apart⟩ := default_config_is_made_once ⟨0, []⟩ correctedScript
  have failed := uses (calls.take 1) _ (calls.drop 2) called rfl
  have first := uses (calls.take 3) _ (calls.drop 4) called rfl
  have second := uses (calls.take 5) _ (calls.drop 6) called rfl
  have last := uses (calls.take 7) _ (calls.drop 8) called rfl
  refine ⟨called, ?_, ?_, ?_, ?_, ?_⟩
  · exact (failed.2 rfl).2 _ rfl
  · exact (first.2 rfl).1 config read
  · exact second.1 0 rfl
  · exact (last.2 rfl).1 other unset
  · exact apart handled (.text "root") (.text "root") none rfl rfl (by decide) [] none
      misread.environment

end LogGate

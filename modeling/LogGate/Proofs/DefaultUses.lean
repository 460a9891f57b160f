import LogGate.Proofs.Admission
import LogGate.Proofs.FilterCache
import LogGate.Proofs.Scopes
import LogGate.Proofs.Touch

/-!
Uses of the default configuration. An operation that comes to needing it does the same as with the
configuration that it finds; the names of objects play no part in what follows. All others leave the
default configuration as it is, unless they set it.
-/

namespace LogGate

/-- The configuration of a call is left to the default one: none is given, neither apart from the extra
fields nor among them. -/
def leftToDefault (config : ConfigArgument) (extra : Fields String Value) : Bool :=
  !(["logger", "level", "message"].any (extra.has ·)) &&
    match config with
    | some config => config.isNone && (extra.get? "config").isNone
    | none => !((extra.get? "config").getD .absent).isTrue

/-- An operation comes to needing the default configuration: none is given, a logger that is asked for has
no handler, and the level of an event is known. -/
def Operation.needsDefault (session : Session) : Operation → Bool
  | .getDefaultConfig _ | .getFilter _ none => true
  | .getLogger name none =>
    match name.read session.registry with
    | .ok value => value.target?.any fun target => (session.loggers.get target).handlers == 0
    | .error _ => false
  | .logWithContext _ level message config extra =>
    match readCall session.registry level message extra with
    | .ok (level, _, extra) =>
      leftToDefault config extra && (session.registry.resolve level none).toOption.isSome
    | .error _ => false
  | _ => false

/-- The operation with a name for its configuration, where it is left to the default one. -/
def Operation.naming (name : String) : Operation → Operation
  | .getFilter id none => .getFilter id (some name)
  | .getLogger logger none => .getLogger logger (some name)
  | .logWithContext logger level message _ extra =>
    .logWithContext logger level message (some (some name))
      (extra.filter fun field => !(field.1 == "config"))
  | operation => operation

namespace Session

/-- A session without the names of its objects. -/
def unnamed (session : Session) : Session := { session with objects := [] }

/-- A session in which the logger is there that an operation asks for, if it asks for one. -/
def readied (session : Session) (place : Option (Option String)) : Session :=
  match place with
  | some target => session.ensured target
  | none => session

/-- Storing an object changes nothing but names. -/
theorem unnamed_storing (session : Session) (name : Option String) (object : Object) :
    (session.storing name object).unnamed = session.unnamed := by
  cases name <;> rfl

/-- Sessions that differ in names only differ in names only once the logger is there. -/
theorem unnamed_readied {first second : Session} (same : second.unnamed = first.unnamed)
    (place : Option (Option String)) :
    (second.readied place).unnamed = (first.readied place).unnamed := by
  cases place with
  | none => exact same
  | some target => exact congrArg (fun session => Session.ensured session target) same

end Session

namespace Act

variable {α β : Type}

section Nameless

/-- An action that does the same whatever names the objects have. It may give a name to an object. -/
def Nameless (act : Act α) : Prop :=
  ∀ first second : Session, second.unnamed = first.unnamed →
    (act.exec second).1 = (act.exec first).1 ∧
      (act.exec second).2.unnamed = (act.exec first).2.unnamed

/-- The session may be looked at, as long as what follows does not depend on its names. -/
theorem nameless_get {next : Session → Act β}
    (blind : (fun session => next (Session.unnamed session)) = next)
    (rest : ∀ session, (next session).Nameless) : ((get : Act Session) >>= next).Nameless := by
  intro first second same
  have start := exec_get first
  have other := exec_get second
  have alike : next second = next first := by
    rw [← congrFun blind first, ← congrFun blind second, same]
  rw [exec_bind_ok start, exec_bind_ok other, alike]
  exact rest first first second same

/-- A change is nameless if it is the same without names. -/
theorem nameless_modify {change : Session → Session}
    (apart : (fun session => (change (Session.unnamed session)).unnamed) =
      fun session => (change session).unnamed) : (modify change : Act Unit).Nameless := by
  intro first second same
  refine ⟨rfl, ?_⟩
  rw [exec_modify, exec_modify, ← congrFun apart first, ← congrFun apart second, same]

/-- Nameless actions are nameless one after the other. -/
theorem Nameless.bind {act : Act α} {next : α → Act β} (first : act.Nameless)
    (second : ∀ value, (next value).Nameless) : (act >>= next).Nameless := by
  intro session other same
  obtain ⟨answers, laters⟩ := first session other same
  rw [exec_bind, exec_bind]
  generalize act.exec session = done at answers laters
  generalize act.exec other = otherDone at answers laters
  obtain ⟨result, later⟩ := done
  obtain ⟨otherResult, otherLater⟩ := otherDone
  obtain rfl : otherResult = result := answers
  cases otherResult with
  | error failure => exact ⟨rfl, laters⟩
  | ok value => exact second value later otherLater laters

theorem sequential_nameless : Sequential fun _ act => act.Nameless where
  pure _ := fun _ _ same => ⟨rfl, same⟩
  throw _ := fun _ _ same => ⟨rfl, same⟩
  bind := Nameless.bind

theorem nameless_store (name : Option String) (object : Object) : (store name object).Nameless := by
  intro first second same
  rw [exec_store, exec_store, Session.unnamed_storing, Session.unnamed_storing]
  exact ⟨rfl, same⟩

/-- A rule is built from a configuration and the levels, which have no names among the objects. -/
theorem nameless_ruleOf (number : Nat) : (ruleOf number).Nameless := by
  refine nameless_get rfl fun session => ?_
  dsimp only
  split
  · refine nameless_get rfl fun session => ?_
    split
    · exact sequential_nameless.pure _
    · exact nameless_get rfl fun _ => (sequential_nameless.attempt _).bind fun _ =>
        Nameless.bind (nameless_get rfl fun _ => (nameless_modify (by rfl)).bind fun _ =>
          sequential_nameless.pure _) fun _ => (nameless_modify (by rfl)).bind fun _ =>
            sequential_nameless.pure _
  · exact sequential_nameless.pure none

theorem nameless_changeLogger (target : Option String) (change : Logger → Logger) :
    (changeLogger target change).Nameless := nameless_modify (by rfl)

/-- Setting up a logger looks for no name. -/
theorem nameless_setUp (target : Option String) (number : Nat) : (setUp target number).Nameless := by
  refine nameless_get rfl fun _ => nameless_get rfl fun _ =>
    (sequential_nameless.attempt _).bind fun level => ?_
  refine (nameless_changeLogger _ _).bind fun _ => (nameless_changeLogger _ _).bind fun _ => ?_
  refine (nameless_ruleOf number).bind fun found => ?_
  cases found with
  | none => exact sequential_nameless.pure ()
  | some found => exact nameless_changeLogger _ _

/-- Logging looks for no name. -/
theorem nameless_log (context : Context) (target : Option String) (level : Int) (message : Value)
    (arguments : List Value) (fields : Context) :
    (log context target level message arguments fields).Nameless := by
  refine nameless_get rfl fun session => ?_
  split
  · exact (sequential_nameless.attempt _).bind fun _ => sequential_nameless.attempt _
  · exact sequential_nameless.pure _

theorem nameless_answerConfig (id : Option String) (number : Nat) :
    (answerConfig id number).Nameless :=
  (nameless_store _ _).bind fun _ => nameless_get rfl fun _ => sequential_nameless.pure _

end Nameless

section Outcomes

variable {session : Session}

/-- Actions that do the same go on in the same way. -/
theorem exec_bind_congr {first second : Act α} {start other : Session}
    (same : first.exec start = second.exec other) (next : α → Act β) :
    (first >>= next).exec start = (second >>= next).exec other := by
  rw [exec_bind, exec_bind, same]

/-- The filter that a call for a filter answers, once its configuration is found. -/
def filterOf (id : Option String) (number : Nat) : Act Answer := do
  match ← ruleOf number with
  | some (own, rule) =>
    let filter : Filter := ⟨rule, .severity, .ambient⟩
    store id (.filter own filter)
    return .filter (some filter)
  | none => return .filter none

/-- An event whose level is known is judged by the rule of its configuration, and logged. -/
def logJudged (context : Context) (target : Option String) (level : Level) (message : Value)
    (merged : Context) (number : Nat) : Act (Bool × String) := do
  match ← ruleOf number with
  | some (_, rule) =>
    if Rule.denies (rule.outcome .severity level (Snapshot.ofEntries merged)) then
      return (false, "")
  | none => pure ()
  return (true, ← log context target level.rank message [] merged)

theorem exec_logWithContext_known {level : Value} {grade : Level}
    (known : session.registry.resolve level none = .ok grade) (context : Context)
    (target : Option String) (message : Value) (config : Option Nat) (extra : Fields String Value) :
    (logWithContext context target level message config extra).exec session =
      (configOrDefault config >>=
        logJudged context target grade message (Context.merge context extra)).exec session := by
  have resolved := exec_attempt (session.registry.resolve level none) session
  rw [logWithContext, exec_bind_ok (exec_get session),
    exec_bind_ok (resolved.trans (by rw [known]))]
  rfl

/-- A configuration among the fields is dropped when it is left to the default one. -/
theorem exec_callConfig_left {config : ConfigArgument} {extra : Fields String Value}
    (left : leftToDefault config extra = true) :
    (callConfig config extra).exec session = (.ok (some none, extra.remove "config"), session) := by
  unfold leftToDefault at left
  rw [Bool.and_eq_true, Bool.not_eq_true'] at left
  obtain ⟨free, left⟩ := left
  unfold callConfig
  simp only [free, Bool.false_eq_true, if_false]
  cases given : extra.get? "config" with
  | none =>
      rw [Fields.remove_of_get?_eq_none given]
      rcases config with _ | _ | name
      · rfl
      · rfl
      · simp at left
  | some value =>
      cases config with
      | none =>
          have empty : value.isTrue = false := by simpa [given] using left
          simp only [empty, Bool.false_eq_true, if_false, exec_pure]
      | some config => simp [given] at left

/-- A name for the configuration is found in place of the default one, and the fields lose the same
entry. -/
theorem exec_callConfig_named {config : ConfigArgument} {extra : Fields String Value} {name : String}
    {number : Nat} (left : leftToDefault config extra = true)
    (named : session.objects.get? name = some (.config number)) :
    (callConfig (some (some name)) (extra.remove "config")).exec session =
      (.ok (some (some number), extra.remove "config"), session) := by
  unfold leftToDefault at left
  rw [Bool.and_eq_true, Bool.not_eq_true'] at left
  have kept (label : String) (other : ("config" == label) = false) :
      (extra.remove "config").has label = extra.has label := by
    rw [← Fields.isSome_get?, ← Fields.isSome_get?, Fields.get?_remove, other]
    rfl
  have free : (["logger", "level", "message"].any ((extra.remove "config").has ·)) = false := by
    rw [← left.1]
    simp only [List.any_cons, List.any_nil, kept "logger" (by decide), kept "level" (by decide),
      kept "message" (by decide)]
  have missing : (extra.remove "config").get? "config" = none := by
    rw [Fields.get?_remove, if_pos (beq_self_eq_true _)]
  have found := exec_findConfig named
  unfold callConfig
  simp only [free, missing, Bool.false_eq_true, if_false]
  rw [exec_bind_ok found]
  rfl

end Outcomes

section Parts

variable {good : ∀ ⦃α : Type⦄, Act α → Prop}

protected theorem Sequential.filterOf (sequential : Sequential good) (id : Option String) {number : Nat}
    (found : good (ruleOf number)) (stored : ∀ object, good (store id object)) :
    good (filterOf id number) := by
  refine sequential.bind found fun rule => ?_
  cases rule with
  | none => exact sequential.pure _
  | some rule => exact sequential.bind (stored _) fun _ => sequential.pure _

protected theorem Sequential.logJudged (sequential : Sequential good) {context : Context}
    {target : Option String} {level : Level} {message : Value} {merged : Context} {number : Nat}
    (found : good (ruleOf number)) (logged : good (log context target level.rank message [] merged)) :
    good (logJudged context target level message merged number) := by
  refine sequential.bind found fun rule => ?_
  cases rule with
  | none => exact sequential.bind logged fun _ => sequential.pure _
  | some rule =>
      dsimp only
      split
      · exact sequential.pure _
      · exact sequential.bind logged fun _ => sequential.pure _

end Parts

end Act

open Act

/-- A call is read as before without one of its extra fields. -/
theorem readCall_without {registry : Registry} {level message : Literal}
    {extra : List (String × Literal)} {given content : Value} {fields : Fields String Value}
    (read : readCall registry level message extra = .ok (given, content, fields)) (name : String) :
    readCall registry level message (extra.filter fun field => !(field.1 == name)) =
      .ok (given, content, fields.remove name) := by
  obtain ⟨_, first, others⟩ := Except.bind_eq_ok_iff.mp read
  obtain ⟨_, second, last⟩ := Except.bind_eq_ok_iff.mp others
  obtain ⟨_, listed, same⟩ := Except.map_eq_ok_iff.mp last
  cases same
  rw [readCall, first, Except.bind, second, Except.bind, Literal.readNamed_remove listed]
  rfl

/-- In this session, an operation looks for the default configuration after it has asked for its logger,
and goes on with what it finds; given a name for its configuration, it goes on with this one instead. -/
structure Operation.GoesOn (operation : Operation) (context : Context)
    (place : Option (Option String)) (rest : Nat → Act Answer) (session : Session) : Prop where
  unnamed : (operation.perform context).exec session =
    (Act.defaultConfig >>= rest).exec (session.readied place)
  named : ∀ name number, session.defaultConfig = some number →
    session.objects.get? name = some (.config number) →
    ((operation.naming name).perform context).exec session = (rest number).exec (session.readied place)

/-- What an operation does with a configuration neither looks at names nor touches configurations. -/
structure Act.Settled (rest : Nat → Act Answer) : Prop where
  within : ∀ number, (rest number).Within (Touch.Allows {})
  nameless : ∀ number, (rest number).Nameless

namespace Act

/-- A logger is set up with a configuration, and shown. -/
def setUpShown (target : Option String) (number : Nat) : Act Answer := do
  setUp target number
  return .logger ((← get).loggers.view target)

theorem settled_setUpShown (target : Option String) : Settled (setUpShown target) where
  within number := (within_setUp target number).bind fun _ =>
    closed_within.get rfl fun _ => closed_within.pure _
  nameless number := (nameless_setUp target number).bind fun _ =>
    nameless_get rfl fun _ => sequential_nameless.pure _

/-- An event is judged and logged, and what it comes to is the answer. -/
def logAnswered (context : Context) (target : Option String) (level : Level) (message : Value)
    (merged : Context) (number : Nat) : Act Answer := do
  let (written, output) ← logJudged context target level message merged number
  return .logged written output

theorem settled_logAnswered (context : Context) (target : Option String) (level : Level)
    (message : Value) (merged : Context) :
    Settled (logAnswered context target level message merged) where
  within number := by
    have judged : (logJudged context target level message merged number).Within (Touch.Allows {}) :=
      closed_within.logJudged (within_ruleOf number) (closed_within.log _ _ _ _ _ _)
    exact judged.bind fun _ => closed_within.pure _
  nameless number := by
    have judged : (logJudged context target level message merged number).Nameless :=
      sequential_nameless.logJudged (nameless_ruleOf number) (nameless_log _ _ _ _ _ _)
    exact judged.bind fun _ => sequential_nameless.pure _

end Act

section Continuations

variable {session : Session} {context : Context}

/-- A call for a logger without a handler sets it up with the default configuration. -/
theorem Operation.goesOn_getLogger {name : Literal} {value : Value} {target : Option String}
    (read : name.read session.registry = .ok value) (named : value.target? = some target)
    (bare : (session.loggers.get target).handlers = 0) :
    (Operation.getLogger name none).GoesOn context (some target) (setUpShown target) session := by
  have given := (exec_read name session).trans (by rw [read])
  have asked (config : Option Nat) :
      (Act.getLogger value config >>= fun target => get >>= fun session : Session =>
        pure (Answer.logger (session.loggers.view target))).exec session =
      (configOrDefault config >>= setUpShown target).exec (session.ensured target) := by
    rw [exec_bind_congr (exec_getLogger_bare named bare config)]
    simp only [bind_assoc, pure_bind]
    rfl
  constructor
  · rw [perform, exec_bind_ok given]
    exact asked none
  · intro id number _ found
    rw [naming, perform, exec_bind_ok given, exec_bind_ok (exec_findConfig found)]
    exact asked (some number)

/-- An event at a known level that leaves its configuration to the default one is judged by the rule of
this one. -/
theorem Operation.goesOn_logWithContext {name : String} {level message : Literal}
    {config : ConfigArgument} {extra : List (String × Literal)} {given content : Value}
    {fields : Fields String Value} {grade : Level}
    (read : readCall session.registry level message extra = .ok (given, content, fields))
    (left : leftToDefault config fields = true)
    (known : session.registry.resolve given none = .ok grade) :
    (Operation.logWithContext name level message config extra).GoesOn context
      (some (LoggerTree.target name))
      (logAnswered context (LoggerTree.target name) grade content
        (Context.merge context (fields.remove "config"))) session := by
  let target := LoggerTree.target name
  let merged := Context.merge context (fields.remove "config")
  have logged (config : Option Nat) :
      (logCall context target given content (some config) (fields.remove "config")).exec
          (session.ensured target) =
        (configOrDefault config >>= logAnswered context target grade content merged).exec
          (session.ensured target) := by
    have same := @exec_logWithContext_known (session.ensured target) given grade known context target
      content config (fields.remove "config")
    have together := exec_bind_congr same fun written : Bool × String =>
      pure (Answer.logged written.1 written.2)
    rw [bind_assoc] at together
    exact together
  constructor
  · rw [exec_logWithContext, read]
    dsimp only
    rw [exec_bind_ok (exec_callConfig_left left)]
    exact logged none
  · intro id number _ named
    rw [naming, exec_logWithContext, readCall_without read]
    dsimp only
    rw [exec_bind_ok (@exec_callConfig_named (session.ensured target) _ _ _ _ left named)]
    exact logged (some number)

/-- Operations that need the default configuration go on alike in all sessions with the same levels and
the same loggers. -/
theorem Operation.exists_goesOn {operation : Operation}
    (needs : operation.needsDefault session = true) (context : Context) :
    ∃ place rest, Settled rest ∧ ∀ other : Session, other.registry = session.registry →
      other.loggers = session.loggers → operation.GoesOn context place rest other := by
  cases operation with
  | getDefaultConfig id =>
      refine ⟨none, answerConfig id, ⟨within_answerConfig id, nameless_answerConfig id⟩, ?_⟩
      intro other _ _
      exact ⟨rfl, fun name number known _ => exec_bind_ok (exec_defaultConfig (.kept known)) _⟩
  | getFilter id config =>
      cases config with
      | some name => contradiction
      | none =>
          refine ⟨none, filterOf id, ⟨fun _ => ?_, fun _ => ?_⟩, ?_⟩
          · exact closed_within.filterOf id (within_ruleOf _) (within_store _)
          · exact sequential_nameless.filterOf id (nameless_ruleOf _) (nameless_store _)
          · intro other _ _
            exact ⟨rfl, fun name number _ named => exec_bind_ok (exec_findConfig named) _⟩
  | getLogger name config =>
      cases config with
      | some name => contradiction
      | none =>
          rw [needsDefault] at needs
          split at needs
          · next value read =>
            obtain ⟨target, named, bare⟩ := (Option.any_eq_true _ _).mp needs
            refine ⟨some target, setUpShown target, settled_setUpShown target, ?_⟩
            intro other levels loggers
            rw [← levels] at read
            rw [← loggers] at bare
            exact goesOn_getLogger read named (eq_of_beq bare)
          · contradiction
  | logWithContext name level message config extra =>
      rw [needsDefault] at needs
      split at needs
      · next given content fields read =>
        rw [Bool.and_eq_true, Option.isSome_iff_exists] at needs
        obtain ⟨left, grade, found⟩ := needs
        let target := LoggerTree.target name
        let merged := Context.merge context (fields.remove "config")
        refine ⟨some target, logAnswered context target grade content merged,
          settled_logAnswered _ _ _ _ _, ?_⟩
        intro other levels _
        rw [← levels] at read found
        exact goesOn_logWithContext read left (Except.toOption_eq_some_iff.mp found)
      · contradiction
  | _ => contradiction

end Continuations

/-- Asking for a logger plays no part in looking for the default configuration. -/
theorem Act.DefaultFound.readied {session later : Session} {result : Except Failure Nat}
    (found : DefaultFound session result later) (place : Option (Option String)) :
    DefaultFound (session.readied place) result (later.readied place) := by
  cases place with
  | none => exact found
  | some target =>
      cases found with
      | kept known => exact .kept known
      | made unknown read => exact .made unknown read
      | unread unknown unread => exact .unread unknown unread

/-- The configuration that was found stands as the default one afterwards. -/
theorem Act.DefaultFound.known {session later : Session} {number : Nat}
    (found : DefaultFound session (.ok number) later) : later.defaultConfig = some number := by
  cases found with
  | kept known => exact known
  | made unknown read => rfl

namespace Operation

variable {session later : Session} {operation : Operation}

/-- An operation that needs the default configuration and cannot make it fails, and at most the logger is
there then that it asked for. -/
theorem exec_of_unread (needs : operation.needsDefault session = true) {failure : Failure}
    (unread : DefaultFound session (.error failure) later) (context : Context) :
    ∃ place, (operation.perform context).exec session = (.error failure, later.readied place) := by
  obtain ⟨place, rest, -, goes⟩ := exists_goesOn needs context
  exact ⟨place, (goes session rfl rfl).unnamed.trans
    (exec_bind_error (exec_defaultConfig (unread.readied place)) rest)⟩

/-- An operation that needs the default configuration goes on with the one that it finds, as it does when
this one has a name and is given by it. -/
theorem exec_of_found (needs : operation.needsDefault session = true) {number : Nat}
    (found : DefaultFound session (.ok number) later) (context : Context) :
    ∃ place rest, Settled rest ∧
      (operation.perform context).exec session = (rest number).exec (later.readied place) ∧
      ∀ name, ((operation.naming name).perform context).exec
          (later.storing (some name) (.config number)) =
        (rest number).exec ((later.storing (some name) (.config number)).readied place) := by
  obtain ⟨place, rest, settled, goes⟩ := exists_goesOn needs context
  have frame : later.registry = session.registry ∧ later.loggers = session.loggers := by
    cases found <;> exact ⟨rfl, rfl⟩
  refine ⟨place, rest, settled, ?_, fun name => ?_⟩
  · exact (goes session rfl rfl).unnamed.trans
      (exec_bind_ok (exec_defaultConfig (found.readied place)) rest)
  · exact (goes (later.storing (some name) (.config number)) frame.1 frame.2).named name number
      found.known (Fields.get?_put_self _ _ _)

/-- After an operation that needs it, the default configuration is the one that was looked for. -/
theorem default_of_needed (needs : operation.needsDefault session = true)
    {result : Except Failure Nat} (looked : DefaultFound session result later) (context : Context) :
    ((operation.perform context).exec session).2.defaultConfig = later.defaultConfig := by
  have readied (place : Option (Option String)) :
      (later.readied place).defaultConfig = later.defaultConfig := by
    cases place <;> rfl
  cases result with
  | error failure =>
      obtain ⟨place, failed⟩ := exec_of_unread needs looked context
      rw [failed]
      exact readied place
  | ok number =>
      obtain ⟨place, rest, settled, went, -⟩ := exec_of_found needs looked context
      rw [went, (settled.within number (later.readied place)).default rfl]
      exact readied place

end Operation

/-- Only a call that is left to the default configuration comes to it. -/
theorem Act.leftToDefault_of_callConfig {session later : Session} {config : ConfigArgument}
    {extra rest : Fields String Value}
    (called : (callConfig config extra).exec session = (.ok (some none, rest), later)) :
    leftToDefault config extra = true := by
  unfold callConfig at called
  unfold leftToDefault
  by_cases reserved : ["logger", "level", "message"].any (extra.has ·)
  · rcases config with _ | _ | name <;> cases extra.get? "config" <;> simp [reserved] at called
  simp only [reserved, Bool.false_eq_true, if_false] at called
  cases given : extra.get? "config" with
  | none =>
      rcases config with _ | _ | name
      · simp [reserved, Value.isTrue]
      · simp [reserved]
      · have found := exec_map some (Act.config name) session
        simp only [given, findConfig, exec_bind, found] at called
        generalize (Act.config name).exec session = done at called
        obtain ⟨_ | number, middle⟩ := done <;> simp [Except.map] at called
  | some value =>
      cases config with
      | some config => simp [given] at called
      | none =>
          cases filled : value.isTrue with
          | true => simp [given, filled] at called
          | false => simp [reserved, filled]

namespace Operation

/-- A logger that is set up with a given configuration, or not at all, leaves the default one alone. -/
theorem default_kept_getLogger (context : Context) {session : Session} {name : Literal}
    {config : Option String} (free : (getLogger name config).needsDefault session = false) :
    (((getLogger name config).perform context).exec session).2.defaultConfig =
      session.defaultConfig := by
  cases config with
  | some id =>
      have within : (read name >>= fun value => (some <$> Act.config id) >>= fun config =>
          Act.getLogger value config >>= fun target => get >>= fun session : Session =>
            pure (Answer.logger (session.loggers.view target))).Within (Touch.Allows {}) := by
        simp only [bind_map_left]
        exact (closed_within.read name).bind fun value => (closed_within.config id).bind fun number =>
          (within_getLogger (closed_within.pure number)).bind fun _ => closed_within.get rfl fun _ =>
            closed_within.pure _
      exact (within session).default rfl
  | none =>
      have given := exec_read name session
      rw [needsDefault] at free
      cases read : name.read session.registry with
      | error failure => rw [perform, exec_bind_error (given.trans (by rw [read]))]
      | ok value =>
          have chosen : (findConfig none).exec session = (.ok none, session) := rfl
          rw [read] at free
          rw [perform, exec_bind_ok (given.trans (by rw [read])), exec_bind_ok chosen]
          cases named : value.target? with
          | none =>
              have failed : (Act.getLogger value none).exec session = (.error .unsuitable, session) :=
                exec_bind_error (exec_loggerOf_none named) _
              rw [exec_bind_error failed]
          | some target =>
              have handled : (session.loggers.get target).handlers ≠ 0 := by simpa [named] using free
              rw [exec_bind_ok (exec_getLogger_handled named handled none)]
              rfl

/-- An event whose level is not known comes to no configuration. -/
theorem exec_logCall_unknown {session : Session} {level : Value} {failure : Failure}
    (unknown : session.registry.resolve level none = .error failure) (context : Context)
    (target : Option String) (message : Value) (config : Option Nat) (extra : Fields String Value) :
    (logCall context target level message (some config) extra).exec session =
      (.error failure, session) := by
  have resolved := (exec_attempt (session.registry.resolve level none) session).trans
    (by rw [unknown])
  have failed : (Act.logWithContext context target level message config extra).exec session =
      (.error failure, session) := (exec_bind_ok (exec_get session) _).trans (exec_bind_error resolved _)
  exact exec_bind_error failed _

/-- A call with a given configuration, or one that fails before it needs one, leaves the default one
alone. -/
theorem default_kept_logWithContext (context : Context) {session : Session} {name : String}
    {level message : Literal} {config : ConfigArgument} {extra : List (String × Literal)}
    (free : (logWithContext name level message config extra).needsDefault session = false) :
    (((logWithContext name level message config extra).perform context).exec
      session).2.defaultConfig = session.defaultConfig := by
  rw [exec_logWithContext]
  rw [needsDefault] at free
  cases read : readCall session.registry level message extra with
  | error failure => rfl
  | ok parts =>
      obtain ⟨given, content, fields⟩ := parts
      let target := LoggerTree.target name
      have reads : (callConfig config fields).Within Eq := closed_within.callConfig config fields
      have still := reads (session.ensured target)
      rw [read] at free
      dsimp only at free ⊢
      rw [exec_bind]
      cases called : (callConfig config fields).exec (session.ensured target) with
      | mk result later =>
          rw [called] at still
          obtain rfl : session.ensured target = later := still
          rcases result with failure | ⟨_ | _ | number, rest⟩
          · rfl
          · have within : ((get : Act Session) >>= fun session =>
                attempt (session.registry.resolve given none) >>= fun _ =>
                  (throw .memberMissing : Act Answer)).Within (Touch.Allows {}) :=
              closed_within.get rfl fun _ => (closed_within.attempt _).bind fun _ =>
                closed_within.throw _
            exact (within (session.ensured target)).default rfl
          · rw [leftToDefault_of_callConfig called, Bool.true_and] at free
            cases resolved : session.registry.resolve given none with
            | ok grade => simp [resolved, Except.toOption] at free
            | error failure =>
                have ended := @exec_logCall_unknown (session.ensured target) given failure resolved
                  context target content none rest
                exact congrArg (fun done => done.2.defaultConfig) ended
          · have within : (Act.logWithContext context target given content (some number) rest).Within
                (Touch.Allows {}) :=
              closed_within.logWithContext (closed_within.pure number) within_ruleOf _ _ _ _ _
            exact (within.bind (fun written => closed_within.pure (Answer.logged written.1 written.2))
              (session.ensured target)).default rfl

/-- An operation that neither needs nor sets the default configuration leaves it as it is. -/
theorem default_kept (context : Context) {session : Session} {operation : Operation}
    (free : operation.needsDefault session = false)
    (other : ∀ id, operation ≠ .setDefaultConfig id) :
    ((operation.perform context).exec session).2.defaultConfig = session.defaultConfig := by
  have touches := operation.within_perform context session
  cases operation with
  | setDefaultConfig id => exact absurd rfl (other id)
  | getDefaultConfig id => contradiction
  | getFilter id config =>
      cases config with
      | none => contradiction
      | some name =>
          have within : ((some <$> Act.config name) >>= fun config =>
              configOrDefault config >>= filterOf id).Within (Touch.Allows {}) := by
            rw [bind_map_left]
            exact (closed_within.config name).bind fun number =>
              (closed_within.pure number).bind fun number =>
                closed_within.filterOf id (within_ruleOf number) (within_store id)
          exact (within session).default rfl
  | getLogger name config => exact default_kept_getLogger context free
  | logWithContext name level message config extra => exact default_kept_logWithContext context free
  | _ => exact touches.default rfl

end Operation

end LogGate

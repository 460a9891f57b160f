import LogGate.Session.Logging
import LogGate.Session.Snapshots
import LogGate.Step.Reading

/-!
Carrying out actions on a session: what each way of building an action does, and the outcomes of the
actions that other modules build on.
-/

namespace LogGate.Act

variable {α β : Type}

/-- The result of an action and the session after it. -/
def exec (act : Act α) (session : Session) : Except Failure α × Session :=
  act.run.run session

@[simp] theorem exec_pure (value : α) (session : Session) :
    (pure value : Act α).exec session = (.ok value, session) := rfl

@[simp] theorem exec_throw (failure : Failure) (session : Session) :
    (throw failure : Act α).exec session = (.error failure, session) := rfl

@[simp] theorem exec_attempt (result : Except Failure α) (session : Session) :
    (attempt result).exec session = (result, session) := rfl

@[simp] theorem exec_get (session : Session) :
    (get : Act Session).exec session = (.ok session, session) := rfl

@[simp] theorem exec_modify (change : Session → Session) (session : Session) :
    (modify change : Act Unit).exec session = (.ok (), change session) := rfl

/-- The second action starts where the first one ended, unless that failed. -/
theorem exec_bind (act : Act α) (next : α → Act β) (session : Session) :
    (act >>= next).exec session = match act.exec session with
      | (.ok value, later) => (next value).exec later
      | (.error failure, later) => (.error failure, later) := by
  simp only [exec, ExceptT.run_bind, StateT.run_bind]
  change (match (act.run.run session).1 with | _ => _) = _
  rcases act.run.run session with ⟨_ | _, later⟩ <;> rfl

/-- After an action that succeeds the next one runs in the session that it leaves. -/
theorem exec_bind_ok {act : Act α} {session later : Session} {value : α}
    (done : act.exec session = (.ok value, later)) (next : α → Act β) :
    (act >>= next).exec session = (next value).exec later := by
  rw [exec_bind, done]

/-- An action that fails ends what follows it. -/
theorem exec_bind_error {act : Act α} {session later : Session} {failure : Failure}
    (failed : act.exec session = (.error failure, later)) (next : α → Act β) :
    (act >>= next).exec session = (.error failure, later) := by
  rw [exec_bind, failed]

/-- A change of the result leaves the session as the action left it. -/
@[simp] theorem exec_map (change : α → β) (act : Act α) (session : Session) :
    (change <$> act).exec session =
      ((act.exec session).1.map change, (act.exec session).2) := by
  rw [map_eq_pure_bind, exec_bind]
  rcases act.exec session with ⟨_ | _, later⟩ <;> rfl

/-- Reading a literal leaves the session as it is. -/
theorem exec_read (literal : Literal) (session : Session) :
    (read literal).exec session = (literal.read session.registry, session) := by
  simp [read, exec_bind]

/-- Reading fields does not change the session. -/
theorem exec_readFields (fields : List (String × Literal)) (session : Session) :
    (readFields fields).exec session = (Literal.readNamed session.registry fields, session) := by
  simp [readFields, exec_bind]

/-- Literals are read one after the other, up to the first that cannot be read. -/
theorem exec_readAll (literals : List Literal) (session : Session) :
    (readAll literals).exec session =
      (Literal.readItems session.registry literals, session) := by
  induction literals with
  | nil => rfl
  | cons literal rest ih =>
      have first := exec_read literal session
      rw [readAll, Literal.readItems]
      cases read : literal.read session.registry with
      | error failure =>
          rw [read] at first
          rw [exec_bind_error first]
          rfl
      | ok value =>
          rw [read] at first
          rw [exec_bind_ok first, exec_bind, ih]
          cases Literal.readItems session.registry rest <;> rfl

/-- A name that a configuration has is found in the session. -/
theorem exec_findConfig {session : Session} {id : String} {number : Nat}
    (named : session.objects.get? id = some (.config number)) :
    (findConfig (some id)).exec session = (.ok (some number), session) := by
  simp [findConfig, config, object, exec_bind, named]

/-- The three ways in which the default configuration is looked for. -/
inductive DefaultFound (session : Session) : Except Failure Nat → Session → Prop
  | kept {number : Nat} (known : session.defaultConfig = some number) :
      DefaultFound session (.ok number) session
  | made {config : Config} (unknown : session.defaultConfig = none)
      (read : Config.ofEnvironment session.environment = .ok config) :
      DefaultFound session (.ok session.configs.length) { session with
        configs := session.configs ++ [config]
        defaultConfig := some session.configs.length }
  | unread {failure : Failure} (unknown : session.defaultConfig = none)
      (unread : Config.ofEnvironment session.environment = .error failure) :
      DefaultFound session (.error failure) session

/-- The action does what the relation says. -/
theorem exec_defaultConfig {session later : Session} {result : Except Failure Nat}
    (looked : DefaultFound session result later) : defaultConfig.exec session = (result, later) := by
  cases looked with
  | kept known => simp [defaultConfig, exec_bind, known]
  | made unknown read => simp [defaultConfig, exec_bind, unknown, read, addConfig, Except.map]
  | unread unknown unread => simp [defaultConfig, exec_bind, unknown, unread]

/-- Looking for the default configuration always ends in one of the three ways. -/
theorem defaultFound (session : Session) :
    DefaultFound session (defaultConfig.exec session).1 (defaultConfig.exec session).2 := by
  cases known : session.defaultConfig with
  | some number =>
      rw [exec_defaultConfig (.kept known)]
      exact .kept known
  | none =>
      cases read : Config.ofEnvironment session.environment with
      | ok config =>
          rw [exec_defaultConfig (.made known read)]
          exact .made known read
      | error failure =>
          rw [exec_defaultConfig (.unread known read)]
          exact .unread known read

/-- The relation says all that looking for the default configuration does. -/
theorem exec_defaultConfig_iff {session later : Session} {result : Except Failure Nat} :
    defaultConfig.exec session = (result, later) ↔ DefaultFound session result later := by
  refine ⟨fun found => ?_, exec_defaultConfig⟩
  have looked := defaultFound session
  rwa [found] at looked

/-- The four ways in which the rule of a configuration is looked for. -/
inductive RuleFound (number : Nat) (session : Session) :
    Except Failure (Option (Nat × Rule)) → Session → Prop
  | inactive (off : (session.config number).isActive = false) :
      RuleFound number session (.ok none) session
  | kept {rule : Nat × Rule} (on : (session.config number).isActive = true)
      (found : session.rules.get? number = some rule) :
      RuleFound number session (.ok (some rule)) session
  | built {rule : Rule} (on : (session.config number).isActive = true)
      (missing : session.rules.get? number = none)
      (built : (session.config number).buildRule session.registry = .ok rule) :
      RuleFound number session (.ok (some (session.built, rule))) { session with
        rules := session.rules.put number (session.built, rule)
        built := session.built + 1 }
  | unbuilt {failure : Failure} (on : (session.config number).isActive = true)
      (missing : session.rules.get? number = none)
      (unbuilt : (session.config number).buildRule session.registry = .error failure) :
      RuleFound number session (.error failure) session

/-- The action gives the rule that the relation says. -/
theorem exec_ruleOf {number : Nat} {session later : Session}
    {result : Except Failure (Option (Nat × Rule))}
    (looked : RuleFound number session result later) :
    (ruleOf number).exec session = (result, later) := by
  cases looked with
  | inactive off => simp [ruleOf, exec_bind, off]
  | kept on found => simp [ruleOf, exec_bind, on, found]
  | built on missing built =>
      simp [ruleOf, exec_bind, on, missing, built, nextNumber, Except.map]
  | unbuilt on missing unbuilt => simp [ruleOf, exec_bind, on, missing, unbuilt]

/-- Looking for the rule of a configuration always ends in one of these ways. -/
theorem ruleFound (number : Nat) (session : Session) :
    RuleFound number session ((ruleOf number).exec session).1
      ((ruleOf number).exec session).2 := by
  cases active : (session.config number).isActive with
  | false =>
      rw [exec_ruleOf (.inactive active)]
      exact .inactive active
  | true =>
      cases found : session.rules.get? number with
      | some rule =>
          rw [exec_ruleOf (.kept active found)]
          exact .kept active found
      | none =>
          cases made : (session.config number).buildRule session.registry with
          | ok rule =>
              rw [exec_ruleOf (.built active found made)]
              exact .built active found made
          | error failure =>
              rw [exec_ruleOf (.unbuilt active found made)]
              exact .unbuilt active found made

/-- The relation says all that looking for a rule does. -/
theorem exec_ruleOf_iff {number : Nat} {session later : Session}
    {result : Except Failure (Option (Nat × Rule))} :
    (ruleOf number).exec session = (result, later) ↔ RuleFound number session result later := by
  refine ⟨fun found => ?_, exec_ruleOf⟩
  have looked := ruleFound number session
  rwa [found] at looked

end LogGate.Act

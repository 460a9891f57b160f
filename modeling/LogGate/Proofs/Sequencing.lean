import LogGate.Proofs.Scopeless
import LogGate.Step.Effect
import Mathlib.Order.Defs.Unbundled

/-!
Properties that an action inherits from its parts. Whatever only reads has each of them; an action that
changes the session has those that its changes have.
-/

namespace LogGate

namespace Act

/-- A property that actions inherit from the actions that they are put together from. -/
structure Sequential (good : ∀ ⦃α : Type⦄, Act α → Prop) : Prop where
  protected pure : ∀ {α : Type} (value : α), good (pure value : Act α)
  protected throw : ∀ {α : Type} (failure : Failure), good (throw failure : Act α)
  protected bind : ∀ {α β : Type} {act : Act α} {next : α → Act β}, good act →
    (∀ value, good (next value)) → good (act >>= next)

/-- The session may be looked at too, as long as what follows does not depend on its scopes. -/
structure Closed (good : ∀ ⦃α : Type⦄, Act α → Prop) : Prop extends Sequential good where
  protected get : ∀ {β : Type} {next : Session → Act β},
    ((fun session scopes homes => next (Session.withScopes session scopes homes)) =
      fun session _ _ => next session) →
    (∀ session, good (next session)) → good ((get : Act Session) >>= next)

theorem closed_scopeless : Closed fun _ act => act.Scopeless where
  pure := scopeless_pure
  throw := scopeless_throw
  get := scopeless_get
  bind := Scopeless.bind

/-- An action after which every session is one that is allowed, whether it succeeds or fails. -/
def Within {α : Type} (allowed : Session → Session → Prop) (act : Act α) : Prop :=
  ∀ session : Session, allowed session (act.exec session).2

theorem Within.bind {α β : Type} {allowed : Session → Session → Prop} [IsTrans Session allowed]
    {act : Act α} {next : α → Act β} (first : act.Within allowed)
    (second : ∀ value, (next value).Within allowed) : (act >>= next).Within allowed := by
  intro session
  have start := first session
  rw [exec_bind]
  cases done : act.exec session with
  | mk result later =>
      rw [done] at start
      cases result with
      | error failure => exact start
      | ok value => exact IsTrans.trans _ _ _ start (second value later)

theorem closed_within {allowed : Session → Session → Prop} [IsPreorder Session allowed] :
    Closed fun _ act => act.Within allowed where
  pure _ := refl_of allowed
  throw _ := refl_of allowed
  get _ rest := Within.bind (refl_of allowed) rest
  bind := Within.bind

section Parts

variable {good : ∀ ⦃α : Type⦄, Act α → Prop} {α : Type}

protected theorem Sequential.map (sequential : Sequential good) {β : Type} {act : Act α}
    (first : good act) (change : α → β) : good (change <$> act) := by
  rw [map_eq_pure_bind]
  exact sequential.bind first fun _ => sequential.pure _

protected theorem Sequential.attempt (sequential : Sequential good) (result : Except Failure α) :
    good (attempt result) := by
  cases result with
  | ok value => exact sequential.pure value
  | error failure => exact sequential.throw failure

/-- An action may be refused before it starts. -/
protected theorem Sequential.guarded (sequential : Sequential good) {refused : Prop}
    [Decidable refused] {failure : Failure} {act : Unit → Act α} (rest : good (act ())) :
    good (if refused then throw failure >>= act else act ()) := by
  split
  · have thrown : good (throw failure : Act Unit) := sequential.throw failure
    exact sequential.bind thrown fun _ => rest
  · exact rest

end Parts

namespace Closed

variable {good : ∀ ⦃α : Type⦄, Act α → Prop}

section Reading

protected theorem read (closed : Closed good) (literal : Literal) : good (read literal) :=
  closed.get rfl fun _ => closed.attempt _

protected theorem readAll (closed : Closed good) (literals : List Literal) :
    good (readAll literals) := by
  induction literals with
  | nil => exact closed.pure _
  | cons literal rest ih =>
      exact closed.bind (closed.read literal) fun _ => closed.bind ih fun _ => closed.pure _

protected theorem readPairs (closed : Closed good) (fields : List (String × Literal)) :
    good (readPairs fields) := closed.get rfl fun _ => closed.attempt _

protected theorem readFields (closed : Closed good) (fields : List (String × Literal)) :
    good (readFields fields) := closed.get rfl fun _ => closed.attempt _

protected theorem readOption (closed : Closed good) (literal : Option Literal) :
    good (readOption literal) := by
  cases literal with
  | none => exact closed.pure _
  | some literal => exact closed.map (closed.read literal) _

protected theorem readReport (closed : Closed good)
    (report : Option (Option (ErrorKind × List Literal))) : good (readReport report) := by
  unfold readReport
  split
  · exact closed.pure _
  · exact closed.pure _
  · exact closed.bind (closed.readAll _) fun _ => closed.pure _

protected theorem readRecord (closed : Closed good) (form : RecordForm) : good (readRecord form) :=
  closed.bind (closed.read _) fun _ => closed.bind (closed.readAll _) fun _ =>
    closed.bind (closed.readReport _) fun _ => closed.get rfl fun _ =>
      closed.bind (closed.attempt _) fun _ => closed.get rfl fun _ =>
        closed.bind (closed.readPairs _) fun _ => closed.pure _

protected theorem object (closed : Closed good) (name : String) : good (object name) := by
  refine closed.get rfl fun session => ?_
  cases session.objects.get? name with
  | none => exact closed.throw _
  | some object => exact closed.pure _

protected theorem table (closed : Closed good) (name : String) : good (table name) := by
  refine closed.bind (closed.object name) fun found => ?_
  split
  · exact closed.pure _
  · exact closed.throw _

protected theorem snapshot (closed : Closed good) (name : String) : good (snapshot name) := by
  refine closed.bind (closed.object name) fun found => ?_
  split
  · exact closed.pure _
  · exact closed.throw _

protected theorem provider (closed : Closed good) (name : String) : good (provider name) := by
  refine closed.bind (closed.object name) fun found => ?_
  split
  · exact closed.pure _
  · exact closed.throw _

protected theorem filter (closed : Closed good) (name : String) : good (filter name) := by
  refine closed.bind (closed.object name) fun found => ?_
  split
  · exact closed.pure _
  · exact closed.throw _

protected theorem config (closed : Closed good) (name : String) : good (config name) := by
  refine closed.bind (closed.object name) fun found => ?_
  split
  · exact closed.pure _
  · exact closed.throw _

protected theorem findProvider (closed : Closed good) (name : ProviderName) :
    good (findProvider name) := by
  cases name with
  | none => exact closed.pure _
  | some name => exact closed.provider name

protected theorem findConfig (closed : Closed good) (name : Option String) :
    good (findConfig name) := by
  cases name with
  | none => exact closed.pure _
  | some name => exact closed.map (closed.config name) _

protected theorem findTable (closed : Closed good) (name : Option String) : good (findTable name) := by
  cases name with
  | none => exact closed.pure _
  | some name => exact closed.map (closed.table name) _

protected theorem requireKey (closed : Closed good) (key : Option Value) : good (requireKey key) := by
  cases key with
  | none => exact closed.throw _
  | some key => exact closed.pure key

protected theorem createFilter (closed : Closed good) (form : FilterForm) :
    good (createFilter form) :=
  closed.bind (closed.readOption _) fun _ => closed.bind (closed.read _) fun _ =>
    closed.bind (closed.read _) fun _ => closed.bind (closed.read _) fun _ =>
      closed.bind (closed.read _) fun _ => closed.bind (closed.findProvider _) fun _ =>
        closed.bind (closed.requireKey _) fun _ => closed.get rfl fun _ =>
          closed.bind (closed.attempt _) fun _ => closed.pure _

protected theorem newFilter (closed : Closed good) (form : RuleForm) : good (newFilter form) :=
  closed.bind (closed.readOption _) fun _ => closed.bind (closed.findTable _) fun _ =>
    closed.bind (closed.read _) fun _ => closed.bind (closed.read _) fun _ =>
      closed.bind (closed.findProvider _) fun _ => closed.bind (closed.requireKey _) fun _ =>
        closed.bind (closed.attempt _) fun _ => closed.pure _

protected theorem levelOf (closed : Closed good) (value : Value) : good (levelOf value) := by
  cases value with
  | level grade => exact closed.pure grade
  | _ => exact closed.throw _

protected theorem eventRank (closed : Closed good) (level : Value) : good (eventRank level) :=
  closed.get rfl fun _ => closed.attempt _

protected theorem snapshotOf (closed : Closed good) (form : SnapshotForm) :
    good (snapshotOf form) := by
  cases form with
  | stored name => exact closed.snapshot name
  | data data => exact closed.bind (closed.read data) fun _ => closed.attempt _

protected theorem evaluate (closed : Closed good) (filter : Filter) (level : Value)
    (snapshot : Snapshot) : good (evaluate filter level snapshot) := by
  unfold Act.evaluate
  split
  · exact closed.pure _
  · split
    · exact closed.pure _
    · exact closed.throw _

protected theorem isIdentical (closed : Closed good) (first second : Object) :
    good (isIdentical first second) := by
  unfold Act.isIdentical
  split <;> first | exact closed.pure _ | exact closed.throw _

protected theorem callConfig (closed : Closed good) (config : ConfigArgument)
    (extra : Fields String Value) : good (callConfig config extra) := by
  unfold Act.callConfig
  split
  · exact closed.guarded (closed.throw _)
  · exact closed.guarded (closed.bind (closed.findConfig _) fun _ => closed.pure _)
  · exact closed.guarded (closed.pure _)
  · exact closed.guarded (closed.pure _)

protected theorem log (closed : Closed good) (context : Context) (target : Option String)
    (level : Int) (message : Value) (arguments : List Value) (fields : Context) :
    good (log context target level message arguments fields) := by
  refine closed.get rfl fun session => ?_
  split
  · exact closed.bind (closed.attempt _) fun _ => closed.attempt _
  · exact closed.pure _

end Reading

section Judging

variable {context : Context} {filter : Filter}

protected theorem ask (closed : Closed good) (asked : ∀ number, good (askSource number))
    (context : Context) (provider : Provider) : good (ask context provider) := by
  cases provider with
  | ambient => exact closed.pure _
  | silent => exact closed.pure _
  | source number name => exact closed.map (asked number) _

protected theorem currentSnapshot (closed : Closed good) (asked : good (ask context filter.provider)) :
    good (currentSnapshot context filter) := closed.bind asked fun _ => closed.pure _

protected theorem recordOutcome (closed : Closed good) (asked : good (ask context filter.provider))
    (record : Record) : good (recordOutcome context filter record) := by
  refine closed.bind ?_ fun _ => closed.bind (closed.eventRank _) fun _ => closed.attempt _
  unfold recordSnapshot
  split
  · exact closed.pure _
  · exact closed.currentSnapshot asked

protected theorem eventOutcome (closed : Closed good) (asked : good (ask context filter.provider))
    (value : Value) : good (eventOutcome context filter value) :=
  closed.bind (closed.eventRank value) fun _ => closed.bind (closed.currentSnapshot asked)
    fun _ => closed.attempt _

protected theorem adapterAdmits (closed : Closed good) (asked : good (ask context filter.provider))
    (name : Value) (record : Record) : good (adapterAdmits context filter name record) := by
  refine closed.bind (closed.attempt _) fun passed => ?_
  split
  · exact closed.bind (closed.recordOutcome asked record) fun _ => closed.pure _
  · exact closed.pure _

end Judging

section Logging

protected theorem loggerOf (closed : Closed good) (made : ∀ name, good (logger name)) (name : Value) :
    good (loggerOf name) := by
  unfold Act.loggerOf
  split
  · exact made _
  · split
    · exact closed.throw _
    · exact made _

protected theorem setUp (closed : Closed good) {target : Option String} {number : Nat}
    (changed : ∀ change, good (changeLogger target change)) (found : good (ruleOf number)) :
    good (setUp target number) := by
  refine closed.get rfl fun _ => closed.get rfl fun _ => closed.bind (closed.attempt _) fun level => ?_
  refine closed.bind (changed _) fun _ => closed.bind (changed _) fun _ => ?_
  refine closed.bind found fun rule => ?_
  cases rule with
  | none => exact closed.pure ()
  | some rule => exact changed _

protected theorem getLogger (closed : Closed good) {name : Value} {config : Option Nat}
    (named : good (loggerOf name)) (chosen : good (configOrDefault config))
    (ready : ∀ target number, good (setUp target number)) : good (getLogger name config) := by
  refine closed.bind named fun target => closed.get rfl fun session => ?_
  split
  · exact closed.bind chosen fun number => closed.bind (ready target number) fun _ => closed.pure _
  · exact closed.pure target

protected theorem defaultConfig (closed : Closed good) (added : ∀ config, good (addConfig config))
    (kept : ∀ number, good (modify fun session => { session with
      defaultConfig := some number } : Act Unit)) : good defaultConfig := by
  refine closed.get rfl fun session => ?_
  cases session.defaultConfig with
  | some number => exact closed.pure number
  | none =>
      exact closed.get rfl fun _ => closed.bind (closed.attempt _) fun config =>
        closed.bind (added config) fun number => closed.bind (kept number) fun _ => closed.pure _

/-- The default configuration is needed only where none is given. -/
protected theorem configOrDefault (closed : Closed good) {config : Option Nat}
    (needed : config = none → good Act.defaultConfig) : good (configOrDefault config) := by
  cases config with
  | some number => exact closed.pure number
  | none => exact needed rfl

protected theorem logWithContext (closed : Closed good) {config : Option Nat}
    (chosen : good (configOrDefault config)) (found : ∀ number, good (ruleOf number))
    (context : Context) (target : Option String) (level message : Value)
    (extra : Fields String Value) :
    good (logWithContext context target level message config extra) := by
  refine closed.get rfl fun _ => closed.bind (closed.attempt _) fun level => ?_
  refine closed.bind chosen fun number => closed.bind (found number) fun rule => ?_
  cases rule with
  | none => exact closed.bind (closed.log _ _ _ _ _ _) fun _ => closed.pure _
  | some rule =>
      dsimp only
      split
      · exact closed.pure _
      · exact closed.bind (closed.log _ _ _ _ _ _) fun _ => closed.pure _

protected theorem serveTenants (closed : Closed good) {config : Nat} (requested : good nextRequest)
    (found : ∀ number, good (ruleOf number)) (context : Context) (target : Option String)
    (tenants : List String) : good (serveTenants context target config tenants) := by
  have chosen : good (configOrDefault (some config)) := closed.pure config
  induction tenants with
  | nil => exact closed.pure _
  | cons tenant rest ih =>
      exact closed.bind requested fun _ => closed.bind (closed.log _ _ _ _ _ _) fun _ =>
        closed.bind (closed.log _ _ _ _ _ _) fun _ =>
          closed.bind (closed.logWithContext chosen found _ _ _ _ _) fun _ =>
            closed.bind ih fun _ => closed.pure _

end Logging

end Closed

end Act

end LogGate

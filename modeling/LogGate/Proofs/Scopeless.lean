import LogGate.Proofs.Action

/-!
Actions in which the open scopes play no part. They neither see the scopes nor change them, so that
only the running code that entered a scope can tell it from another.
-/

namespace LogGate

/-- The session with other open scopes, and with another count of running codes. -/
def Session.withScopes (session : Session) (scopes : Fields String Scope) (homes : Nat) : Session :=
  { session with
    scopes
    homes }

namespace Act

variable {α β : Type}

/-- An action that does the same whatever scopes are open, and leaves them as they are. -/
def Scopeless (act : Act α) : Prop :=
  ∀ (session : Session) (scopes : Fields String Scope) (homes : Nat),
    act.exec (session.withScopes scopes homes) =
      ((act.exec session).1, (act.exec session).2.withScopes scopes homes)

theorem scopeless_pure (value : α) : (pure value : Act α).Scopeless := fun _ _ _ => rfl

theorem scopeless_throw (failure : Failure) : (throw failure : Act α).Scopeless := fun _ _ _ => rfl

/-- A change is scopeless if it does not look at scopes and leaves them alone. -/
theorem scopeless_modify {change : Session → Session}
    (apart : (fun session scopes homes => change (Session.withScopes session scopes homes)) =
      fun session => (change session).withScopes) : (modify change : Act Unit).Scopeless := by
  intro session scopes homes
  have same := congrFun (congrFun (congrFun apart session) scopes) homes
  rw [exec_modify, exec_modify, same]

/-- The session may be looked at, as long as what follows does not depend on its scopes. -/
theorem scopeless_get {next : Session → Act β}
    (blind : (fun session scopes homes => next (Session.withScopes session scopes homes)) =
      fun session _ _ => next session)
    (rest : ∀ session, (next session).Scopeless) :
    ((get : Act Session) >>= next).Scopeless := by
  intro session scopes homes
  have start := exec_get session
  have other := exec_get (session.withScopes scopes homes)
  have same := congrFun (congrFun (congrFun blind session) scopes) homes
  rw [exec_bind_ok start, exec_bind_ok other, same]
  exact rest session session scopes homes

/-- Scopeless actions are scopeless one after the other. -/
theorem Scopeless.bind {act : Act α} {next : α → Act β} (first : act.Scopeless)
    (second : ∀ value, (next value).Scopeless) : (act >>= next).Scopeless := by
  intro session scopes homes
  have start := first session scopes homes
  rw [exec_bind, exec_bind, start]
  cases done : act.exec session with
  | mk result later =>
      cases result with
      | error failure => rfl
      | ok value => exact second value later scopes homes

/-- The scopes and the count of running codes are the same after the action. -/
theorem Scopeless.exec_eq {act : Act α} (scopeless : act.Scopeless) (session : Session) :
    (act.exec session).2.scopes = session.scopes ∧ (act.exec session).2.homes = session.homes := by
  have same : (act.exec session).2 =
      (act.exec session).2.withScopes session.scopes session.homes :=
    congrArg Prod.snd (scopeless session session.scopes session.homes)
  exact ⟨(congrArg Session.scopes same).trans rfl, (congrArg Session.homes same).trans rfl⟩

end Act

end LogGate

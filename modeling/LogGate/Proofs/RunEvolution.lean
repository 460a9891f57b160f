import LogGate.Proofs.Evolution
import LogGate.Proofs.Operations
import LogGate.Run

/-!
The evolution of a session along a run. Every operation and every step is a sequence of changes, so
that a session that a script ends in is reachable.
-/

namespace LogGate

open Act

/-- A session with one more object, if the object has a name. -/
def Session.storing (session : Session) (name : Option String) (object : Object) : Session :=
  match name with
  | some name => { session with objects := session.objects.put name object }
  | none => session

/-- An object that is stored gets its name, if it has one. -/
theorem Act.exec_store (name : Option String) (object : Object) (session : Session) :
    (store name object).exec session = (.ok (), session.storing name object) := by
  cases name <;> rfl

/-- A registration fails, or changes the registry and stores the level. -/
theorem Operation.register_cases (context : Context) (id : Option String) (name : Literal)
    (rank : Int) (session : Session) :
    (∃ failure, ((Operation.register id name rank).perform context).exec session =
      (.error failure, session)) ∨
    ∃ given level registry, session.registry.register given rank = .ok (level, registry) ∧
      ((Operation.register id name rank).perform context).exec session =
        (.ok (.level level), Session.storing { session with registry } id (.level level)) := by
  have read := exec_read name session
  cases given : name.read session.registry with
  | error failure =>
      rw [given] at read
      refine .inl ⟨failure, ?_⟩
      rw [Operation.perform, exec_bind_ok (exec_get session), exec_bind_error read]
  | ok value =>
      rw [given] at read
      have found := exec_attempt (session.registry.register value rank) session
      cases registered : session.registry.register value rank with
      | error failure =>
          refine .inl ⟨failure, ?_⟩
          rw [Operation.perform, exec_bind_ok (exec_get session), exec_bind_ok read,
            exec_bind_error (found.trans (by rw [registered]))]
      | ok result =>
          obtain ⟨level, registry⟩ := result
          refine .inr ⟨value, level, registry, registered, ?_⟩
          rw [Operation.perform, exec_bind_ok (exec_get session), exec_bind_ok read,
            exec_bind_ok (found.trans (by rw [registered])), exec_bind_ok (exec_modify _ _),
            exec_bind_ok (exec_store _ _ _), exec_pure]

/-- Registering a level changes the registry only, and may name the level. -/
theorem Operation.regular_register (context : Context) (id : Option String) (name : Literal)
    (rank : Int) : ((Operation.register id name rank).perform context).Regular { place := id } where
  moves := by
    intro session
    obtain ⟨failure, same⟩ | ⟨given, level, registry, registered, done⟩ :=
      register_cases context id name rank session
    · rw [same]
      exact .refl session
    · have storing : (store id (.level level)).Regular { place := id } := regular_store rfl _
      have stored := storing.moves { session with registry }
      rw [exec_store] at stored
      rw [done]
      exact ⟨(Session.Transition.registered registered).evolves.trans stored.evolves,
        stored.allowed.objects, stored.allowed.rules, stored.allowed.settings,
        stored.allowed.loggers⟩
  scopeless := by
    have storing (level : Level) : (store id (.level level)).Regular { place := id } :=
      regular_store rfl _
    exact scopeless_get rfl fun _ => (closed_scopeless.read name).bind fun _ =>
      (closed_scopeless.attempt _).bind fun _ => (scopeless_modify rfl).bind fun _ =>
        (storing _).scopeless.bind fun _ => scopeless_pure _

/-- What an operation may change it changes inside its footprint. -/
theorem Operation.covers_regular (operation : Operation) :
    operation.Covers fun _ act => act.Regular operation.footprint where
  toClosed := closed_regular
  registered := by
    rintro context id name rank rfl
    exact regular_register context id name rank
  stored := regular_store rfl
  numbered := regular_nextNumber
  requested := regular_nextRequest
  assigned := regular_setEnvironment
  timed clock := regular_modify (fun _ => .timed clock) rfl rfl
  made := regular_logger
  sourced _ _ blind := by
    refine regular_modify (fun _ => .sourced _) ?_ rfl
    funext session scopes homes
    have same := congrFun (congrFun (congrFun blind session) scopes) homes
    exact congrArg (fun sources => { session.withScopes scopes homes with sources }) same
  configured _ := regular_addConfig
  reconfigured _ := regular_replaceConfig
  defaulted _ number := regular_modify (fun _ => .defaulted number) rfl rfl
  found := regular_ruleOf
  setUp builds _ _ _ := regular_getLogger builds _ _

/-- By every operation a session evolves, also when it fails, and scopes play no part in it. -/
theorem Operation.regular_perform (context : Context) (operation : Operation) :
    (operation.perform context).Regular operation.footprint :=
  operation.covers_regular.perform context

namespace ScopeStep

def name : ScopeStep → String
  | enter scope _ => scope
  | enterRequest scope _ _ => scope
  | leave scope _ => scope

/-- What a step can come to: it fails and changes nothing, or it enters its scope, or it leaves its
scope, which restores the context only in the running code that entered it. -/
inductive Ends (ambient : Ambient) (session : Session) (step : ScopeStep) : Ambient × Session → Prop
  | failed : Ends ambient session step (ambient, session)
  | entered (fields : List (String × Value)) (requests : Nat) :
      Ends ambient session step
        (enterWith step.name (Context.ofNamed fields) ambient { session with requests })
  | left {entered : Scope} (found : session.scopes.get? step.name = some entered) :
      Ends ambient session step ({ ambient with context := entered.restored },
        { session with scopes := session.scopes.remove step.name })
  | foreign : Ends ambient session step
      (ambient, { session with scopes := session.scopes.remove step.name })

/-- A step of a scope ends in one of the ways above. -/
theorem ends_run (ambient : Ambient) (session : Session) (step : ScopeStep) :
    step.Ends ambient session (step.run ambient session).2 := by
  cases step with
  | enter scope fields =>
      dsimp only [run]
      split
      · exact .failed
      · exact .entered _ session.requests
  | enterRequest scope request fields =>
      dsimp only [run]
      split
      · exact .failed
      · exact .entered _ _
  | leave scope failing =>
      dsimp only [run, leaveScope]
      split
      · exact .failed
      · next found =>
        split
        · exact .left found
        · exact .foreign

/-- A scope changes only the list of scopes and the count of requests. -/
theorem run_frame (ambient : Ambient) (session : Session) (step : ScopeStep) :
    ∃ scopes requests, (step.run ambient session).2.2 = { session with
      scopes
      requests } := by
  have ends := step.ends_run ambient session
  generalize (step.run ambient session).2 = after at ends ⊢
  cases ends <;> exact ⟨_, _, rfl⟩

end ScopeStep

/-- A session evolves along a step of a scope. -/
theorem ScopeStep.evolves_run (ambient : Ambient) (session : Session) (step : ScopeStep) :
    session.Evolves (step.run ambient session).2.2 := by
  obtain ⟨scopes, requests, same⟩ := step.run_frame ambient session
  rw [same]
  exact (Session.Transition.scoped scopes).evolves.trans
    (Session.Transition.requested requests).evolves

/-- An operation at the top of a run keeps the ambient context. -/
theorem Step.run_operation {ambient : Ambient} {session later : Session} {operation : Operation}
    {answer : Except Failure Answer}
    (done : (operation.perform ambient.context).exec session = (answer, later)) :
    (Step.operation operation).run ambient session = (answer, ambient, later) := by
  have performed : operation.run ambient session = (answer, later) := done
  rw [Step.run, performed]

mutual

/-- Every step makes the session evolve, in whichever thread or task it runs. -/
theorem Step.evolves_run (ambient : Ambient) (session : Session) (step : Step) :
    session.Evolves (step.run ambient session).2.2 := by
  cases step with
  | change change =>
      rw [Step.run]
      split <;> exact .refl session
  | scope scope => exact scope.evolves_run ambient session
  | operation operation => exact (operation.regular_perform ambient.context).evolves session
  | thread steps =>
      exact (Session.Transition.homed _).evolves.trans (evolves_runAll _ session.withHome steps)
  | task steps =>
      exact (Session.Transition.homed _).evolves.trans (evolves_runAll _ session.withHome steps)

/-- A session evolves along a run. -/
theorem evolves_runAll (ambient : Ambient) (session : Session) (steps : List Step) :
    session.Evolves (runAll ambient session steps).2.2 := by
  cases steps with
  | nil => exact .refl session
  | cons step rest =>
      exact (Step.evolves_run ambient session step).trans (evolves_runAll _ _ rest)

end

/-- The session that a script ends in is reachable. -/
theorem reachable_runAll (ambient : Ambient) (steps : List Step) :
    (runAll ambient Session.initial steps).2.2.Reachable :=
  evolves_runAll ambient Session.initial steps

mutual

/-- Every step only adds to the tree of loggers. -/
theorem Step.grows_run (ambient : Ambient) (session : Session) (step : Step) :
    session.loggers.Grows (step.run ambient session).2.2.loggers := by
  cases step with
  | change change =>
      rw [Step.run]
      split <;> exact .refl
  | scope scope =>
      obtain ⟨scopes, requests, same⟩ := scope.run_frame ambient session
      rw [Step.run, same]
      exact .refl
  | operation operation =>
      exact ((operation.regular_perform ambient.context).allowed session).loggers
  | thread steps => exact grows_runAll _ session.withHome steps
  | task steps => exact grows_runAll _ session.withHome steps

/-- A run only makes loggers, and sets them up. -/
theorem grows_runAll (ambient : Ambient) (session : Session) (steps : List Step) :
    session.loggers.Grows (runAll ambient session steps).2.2.loggers := by
  cases steps with
  | nil => exact .refl
  | cons step rest =>
      exact (Step.grows_run ambient session step).trans (grows_runAll _ _ rest)

end

end LogGate

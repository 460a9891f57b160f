import LogGate.Proofs.CallShapes
import LogGate.Proofs.RunEvolution

/-!
The calls of a run: its operations in the order in which they were carried out, those of threads and tasks
among them, each with the context and the session that it found. What every further call keeps, of the
calls so far and of the session after them, holds at the end of a run.
-/

namespace LogGate

/-- An operation at the moment at which it is carried out. -/
structure Call where
  context : Context
  session : Session
  operation : Operation

namespace Call

def answer (call : Call) : Except Failure Answer :=
  call.operation.answer call.context call.session

/-- The session after the call. -/
def later (call : Call) : Session :=
  ((call.operation.perform call.context).exec call.session).2

/-- The session of a call evolves into the one after it. -/
theorem evolves (call : Call) : call.session.Evolves call.later :=
  (call.operation.regular_perform call.context).evolves call.session

end Call

mutual

def Step.calls (ambient : Ambient) (session : Session) : Step → List Call
  | .change _ | .scope _ => []
  | .operation operation => [⟨ambient.context, session, operation⟩]
  | .thread steps => runCalls ⟨session.homes, []⟩ session.withHome steps
  | .task steps => runCalls ⟨session.homes, ambient.context⟩ session.withHome steps

/-- The calls of a run, in their order. -/
def runCalls (ambient : Ambient) (session : Session) : List Step → List Call
  | [] => []
  | step :: rest =>
    let after := (step.run ambient session).2
    step.calls ambient session ++ runCalls after.1 after.2 rest

end

/-- A condition on the calls so far and on the session after them, which every call keeps, and in which
scopes play no part. -/
structure CallInvariant (holds : List Call → Session → Prop) : Prop where
  aside : ∀ {calls session} (scopes : Fields String Scope) (requests homes : Nat),
    holds calls session → holds calls { session with
      scopes
      requests
      homes }
  called : ∀ {calls} (call : Call), holds calls call.session → holds (calls ++ [call]) call.later

namespace CallInvariant

variable {holds : List Call → Session → Prop}

theorem withHome (invariant : CallInvariant holds) {calls : List Call} {session : Session}
    (start : holds calls session) : holds calls session.withHome :=
  invariant.aside session.scopes session.requests (session.homes + 1) start

mutual

/-- An invariant of single calls holds after a step. -/
theorem step_run (invariant : CallInvariant holds) {calls : List Call} {session : Session}
    (start : holds calls session) (ambient : Ambient) (step : Step) :
    holds (calls ++ step.calls ambient session) (step.run ambient session).2.2 := by
  cases step with
  | change change =>
      rw [Step.calls, Step.run, List.append_nil]
      split <;> exact start
  | scope scope =>
      obtain ⟨scopes, requests, same⟩ := scope.run_frame ambient session
      rw [Step.calls, Step.run, List.append_nil, same]
      exact invariant.aside scopes requests session.homes start
  | operation operation => exact invariant.called ⟨ambient.context, session, operation⟩ start
  | thread steps => exact run_all invariant (invariant.withHome start) _ steps
  | task steps => exact run_all invariant (invariant.withHome start) _ steps

/-- An invariant that holds at the start holds at the end of a run, of the calls of the run too. -/
theorem run_all (invariant : CallInvariant holds) {calls : List Call} {session : Session}
    (start : holds calls session) (ambient : Ambient) (steps : List Step) :
    holds (calls ++ runCalls ambient session steps) (runAll ambient session steps).2.2 := by
  cases steps with
  | nil =>
      rw [runCalls, List.append_nil]
      exact start
  | cons step rest =>
      rw [runCalls, ← List.append_assoc]
      exact run_all invariant (step_run invariant start ambient step) _ rest

end

end CallInvariant

/-- What every call keeps holds of the calls of a run and of its last session. -/
theorem CallInvariant.runAll {holds : List Call → Session → Prop} (invariant : CallInvariant holds)
    {session : Session} (start : holds [] session) (ambient : Ambient) (steps : List Step) :
    holds (runCalls ambient session steps) (LogGate.runAll ambient session steps).2.2 :=
  invariant.run_all start ambient steps

namespace Session

/-- The last session evolved from the first one, and so did each call on the way to it. -/
structure Passes (first : Session) (calls : List Call) (last : Session) : Prop where
  evolves : first.Evolves last
  found : ∀ call ∈ calls, first.Evolves call.session
  left : ∀ call ∈ calls, call.later.Evolves last

/-- The calls so far stay between the first session and what comes of the last one. -/
theorem Passes.evolved {first middle last : Session} {calls : List Call}
    (passes : first.Passes calls middle) (evolved : middle.Evolves last) : first.Passes calls last where
  evolves := passes.evolves.trans evolved
  found := passes.found
  left call member := (passes.left call member).trans evolved

/-- Each call of a run starts after the first session and ends before the last one. -/
theorem callInvariant_passes (first : Session) : CallInvariant first.Passes where
  aside scopes requests homes passes :=
    passes.evolved ((Transition.scoped scopes).evolves.trans
      ((Transition.requested requests).evolves.trans (Transition.homed homes).evolves))
  called call passes :=
    { evolves := passes.evolves.trans call.evolves
      found := List.forall_mem_append.mpr
        ⟨passes.found, List.forall_mem_singleton.mpr passes.evolves⟩
      left := List.forall_mem_append.mpr
        ⟨(passes.evolved call.evolves).left, List.forall_mem_singleton.mpr (.refl _)⟩ }

/-- A call of a run finds a session that evolved from the first one, and leaves one that evolves into the
last one. -/
theorem passes_runAll (ambient : Ambient) (session : Session) (steps : List Step) :
    session.Passes (runCalls ambient session steps) (runAll ambient session steps).2.2 := by
  have nothing : session.Passes [] session :=
    ⟨.refl session, List.forall_mem_nil _, List.forall_mem_nil _⟩
  exact (callInvariant_passes session).runAll nothing ambient steps

end Session

end LogGate

import LogGate.Proofs.Scopes

/-!
Isolation of threads and tasks. A thread knows nothing of the context that it was started in, and a
task does what its steps would do in place. Neither of them changes the context outside.

Two runs of one block are compared in which the running codes have different homes. The first run has
homes from a floor on, and each of them has its twin in the second run.
-/

namespace LogGate

namespace Session

/-- What all running codes share. Open scopes do not belong to it: they keep contexts, and only the code
that entered a scope can leave it. -/
def shared (session : Session) : Session := session.withScopes [] 0

/-- Sessions that share the same differ in their scopes alone. -/
theorem eq_withScopes {first second : Session} (same : second.shared = first.shared) :
    second = first.withScopes second.scopes second.homes := by
  cases first
  cases second
  simp only [shared, withScopes, mk.injEq] at same ⊢
  simp [same]

end Session

mutual

/-- The code that takes the step leaves only a scope that it entered itself, and so does the code of a
block. -/
def Step.LeavesOwn (ambient : Ambient) (session : Session) : Step → Prop
  | .scope (.leave scope _) =>
    ∀ entered, session.scopes.get? scope = some entered → entered.home = ambient.home
  | .thread steps => LeaveOwn ⟨session.homes, []⟩ session.withHome steps
  | .task steps => LeaveOwn ⟨session.homes, ambient.context⟩ session.withHome steps
  | _ => True

/-- Every step of the run leaves only scopes of the code that takes it. -/
def LeaveOwn (ambient : Ambient) (session : Session) : List Step → Prop
  | [] => True
  | step :: rest =>
    let after := (step.run ambient session).2
    step.LeavesOwn ambient session ∧ LeaveOwn after.1 after.2 rest

end

/-- A state that the code of a script can come to, also inside of a thread or a task. -/
inductive Reached : Ambient → Session → Prop
  | start : Reached ⟨0, []⟩ .initial
  | after {ambient : Ambient} {session : Session} (reached : Reached ambient session)
      (step : Step) : Reached (step.run ambient session).2.1 (step.run ambient session).2.2
  | inThread {ambient : Ambient} {session : Session} (reached : Reached ambient session) :
      Reached ⟨session.homes, []⟩ session.withHome
  | inTask {ambient : Ambient} {session : Session} (reached : Reached ambient session) :
      Reached ⟨session.homes, ambient.context⟩ session.withHome

/-- Homes are counted: no scope is of a home that is still to come. -/
def Session.Counted (session : Session) : Prop :=
  ∀ name scope, session.scopes.get? name = some scope → scope.home < session.homes

/-- A new thread is counted. -/
theorem Session.Counted.withHome {session : Session} (counted : session.Counted) :
    session.withHome.Counted :=
  fun name scope found => Nat.lt_succ_of_lt (counted name scope found)

/-- Scopes start no thread. -/
theorem ScopeStep.homes_run (ambient : Ambient) (session : Session) (step : ScopeStep) :
    (step.run ambient session).2.2.homes = session.homes := by
  obtain ⟨scopes, requests, same⟩ := step.run_frame ambient session
  exact (congrArg Session.homes same).trans rfl

/-- A code enters scopes in its own name. -/
theorem ScopeStep.counted_run {ambient : Ambient} {session : Session} (step : ScopeStep)
    (running : ambient.home < session.homes) (counted : session.Counted) :
    (step.run ambient session).2.2.Counted := by
  have remaining : ({ session with scopes := session.scopes.remove step.name } : Session).Counted := by
    intro name entered found
    rw [Fields.get?_remove] at found
    split at found
    · contradiction
    · exact counted name entered found
  have ends := step.ends_run ambient session
  generalize (step.run ambient session).2 = after at ends ⊢
  cases ends with
  | failed => exact counted
  | entered fields requests =>
      intro name entered found
      rw [enterWith, Fields.get?_put] at found
      split at found
      · cases found
        exact running
      · exact counted name entered found
  | left => exact remaining
  | foreign => exact remaining

/-- Operations start no thread. -/
theorem Operation.homes_run (ambient : Ambient) (session : Session) (operation : Operation) :
    (operation.run ambient session).2.homes = session.homes :=
  ((operation.regular_perform ambient.context).scopeless.exec_eq session).2

mutual

/-- Threads are only added, and all scopes belong to counted ones. -/
theorem Step.counted_run {ambient : Ambient} {session : Session} (step : Step)
    (running : ambient.home < session.homes) (counted : session.Counted) :
    session.homes ≤ (step.run ambient session).2.2.homes ∧
      (step.run ambient session).2.2.Counted := by
  cases step with
  | change change =>
      rw [Step.run]
      split <;> exact ⟨Nat.le_refl _, counted⟩
  | scope step =>
      exact ⟨Nat.le_of_eq (step.homes_run ambient session).symm, step.counted_run running counted⟩
  | operation operation =>
      have scopes := operation.scopes_run ambient session
      have homes := operation.homes_run ambient session
      have later : (operation.run ambient session).2.Counted := by
        intro name scope found
        rw [scopes] at found
        exact homes ▸ counted name scope found
      exact ⟨Nat.le_of_eq homes.symm, later⟩
  | thread steps =>
      have running : (⟨session.homes, []⟩ : Ambient).home < session.withHome.homes :=
        Nat.lt_succ_self _
      obtain ⟨more, later⟩ := counted_runAll steps running counted.withHome
      exact ⟨Nat.le_of_succ_le more, later⟩
  | task steps =>
      have running : (⟨session.homes, ambient.context⟩ : Ambient).home < session.withHome.homes :=
        Nat.lt_succ_self _
      obtain ⟨more, later⟩ := counted_runAll steps running counted.withHome
      exact ⟨Nat.le_of_succ_le more, later⟩

/-- Threads are only added along a run, and all scopes belong to counted ones. -/
theorem counted_runAll {ambient : Ambient} {session : Session} (steps : List Step)
    (running : ambient.home < session.homes) (counted : session.Counted) :
    session.homes ≤ (runAll ambient session steps).2.2.homes ∧
      (runAll ambient session steps).2.2.Counted := by
  cases steps with
  | nil => exact ⟨Nat.le_refl _, counted⟩
  | cons step rest =>
      obtain ⟨more, later⟩ := step.counted_run running counted
      have still : (step.run ambient session).2.1.home < (step.run ambient session).2.2.homes := by
        rw [step.home_run ambient session]
        exact Nat.lt_of_lt_of_le running more
      obtain ⟨evenMore, last⟩ := counted_runAll rest still later
      exact ⟨Nat.le_trans more evenMore, last⟩

end

/-- In every state, the home of the running code and those of the scopes are homes given out before. -/
theorem Reached.counted {ambient : Ambient} {session : Session} (reached : Reached ambient session) :
    ambient.home < session.homes ∧ session.Counted := by
  induction reached with
  | start => exact ⟨Nat.one_pos, fun name scope found => by cases found⟩
  | @after ambient session before step ih =>
      obtain ⟨running, counted⟩ := ih
      obtain ⟨more, later⟩ := step.counted_run running counted
      rw [step.home_run ambient session]
      exact ⟨Nat.lt_of_lt_of_le running more, later⟩
  | inThread before ih => exact ⟨Nat.lt_succ_self _, ih.2.withHome⟩
  | inTask before ih => exact ⟨Nat.lt_succ_self _, ih.2.withHome⟩

namespace Reached

variable {ambient : Ambient} {session : Session}

/-- The states that code can come to have reachable sessions. -/
theorem reachable (reached : Reached ambient session) : session.Reachable := by
  induction reached with
  | start => exact .refl _
  | after before step ih => exact ih.trans (step.evolves_run _ _)
  | inThread before ih => exact ih.tail (.homed _)
  | inTask before ih => exact ih.tail (.homed _)

/-- The loggers of a state that was reached grew from the root alone. -/
theorem grown (reached : Reached ambient session) : LoggerTree.initial.Grows session.loggers := by
  induction reached with
  | start => exact .refl
  | after before step ih => exact ih.trans (step.grows_run _ _)
  | inThread before ih => exact ih
  | inTask before ih => exact ih

/-- What is reached from a reached state is reached. -/
theorem runAll (reached : Reached ambient session) (steps : List Step) :
    Reached (LogGate.runAll ambient session steps).2.1
      (LogGate.runAll ambient session steps).2.2 := by
  induction steps generalizing ambient session with
  | nil => exact reached
  | cons step rest ih => exact ih (reached.after step)

end Reached

section Twins

variable {α : Type} {floor : Nat} {twin : Nat → Nat}

/-- Scopes of one name in the two runs: those of the block keep the same context, in the name of twins.
The others can be any. -/
def Scope.Twins (floor : Nat) (twin : Nat → Nat) (first second : Scope) : Prop :=
  floor ≤ first.home → second = ⟨first.restored, twin first.home⟩

/-- The running codes are twins and see the same context. -/
def Ambient.Twins (floor : Nat) (twin : Nat → Nat) (first second : Ambient) : Prop :=
  floor ≤ first.home ∧ second = ⟨twin first.home, first.context⟩

/-- The two runs share the same, have scopes of the same names, and give out twins as new homes. -/
structure Session.Twins (floor : Nat) (twin : Nat → Nat) (first second : Session) : Prop where
  shared : second.shared = first.shared
  scopes : ∀ name,
    Option.Rel (Scope.Twins floor twin) (first.scopes.get? name) (second.scopes.get? name)
  homes : ∀ count, twin (first.homes + count) = second.homes + count
  above : floor ≤ first.homes

/-- What a step or a run comes to, in the two runs: the same answers, and states that are twins. -/
structure OutcomeTwins (floor : Nat) (twin : Nat → Nat)
    (first second : α × Ambient × Session) : Prop where
  answers : second.1 = first.1
  ambient : first.2.1.Twins floor twin second.2.1
  session : first.2.2.Twins floor twin second.2.2

namespace Session.Twins

variable {first second : Session}

/-- Twins are shown for sessions that differ in their scopes alone. -/
theorem of_withScopes {scopes : Fields String Scope} {homes : Nat}
    (related : ∀ name,
      Option.Rel (Scope.Twins floor twin) (first.scopes.get? name) (scopes.get? name))
    (counted : ∀ count, twin (first.homes + count) = homes + count)
    (above : floor ≤ first.homes) : first.Twins floor twin (first.withScopes scopes homes) :=
  ⟨rfl, related, counted, above⟩

/-- A new code of the one run is the twin of the new code of the other. -/
theorem newHome (twins : first.Twins floor twin second) (context : Context) :
    Ambient.Twins floor twin ⟨first.homes, context⟩ ⟨second.homes, context⟩ :=
  ⟨twins.above, by rw [show twin first.homes = second.homes from twins.homes 0]⟩

/-- Twins stay twins when both start a thread. -/
theorem withHome (twins : first.Twins floor twin second) :
    first.withHome.Twins floor twin second.withHome where
  shared := twins.shared
  scopes := twins.scopes
  homes := by
    intro count
    have next := twins.homes (count + 1)
    simp only [Session.withHome]
    rw [Nat.add_right_comm, Nat.add_right_comm second.homes]
    exact next
  above := Nat.le_succ_of_le twins.above

end Session.Twins

/-- Both runs put the same fields on their contexts, which are the same, and keep them. -/
theorem ScopeStep.twins_enterWith {ambient : Ambient} {session : Session}
    {scopes : Fields String Scope} {homes : Nat} (scope : String) (fields : Context)
    (running : floor ≤ ambient.home)
    (twins : session.Twins floor twin (session.withScopes scopes homes)) :
    let entered := enterWith scope fields ambient session
    let other := enterWith scope fields ⟨twin ambient.home, ambient.context⟩
      (session.withScopes scopes homes)
    entered.1.Twins floor twin other.1 ∧ entered.2.Twins floor twin other.2 := by
  refine ⟨⟨running, rfl⟩, Session.Twins.of_withScopes ?_ twins.homes twins.above⟩
  intro name
  simp only [enterWith, Session.withScopes, Fields.get?_put]
  split
  · exact .some fun _ => rfl
  · exact twins.scopes name

/-- Related fields stay related without one name. -/
theorem Fields.rel_remove {related : Scope → Scope → Prop} {first second : Fields String Scope}
    (same : ∀ name, Option.Rel related (first.get? name) (second.get? name)) (removed name : String) :
    Option.Rel related ((first.remove removed).get? name) ((second.remove removed).get? name) := by
  rw [get?_remove, get?_remove]
  split
  · exact .none
  · exact same name

/-- Actions that do not see the scopes do the same in both runs. -/
theorem Act.Scopeless.twins {act : Act α} (scopeless : act.Scopeless) {session : Session}
    {scopes : Fields String Scope} {homes : Nat}
    (twins : session.Twins floor twin (session.withScopes scopes homes)) :
    let first := act.exec session
    let second := act.exec (session.withScopes scopes homes)
    second.1 = first.1 ∧ first.2.Twins floor twin second.2 := by
  obtain ⟨sameScopes, sameHomes⟩ := scopeless.exec_eq session
  intro first second
  have other : second = (first.1, first.2.withScopes scopes homes) := scopeless session scopes homes
  rw [other]
  refine ⟨rfl, .of_withScopes ?_ ?_ ?_⟩
  · rw [sameScopes]
    exact twins.scopes
  · rw [sameHomes]
    exact twins.homes
  · rw [sameHomes]
    exact twins.above

/-- A step of a scope does the same in both twins. -/
theorem ScopeStep.twins_run {ambient : Ambient} {session : Session}
    {scopes : Fields String Scope} {homes : Nat} {step : ScopeStep}
    (running : floor ≤ ambient.home)
    (twins : session.Twins floor twin (session.withScopes scopes homes))
    (own : (Step.scope step).LeavesOwn ambient session) :
    OutcomeTwins floor twin (step.run ambient session)
      (step.run ⟨twin ambient.home, ambient.context⟩ (session.withScopes scopes homes)) := by
  cases step with
  | enter scope fields =>
      simp only [run, Session.withScopes]
      cases Literal.readNamed session.registry fields with
      | error failure => exact ⟨rfl, ⟨running, rfl⟩, twins⟩
      | ok given =>
          obtain ⟨codes, sessions⟩ := twins_enterWith scope (Context.ofNamed given) running twins
          exact ⟨rfl, codes, sessions⟩
  | enterRequest scope request fields =>
      simp only [run, Session.withScopes]
      cases readRequest session.registry request fields with
      | error failure => exact ⟨rfl, ⟨running, rfl⟩, twins⟩
      | ok given =>
          obtain ⟨request, fields⟩ := given
          let counted : Session := { session with
            requests := if request.isTrue then session.requests else session.requests + 1 }
          have still : counted.Twins floor twin (counted.withScopes scopes homes) :=
            .of_withScopes twins.scopes twins.homes twins.above
          obtain ⟨codes, sessions⟩ := twins_enterWith scope _ running still
          exact ⟨rfl, codes, sessions⟩
  | leave scope failing =>
      have remaining := Fields.rel_remove twins.scopes scope
      have related : Option.Rel _ (session.scopes.get? scope) (scopes.get? scope) :=
        twins.scopes scope
      have after : Session.Twins floor twin
          { session with scopes := session.scopes.remove scope }
          { session with
            scopes := scopes.remove scope
            homes } := .of_withScopes remaining twins.homes twins.above
      cases found : session.scopes.get? scope with
      | none =>
          rw [found] at related
          generalize other : scopes.get? scope = missing at related
          cases related
          simp only [run, leaveScope, Session.withScopes, found, other]
          exact ⟨rfl, ⟨running, rfl⟩, twins⟩
      | some entered =>
          rw [found] at related
          generalize other : scopes.get? scope = kept at related
          cases related with
          | some same =>
              have home : entered.home = ambient.home := own entered found
              have twinScope := same (home ▸ running)
              rw [home] at twinScope
              simp only [run, leaveScope, Session.withScopes, found, other, home, twinScope,
                beq_self_eq_true, if_true]
              exact ⟨rfl, ⟨running, rfl⟩, after⟩

mutual

-- By induction on the steps and on those inside of blocks. New codes are twins by `newHome`, so that a
-- block of the first run meets the same block of the second.
/-- A step does the same in both twins. -/
theorem Step.twins_run {ambient other : Ambient} {session otherSession : Session} {step : Step}
    (codes : ambient.Twins floor twin other) (twins : session.Twins floor twin otherSession)
    (own : step.LeavesOwn ambient session) :
    OutcomeTwins floor twin (step.run ambient session) (step.run other otherSession) := by
  obtain ⟨running, rfl⟩ := codes
  have same := Session.eq_withScopes twins.shared
  generalize otherSession.scopes = scopes at same
  generalize otherSession.homes = homes at same
  subst same
  cases step with
  | change change =>
      simp only [Step.run, Session.withScopes]
      cases change.apply session.registry ambient.context with
      | error failure => exact ⟨rfl, ⟨running, rfl⟩, twins⟩
      | ok context => exact ⟨rfl, ⟨running, rfl⟩, twins⟩
  | scope step => exact ScopeStep.twins_run running twins own
  | operation operation =>
      have performed := (operation.regular_perform ambient.context).scopeless.twins twins
      exact ⟨performed.1, ⟨running, rfl⟩, performed.2⟩
  | thread steps =>
      have inner := twins_runAll (twins.newHome []) twins.withHome own
      exact ⟨congrArg (Except.ok ∘ Answer.answers) inner.answers, ⟨running, rfl⟩,
        inner.session⟩
  | task steps =>
      have inner := twins_runAll (twins.newHome ambient.context) twins.withHome own
      exact ⟨congrArg (Except.ok ∘ Answer.answers) inner.answers, ⟨running, rfl⟩,
        inner.session⟩

/-- The second run of a block answers as the first one, if the first one leaves its own scopes only. -/
theorem twins_runAll {ambient other : Ambient} {session otherSession : Session}
    {steps : List Step} (codes : ambient.Twins floor twin other)
    (twins : session.Twins floor twin otherSession) (own : LeaveOwn ambient session steps) :
    OutcomeTwins floor twin (runAll ambient session steps) (runAll other otherSession steps) := by
  cases steps with
  | nil => exact ⟨rfl, codes, twins⟩
  | cons step rest =>
      obtain ⟨ownStep, ownRest⟩ := own
      have first := Step.twins_run codes twins ownStep
      have others := twins_runAll first.ambient first.session ownRest
      exact ⟨congrArg₂ List.cons first.answers others.answers, others.ambient, others.session⟩

end

end Twins

/-- The scopes that are open before a block belong to code outside of it, so that the contexts they keep
can differ. -/
theorem Session.Counted.twins {session first second : Session} (counted : session.Counted)
    (before : first.scopes = session.scopes) (later : session.homes ≤ first.homes)
    (shared : second.shared = first.shared)
    (names : ∀ name, (second.scopes.get? name).isSome = (session.scopes.get? name).isSome)
    {twin : Nat → Nat} (homes : ∀ count, twin (first.homes + count) = second.homes + count) :
    first.Twins session.homes twin second where
  shared := shared
  scopes := by
    intro name
    have same := names name
    rw [before]
    cases found : session.scopes.get? name with
    | none =>
        rw [found, Option.isSome_none, Option.isSome_eq_false_iff, Option.isNone_iff_eq_none] at same
        rw [same]
        exact .none
    | some scope =>
        rw [found, Option.isSome_some, Option.isSome_iff_exists] at same
        obtain ⟨otherScope, otherFound⟩ := same
        rw [otherFound]
        exact .some fun inside => absurd (counted name scope found) (Nat.not_lt.mpr inside)
  homes := homes
  above := later

/-- A thread answers the same, and does the same to what is shared, in every state that shares the same. -/
theorem run_thread_eq {ambient other : Ambient} {session otherSession : Session} {steps : List Step}
    (counted : session.Counted) (own : (Step.thread steps).LeavesOwn ambient session)
    (shared : otherSession.shared = session.shared)
    (names : ∀ name, (otherSession.scopes.get? name).isSome = (session.scopes.get? name).isSome) :
    ((Step.thread steps).run other otherSession).1 = ((Step.thread steps).run ambient session).1 ∧
      ((Step.thread steps).run other otherSession).2.2.shared =
        ((Step.thread steps).run ambient session).2.2.shared := by
  let twin (home : Nat) : Nat := home - session.homes + otherSession.homes
  have homes (count : Nat) : twin (session.homes + count) = otherSession.homes + count := by
    simp only [twin]
    omega
  have twins := counted.twins rfl (Nat.le_refl _) shared names homes
  have inner := twins_runAll (twins.newHome []) twins.withHome own
  exact ⟨congrArg (Except.ok ∘ Answer.answers) inner.answers, inner.session.shared⟩

/-- A task answers as its steps in place do, and does the same to what is shared. -/
theorem run_task_eq {ambient : Ambient} {session : Session} {steps : List Step}
    (counted : session.Counted) (own : (Step.task steps).LeavesOwn ambient session) :
    ((Step.task steps).run ambient session).1 = .ok (.answers (runAll ambient session steps).1) ∧
      ((Step.task steps).run ambient session).2.2.shared =
        (runAll ambient session steps).2.2.shared := by
  -- The task has a home of its own, and its blocks have homes one above those of the blocks in place.
  let twin (home : Nat) : Nat := if home = session.homes then ambient.home else home - 1
  have homes (count : Nat) : twin (session.homes + 1 + count) = session.homes + count := by
    simp only [twin]
    split <;> omega
  have unchanged : session.withHome.scopes = session.scopes := rfl
  have shared : session.shared = session.withHome.shared := rfl
  have twins : session.withHome.Twins session.homes twin session :=
    counted.twins unchanged (Nat.le_succ _) shared (fun _ => rfl) homes
  have codes : Ambient.Twins session.homes twin ⟨session.homes, ambient.context⟩ ambient :=
    ⟨Nat.le_refl _, by simp only [twin, if_true]⟩
  have inner := twins_runAll codes twins own
  exact ⟨congrArg (Except.ok ∘ Answer.answers) inner.answers.symm, inner.session.shared.symm⟩

/-- Threads and tasks are isolated. They leave the outer context as it was, a thread does not depend on
it, and a task does what its steps do in place. -/
theorem blocks_are_isolated {ambient : Ambient} {session : Session}
    (reached : Reached ambient session) (steps : List Step) :
    ((Step.thread steps).run ambient session).2.1 = ambient ∧
    ((Step.task steps).run ambient session).2.1 = ambient ∧
    ((Step.thread steps).LeavesOwn ambient session →
      ∀ (other : Ambient) (otherSession : Session),
        otherSession.shared = session.shared →
        (∀ name, (otherSession.scopes.get? name).isSome = (session.scopes.get? name).isSome) →
        ((Step.thread steps).run other otherSession).1 = ((Step.thread steps).run ambient session).1 ∧
          ((Step.thread steps).run other otherSession).2.2.shared =
            ((Step.thread steps).run ambient session).2.2.shared) ∧
    ((Step.task steps).LeavesOwn ambient session →
      ((Step.task steps).run ambient session).1 = .ok (.answers (runAll ambient session steps).1) ∧
        ((Step.task steps).run ambient session).2.2.shared =
          (runAll ambient session steps).2.2.shared) := by
  have counted := reached.counted.2
  refine ⟨rfl, rfl, ?_, ?_⟩
  · intro own other otherSession shared names
    exact run_thread_eq counted own shared names
  · intro own
    exact run_task_eq counted own

/-- A request that shows the context, and is interrupted by a task that clears its own copy. -/
def interruptedRequest : List Step :=
  [.scope (.enter "request" [("user", .text "bob")]), .task [.change .clear, .operation .showContext],
    .operation .showContext, .scope (.leave "request" false)]

theorem blocks_are_isolated_on_request :
    let start : Ambient := ⟨0, [(.text "tenant", .text "acme")]⟩
    ((Step.thread interruptedRequest).run ⟨0, []⟩ Session.initial).1 =
      ((Step.thread interruptedRequest).run start Session.initial).1 ∧
    ((Step.task interruptedRequest).run start Session.initial).1 =
      .ok (.answers (runAll start Session.initial interruptedRequest).1) := by
  intro start
  have reached : Reached start Session.initial :=
    Reached.start.after (.change (.put (.text "tenant") (.text "acme")))
  have own (context : Context) : LeaveOwn ⟨1, context⟩ Session.initial.withHome interruptedRequest := by
    refine ⟨trivial, ⟨trivial, trivial, trivial⟩, trivial, ?_, trivial⟩
    intro entered found
    exact congrArg Scope.home (Option.some.inj found).symm
  obtain ⟨-, -, thread, task⟩ := blocks_are_isolated reached interruptedRequest
  exact ⟨(thread (own _) ⟨0, []⟩ Session.initial rfl fun _ => rfl).1, (task (own _)).1⟩

end LogGate

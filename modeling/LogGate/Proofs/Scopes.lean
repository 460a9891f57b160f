import LogGate.Proofs.Fields
import LogGate.Proofs.RunEvolution
import LogGate.Proofs.Thresholds

/-!
Scopes and the context. Leaving a scope restores the context in which it was entered, whatever was done
in between and whichever other scopes were entered and left. A run can therefore do without its
completed blocks.
-/

namespace LogGate

/-- How a scope is entered: with fields alone, or for a request. -/
inductive ScopeEntry where
  | withFields (fields : List (String × Literal))
  | forRequest (request : Option Literal) (fields : List (String × Literal))

namespace ScopeEntry

def step (scope : String) : ScopeEntry → ScopeStep
  | .withFields fields => .enter scope fields
  | .forRequest request fields => .enterRequest scope request fields

/-- A scope is entered when its arguments can be read. -/
def Readable (registry : Registry) : ScopeEntry → Prop
  | .withFields fields => ∃ given, Literal.readNamed registry fields = .ok given
  | .forRequest request fields => ∃ given, ScopeStep.readRequest registry request fields = .ok given

/-- Entering a scope puts fields into the context, or fails and changes nothing. -/
theorem run_step_cases (entry : ScopeEntry) (scope : String) (ambient : Ambient)
    (session : Session) :
    (¬ entry.Readable session.registry ∧
      ∃ failure, (entry.step scope).run ambient session = (.error failure, ambient, session)) ∨
    ∃ answer fields requests, (entry.step scope).run ambient session =
      (.ok answer, ScopeStep.enterWith scope fields ambient { session with requests }) := by
  cases entry with
  | withFields fields =>
      cases read : Literal.readNamed session.registry fields with
      | error failure =>
          exact .inl ⟨by simp [Readable, read], failure, by simp [step, ScopeStep.run, read]⟩
      | ok given =>
          exact .inr ⟨_, Context.ofNamed given, session.requests,
            by simp only [step, ScopeStep.run, read]; rfl⟩
  | forRequest request fields =>
      cases read : ScopeStep.readRequest session.registry request fields with
      | error failure =>
          exact .inl ⟨by simp [Readable, read], failure, by simp [step, ScopeStep.run, read]⟩
      | ok given =>
          exact .inr ⟨_, _, _, by simp only [step, ScopeStep.run, read]; rfl⟩

/-- A scope that was entered keeps the context from before, in the name of the running code. -/
theorem get?_scopes_of_run {entry : ScopeEntry} {scope : String} {ambient entered : Ambient}
    {session opened : Session} {answer : Answer}
    (entering : (entry.step scope).run ambient session = (.ok answer, entered, opened)) :
    entered.home = ambient.home ∧
      opened.scopes.get? scope = some ⟨ambient.context, ambient.home⟩ := by
  obtain ⟨-, failure, failed⟩ | ⟨given, fields, requests, done⟩ :=
    run_step_cases entry scope ambient session
  · rw [failed] at entering
    simp at entering
  · rw [done, Prod.mk.injEq] at entering
    obtain ⟨-, same⟩ := entering
    rw [ScopeStep.enterWith, Prod.mk.injEq] at same
    rw [← same.1, ← same.2]
    exact ⟨rfl, Fields.get?_put_self _ _ _⟩

end ScopeEntry

namespace ScopeStep

/-- No step leaves its thread. -/
theorem home_run (ambient : Ambient) (session : Session) (step : ScopeStep) :
    (step.run ambient session).2.1.home = ambient.home := by
  have ends := step.ends_run ambient session
  generalize (step.run ambient session).2 = after at ends ⊢
  cases ends <;> rfl

/-- The scopes of other names stay as they are. -/
theorem get?_scopes_run (ambient : Ambient) (session : Session) {step : ScopeStep} {scope : String}
    (other : step.name ≠ scope) :
    (step.run ambient session).2.2.scopes.get? scope = session.scopes.get? scope := by
  have different : (step.name == scope) = false := beq_eq_false_iff_ne.mpr other
  have gone : (session.scopes.remove step.name).get? scope = session.scopes.get? scope := by
    rw [Fields.get?_remove, different]
    rfl
  have ends := step.ends_run ambient session
  generalize (step.run ambient session).2 = after at ends ⊢
  cases ends with
  | failed => rfl
  | entered fields requests => exact Fields.get?_put_of_ne _ _ different
  | left => exact gone
  | foreign => exact gone

end ScopeStep

/-- A step that leaves the scope of a name alone, in whichever thread or task it runs. -/
inductive Step.Avoids (scope : String) : Step → Prop
  | change (change : ContextChange) : Avoids scope (.change change)
  | scope {step : ScopeStep} (other : step.name ≠ scope) : Avoids scope (.scope step)
  | operation (operation : Operation) : Avoids scope (.operation operation)
  | thread {steps : List Step} (all : ∀ step ∈ steps, Avoids scope step) :
      Avoids scope (.thread steps)
  | task {steps : List Step} (all : ∀ step ∈ steps, Avoids scope step) : Avoids scope (.task steps)

/-- A step runs in the home of the code that takes it. -/
theorem Step.home_run (ambient : Ambient) (session : Session) (step : Step) :
    (step.run ambient session).2.1.home = ambient.home := by
  cases step with
  | change change =>
      rw [run]
      split <;> rfl
  | scope step => exact step.home_run ambient session
  | operation operation => rfl
  | thread steps => rfl
  | task steps => rfl

/-- No run leaves its thread. -/
theorem home_runAll (ambient : Ambient) (session : Session) (steps : List Step) :
    (runAll ambient session steps).2.1.home = ambient.home := by
  induction steps generalizing ambient session with
  | nil => rfl
  | cons step rest ih => exact (ih _ _).trans (step.home_run ambient session)

/-- No operation touches a scope. -/
theorem Operation.scopes_run (ambient : Ambient) (session : Session) (operation : Operation) :
    (operation.run ambient session).2.scopes = session.scopes :=
  ((operation.regular_perform ambient.context).scopeless.exec_eq session).1

mutual

/-- A step that avoids a scope leaves it as it is. -/
theorem Step.get?_scopes_run {scope : String} (ambient : Ambient) (session : Session) {step : Step}
    (apart : step.Avoids scope) :
    (step.run ambient session).2.2.scopes.get? scope = session.scopes.get? scope := by
  cases step with
  | change change =>
      rw [Step.run]
      split <;> rfl
  | scope step =>
      cases apart with
      | scope other => exact ScopeStep.get?_scopes_run ambient session other
  | operation operation =>
      exact congrArg (Fields.get? · scope) (operation.scopes_run ambient session)
  | thread steps =>
      cases apart with
      | thread all => exact get?_scopes_runAll _ session.withHome all
  | task steps =>
      cases apart with
      | task all => exact get?_scopes_runAll _ session.withHome all

/-- Steps that leave a scope alone keep what it restores. -/
theorem get?_scopes_runAll {scope : String} (ambient : Ambient) (session : Session)
    {steps : List Step} (apart : ∀ step ∈ steps, step.Avoids scope) :
    (runAll ambient session steps).2.2.scopes.get? scope = session.scopes.get? scope := by
  cases steps with
  | nil => rfl
  | cons step rest =>
      have first := Step.get?_scopes_run ambient session (apart step List.mem_cons_self)
      have others : ∀ later ∈ rest, later.Avoids scope :=
        fun later member => apart later (List.mem_cons_of_mem _ member)
      exact (get?_scopes_runAll _ _ others).trans first

end

/-- Leaving a scope of the running code restores what the scope keeps. -/
theorem run_leave {scope : String} {ambient : Ambient} {session : Session} {context : Context}
    (kept : session.scopes.get? scope = some ⟨context, ambient.home⟩) (failing : Bool) :
    (Step.scope (.leave scope failing)).run ambient session =
      (.ok (.left context), ⟨ambient.home, context⟩,
        { session with scopes := session.scopes.remove scope }) := by
  simp [Step.run, ScopeStep.run, ScopeStep.leaveScope, kept]

/-- Whatever runs between the entry of a scope and its end, without naming this scope, the end
restores the context from before the entry. -/
theorem run_leave_of_entered {entry : ScopeEntry} {scope : String} {ambient entered : Ambient}
    {session opened : Session} {answer : Answer}
    (entering : (entry.step scope).run ambient session = (.ok answer, entered, opened))
    {between : List Step} (apart : ∀ step ∈ between, step.Avoids scope) (failing : Bool) :
    let last := (runAll entered opened between).2
    (Step.scope (.leave scope failing)).run last.1 last.2 =
      (.ok (.left ambient.context), ambient,
        { last.2 with scopes := last.2.scopes.remove scope }) := by
  intro last
  obtain ⟨sameHome, kept⟩ := ScopeEntry.get?_scopes_of_run entering
  have home : last.1.home = ambient.home := (home_runAll entered opened between).trans sameHome
  have still : last.2.scopes.get? scope = some ⟨ambient.context, last.1.home⟩ := by
    rw [home]
    exact (get?_scopes_runAll entered opened apart).trans kept
  rw [run_leave still failing, home]

/-- A run of two parts runs the second part from where the first one ended. -/
theorem runAll_append (ambient : Ambient) (session : Session) (first second : List Step) :
    (runAll ambient session (first ++ second)).2 =
      (runAll (runAll ambient session first).2.1 (runAll ambient session first).2.2 second).2 := by
  induction first generalizing ambient session with
  | nil => rfl
  | cons step rest ih => exact ih _ _

namespace Literal

/-- Fields whose names are chosen are read as the fields of these names. -/
theorem readPairs_filter {registry : Registry} {fields : List (String × Literal)}
    {given : List (String × Value)} (read : readPairs registry fields = .ok given)
    (keep : String → Bool) :
    readPairs registry (fields.filter fun field => keep field.1) =
      .ok (given.filter fun entry => keep entry.1) := by
  induction fields generalizing given with
  | nil =>
      rw [readPairs, Except.ok.injEq] at read
      rw [← read]
      rfl
  | cons field rest ih =>
      obtain ⟨name, literal⟩ := field
      rw [readPairs, Except.bind_eq_ok_iff] at read
      obtain ⟨value, first, others⟩ := read
      obtain ⟨values, tail, rfl⟩ := Except.map_eq_ok_iff.mp others
      by_cases kept : keep name
      · simp [readPairs, kept, first, ih tail, Except.bind, Except.map]
      · simp [kept, ih tail]

/-- A field can be left out before or after the fields are read. -/
theorem readNamed_remove {registry : Registry} {fields : List (String × Literal)}
    {given : Fields String Value} (read : readNamed registry fields = .ok given) (name : String) :
    readNamed registry (fields.filter fun field => !(field.1 == name)) =
      .ok (given.remove name) := by
  obtain ⟨pairs, first, rfl⟩ := Except.map_eq_ok_iff.mp read
  have removed := Fields.remove_putAll [] pairs name
  rw [readNamed, readPairs_filter first fun other => !(other == name)]
  exact congrArg Except.ok removed.symm

end Literal

namespace ScopeStep

/-- The fields of a request are those that are given, without the name. -/
theorem requestGiven_eq_ok {request : Option Value} {fields rest : Fields String Value}
    {given : Value} (read : requestGiven request fields = .ok (given, rest)) :
    rest = fields.remove "request_id" := by
  cases request with
  | none =>
      cases found : fields.get? "request_id" with
      | none =>
          simp only [requestGiven, found, Except.ok.injEq, Prod.mk.injEq] at read
          rw [← read.2, Fields.remove_of_get?_eq_none found]
      | some name =>
          simp only [requestGiven, found, Except.ok.injEq, Prod.mk.injEq] at read
          exact read.2.symm
  | some name =>
      cases found : fields.get? "request_id" with
      | none =>
          simp only [requestGiven, found, Except.ok.injEq, Prod.mk.injEq] at read
          rw [← read.2, Fields.remove_of_get?_eq_none found]
      | some other => simp [requestGiven, found] at read

/-- With a name in place of its own, a request is read as the same fields. -/
theorem readRequest_named {registry : Registry} {request : Option Literal}
    {fields : List (String × Literal)} {given : Value} {rest : Fields String Value}
    (read : readRequest registry request fields = .ok (given, rest)) (name : String) :
    readRequest registry (some (.text name))
      (fields.filter fun field => !(field.1 == "request_id")) = .ok (.text name, rest) := by
  rw [readRequest] at read
  obtain ⟨named, -, others⟩ := Except.bind_eq_ok_iff.mp read
  obtain ⟨values, readFields, split⟩ := Except.bind_eq_ok_iff.mp others
  have without := Literal.readNamed_remove readFields "request_id"
  have missing : (values.remove "request_id").get? "request_id" = none := by
    rw [Fields.get?_remove, if_pos (beq_self_eq_true _)]
  rw [requestGiven_eq_ok split]
  simp [readRequest, Literal.read, without, requestGiven, missing, bind, Except.bind]

end ScopeStep

/-- The name of a new request counts as a name. -/
theorem isTrue_requestName (count : Nat) : (Value.text (Act.requestName count)).isTrue = true := by
  have filled (rest : String) : ("00000000-0000-4000-8000-" ++ rest).isEmpty = false := by simp
  exact congrArg Bool.not (filled (String.ofList (Text.hexDigits 12 count)))

namespace ScopeEntry

/-- The same entry, with the next name of the session written out if a request needs one. -/
def named (session : Session) : ScopeEntry → ScopeEntry
  | .withFields fields => .withFields fields
  | .forRequest request fields =>
    match ScopeStep.readRequest session.registry request fields with
    | .error _ => .forRequest request fields
    | .ok (given, _) =>
      if given.isTrue then .forRequest request fields
      else .forRequest (some (.text (Act.requestName (session.requests + 1))))
        (fields.filter fun field => !(field.1 == "request_id"))

/-- Writing the name of a request out does not change the context that its scope has. -/
theorem context_run_named (entry : ScopeEntry) (scope : String) {ambient other : Ambient}
    {session otherSession : Session} (context : other.context = ambient.context)
    (registry : otherSession.registry = session.registry) :
    (((entry.named session).step scope).run other otherSession).2.1.context =
      ((entry.step scope).run ambient session).2.1.context := by
  cases entry with
  | withFields fields =>
      simp only [named, step, ScopeStep.run, registry]
      cases Literal.readNamed session.registry fields with
      | error failure => exact context
      | ok given => exact congrArg (Fields.putAll · (Context.ofNamed given)) context
  | forRequest request fields =>
      cases read : ScopeStep.readRequest session.registry request fields with
      | error failure =>
          simp only [named, step, ScopeStep.run, registry, read]
          exact context
      | ok result =>
          obtain ⟨given, rest⟩ := result
          by_cases whole : given.isTrue
          · simp only [named, step, ScopeStep.run, registry, read, whole, if_true,
              ScopeStep.enterNamed, ScopeStep.enterWith, context]
          · have written := ScopeStep.readRequest_named read
              (Act.requestName (session.requests + 1))
            simp only [named, step, ScopeStep.run, registry, read, whole, written, if_false,
              ScopeStep.enterNamed, ScopeStep.enterWith, isTrue_requestName, if_true, context,
              Bool.false_eq_true]

end ScopeEntry

/-- A step by which the running code changes nothing but its own context. -/
inductive Step.IsOwn : Step → Prop
  | change (change : ContextChange) : IsOwn (.change change)
  | scope (step : ScopeStep) : IsOwn (.scope step)

/-- Own steps leave the levels alone. -/
theorem Step.IsOwn.registry_run {step : Step} (own : step.IsOwn) (ambient : Ambient)
    (session : Session) : (step.run ambient session).2.2.registry = session.registry := by
  cases own with
  | change change =>
      rw [run]
      split <;> rfl
  | scope step =>
      obtain ⟨scopes, requests, same⟩ := step.run_frame ambient session
      exact (congrArg Session.registry same).trans rfl

/-- Steps of one's own register no level. -/
theorem registry_runAll {steps : List Step} (own : ∀ step ∈ steps, step.IsOwn) (ambient : Ambient)
    (session : Session) : (runAll ambient session steps).2.2.registry = session.registry := by
  induction steps generalizing ambient session with
  | nil => rfl
  | cons step rest ih =>
      have first := (own step List.mem_cons_self).registry_run ambient session
      have others : ∀ later ∈ rest, later.IsOwn :=
        fun later member => own later (List.mem_cons_of_mem _ member)
      exact (ih others _ _).trans first

/-- A part of a run of one code: a change, the entry of a scope that stays open, or a block from the
entry of a scope to its end, which other blocks can be inside of. -/
inductive Passage where
  | changing (change : ContextChange)
  | opening (scope : String) (entry : ScopeEntry)
  | block (scope : String) (entry : ScopeEntry) (body : List Step) (failing : Bool)

namespace Passage

def steps : Passage → List Step
  | .changing change => [.change change]
  | .opening scope entry => [.scope (entry.step scope)]
  | .block scope entry body failing =>
    .scope (entry.step scope) :: (body ++ [.scope (.leave scope failing)])

/-- The scope of a block is entered, and its name is not used in the block. -/
def WellFormed (registry : Registry) : Passage → Prop
  | .block scope entry body _ =>
    entry.Readable registry ∧ ∀ step ∈ body, step.IsOwn ∧ step.Avoids scope
  | _ => True

/-- What is left of a passage when completed blocks are deleted. -/
def remaining (session : Session) : Passage → List Step
  | .changing change => [.change change]
  | .opening scope entry => [.scope ((entry.named session).step scope)]
  | .block .. => []

/-- The steps of a run without its completed blocks. Requests have the names that they have in the
whole run. -/
def withoutBlocks (ambient : Ambient) (session : Session) : List Passage → List Step
  | [] => []
  | passage :: rest =>
    let after := (runAll ambient session passage.steps).2
    passage.remaining session ++ withoutBlocks after.1 after.2 rest

/-- A passage has only steps of its own. -/
theorem isOwn_of_mem_steps {registry : Registry} {passage : Passage}
    (formed : passage.WellFormed registry) : ∀ step ∈ passage.steps, step.IsOwn := by
  intro step member
  cases passage with
  | changing change =>
      rw [List.mem_singleton.mp member]
      exact .change change
  | opening scope entry =>
      rw [List.mem_singleton.mp member]
      exact .scope _
  | block scope entry body failing =>
      rcases List.mem_cons.mp member with rfl | inside
      · exact .scope _
      · rcases List.mem_append.mp inside with within | last
        · exact (formed.2 step within).1
        · rw [List.mem_singleton.mp last]
          exact .scope _

/-- A completed block leaves the context as it was. -/
theorem run_block {scope : String} {entry : ScopeEntry} {body : List Step} {failing : Bool}
    {ambient : Ambient} {session : Session}
    (formed : (block scope entry body failing).WellFormed session.registry) :
    (runAll ambient session (block scope entry body failing).steps).2.1 = ambient := by
  obtain ⟨readable, inside⟩ := formed
  obtain ⟨unreadable, -⟩ | ⟨answer, fields, requests, entering⟩ :=
    entry.run_step_cases scope ambient session
  · exact absurd readable unreadable
  · have left := run_leave_of_entered entering (fun step member => (inside step member).2) failing
    have entered : (Step.scope (entry.step scope)).run ambient session = _ := entering
    rw [steps, runAll, entered]
    have parts := runAll_append (ScopeStep.enterWith scope fields ambient { session with requests }).1
      (ScopeStep.enterWith scope fields ambient { session with requests }).2 body
      [.scope (.leave scope failing)]
    refine (congrArg Prod.fst parts).trans ?_
    exact congrArg (·.2.1) left

/-- Each passage has the same effect on the context as what remains of it. -/
theorem context_remaining {passage : Passage} {ambient other : Ambient}
    {session otherSession : Session} (formed : passage.WellFormed session.registry)
    (context : other.context = ambient.context)
    (registry : otherSession.registry = session.registry) :
    (runAll other otherSession (passage.remaining session)).2.1.context =
      (runAll ambient session passage.steps).2.1.context := by
  cases passage with
  | changing change =>
      simp only [remaining, steps, runAll, Step.run, context, registry]
      cases change.apply session.registry ambient.context with
      | error failure => exact context
      | ok changed => rfl
  | opening scope entry => exact entry.context_run_named scope context registry
  | block scope entry body failing => rw [run_block formed, remaining, runAll, context]

/-- What remains of a passage without its blocks are steps of its own. -/
theorem isOwn_of_mem_remaining (session : Session) (passage : Passage) :
    ∀ step ∈ passage.remaining session, step.IsOwn := by
  intro step member
  cases passage with
  | changing change =>
      rw [List.mem_singleton.mp member]
      exact .change change
  | opening scope entry =>
      rw [List.mem_singleton.mp member]
      exact .scope _
  | block scope entry body failing => simp [remaining] at member

/-- The context at the end is the same without the blocks that have ended. -/
theorem context_withoutBlocks {passages : List Passage} {ambient other : Ambient}
    {session otherSession : Session}
    (formed : ∀ passage ∈ passages, passage.WellFormed session.registry)
    (context : other.context = ambient.context)
    (registry : otherSession.registry = session.registry) :
    (runAll other otherSession (withoutBlocks ambient session passages)).2.1.context =
      (runAll ambient session (passages.flatMap steps)).2.1.context := by
  induction passages generalizing ambient other session otherSession with
  | nil => exact context
  | cons passage rest ih =>
      have own := isOwn_of_mem_steps (formed passage List.mem_cons_self)
      have levels := registry_runAll own ambient session
      have otherLevels :=
        registry_runAll (isOwn_of_mem_remaining session passage) other otherSession
      rw [List.flatMap_cons, runAll_append, withoutBlocks, runAll_append]
      apply ih
      · intro later member
        rw [levels]
        exact formed later (List.mem_cons_of_mem _ member)
      · exact context_remaining (formed passage List.mem_cons_self) context registry
      · rw [otherLevels, levels, registry]

end Passage

/-- Leaving a scope, also by a failure and in any order, restores the context from before its entry,
whatever was done since without its name. A run therefore ends in the same context as the same run
without its completed blocks. -/
theorem leaving_restores_context (ambient : Ambient) (session : Session) :
    (∀ (scope : String) (entry : ScopeEntry) (answer : Answer) (entered : Ambient)
      (opened : Session) (between : List Step) (failing : Bool),
      (entry.step scope).run ambient session = (.ok answer, entered, opened) →
      (∀ step ∈ between, step.Avoids scope) →
      let last := (runAll entered opened between).2
      (Step.scope (.leave scope failing)).run last.1 last.2 =
        (.ok (.left ambient.context), ambient,
          { last.2 with scopes := last.2.scopes.remove scope })) ∧
    ∀ passages : List Passage,
      (∀ passage ∈ passages, passage.WellFormed session.registry) →
      (runAll ambient session (passages.flatMap Passage.steps)).2.1 =
        (runAll ambient session (Passage.withoutBlocks ambient session passages)).2.1 := by
  constructor
  · intro scope entry answer entered opened between failing entering apart
    exact run_leave_of_entered entering apart failing
  · intro passages formed
    have context := Passage.context_withoutBlocks formed (Eq.refl ambient.context) rfl
    have home := home_runAll ambient session (passages.flatMap Passage.steps)
    have otherHome := home_runAll ambient session (Passage.withoutBlocks ambient session passages)
    have whole (first second : Ambient) (sameHome : first.home = second.home)
        (sameContext : first.context = second.context) : first = second := by
      cases first
      cases second
      simp_all
    exact whole _ _ (home.trans otherHome.symm) context.symm

/-- The tenant is set, a request is served for another tenant and fails, and a second request is
open at the end. -/
def nestedPassages : List Passage :=
  [.changing (.put (.text "tenant") (.text "acme")),
    .block "outer" (.withFields [("tenant", .text "globex")])
      [.scope (.enterRequest "inner" none []), .change .clear, .scope (.leave "inner" true)] true,
    .opening "last" (.forRequest none [("tenant", .text "initech")])]

/-- The outer scope is left by a failure while the inner one is open. The second request has the second
name also in the run without the first one. -/
theorem leaving_restores_context_of_requests :
    let start : Ambient := ⟨0, [(.text "tenant", .text "acme")]⟩
    let entering := ((ScopeEntry.withFields [("tenant", .text "globex")]).step "outer").run start
      Session.initial
    let last := (runAll entering.2.1 entering.2.2
      [.scope (.enterRequest "inner" none []), .change .clear]).2
    ((Step.scope (.leave "outer" true)).run last.1 last.2).2.1 = start ∧
    (runAll ⟨0, []⟩ Session.initial (nestedPassages.flatMap Passage.steps)).2.1 =
      (runAll ⟨0, []⟩ Session.initial
        [.change (.put (.text "tenant") (.text "acme")),
          .scope (.enterRequest "last" (some (.text "00000000-0000-4000-8000-000000000002"))
            [("tenant", .text "initech")])]).2.1 := by
  intro start entering last
  have apart : ∀ step ∈ [Step.scope (.enterRequest "inner" none []), .change .clear],
      step.Avoids "outer" := by
    intro step member
    simp only [List.mem_cons, List.not_mem_nil, or_false] at member
    rcases member with rfl | rfl
    · exact .scope (by decide)
    · exact .change _
  have formed : ∀ passage ∈ nestedPassages, passage.WellFormed Session.initial.registry := by
    intro passage member
    simp only [nestedPassages, List.mem_cons, List.not_mem_nil, or_false] at member
    rcases member with rfl | rfl | rfl
    · trivial
    · refine ⟨⟨_, rfl⟩, ?_⟩
      intro step inside
      simp only [List.mem_cons, List.not_mem_nil, or_false] at inside
      rcases inside with rfl | rfl | rfl
      · exact ⟨.scope _, .scope (by decide)⟩
      · exact ⟨.change _, .change _⟩
      · exact ⟨.scope _, .scope (by decide)⟩
    · trivial
  constructor
  · have left := (leaving_restores_context start Session.initial).1 "outer"
      (.withFields [("tenant", .text "globex")]) (.entries entering.2.1.context) entering.2.1
      entering.2.2 _ true rfl apart
    exact congrArg (·.2.1) left
  · exact (leaving_restores_context ⟨0, []⟩ Session.initial).2 nestedPassages formed

end LogGate

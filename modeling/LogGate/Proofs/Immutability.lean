import LogGate.Proofs.CallShapes
import LogGate.Proofs.Consistency

/-!
What a name keeps through a run. An object stays under its name until a step puts another one there, and
a filter that stays answers as before, whatever happened to the configuration and to the levels that it
was built from.
-/

namespace LogGate

open Act

mutual

/-- The step puts no other object under the name, and neither does the code of a block. -/
def Step.Spares (name : String) (object : Object) (ambient : Ambient) (session : Session) :
    Step → Prop
  | .operation operation =>
    operation.footprint.place = some name →
      (operation.run ambient session).2.objects.get? name = some object
  | .thread steps => SpareAll name object ⟨session.homes, []⟩ session.withHome steps
  | .task steps => SpareAll name object ⟨session.homes, ambient.context⟩ session.withHome steps
  | _ => True

/-- Every step of the run spares the object under the name. -/
def SpareAll (name : String) (object : Object) (ambient : Ambient) (session : Session) :
    List Step → Prop
  | [] => True
  | step :: rest =>
    let after := (step.run ambient session).2
    step.Spares name object ambient session ∧ SpareAll name object after.1 after.2 rest

end

theorem ScopeStep.objects_run (ambient : Ambient) (session : Session) (step : ScopeStep) :
    (step.run ambient session).2.2.objects = session.objects := by
  obtain ⟨scopes, requests, same⟩ := step.run_frame ambient session
  exact (congrArg Session.objects same).trans rfl

/-- An operation changes no object but the one that it keeps. -/
theorem Operation.get?_objects_run (ambient : Ambient) (session : Session) (operation : Operation)
    {name : String} (free : operation.footprint.place ≠ some name) :
    (operation.run ambient session).2.objects.get? name = session.objects.get? name :=
  ((operation.regular_perform ambient.context).allowed session).objects name free

mutual

theorem Step.get?_of_spared {name : String} {object : Object} {ambient : Ambient}
    {session : Session} (step : Step) (held : session.objects.get? name = some object)
    (spared : step.Spares name object ambient session) :
    (step.run ambient session).2.2.objects.get? name = some object := by
  cases step with
  | change change =>
      rw [Step.run]
      split <;> exact held
  | scope scope =>
      have unchanged := scope.objects_run ambient session
      exact (congrArg (·.get? name) unchanged).trans held
  | operation operation =>
      by_cases place : operation.footprint.place = some name
      · exact spared place
      · exact (operation.get?_objects_run ambient session place).trans held
  | thread steps => exact get?_of_spareAll steps held spared
  | task steps => exact get?_of_spareAll steps held spared

/-- An object that every step spares stays under its name. -/
theorem get?_of_spareAll {name : String} {object : Object} {ambient : Ambient} {session : Session}
    (steps : List Step) (held : session.objects.get? name = some object)
    (spared : SpareAll name object ambient session steps) :
    (runAll ambient session steps).2.2.objects.get? name = some object := by
  cases steps with
  | nil => exact held
  | cons step rest =>
      have first := step.get?_of_spared held spared.1
      exact get?_of_spareAll rest first spared.2

end

section Answering

variable {session : Session} {name : String} {own : Nat} {filter : Filter}

theorem answer_describeFilter (named : session.objects.get? name = some (.filter own filter))
    (context : Context) :
    (Operation.describeFilter name).answer context session = .ok (.description filter) := by
  rw [Operation.answer, Operation.perform, exec_bind_ok (exec_filter named), exec_pure]

/-- The levels of a filter are shown as entries. -/
theorem answer_levelMap (named : session.objects.get? name = some (.filter own filter))
    (context : Context) :
    (Operation.levelMap name []).answer context session =
      .ok (.entries (filter.rule.table.levels.map fun entry => (entry.1, .level entry.2))) := by
  rw [Operation.answer, Operation.perform, exec_bind_ok (exec_filter named),
    exec_bind_ok (exec_get session)]
  rfl

/-- Taking a snapshot leaves the session as it is. -/
theorem exec_snapshotOf (form : SnapshotForm) :
    ((snapshotOf form).exec session).2 = session := by
  cases form with
  | stored name =>
      simp only [snapshotOf, snapshot, Act.object, exec_bind, exec_get]
      cases session.objects.get? name with
      | none => rfl
      | some object => cases object <;> rfl
  | data data =>
      rw [snapshotOf, exec_bind, exec_read]
      cases data.read session.registry <;> rfl

/-- In two sessions that give the same snapshot, an event is judged alike, even if its number stands for
levels of different names. -/
theorem exec_eventOutcome_congr {later : Session} {context other : Context}
    (before : session.registry.Reachable) (after : later.registry.Reachable)
    (supplied : ((currentSnapshot other filter).exec later).1 =
      ((currentSnapshot context filter).exec session).1) (level : Value) :
    ((eventOutcome other filter level).exec later).1 =
      ((eventOutcome context filter level).exec session).1 := by
  rw [eventOutcome, eventOutcome, exec_bind, exec_bind, exec_eventRank, exec_eventRank,
    Registry.rankOf_congr before after]
  cases session.registry.rankOf level with
  | error failure => rfl
  | ok rank =>
      dsimp only
      rw [exec_bind, exec_bind]
      generalize (currentSnapshot other filter).exec later = found at supplied
      generalize (currentSnapshot context filter).exec session = known at supplied
      obtain ⟨_ | snapshot, _⟩ := known <;> obtain ⟨_ | taken, _⟩ := found <;> cases supplied <;> rfl

end Answering

/-- A filter is immutable. As long as no other object takes its name, it describes itself after any run
as before it, and it judges every level with every snapshot, and every level number in the context that
it is supplied with, as before. -/
theorem filter_answers_as_before {ambient : Ambient} {session : Session} {name : String} {own : Nat}
    {filter : Filter} {steps : List Step} (reached : session.Reachable)
    (named : session.objects.get? name = some (.filter own filter))
    (spared : SpareAll name (.filter own filter) ambient session steps) :
    let later := (runAll ambient session steps).2.2
    later.objects.get? name = some (.filter own filter) ∧
    ∀ context other : Context,
      (Operation.describeFilter name).answer other later =
        (Operation.describeFilter name).answer context session ∧
      (Operation.levelMap name []).answer other later =
        (Operation.levelMap name []).answer context session ∧
      (∀ before after form otherForm level snapshot,
        before.read session.registry = .ok (.level level) →
        after.read later.registry = .ok (.level level) →
        ((Act.snapshotOf form).exec session).1 = .ok snapshot →
        ((Act.snapshotOf otherForm).exec later).1 = .ok snapshot →
        (Operation.evaluate name after otherForm).answer other later =
          (Operation.evaluate name before form).answer context session) ∧
      (((Act.currentSnapshot other filter).exec later).1 =
          ((Act.currentSnapshot context filter).exec session).1 →
        ∀ number, (Operation.judgeLevel name (.int number)).answer other later =
          (Operation.judgeLevel name (.int number)).answer context session) := by
  intro later
  have still : later.objects.get? name = some (.filter own filter) :=
    get?_of_spareAll steps named spared
  have evolved : session.Evolves later := evolves_runAll ambient session steps
  have lasting : Session.Reachable later := reached.trans evolved
  refine ⟨still, fun context other => ⟨?_, ?_, ?_, ?_⟩⟩
  · rw [answer_describeFilter still, answer_describeFilter named]
  · rw [answer_levelMap still, answer_levelMap named]
  · intro before after form otherForm level snapshot given givenLater taken takenLater
    rw [answer_evaluate_of_taken still givenLater (Prod.ext takenLater (exec_snapshotOf otherForm)),
      answer_evaluate_of_taken named given (Prod.ext taken (exec_snapshotOf form))]
  · intro supplied number
    rw [answer_judgeLevel still rfl, answer_judgeLevel named rfl,
      exec_eventOutcome_congr reached.consistent.registry lasting.consistent.registry supplied]

/-- The configuration of a filter is changed, a new level takes a rank that had none, and a thread sets up
the root and fails. -/
def changesAroundFilter : List Step :=
  [.operation (.appendConfig "c" (.tuple [.text "acme", .text "FATAL"])),
    .operation (.setConfig "c" "key" (.text "user")),
    .operation (.register none (.text "audit") 25),
    .operation (.levelMap "f" [(.text "acme", .levelNamed "AUDIT")]),
    .thread [.operation (.getLogger (.text "root") (some "c")), .operation (.showConfig "f")],
    .operation (.getFilter (some "g") (some "c"))]

theorem filter_answers_as_before_around_changes :
    let session := (runAll ⟨0, []⟩ Session.initial
      [.operation (.newConfig (some "c") [("key", .text "tenant"),
          ("thresholds", .list [.tuple [.text "acme", .text "INFO"]])]),
        .operation (.getFilter (some "f") (some "c"))]).2.2
    let later := (runAll ⟨0, []⟩ session changesAroundFilter).2.2
    let context : Context := [(.text "tenant", .text "acme")]
    (Operation.describeFilter "f").answer [] later =
      (Operation.describeFilter "f").answer [] session ∧
    (Operation.judgeLevel "f" (.int 25)).answer context later =
      (Operation.judgeLevel "f" (.int 25)).answer context session := by
  intro session later context
  let filter : Filter := ⟨⟨"tenant", ⟨[(.text "acme", ⟨"INFO", 20, true⟩)], .error⟩,
    .verdict .neutral, .verdict .deny⟩, .severity, .ambient⟩
  have reached : Session.Reachable session := reachable_runAll _ _
  have named : session.objects.get? "f" = some (.filter 0 filter) := rfl
  have spared : SpareAll "f" (.filter 0 filter) ⟨0, []⟩ session changesAroundFilter :=
    ⟨nofun, nofun, nofun, nofun, ⟨nofun, nofun, trivial⟩, nofun, trivial⟩
  obtain ⟨-, answers⟩ := filter_answers_as_before reached named spared
  obtain ⟨described, -⟩ := answers [] []
  obtain ⟨-, -, -, judged⟩ := answers context context
  exact ⟨described, judged rfl 25⟩

end LogGate

import LogGate.Proofs.Consistency
import LogGate.Proofs.Trimming

/-!
Interning of levels. Every level stands in the registry under its own name, as the only one of this name,
and what a text once stands for it stands for ever after. A registration succeeds exactly when the text
names something and the name is free or has this rank; otherwise it changes nothing.
-/

namespace LogGate

theorem mem_of_lookup {κ ν : Type} [BEq κ] [LawfulBEq κ] {entries : List (κ × ν)} {name : κ}
    {value : ν} (found : entries.lookup name = some value) : (name, value) ∈ entries := by
  obtain ⟨before, after, rfl, -⟩ := List.lookup_eq_some_iff.mp found
  simp

namespace Text

/-- No letter vanishes when it is written in capitals. -/
theorem upperCodes_ne_nil (code : Nat) : upperCodes code ≠ [] := by
  have spelled : ∀ entry ∈ spelledCases, entry.2 ≠ [] := by decide
  rw [upperCodes]
  split
  · next codes found => exact spelled _ (mem_of_lookup found)
  · split <;> simp

/-- No text is lost in capitals. -/
theorem upper_eq_empty_iff {text : String} : upper text = "" ↔ text = "" := by
  rw [upper, upperChars, String.ofList_eq_empty_iff, List.flatMap_eq_nil_iff,
    ← String.toList_eq_nil_iff]
  constructor
  · intro nothing
    apply List.eq_nil_iff_forall_not_mem.mpr
    intro c member
    exact upperCodes_ne_nil c.toNat (List.map_eq_nil_iff.mp (nothing c member))
  · intro empty
    simp [empty]

end Text

/-- Only a blank text has an empty normal form. -/
theorem Level.normalName_eq_empty_iff {name : String} :
    normalName name = "" ↔ Text.isBlank name = true := by
  rw [← Text.trim_eq_empty_iff, ← @Text.upper_eq_empty_iff (Text.trim name), normalName]
  generalize Text.upper (Text.trim name) = capital
  cases found : aliases.lookup capital with
  | none => rw [Option.getD_none]
  | some other =>
      have filled : ∀ entry ∈ aliases, entry.1 ≠ "" ∧ entry.2 ≠ "" := by decide
      have both := filled _ (mem_of_lookup found)
      simp [both.1, both.2]

namespace Registry

/-- Every level stands under its own name, and no name stands twice or is empty. -/
structure Interned (registry : Registry) : Prop where
  named : ∀ entry ∈ registry.byName, entry.2.name = entry.1 ∧ entry.2.registered = true
  distinct : registry.byName.Distinct
  filled : ∀ entry ∈ registry.byName, entry.1 ≠ ""

/-- No level has the empty name. -/
theorem Interned.ne_empty_of_get? {registry : Registry} (interned : registry.Interned) {name : String}
    {level : Level} (found : registry.byName.get? name = some level) : name ≠ "" :=
  interned.filled _ (Fields.mem_of_get? found)

/-- A new level keeps a registry interned. -/
theorem Interned.add {registry : Registry} (interned : registry.Interned) {name : String}
    (filled : name ≠ "") (rank : Int) : (registry.add name rank).Interned where
  named entry member := by
    rcases Fields.eq_of_mem_put member with old | rfl
    · exact interned.named entry old
    · exact ⟨rfl, rfl⟩
  distinct := interned.distinct.put _ _
  filled entry member := by
    rcases Fields.eq_of_mem_put member with old | rfl
    · exact interned.filled entry old
    · exact filled

/-- The standard levels are interned. -/
theorem interned_standard : standard.Interned := by
  have all (entries : List (String × Int)) (filled : ∀ entry ∈ entries, entry.1 ≠ "")
      (registry : Registry) (interned : registry.Interned) :
      (entries.foldl (fun result entry => result.add entry.1 entry.2) registry).Interned := by
    induction entries generalizing registry with
    | nil => exact interned
    | cons entry rest ih =>
        obtain ⟨first, others⟩ := List.forall_mem_cons.mp filled
        exact ih others _ (interned.add first entry.2)
  exact all standardLevels (by decide) empty ⟨nofun, List.nodup_nil, nofun⟩

/-- In every registry that can be reached the levels are interned. -/
theorem Reachable.interned {registry : Registry} (reached : registry.Reachable) :
    registry.Interned := by
  induction reached with
  | standard => exact interned_standard
  | @register registry later name rank level _ registered ih =>
      obtain ⟨content, -, filled, ⟨-, -, rfl⟩ | ⟨-, -, rfl⟩⟩ := register_cases registered
      · exact ih
      · apply ih.add
        rw [ne_eq, Level.normalName_eq_empty_iff, filled]
        exact Bool.false_ne_true

/-- A text can be registered with a rank when it is not blank and its name is free or has this rank. -/
def Admits (registry : Registry) (content : String) (rank : Int) : Prop :=
  Text.isBlank content = false ∧
    ∀ known, registry.byName.get? (Level.normalName content) = some known → known.rank = rank

/-- An admitted text gives the level that is then stored under its normal form. -/
theorem register_of_admits {registry : Registry} {content : String} {rank : Int}
    (admitted : registry.Admits content rank) :
    ∃ level later, registry.register (.text content) rank = .ok (level, later) ∧
      later.byName.get? (Level.normalName content) = some level ∧ level.rank = rank := by
  obtain ⟨filled, free⟩ := admitted
  cases found : registry.byName.get? (Level.normalName content) with
  | some known =>
      refine ⟨known, registry, ?_, found, free known found⟩
      simp [register, filled, found, free known found]
  | none =>
      refine ⟨⟨Level.normalName content, rank, true⟩, registry.add (Level.normalName content) rank,
        ?_, Fields.get?_put_self _ _ _, rfl⟩
      simp [register, filled, found]

/-- Every other text is refused as a misconfiguration. -/
theorem register_of_not_admits {registry : Registry} {content : String} {rank : Int}
    (refused : ¬registry.Admits content rank) :
    ∃ cause, registry.register (.text content) rank = .error (.misconfigured cause) := by
  by_cases blank : Text.isBlank content
  · exact ⟨.levelNameBlank, by simp [register, blank]⟩
  · cases found : registry.byName.get? (Level.normalName content) with
    | some known =>
        have taken : known.rank ≠ rank := by
          intro same
          apply refused
          refine ⟨by simpa using blank, fun other held => ?_⟩
          rw [← same, Option.some.inj (found.symm.trans held)]
        exact ⟨.levelRankTaken (Level.normalName content) known.rank, by
          simp [register, blank, found, taken]⟩
    | none =>
        refine absurd ⟨by simpa using blank, fun other held => ?_⟩ refused
        rw [found] at held
        contradiction

/-- Without a default a text stands for the level stored under its normal form. -/
theorem resolve_text_eq_ok_iff {registry : Registry} {content : String} {level : Level} :
    registry.resolve (.text content) none = .ok level ↔ registry.find? content = some level := by
  simp only [resolve]
  cases registry.find? content <;> simp

/-- A level that is found is preferred to every default. -/
theorem resolve_text_of_found {registry : Registry} {content : String} {level : Level}
    (found : registry.find? content = some level) (default : Option Level) :
    registry.resolve (.text content) default = .ok level := by
  simp only [resolve, found]

/-- Registering a text that stands for a level with the rank of this level changes nothing. -/
theorem Interned.register_known {registry : Registry} (interned : registry.Interned)
    {content other : String} {level : Level} (found : registry.find? content = some level)
    (same : Level.normalName other = Level.normalName content) :
    registry.register (.text other) level.rank = .ok (level, registry) := by
  rw [find?, ← same] at found
  have filled := interned.ne_empty_of_get? found
  rw [ne_eq, Level.normalName_eq_empty_iff, Bool.not_eq_true] at filled
  simp [register, filled, found]

end Registry

/-- A registration answers with the level and keeps the new registry, or it fails and keeps nothing. -/
theorem Step.run_register (ambient : Ambient) (session : Session) (id : Option String)
    (content : String) (rank : Int) :
    (Step.operation (.register id (.text content) rank)).run ambient session =
      match session.registry.register (.text content) rank with
      | .ok (level, registry) =>
        (.ok (.level level), ambient, Session.storing { session with registry } id (.level level))
      | .error failure => (.error failure, ambient, session) := by
  have read : (Act.read (.text content)).exec session = (.ok (.text content), session) :=
    Act.exec_read _ _
  have tried := Act.exec_attempt (session.registry.register (.text content) rank) session
  cases registered : session.registry.register (.text content) rank with
  | ok result =>
      rw [registered] at tried
      apply run_operation
      rw [Operation.perform, Act.exec_bind_ok (Act.exec_get session), Act.exec_bind_ok read,
        registered, Act.exec_bind_ok tried, Act.exec_bind_ok (Act.exec_modify _ _),
        Act.exec_bind_ok (Act.exec_store _ _ _), Act.exec_pure]
  | error failure =>
      rw [registered] at tried
      apply run_operation
      rw [Operation.perform, Act.exec_bind_ok (Act.exec_get session), Act.exec_bind_ok read,
        registered, Act.exec_bind_error tried]

/-- Keeping an object under a name leaves the registry as it is. -/
theorem Session.registry_storing (session : Session) (id : Option String) (object : Object) :
    (session.storing id object).registry = session.registry := by
  cases id <;> rfl

/-- After any script, levels are interned: registering a text succeeds exactly when it is admitted, with
the one level of its name, and what a text once stood for it stands for after every further script. -/
theorem levels_stay_interned (start : Ambient) (steps : List Step) :
    let session := (runAll start Session.initial steps).2.2
    session.registry.Interned ∧
    (∀ (ambient : Ambient) (id : Option String) (content : String) (rank : Int),
      let step := Step.operation (.register id (.text content) rank)
      (session.registry.Admits content rank → ∃ level later,
        step.run ambient session = (.ok (.level level), ambient, later) ∧
          later.registry.byName.get? (Level.normalName content) = some level ∧
          level.rank = rank ∧ later.registry.Interned) ∧
      (¬session.registry.Admits content rank → ∃ cause,
        step.run ambient session = (.error (.misconfigured cause), ambient, session))) ∧
    ∀ content level, session.registry.resolve (.text content) none = .ok level →
      ∀ (next : Ambient) (more : List Step),
        let later := (runAll next session more).2.2
        (∀ default, later.registry.resolve (.text content) default = .ok level) ∧
        ∀ (ambient : Ambient) (id : Option String) (other : String),
          Level.normalName other = Level.normalName content →
          (Step.operation (.register id (.text other) level.rank)).run ambient later =
            (.ok (.level level), ambient, later.storing id (.level level)) := by
  intro session
  have reached : session.Reachable := reachable_runAll start steps
  refine ⟨reached.consistent.registry.interned, ?_, ?_⟩
  · intro ambient id content rank step
    constructor
    · intro admitted
      obtain ⟨level, registry, registered, found, ranked⟩ := Registry.register_of_admits admitted
      have kept : registry.Reachable := .register reached.consistent.registry registered
      have done := Step.run_register ambient session id content rank
      rw [registered] at done
      refine ⟨level, _, done, ?_, ranked, ?_⟩
      · rw [Session.registry_storing]
        exact found
      · rw [Session.registry_storing]
        exact kept.interned
    · intro refused
      obtain ⟨cause, failed⟩ := Registry.register_of_not_admits refused
      have done := Step.run_register ambient session id content rank
      rw [failed] at done
      exact ⟨cause, done⟩
  · intro content level resolved next more later
    have evolved : session.Evolves later := evolves_runAll next session more
    have still : Session.Reachable later := reached.trans evolved
    have found : later.registry.find? content = some level :=
      Registry.resolve_text_eq_ok_iff.mp (evolved.extends.resolve resolved)
    constructor
    · exact Registry.resolve_text_of_found found
    · intro ambient id other same
      have done := Step.run_register ambient later id other level.rank
      rw [still.consistent.registry.interned.register_known found same] at done
      exact done

/-- A level that was registered once: an alias cannot take another rank, and the level is found again in
every spelling, also with a dotless letter. -/
theorem audit_stays_interned :
    let session := (runAll ⟨0, []⟩ Session.initial
      [.operation (.register none (.text " audit") 35),
        .operation (.register none (.text "Audit") 36)]).2.2
    let later := (runAll ⟨0, []⟩ session [.operation (.register none (.text "trail") 36)]).2.2
    (∃ cause, (Step.operation (.register none (.text "warning") 31)).run ⟨0, []⟩ session =
      (.error (.misconfigured cause), ⟨0, []⟩, session)) ∧
    later.registry.resolve (.text "AUDIT\t") none = .ok ⟨"AUDIT", 35, true⟩ ∧
    (Step.operation (.register none (.text "aud\u0131t") 35)).run ⟨0, []⟩ later =
      (.ok (.level ⟨"AUDIT", 35, true⟩), ⟨0, []⟩, later) := by
  intro session later
  have resolved : session.registry.resolve (.text "AUDIT\t") none = .ok ⟨"AUDIT", 35, true⟩ := rfl
  have spelled : Level.normalName "aud\u0131t" = Level.normalName "AUDIT\t" := by decide +kernel
  have known : session.registry.find? "warning" = some ⟨"WARN", 30, true⟩ := by
    dsimp only [session]
    decide +kernel
  obtain ⟨-, registering, lasting⟩ := levels_stay_interned ⟨0, []⟩
    [.operation (.register none (.text " audit") 35),
      .operation (.register none (.text "Audit") 36)]
  obtain ⟨-, refusing⟩ := registering ⟨0, []⟩ none "warning" 31
  obtain ⟨still, again⟩ := lasting "AUDIT\t" ⟨"AUDIT", 35, true⟩ resolved ⟨0, []⟩
    [.operation (.register none (.text "trail") 36)]
  have refused : ¬session.registry.Admits "warning" 31 := by
    intro admitted
    have taken : (30 : Int) = 31 := admitted.2 _ known
    exact absurd taken (by decide)
  exact ⟨refusing refused, still none, again ⟨0, []⟩ none "aud\u0131t" spelled⟩

end LogGate

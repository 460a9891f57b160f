import LogGate.Proofs.Calls
import LogGate.Proofs.Ranks
import LogGate.Proofs.TableText

/-!
Names of levels. The name of a level is its own normal form, so that the level is found again under its
name, with white space around it or not, and under every spelling that once stood for it.
-/

namespace LogGate

namespace Text

section Blanks

/-- White space has no capitals. -/
theorem upperCodes_of_blank {c : Char} (blank : isBlankChar c = true) :
    upperCodes c.toNat = [c.toNat] := by
  have all : ∀ range ∈ blankRanges, ∀ code ∈ CaseRun.codes ⟨range.first, range.last, 1, 0⟩,
      upperCodes code = [code] := by
    decide +kernel
  obtain ⟨range, listed, covered⟩ := List.any_eq_true.mp blank
  refine all range listed c.toNat (CaseRun.mem_codes ?_)
  rw [CaseRun.covers, Nat.mod_one, beq_self_eq_true, Bool.and_true]
  exact covered

/-- Blanks have no capitals. -/
theorem Blank.upperChars_eq {chars : List Char} (blank : Blank chars) : upperChars chars = chars := by
  induction chars with
  | nil => rfl
  | cons c rest ih =>
      obtain ⟨first, others⟩ := List.forall_mem_cons.mp blank
      rw [upperChars_cons, ih others, upperChars_singleton, upperCodes_of_blank first,
        List.map_singleton, Char.ofNat_toNat, List.singleton_append]

/-- It makes no difference whether a text is first trimmed or first written in capitals. -/
theorem trim_upper (text : String) : trim (upper text) = upper (trim text) := by
  obtain ⟨before, after, blankBefore, blankAfter, whole⟩ := eq_append_trimChars text.toList
  have spaced : upperChars text.toList =
      before ++ upperChars (trimChars text.toList) ++ after := by
    conv_lhs => rw [whole]
    rw [upperChars_append, upperChars_append, blankBefore.upperChars_eq, blankAfter.upperChars_eq]
  have trimmed := trimChars_upperChars (trimChars_trimChars text.toList)
  rw [trim, upper, upper, trim, String.toList_ofList, String.toList_ofList, spaced,
    trimChars_append_of_trimmed blankBefore blankAfter trimmed]

/-- Blanks around a text are trimmed away. -/
theorem trim_append {before after : String} (blankBefore : isBlank before = true)
    (blankAfter : isBlank after = true) (text : String) :
    trim (before ++ text ++ after) = trim text := by
  rw [trim, trim, String.toList_append, String.toList_append,
    trimChars_append (blank_iff_all.mp blankBefore) (blank_iff_all.mp blankAfter)]

end Blanks

end Text

namespace Level

/-- Names that differ in their letters' case alone have one normal form. -/
theorem normalName_upper (name : String) : normalName (Text.upper name) = normalName name := by
  rw [normalName, normalName, Text.trim_upper, Text.upper_upper]

/-- White space around a name makes no difference to its normal form. -/
theorem normalName_append {before after : String} (blankBefore : Text.isBlank before = true)
    (blankAfter : Text.isBlank after = true) (name : String) :
    normalName (before ++ name ++ after) = normalName name := by
  rw [normalName, Text.trim_append blankBefore blankAfter, normalName]

end Level

namespace Registry

variable {registry later : Registry} {content other : String} {level : Level}

/-- Texts of one normal form stand for one level. -/
theorem find?_congr (same : Level.normalName other = Level.normalName content) :
    registry.find? other = registry.find? content := by
  rw [find?, find?, same]

/-- Names stand in the registry in normal form alone. -/
def NamesNormal (registry : Registry) : Prop :=
  ∀ entry ∈ registry.byName, Level.IsNormal entry.1

/-- A level with a normal name can be added. -/
theorem NamesNormal.add (names : registry.NamesNormal) {name : String} (normal : Level.IsNormal name)
    (rank : Int) : (registry.add name rank).NamesNormal := by
  intro entry member
  rcases Fields.eq_of_mem_put member with old | rfl
  · exact names entry old
  · exact normal

/-- The standard levels have normal names. -/
theorem namesNormal_standard : standard.NamesNormal := by
  have all : ∀ entry ∈ standard.byName, Level.normalName entry.1 = entry.1 := by decide +kernel
  intro entry member
  rw [← all entry member]
  exact Level.isNormal_normalName entry.1

/-- In every registry that can be reached the levels have normal names. -/
theorem Reachable.namesNormal (reached : registry.Reachable) : registry.NamesNormal := by
  induction reached with
  | standard => exact namesNormal_standard
  | register _ registered ih =>
      obtain ⟨content, -, -, ⟨-, -, rfl⟩ | ⟨-, -, rfl⟩⟩ := register_cases registered
      · exact ih
      · exact ih.add (Level.isNormal_normalName content) _

/-- A level that was issued has a name in normal form, and is found under this name. -/
theorem Reachable.issued_cases (reached : registry.Reachable) (member : level ∈ registry.issued) :
    level.registered = true ∧ Level.IsNormal level.name ∧ registry.find? level.name = some level := by
  obtain ⟨entry, inside, rfl⟩ := List.mem_map.mp member
  obtain ⟨named, registered⟩ := reached.interned.named entry inside
  have normal := reached.namesNormal entry inside
  rw [named, find?, normal.normalName_eq]
  exact ⟨registered, normal, (Fields.get?_eq_some_iff reached.interned.distinct).mpr inside⟩

/-- What a registration answered with is found under its text from then on. -/
theorem find?_of_register {rank : Int}
    (registered : registry.register (.text content) rank = .ok (level, later)) :
    later.find? content = some level := by
  obtain ⟨text, same, -, ⟨found, -, rfl⟩ | ⟨-, rfl, rfl⟩⟩ := register_cases registered
  · cases same
    exact found
  · cases same
    exact Fields.get?_put_self _ _ _

/-- The spellings of a level's name that all stand for the level. -/
theorem Interned.find?_spelling (interned : registry.Interned)
    (found : registry.find? content = some level) :
    ∀ spelling ∈ [content, Text.upper content, level.name], registry.find? spelling = some level := by
  refine List.forall_mem_cons.mpr ⟨found, List.forall_mem_cons.mpr ⟨?_, List.forall_mem_singleton.mpr
    (interned.find?_name found)⟩⟩
  rw [find?_congr (Level.normalName_upper content), found]

end Registry

/-- A registration that was answered with a level keeps it under the text that was registered. -/
theorem Call.find?_of_register {call : Call} {id : Option String} {content : String} {rank : Int}
    {level : Level} (registers : call.operation = .register id (.text content) rank)
    (answered : call.answer = .ok (.level level)) :
    call.later.registry.find? content = some level := by
  obtain ⟨context, session, operation⟩ := call
  cases registers
  have done := Step.run_register ⟨0, context⟩ session id content rank
  cases registered : session.registry.register (.text content) rank with
  | error failure =>
      rw [registered] at done
      have failed : Call.answer ⟨context, session, .register id (.text content) rank⟩ =
        .error failure := congrArg Prod.fst done
      rw [failed] at answered
      contradiction
  | ok result =>
      rw [registered] at done
      have same : Call.answer ⟨context, session, .register id (.text content) rank⟩ =
        .ok (.level result.1) := congrArg Prod.fst done
      have left : Call.later ⟨context, session, .register id (.text content) rank⟩ =
        Session.storing { session with registry := result.2 } id (.level result.1) :=
          congrArg (·.2.2) done
      rw [same, Except.ok.injEq, Answer.level.injEq] at answered
      rw [left, Session.registry_storing, ← answered]
      exact Registry.find?_of_register registered

/-- After any script, a level that was registered is found under its name, with white space around it or not,
and its name is trimmed, in capitals and no alias. A text that a level was registered under stands for this
level from then on, also in capitals, and so does the name of the level. -/
theorem level_names_round_trip (start : Ambient) (steps : List Step) :
    let registry := (runAll start Session.initial steps).2.2.registry
    (∀ level ∈ registry.issued, level.registered = true ∧
      (Text.trim level.name = level.name ∧ Text.upper level.name = level.name ∧
        Level.aliases.lookup level.name = none) ∧
      ∀ before after, Text.isBlank before = true → Text.isBlank after = true → ∀ default,
        registry.resolve (.text level.name) default = .ok level ∧
        registry.resolve (.text (before ++ level.name ++ after)) default = .ok level) ∧
    ∀ call ∈ runCalls start Session.initial steps, ∀ id content rank level,
      call.operation = .register id (.text content) rank → call.answer = .ok (.level level) →
      level ∈ registry.issued ∧
      ∀ spelling ∈ [content, Text.upper content, level.name], ∀ default,
        registry.resolve (.text spelling) default = .ok level := by
  intro registry
  have reached : registry.Reachable := (reachable_runAll start steps).consistent.registry
  constructor
  · intro level member
    obtain ⟨registered, normal, found⟩ := reached.issued_cases member
    refine ⟨registered, ⟨normal.trimmed, normal.capital, normal.unlisted⟩, ?_⟩
    intro before after blankBefore blankAfter default
    refine ⟨Registry.resolve_text_of_found found default, ?_⟩
    apply Registry.resolve_text_of_found
    rw [Registry.find?_congr (Level.normalName_append blankBefore blankAfter level.name), found]
  · intro call member id content rank level registers answered
    have evolved := (Session.passes_runAll start Session.initial steps).left call member
    have found : registry.find? content = some level :=
      evolved.extends _ _ (Call.find?_of_register registers answered)
    refine ⟨List.mem_map_of_mem (Fields.mem_of_get? found), fun spelling listed default => ?_⟩
    exact Registry.resolve_text_of_found (reached.interned.find?_spelling found spelling listed) default

/-- A thread registers a level under a name with a dotless letter, a sharp s and a wide blank. -/
def thornyScript : List Step :=
  [.thread [.operation (.register none (.text "\u2003gro\u00DF \u0131\t") 35)],
    .operation (.register none (.text "gross I") 36)]

theorem thorny_name_round_trips :
    let registry := (runAll ⟨0, []⟩ Session.initial thornyScript).2.2.registry
    let level : Level := ⟨"GROSS I", 35, true⟩
    registry.resolve (.text "\u00A0GROSS I\n") none = .ok level ∧
    registry.resolve (.text (Text.upper "\u2003gro\u00DF \u0131\t")) none = .ok level := by
  intro registry level
  obtain ⟨names, spellings⟩ := level_names_round_trip ⟨0, []⟩ thornyScript
  have called : (⟨[], Session.initial.withHome,
      .register none (.text "\u2003gro\u00DF \u0131\t") 35⟩ : Call) ∈
        runCalls ⟨0, []⟩ Session.initial thornyScript := List.mem_cons_self
  obtain ⟨issued, spelled⟩ := spellings _ called none _ 35 level rfl rfl
  obtain ⟨-, -, spaced⟩ := names level issued
  exact ⟨(spaced "\u00A0" "\n" (by decide) (by decide) none).2,
    spelled _ (List.mem_cons_of_mem _ List.mem_cons_self) none⟩

end LogGate

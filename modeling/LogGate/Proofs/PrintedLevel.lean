import LogGate.Proofs.CallOutcome
import LogGate.Proofs.UpperCase

/-!
Levels as lines show them. A line shows the name that the rank of the event has in the numbering of the
logging library. Five ranks have names that every registry knows; any other rank is shown by its digits,
and a registry knows this text only if a level was registered for it.
-/

namespace LogGate

namespace Level

/-- The positive ranks that the numbering has names for. -/
def namedRanks : List Int := [10, 20, 30, 40, 50]

/-- A positive rank without a name is named by its digits. -/
theorem numberName_of_unnamed {number : Nat} (positive : 0 < number)
    (unnamed : (number : Int) ∉ namedRanks) : numberName number = "Level " ++ toString number := by
  have unlisted : numberedNames.lookup (number : Int) = none := by
    rw [List.lookup_eq_none_iff]
    intro entry listed
    rw [bne_iff_ne]
    rintro same
    have ranks : ∀ entry ∈ numberedNames, entry.1 = 0 ∨ entry.1 ∈ namedRanks := by decide
    rcases ranks entry listed with zero | named
    · omega
    · exact unnamed (same ▸ named)
  rw [numberName, unlisted]
  rfl

/-- Digits have no case, so that they count as capitals. -/
theorem capital_of_isDigit {c : Char} (digit : c.isDigit = true) : Text.Capital c := by
  obtain ⟨least, most⟩ := Text.toNat_of_isDigit digit
  apply Text.isCapital_of_listed
  refine List.mem_append_left _ (List.mem_append_right _ ?_)
  rw [List.mem_range'_1]
  exact ⟨least, Nat.lt_succ_of_le most⟩

/-- The digits of a level number are left as they are. -/
theorem normalName_numbered (number : Nat) :
    normalName ("Level " ++ toString number) = "LEVEL " ++ toString number := by
  have written : (toString number).toList = Nat.toDigits 10 number := String.toList_ofList
  have digits : ∀ c ∈ (toString number).toList, Text.Capital c := by
    rw [written]
    exact fun c member => capital_of_isDigit (Json.isDigit_of_mem_toDigits number c member)
  have filled : (toString number).toList ≠ [] := by
    rw [written]
    exact Nat.toDigits_ne_nil
  have trimmed : Text.trim ("Level " ++ toString number) = "Level " ++ toString number := by
    have ends : Text.trimChars ("Level ".toList ++ (toString number).toList) =
        "Level ".toList ++ (toString number).toList := by
      rw [Text.trimChars_eq_self_iff, List.getLast?_append_of_ne_nil _ filled]
      constructor
      · rintro c ⟨⟩
        decide
      · exact fun c last => (digits c (List.mem_of_mem_getLast? last)).visible
    rw [Text.trim, String.toList_append, ends, ← String.toList_append, String.ofList_toList]
  have upper : Text.upper ("Level " ++ toString number) = "LEVEL " ++ toString number := by
    have word : Text.upperChars "Level ".toList = "LEVEL ".toList := by decide +kernel
    rw [Text.upper, String.toList_append, Text.upperChars_append, word,
      Text.upperChars_of_capital digits, ← String.toList_append, String.ofList_toList]
  have unlisted : aliases.lookup ("LEVEL " ++ toString number) = none := by
    rw [List.lookup_eq_none_iff]
    intro entry listed
    rw [bne_iff_ne]
    intro same
    -- No alias starts as this name does.
    have heads : ∀ entry ∈ aliases, entry.1.toList.head? ≠ some 'L' := by decide
    apply heads entry listed
    rw [← same, String.toList_append]
    rfl
  rw [normalName, trimmed, upper, unlisted, Option.getD_none]

end Level

/-- No registration takes a standard level away. -/
theorem Registry.Reachable.extends_standard {registry : Registry} (reached : registry.Reachable) :
    registry.Extends .standard := by
  induction reached with
  | standard => exact .refl _
  | register _ registered ih => exact (extends_of_register registered).trans ih

/-- The name of a named rank stands for a level of this rank in every registry. -/
theorem Registry.resolve_numberName {registry : Registry} (reached : registry.Reachable) {rank : Int}
    (named : rank ∈ Level.namedRanks) :
    ∃ level, registry.resolve (.text (Level.numberName rank)) none = .ok level ∧
      level.rank = rank := by
  have standard : ∀ rank ∈ Level.namedRanks,
      (Registry.standard.find? (Level.numberName rank)).map (·.rank) = some rank := by
    decide +kernel
  obtain ⟨level, found, ranked⟩ := Option.map_eq_some_iff.mp (standard rank named)
  exact ⟨level, reached.extends_standard.resolve (resolve_text_eq_ok_iff.mpr found), ranked⟩

/-- The digits of any other rank stand for a level only if one was registered under them. -/
theorem Registry.resolve_numbered_iff {registry : Registry} {number : Nat} {level : Level} :
    registry.resolve (.text ("Level " ++ toString number)) none = .ok level ↔
      registry.byName.get? ("LEVEL " ++ toString number) = some level := by
  rw [resolve_text_eq_ok_iff, find?, Level.normalName_numbered]

/-- The level in a line is that of the record, unless an entry of the context has its name. -/
theorem Line.level_of_line {record : Record} {withTime : Bool} {line name : String}
    (written : ofRecord record withTime = .ok line) (named : record.levelName = .text name)
    (free : "level" ∉ record.contextEntries.map (·.1)) :
    ∃ members : Fields String String, line = Json.object members ∧ members.Distinct ∧
      members.get? "level" = some (Json.string name) := by
  obtain ⟨all, made, rendered⟩ := Except.bind_eq_ok_iff.mp written
  obtain ⟨own, -, distinct, found⟩ := members_eq_ok made
  rw [Json.value] at rendered
  obtain ⟨members, listed, rfl⟩ := Except.map_eq_ok_iff.mp rendered
  obtain ⟨names, items⟩ := Json.members_ofNamed listed
  have missing : (Fields.ofList record.contextEntries).get? "level" = none := by
    rw [Fields.get?_ofList]
    exact Fields.get?_eq_none_of_not_mem (by simpa using free)
  have level := found "level" record.levelName .level
  rw [missing, Option.getD_none, named] at level
  obtain ⟨shown, read, held⟩ := items "level" _ level
  obtain rfl : Json.string name = shown := Except.ok.inj read
  refine ⟨members, rfl, ?_, held⟩
  rw [Fields.Distinct, names]
  exact distinct

/-- The context of a new record has the names of the fields that it is given. -/
theorem Record.not_mem_contextEntries {clock : Binary64} {name label : String} {level : Int}
    {message : Value} {arguments : List Value} {report : Option ErrorReport} {record : Record}
    (made : new clock name level message arguments report = .ok record) {fields : Context}
    (free : ∀ entry ∈ fields, entry.1.plain ≠ label) :
    label ∉ (record.withContext fields).contextEntries.map (·.1) := by
  rw [contextEntries_withContext, contextEntries_new made, List.mem_map]
  rintro ⟨entry, member, same⟩
  obtain ⟨field, given, rfl⟩ := List.mem_map.mp
    ((Fields.mem_of_mem_putAll member).resolve_left List.not_mem_nil)
  exact free field given same

/-- What an event writes, if it writes anything, is the line of its record, once for each handler. -/
theorem Act.line_of_log {session : Session} {context fields : Context} {target : Option String}
    {level : Int} {message : Value} {arguments : List Value} {output : String}
    (logged : ((log context target level message arguments fields).exec session).1 = .ok output)
    (filled : output ≠ "") : 0 < level ∧ ∃ record line,
      Record.new session.clock (LoggerTree.nameOf target) level message arguments none = .ok record ∧
      Line.ofRecord (record.withContext fields) true = .ok line ∧
      output = String.join (List.replicate (session.loggers.handlerCount target) (line ++ "\n")) := by
  rw [exec_log_eq] at logged
  dsimp only at logged
  split at logged
  · next enabled =>
    rw [LoggerTree.isEnabled, Bool.and_eq_true, decide_eq_true_eq] at enabled
    obtain ⟨record, made, done⟩ := Except.bind_eq_ok_iff.mp logged
    obtain ⟨admitted, judged, -⟩ := Except.map_eq_ok_iff.mp done
    cases admitted with
    | false =>
        rw [output_of_denied judged] at done
        exact absurd (Except.ok.inj done).symm filled
    | true =>
        cases written : Line.ofRecord (record.withContext fields) true with
        | error failure =>
            rw [output_of_unwritable written judged] at done
            exact absurd (Except.ok.inj done).symm filled
        | ok line =>
            refine ⟨enabled.1, record, line, made, written, ?_⟩
            rw [output_of_admitted judged, lineOf, written] at done
            exact (Except.ok.inj done).symm
  · exact absurd (Except.ok.inj logged).symm filled

/-- A line that a call writes at a level shows the name of its rank, unless a field of the context is
named like the member. For five ranks every registry finds a level of this rank under the name. The name
of another rank is made of its digits, and only a level that was registered for this text is found. -/
theorem line_shows_name_of_rank {session : Session} (reached : session.registry.Reachable)
    {context : Context} {target : Option String} {given message : Value} {config : Option Nat}
    {extra : Fields String Value} {level : Level} {output : String}
    (resolved : session.registry.resolve given none = .ok level)
    (logged : ((Act.logWithContext context target given message config extra).exec session).1 =
      .ok (true, output)) (filled : output ≠ "")
    (free : ∀ entry ∈ Context.merge context extra, entry.1.plain ≠ "level") :
    let name := Level.numberName level.rank
    (∃ (members : Fields String String) (count : Nat), members.Distinct ∧
      output = String.join (List.replicate count (Json.object members ++ "\n")) ∧
      members.get? "level" = some (Json.string name)) ∧
    (level.rank ∈ [10, 20, 30, 40, 50] → ∃ shown,
      session.registry.resolve (.text name) none = .ok shown ∧ shown.rank = level.rank) ∧
    (level.rank ∉ [10, 20, 30, 40, 50] → name = "Level " ++ toString level.rank ∧ ∀ shown,
      session.registry.resolve (.text name) none = .ok shown ↔
        session.registry.byName.get? ("LEVEL " ++ toString level.rank) = some shown) := by
  intro name
  obtain ⟨rule, later, -, -, done⟩ := (Act.exec_logWithContext_iff resolved).mp logged
  obtain ⟨positive, record, line, made, written, same⟩ := Act.line_of_log done filled
  refine ⟨?_, Registry.resolve_numberName reached, fun unnamed => ?_⟩
  · have named : (record.withContext (Context.merge context extra)).levelName = .text name := by
      rw [Record.withContext_eq, ← Record.levelName_of_new made]
    obtain ⟨members, rfl, distinct, found⟩ :=
      Line.level_of_line written named (Record.not_mem_contextEntries made free)
    exact ⟨members, _, distinct, same, found⟩
  · obtain ⟨number, ranked⟩ := Int.eq_ofNat_of_zero_le (Int.le_of_lt positive)
    have digits : name = "Level " ++ toString number := by
      dsimp only [name]
      rw [ranked] at positive unnamed ⊢
      exact Level.numberName_of_unnamed (by omega) unnamed
    rw [ranked, digits]
    exact ⟨rfl, fun shown => Registry.resolve_numbered_iff⟩

/-- A level that shares its rank with warnings, and a logger that writes everything. -/
def noticeSteps : List Step :=
  [.operation (.register none (.text "notice") 30),
    .operation (.newConfig (some "c") [("log_level", .text "trace")]),
    .operation (.getLogger (.text "svc") (some "c"))]

theorem line_shows_name_of_rank_of_notice :
    let session := (runAll ⟨0, []⟩ Session.initial noticeSteps).2.2
    ∃ output, ((Act.logWithContext [] (some "svc") (.text "notice") (.text "ready") (some 0)
        []).exec session).1 = .ok (true, output) ∧
      (∃ (members : Fields String String) (count : Nat),
        output = String.join (List.replicate count (Json.object members ++ "\n")) ∧
        members.get? "level" = some (Json.string "WARNING")) ∧
      ∃ shown, session.registry.resolve (.text "WARNING") none = .ok shown ∧ shown.rank = 30 := by
  intro session
  have reached : session.Reachable := reachable_runAll ⟨0, []⟩ noticeSteps
  have resolved : session.registry.resolve (.text "notice") none = .ok ⟨"NOTICE", 30, true⟩ :=
    Registry.resolve_text_of_found (by decide +kernel) none
  let call := ((Act.logWithContext [] (some "svc") (.text "notice") (.text "ready") (some 0)
    []).exec session).1
  obtain ⟨⟨answer, output⟩, logged, passed⟩ := Except.exists_ok_of_any
    (show call.toOption.any (fun result => result.1 && result.2 != "") = true by decide +kernel)
  obtain ⟨admitted, filled⟩ := Bool.and_eq_true_iff.mp passed
  obtain rfl : answer = true := admitted
  obtain ⟨⟨members, count, -, same, found⟩, known, -⟩ :=
    line_shows_name_of_rank reached.consistent.registry resolved logged (bne_iff_ne.mp filled) nofun
  exact ⟨output, logged, ⟨members, count, same, found⟩, known (by decide)⟩

/-- The line of an event at the level TRACE says Level 5, and no level is found under this text. -/
theorem line_of_trace_shows_no_level :
    ¬ ∀ (session : Session) (context : Context) (target : Option String) (message : Value)
      (config : Option Nat) (extra : Fields String Value) (level : Level) (output : String),
      session.Reachable → level ∈ session.registry.byName.map (·.2) → 1 ≤ level.rank →
      (session.loggers.get target).handlers ≠ 0 →
      session.loggers.isEnabled target level.rank = true →
      (∀ kept ∈ (session.loggers.get target).rules, Rule.denies (kept.2.outcome .severity level
        (Snapshot.ofEntries (Context.merge context extra))) = false) →
      ((Act.logWithContext context target (.level level) message config extra).exec session).1 =
        .ok (true, output) →
      (∀ entry ∈ Context.merge context extra, entry.1.plain ≠ "level") →
      ∀ (members : Fields String String) (name : String), output = Json.object members ++ "\n" →
        members.get? "level" = some (Json.string name) →
        ∃ shown, session.registry.resolve (.text name) none = .ok shown ∧
          shown.rank = level.rank := by
  intro told
  let session := (runAll ⟨0, []⟩ Session.initial noticeSteps).2.2
  let call := ((Act.logWithContext [] (some "svc") (.level ⟨"TRACE", 5, true⟩) (.text "m") (some 0)
    []).exec session).1
  let members : Fields String String := [("level", Json.string "Level 5"),
    ("logger", Json.string "svc"), ("message", Json.string "m"),
    ("timestamp", Json.string "2023-11-14T22:13:20Z")]
  obtain ⟨⟨answer, output⟩, logged, passed⟩ := Except.exists_ok_of_any
    (show call.toOption.any (fun result => result.1 && result.2 == Json.object members ++ "\n") = true
      by decide +kernel)
  obtain ⟨admitted, same⟩ := Bool.and_eq_true_iff.mp passed
  obtain rfl : answer = true := admitted
  obtain ⟨shown, resolved, -⟩ := told session [] (some "svc") (.text "m") (some 0) [] _ output
    (reachable_runAll ⟨0, []⟩ noticeSteps) (by decide +kernel) (by decide) (by decide +kernel)
    (by decide +kernel) (by decide +kernel) logged nofun members "Level 5" (eq_of_beq same) rfl
  have unknown : session.registry.find? "Level 5" = none := by decide +kernel
  rw [Registry.resolve_text_eq_ok_iff, unknown] at resolved
  contradiction

end LogGate

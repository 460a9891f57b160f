import LogGate.Line
import LogGate.Proofs.Fields
import LogGate.Proofs.Thresholds

/-!
Members of a line. Each name stands once in a line, and the level, the logger, the message and the time
are among them. They are those of the record, unless an entry of its context has taken their name.
-/

namespace LogGate

namespace Json

/-- A mapping of named members is written member by member, under the same names. -/
theorem members_ofNamed {fields : Fields String Value} {written : List (String × String)}
    (done : members (Context.ofNamed fields) = .ok written) :
    written.map (·.1) = fields.map (·.1) ∧
      ∀ name item, fields.get? name = some item →
        ∃ shown, value item = .ok shown ∧ Fields.get? written name = some shown := by
  induction fields generalizing written with
  | nil =>
      cases done
      exact ⟨rfl, fun name item found => by cases found⟩
  | cons entry rest ih =>
      obtain ⟨first, content⟩ := entry
      have split : (value content).bind (fun item =>
          (members (Context.ofNamed rest)).map fun rest => (first, item) :: rest) = .ok written :=
        done
      obtain ⟨shown, head, others⟩ := Except.bind_eq_ok_iff.mp split
      obtain ⟨tail, remaining, rfl⟩ := Except.map_eq_ok_iff.mp others
      obtain ⟨names, items⟩ := ih remaining
      refine ⟨by rw [List.map_cons, List.map_cons, names], ?_⟩
      intro name item found
      by_cases same : first == name
      · rw [Fields.get?_cons, if_pos same, Option.some.injEq] at found
        exact ⟨shown, by rw [← found, head], by rw [Fields.get?_cons, if_pos same]⟩
      · rw [Fields.get?_cons, if_neg same] at found
        rw [Fields.get?_cons, if_neg same]
        exact items name item found

end Json

namespace Line

/-- What a record itself says of the event. -/
inductive OwnMember (record : Record) (withTime : Bool) : String → Value → Prop
  | level : OwnMember record withTime "level" record.levelName
  | logger : OwnMember record withTime "logger" record.name
  | message {message : String} (filled : record.text = .ok message) :
      OwnMember record withTime "message" (.text message)
  | timestamp {time : String} (wanted : withTime = true) (read : timestamp record.created = .ok time) :
      OwnMember record withTime "timestamp" (.text time)

/-- The own members of a record are found under their names, each of which stands once. -/
theorem ownMembers_eq_ok {record : Record} {withTime : Bool} {own : Fields String Value}
    (done : ownMembers record withTime = .ok own) :
    own.Distinct ∧ (∃ message, record.text = .ok message) ∧
      (withTime = true → ∃ time, timestamp record.created = .ok time) ∧
      ∀ name value, OwnMember record withTime name value → own.get? name = some value := by
  obtain ⟨message, filled, rest⟩ := Except.bind_eq_ok_iff.mp done
  have named : Fields.Distinct (κ := String)
      [("level", record.levelName), ("logger", record.name), ("message", .text message)] := by
    simp [Fields.Distinct]
  cases withTime with
  | false =>
      cases rest
      refine ⟨named, ⟨message, filled⟩, by simp, ?_⟩
      intro name value member
      cases member with
      | level => rfl
      | logger => rfl
      | message other =>
          cases filled.symm.trans other
          rfl
      | timestamp wanted => contradiction
  | true =>
      obtain ⟨time, read, rfl⟩ := Except.map_eq_ok_iff.mp rest
      refine ⟨named.put "timestamp" (.text time), ⟨message, filled⟩, fun _ => ⟨time, read⟩, ?_⟩
      intro name value member
      cases member with
      | level => rfl
      | logger => rfl
      | message other =>
          cases filled.symm.trans other
          rfl
      | timestamp wanted other =>
          cases read.symm.trans other
          rfl

/-- The error report takes no other member's place. -/
theorem OwnMember.name_ne_exception {record : Record} {withTime : Bool} {name : String}
    {value : Value} (member : OwnMember record withTime name value) : name ≠ "exception" := by
  cases member <;> decide

/-- An entry of the context takes the place of an own member of its name. -/
theorem members_eq_ok {record : Record} {withTime : Bool} {all : Fields String Value}
    (done : members record withTime = .ok all) : ∃ own,
      ownMembers record withTime = .ok own ∧ all.Distinct ∧
      ∀ name value, OwnMember record withTime name value →
        all.get? name = some (((Fields.ofList record.contextEntries).get? name).getD value) := by
  obtain ⟨own, made, reported⟩ := Except.bind_eq_ok_iff.mp done
  obtain ⟨report, -, rfl⟩ := Except.map_eq_ok_iff.mp reported
  obtain ⟨distinct, -, -, held⟩ := ownMembers_eq_ok made
  have together : (own.putAll record.contextEntries).Distinct := distinct.putAll _
  have found (name : String) (value : Value) (member : OwnMember record withTime name value) :
      (own.putAll record.contextEntries).get? name =
        some (((Fields.ofList record.contextEntries).get? name).getD value) := by
    rw [Fields.get?_putAll, held name value member, Fields.get?_ofList, Option.or_some]
  refine ⟨own, made, ?_⟩
  cases report with
  | none => exact ⟨together, found⟩
  | some text =>
      refine ⟨together.put _ _, ?_⟩
      intro name value member
      have apart : ("exception" == name) = false :=
        beq_eq_false_iff_ne.mpr member.name_ne_exception.symm
      exact (Fields.get?_put_of_ne _ _ apart).trans (found name value member)

/-- A line has the level, the logger, the message and the time of its record, if no entry of the context
of the record has the name of the member. Otherwise it has the last such entry in place of it. -/
theorem own_members_of_line {record : Record} {withTime : Bool} {text : String}
    (written : ofRecord record withTime = .ok text) :
    (∃ message, record.text = .ok message) ∧
    (withTime = true → ∃ time, timestamp record.created = .ok time) ∧
    ∃ members : Fields String String, text = Json.object members ∧ members.Distinct ∧
      ∀ name value, OwnMember record withTime name value → ∃ shown,
        members.get? name = some shown ∧
        Json.value (((Fields.ofList record.contextEntries).get? name).getD value) = .ok shown ∧
        (name ∉ record.contextEntries.map (·.1) → Json.value value = .ok shown) := by
  obtain ⟨all, made, rendered⟩ := Except.bind_eq_ok_iff.mp written
  obtain ⟨own, ownMade, distinct, found⟩ := members_eq_ok made
  obtain ⟨-, filled, timed, -⟩ := ownMembers_eq_ok ownMade
  rw [Json.value] at rendered
  obtain ⟨members, listed, rfl⟩ := Except.map_eq_ok_iff.mp rendered
  obtain ⟨names, items⟩ := Json.members_ofNamed listed
  refine ⟨filled, timed, members, rfl, ?_, ?_⟩
  · rw [Fields.Distinct, names]
    exact distinct
  · intro name value member
    obtain ⟨shown, read, held⟩ := items name _ (found name value member)
    refine ⟨shown, held, read, ?_⟩
    intro free
    have missing : (Fields.ofList record.contextEntries).get? name = none := by
      rw [Fields.get?_ofList]
      exact Fields.get?_eq_none_of_not_mem (by simpa using free)
    rwa [missing, Option.getD_none] at read

/-- An error of the service, whose context has an entry with the name of the level. -/
def disguisedRecord : Record where
  name := .text "service"
  level := .int 40
  levelName := .text "ERROR"
  message := .text "failed"
  arguments := .tuple []
  report := none
  created := .float (.ofInt 1700000000)
  attributes := [("ctx_level", .text "INFO"), ("ctx_user", .text "bob")]

theorem own_members_of_line_on_disguised :
    let text := Json.object [("level", Json.string "INFO"), ("logger", Json.string "service"),
      ("message", Json.string "failed"), ("user", Json.string "bob")]
    ofRecord disguisedRecord false = .ok text ∧
    ∃ members : Fields String String, text = Json.object members ∧ members.Distinct ∧
      members.get? "level" = some (Json.string "INFO") ∧
      members.get? "logger" = some (Json.string "service") := by
  intro text
  have written : ofRecord disguisedRecord false = .ok text := rfl
  obtain ⟨-, -, members, same, distinct, found⟩ := own_members_of_line written
  obtain ⟨level, levelFound, levelRead, -⟩ := found "level" _ .level
  obtain ⟨logger, loggerFound, -, loggerRead⟩ := found "logger" _ .logger
  obtain rfl : Json.string "INFO" = level := Except.ok.inj levelRead
  obtain rfl : Json.string "service" = logger := Except.ok.inj (loggerRead (by decide))
  exact ⟨written, members, same, distinct, levelFound, loggerFound⟩

/-- The line of the disguised error says INFO in place of ERROR. -/
theorem context_entry_falsifies_line :
    let line (level : String) := Json.object [("level", Json.string level),
      ("logger", Json.string "service"), ("message", Json.string "failed"),
      ("user", Json.string "bob")]
    disguisedRecord.levelName = .text "ERROR" ∧
      ofRecord disguisedRecord false = .ok (line "INFO") ∧ line "INFO" ≠ line "ERROR" := by
  refine ⟨rfl, rfl, by decide⟩

end Line

end LogGate

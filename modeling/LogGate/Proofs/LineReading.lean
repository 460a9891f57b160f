import LogGate.Proofs.JsonRoundTrip
import LogGate.Proofs.LineMembers
import Mathlib.Data.List.Nodup

/-!
Reading lines. A line is the JSON text of one object: the members of the record itself, then its context,
then the error that it reports, each unchanged and in this order.
-/

namespace LogGate

namespace Record

/-- Attributes keep distinct names, however a record is changed. -/
theorem distinct_assign {record : Record} (distinct : record.attributes.Distinct) (name : String)
    (value : Value) : (record.assign name value).attributes.Distinct := by
  unfold assign
  split
  all_goals first | exact distinct | exact distinct.put name value

/-- Assigning attributes keeps their names distinct. -/
theorem distinct_assignAll {record : Record} (distinct : record.attributes.Distinct)
    (attributes : List (String × Value)) : (record.assignAll attributes).attributes.Distinct := by
  induction attributes generalizing record with
  | nil => exact distinct
  | cons entry rest ih => exact ih (distinct_assign distinct entry.1 entry.2)

/-- The context of a record has distinct names when its attributes have. -/
theorem distinct_contextEntries {record : Record} (distinct : record.attributes.Distinct) :
    Fields.Distinct record.contextEntries := by
  have names : record.contextEntries.map (·.1) =
      (record.attributes.map (·.1)).filterMap contextName? := by
    rw [contextEntries, List.map_filterMap, List.filterMap_map]
    congr 1
    funext entry
    simp [Option.map_map, Function.comp_def]
  rw [Fields.Distinct, names]
  apply List.Nodup.filterMap _ distinct
  intro first second name firstName secondName
  rw [contextName?_eq_some_iff.mp firstName, contextName?_eq_some_iff.mp secondName]

end Record

namespace Line

/-- The names of the members that are no entries of the context. -/
def ownNames : List String := ["level", "logger", "message", "timestamp", "exception"]

def timeMembers (withTime : Bool) (time : String) : Fields String Value :=
  if withTime then [("timestamp", .text time)] else []

def reportMembers (report : Option String) : Fields String Value :=
  report.toList.map fun text => ("exception", .text text)

section Whole

variable {record : Record} {withTime : Bool} {message time : String} {report : Option String}

/-- What a record itself says of the event, in order. -/
def startMembers (record : Record) (withTime : Bool) (message time : String) : Fields String Value :=
  [("level", record.levelName), ("logger", record.name), ("message", .text message)] ++
    timeMembers withTime time

/-- All members of a line, in order. -/
def wholeMembers (record : Record) (withTime : Bool) (message time : String)
    (report : Option String) : Fields String Value :=
  startMembers record withTime message time ++ record.contextEntries ++ reportMembers report

/-- The first members have names of their own. -/
theorem names_startMembers : ((startMembers record withTime message time).map (·.1)).Nodup ∧
    ∀ name ∈ (startMembers record withTime message time).map (·.1),
      name ∈ ownNames ∧ name ≠ "exception" := by
  have timed : ["level", "logger", "message", "timestamp"].Nodup ∧
      ∀ name ∈ ["level", "logger", "message", "timestamp"], name ∈ ownNames ∧ name ≠ "exception" := by
    decide
  have untimed : ["level", "logger", "message"].Nodup ∧
      ∀ name ∈ ["level", "logger", "message"], name ∈ ownNames ∧ name ≠ "exception" := by
    decide
  cases withTime with
  | true => exact timed
  | false => exact untimed

theorem names_reportMembers (report : Option String) : ((reportMembers report).map (·.1)).Nodup ∧
    ∀ name ∈ (reportMembers report).map (·.1), name = "exception" := by
  cases report <;> simp [reportMembers]

/-- Each name stands once in a line, if no entry of the context has a name of the record's own. -/
theorem distinct_wholeMembers (distinct : record.attributes.Distinct)
    (apart : ∀ entry ∈ record.contextEntries, entry.1 ∉ ownNames) :
    (wholeMembers record withTime message time report).Distinct := by
  obtain ⟨startNodup, start⟩ := @names_startMembers record withTime message time
  obtain ⟨reportNodup, reported⟩ := names_reportMembers report
  have context (name : String) (member : name ∈ record.contextEntries.map (·.1)) :
      name ∉ ownNames := by
    obtain ⟨entry, inside, rfl⟩ := List.mem_map.mp member
    exact apart entry inside
  rw [Fields.Distinct, wholeMembers, List.map_append, List.map_append, List.nodup_append,
    List.nodup_append]
  refine ⟨⟨startNodup, Record.distinct_contextEntries distinct, ?_⟩, reportNodup, ?_⟩
  · rintro name first _ second rfl
    exact context name second (start name first).1
  · rintro name first _ second rfl
    rw [reported name second] at first
    rcases List.mem_append.mp first with own | other
    · exact (start _ own).2 rfl
    · exact context _ other (by decide)

/-- The own members are there if the message and the time can be written. -/
theorem ownMembers_eq_startMembers (filled : record.text = .ok message)
    (timed : withTime = true → timestamp record.created = .ok time) :
    ownMembers record withTime = .ok (startMembers record withTime message time) := by
  rw [ownMembers, filled]
  cases withTime with
  | false => rfl
  | true =>
      change (timestamp record.created).map _ = _
      rw [timed rfl]
      rfl

/-- With distinct names no member takes the place of another one. -/
theorem members_eq_wholeMembers (filled : record.text = .ok message)
    (timed : withTime = true → timestamp record.created = .ok time)
    (reported : record.reportText = .ok report)
    (distinct : (wholeMembers record withTime message time report).Distinct) :
    members record withTime = .ok (wholeMembers record withTime message time report) := by
  rw [Fields.Distinct, wholeMembers, List.map_append, List.nodup_append] at distinct
  obtain ⟨front, -, apart⟩ := distinct
  rw [members, ownMembers_eq_startMembers filled timed, reported, Except.bind, Except.map]
  dsimp only
  rw [Fields.putAll_of_distinct front, wholeMembers]
  cases report with
  | none => exact congrArg Except.ok (List.append_nil _).symm
  | some text =>
      have fresh : "exception" ∉
          (startMembers record withTime message time ++ record.contextEntries).map (·.1) := by
        intro member
        refine apart "exception" member "exception" ?_ rfl
        simp [reportMembers]
      dsimp only
      rw [Fields.put_of_fresh fresh]
      rfl

/-- A line of portable values is portable. -/
theorem portable_wholeMembers {name : String} (named : record.name = .text name)
    (leveled : record.levelName.Portable)
    (portable : ∀ entry ∈ record.contextEntries, entry.2.Portable) :
    ∀ entry ∈ wholeMembers record withTime message time report, entry.2.Portable := by
  have timed : ∀ entry ∈ timeMembers withTime time, entry.2.Portable := by
    cases withTime with
    | true => exact List.forall_mem_singleton.mpr (.text time)
    | false => exact List.forall_mem_nil _
  have reported : ∀ entry ∈ reportMembers report, entry.2.Portable := by
    cases report with
    | some text => exact List.forall_mem_singleton.mpr (.text text)
    | none => exact List.forall_mem_nil _
  have start : ∀ entry ∈ ([("level", record.levelName), ("logger", record.name),
      ("message", .text message)] : Fields String Value), entry.2.Portable := by
    simp only [List.forall_mem_cons, named]
    exact ⟨leveled, .text name, .text message, List.forall_mem_nil _⟩
  rw [wholeMembers, startMembers, List.forall_mem_append, List.forall_mem_append,
    List.forall_mem_append]
  exact ⟨⟨⟨start, timed⟩, portable⟩, reported⟩

/-- Only the context has tuples that are read as lists. -/
theorem arrayedFields_wholeMembers {name : String} (named : record.name = .text name) :
    Value.arrayedFields (wholeMembers record withTime message time report) =
      [("level", record.levelName.arrayed), ("logger", .text name), ("message", .text message)] ++
        timeMembers withTime time ++ Value.arrayedFields record.contextEntries ++
        reportMembers report := by
  have timed : Value.arrayedFields (timeMembers withTime time) = timeMembers withTime time := by
    cases withTime <;> rfl
  have reported : Value.arrayedFields (reportMembers report) = reportMembers report := by
    cases report <;> rfl
  rw [Value.arrayedFields] at timed reported ⊢
  rw [wholeMembers, startMembers, List.map_append, List.map_append, List.map_append, timed, reported,
    named]
  rfl

end Whole

/-- A record is written if its message, its time and its error report can be, and its line is read back as
exactly the members of the record, in order: the level, the logger, the message and the time if it is wanted,
then every entry of the context, then the error report. Tuples are read as lists; all else is unchanged. -/
theorem read_line {record : Record} {withTime : Bool} {name message time : String}
    {report : Option String}
    (named : record.name = .text name) (leveled : record.levelName.Portable)
    (filled : record.text = .ok message)
    (timed : withTime = true → timestamp record.created = .ok time)
    (reported : record.reportText = .ok report) (distinct : record.attributes.Distinct)
    (apart : ∀ entry ∈ record.contextEntries,
      entry.1 ∉ ["level", "logger", "message", "timestamp", "exception"])
    (portable : ∀ entry ∈ record.contextEntries, entry.2.Portable) :
    ∃ text, ofRecord record withTime = .ok text ∧
      Json.read? text = some (.mapping (Context.ofNamed (
        [("level", record.levelName.arrayed), ("logger", .text name), ("message", .text message)] ++
          (if withTime then [("timestamp", .text time)] else []) ++
          record.contextEntries.map (fun entry => (entry.1, entry.2.arrayed)) ++
          report.toList.map fun text => ("exception", .text text)))) := by
  have whole := @distinct_wholeMembers record withTime message time report distinct apart
  have all := @portable_wholeMembers record withTime message time report name named leveled portable
  obtain ⟨text, written, read⟩ := Json.read?_value (.mapping whole all)
  refine ⟨text, ?_, ?_⟩
  · rw [ofRecord, members_eq_wholeMembers filled timed reported whole]
    exact written
  · rw [read, Value.arrayed, Value.arrayedEntries_ofNamed, arrayedFields_wholeMembers named]
    rfl

/-- A payment with a text beyond 16 bits, a tuple and a mapping in its context, and an error report. -/
def paymentRecord : Record :=
  Record.assignAll {
    name := .text "service"
    level := .int 40
    levelName := .text "ERROR"
    message := .text "paid %s"
    arguments := .tuple [.int (-7)]
    report := some (.raised .value [.text "late"])
    created := .int 1700000000
    attributes := [] }
    [("ctx_user", .text "ä😀"), ("ctx_parts", .tuple [.int 1, .absent]),
      ("ctx_more", .mapping [(.text "open", .bool true)])]

theorem read_line_of_payment : ∃ text, ofRecord paymentRecord true = .ok text ∧
    Json.read? text = some (.mapping [(.text "level", .text "ERROR"), (.text "logger", .text "service"),
      (.text "message", .text "paid -7"), (.text "timestamp", .text "2023-11-14T22:13:20Z"),
      (.text "user", .text "ä😀"), (.text "parts", .list [.int 1, .absent]),
      (.text "more", .mapping [(.text "open", .bool true)]),
      (.text "exception", .text "ValueError: late")]) := by
  have distinct : paymentRecord.attributes.Distinct := by
    apply Record.distinct_assignAll
    exact List.nodup_nil
  have entries : paymentRecord.contextEntries = [("user", .text "ä😀"),
      ("parts", .tuple [.int 1, .absent]), ("more", .mapping [(.text "open", .bool true)])] := rfl
  have portable : ∀ entry ∈ paymentRecord.contextEntries, entry.2.Portable := by
    have parts : (Value.tuple [.int 1, .absent]).Portable := by
      apply Value.Portable.tuple
      simp only [List.forall_mem_cons]
      exact ⟨.int 1, .absent, List.forall_mem_nil _⟩
    have more : (Value.mapping (Context.ofNamed [("open", .bool true)])).Portable := by
      apply Value.Portable.mapping
      · exact List.nodup_singleton _
      · exact List.forall_mem_singleton.mpr (.bool true)
    rw [entries]
    simp only [List.forall_mem_cons]
    exact ⟨.text _, parts, more, List.forall_mem_nil _⟩
  have apart : ∀ entry ∈ paymentRecord.contextEntries,
      entry.1 ∉ ["level", "logger", "message", "timestamp", "exception"] := by
    rw [entries]
    simp
  have filled : paymentRecord.text = .ok "paid -7" := by
    apply Except.toOption_eq_some_iff.mp
    decide +kernel
  have timed : timestamp paymentRecord.created = .ok "2023-11-14T22:13:20Z" := by
    apply Except.toOption_eq_some_iff.mp
    decide +kernel
  have reported : paymentRecord.reportText = .ok (some "ValueError: late") := rfl
  obtain ⟨text, written, read⟩ := @read_line paymentRecord true "service" "paid -7"
    "2023-11-14T22:13:20Z" _ rfl (.text _) filled (fun _ => timed) reported distinct apart portable
  exact ⟨text, written, read⟩

end Line

end LogGate

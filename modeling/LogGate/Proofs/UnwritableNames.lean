import LogGate.Proofs.EqualTables
import LogGate.Proofs.LineReading
import LogGate.Proofs.RuleFailures

/-!
Lines that cannot be written. A line fails exactly when some mapping in its context, at whatever depth, has a
name that is neither a text nor a number, a truth value or nothing. All other values can be written.
-/

namespace LogGate

namespace Fields

variable {κ ν : Type} [BEq κ] [LawfulBEq κ]

/-- Of entries with distinct names each one is found after they are put. -/
theorem get?_putAll_of_mem {added : List (κ × ν)} (distinct : Distinct added) (fields : Fields κ ν)
    {entry : κ × ν} (member : entry ∈ added) :
    (fields.putAll added).get? entry.1 = some entry.2 := by
  have reversed : Distinct added.reverse := by
    rw [Distinct, List.map_reverse, List.nodup_reverse]
    exact distinct
  have last := (get?_eq_some_iff reversed).mpr (List.mem_reverse.mpr member)
  rw [get?_putAll, last, Option.some_or]

end Fields

namespace Value

def isMemberName : Value → Bool
  | text _ => true
  | absent => true
  | bool _ => true
  | int _ => true
  | float _ => true
  | _ => false

/-- The values that are written inside of a value. A pair is written as one text, without parts. -/
def parts : Value → List Value
  | list items => items
  | tuple items => items
  | mapping entries => entries.map (·.2)
  | _ => []

/-- A value stands in another one, at any depth. -/
inductive Within : Value → Value → Prop
  | self (value : Value) : Within value value
  | part {inner middle outer : Value} (deeper : Within inner middle) (member : middle ∈ outer.parts) :
      Within inner outer

/-- Some mapping in the value has a name that cannot be the name of a member. -/
def Misnamed (value : Value) : Prop :=
  ∃ entries, Within (.mapping entries) value ∧ ∃ entry ∈ entries, entry.1.isMemberName = false

/-- The name is one of the value itself, if this is a mapping, or one in its parts. -/
theorem misnamed_iff {value : Value} : value.Misnamed ↔
    (∃ entries, value = .mapping entries ∧ ∃ entry ∈ entries, entry.1.isMemberName = false) ∨
      ∃ item ∈ value.parts, item.Misnamed := by
  constructor
  · rintro ⟨entries, inside, wrong⟩
    cases inside with
    | self => exact .inl ⟨entries, rfl, wrong⟩
    | part deeper member => exact .inr ⟨_, member, entries, deeper, wrong⟩
  · rintro (⟨entries, rfl, wrong⟩ | ⟨item, member, entries, deeper, wrong⟩)
    · exact ⟨entries, .self _, wrong⟩
    · exact ⟨entries, .part deeper member, wrong⟩

/-- A list is misnamed in its items. -/
theorem misnamed_list_iff {items : List Value} :
    (list items).Misnamed ↔ ∃ item ∈ items, item.Misnamed := by
  rw [misnamed_iff]
  simp [parts]

/-- A tuple is misnamed in its items. -/
theorem misnamed_tuple_iff {items : List Value} :
    (tuple items).Misnamed ↔ ∃ item ∈ items, item.Misnamed := by
  rw [misnamed_iff]
  simp [parts]

/-- A mapping is misnamed in its names or in its items. -/
theorem misnamed_mapping_iff {entries : List (Value × Value)} :
    (mapping entries).Misnamed ↔
      ∃ entry ∈ entries, entry.1.isMemberName = false ∨ entry.2.Misnamed := by
  rw [misnamed_iff]
  simp only [parts, mapping.injEq, exists_eq_left', List.mem_map, exists_exists_and_eq_and,
    and_or_left, exists_or]

/-- A value without parts is no mapping with names. -/
theorem not_misnamed {value : Value} (whole : value.parts = []) : ¬value.Misnamed := by
  rw [misnamed_iff, whole]
  rintro (⟨entries, rfl, entry, member, -⟩ | ⟨item, member, -⟩)
  · rw [List.map_eq_nil_iff.mp whole] at member
    contradiction
  · contradiction

end Value

namespace Json

/-- The result is there unless the cause is given, and for the cause it fails by a name that cannot be
written. -/
def FailsIff {α : Type} (result : Except Failure α) (cause : Prop) : Prop :=
  ∀ failure, result = .error failure ↔ failure = .unwritableName ∧ cause

namespace FailsIff

variable {α β : Type} {result : Except Failure α} {cause other : Prop}

theorem ok {content : α} (never : ¬cause) : FailsIff (.ok content) cause := by
  intro failure
  simp [never]

theorem error (given : cause) : FailsIff (.error .unwritableName : Except Failure α) cause := by
  intro failure
  simp [given, eq_comm]

/-- What does not fail gives a result. -/
theorem exists_ok_iff (fails : FailsIff result cause) :
    (∃ content, result = .ok content) ↔ ¬cause := by
  cases result with
  | ok content =>
      refine ⟨fun _ given => ?_, fun _ => ⟨content, rfl⟩⟩
      exact nomatch (fails .unwritableName).mpr ⟨rfl, given⟩
  | error failure => simp [((fails failure).mp rfl).2]

theorem congr (fails : FailsIff result cause) (same : cause ↔ other) : FailsIff result other := by
  intro failure
  rw [fails failure, same]

/-- A change of the result changes no failure. -/
theorem map (fails : FailsIff result cause) (change : α → β) :
    FailsIff (result.map change) cause := by
  intro failure
  rw [Except.map_eq_error_iff]
  exact fails failure

/-- Of two results the second one is asked for if the first one is there. -/
theorem bind (fails : FailsIff result cause) {next : α → Except Failure β}
    (following : ∀ content, FailsIff (next content) other) :
    FailsIff (result.bind next) (cause ∨ other) := by
  cases made : result with
  | ok content =>
      have free : ¬cause := fails.exists_ok_iff.mp ⟨content, made⟩
      exact (following content).congr (by simp [free])
  | error earlier =>
      obtain ⟨rfl, given⟩ := (fails earlier).mp made
      exact FailsIff.error (.inl given)

end FailsIff

theorem fails_memberName (name : Value) :
    FailsIff (memberName name) (name.isMemberName = false) := by
  cases name with
  | text | absent | bool | int | float => exact .ok (by simp [Value.isMemberName])
  | list | tuple | mapping | bytes | level | verdict | pair => exact .error rfl

mutual

/-- Writing a value fails exactly when a name in it cannot be written. -/
theorem fails_value (given : Value) : FailsIff (value given) given.Misnamed := by
  cases given with
  | list items => exact ((fails_values items).map array).congr Value.misnamed_list_iff.symm
  | tuple items => exact ((fails_values items).map array).congr Value.misnamed_tuple_iff.symm
  | mapping entries => exact ((fails_members entries).map object).congr Value.misnamed_mapping_iff.symm
  | absent | bool | int | float | text | bytes | level | verdict | pair =>
      exact .ok (Value.not_misnamed rfl)

theorem fails_values (items : List Value) :
    FailsIff (values items) (∃ item ∈ items, item.Misnamed) := by
  cases items with
  | nil => exact .ok (by simp)
  | cons item rest =>
      have together := (fails_value item).bind fun shown =>
        (fails_values rest).map fun others => shown :: others
      exact together.congr (by simp)

theorem fails_members (entries : List (Value × Value)) :
    FailsIff (members entries)
      (∃ entry ∈ entries, entry.1.isMemberName = false ∨ entry.2.Misnamed) := by
  cases entries with
  | nil => exact .ok (by simp)
  | cons entry rest =>
      have together := (fails_memberName entry.1).bind fun name =>
        (fails_value entry.2).bind fun shown =>
          (fails_members rest).map fun others => (name, shown) :: others
      exact together.congr (by simp [or_assoc])

end

end Json

namespace Line

section Members

variable {record : Record} {withTime : Bool} {message time : String} {all : Fields String Value}

/-- The first members of a line are texts. -/
theorem text_of_mem_startMembers {name levelName : String} (named : record.name = .text name)
    (leveled : record.levelName = .text levelName) {entry : String × Value}
    (own : entry ∈ startMembers record withTime message time) :
    ∃ content, entry.2 = .text content := by
  rw [startMembers, named, leveled, List.mem_append] at own
  rcases own with event | clock
  · simp only [List.mem_cons, List.not_mem_nil, or_false] at event
    rcases event with rfl | rfl | rfl
    all_goals exact ⟨_, rfl⟩
  · cases withTime with
    | true => exact ⟨time, by rw [List.mem_singleton.mp clock]⟩
    | false => contradiction

/-- The values in a line are texts of the record itself and the values of its context. -/
theorem text_or_mem_of_mem_members {name levelName : String} (named : record.name = .text name)
    (leveled : record.levelName = .text levelName) (filled : record.text = .ok message)
    (timed : withTime = true → timestamp record.created = .ok time)
    (made : members record withTime = .ok all) {entry : String × Value} (member : entry ∈ all) :
    (∃ content, entry.2 = .text content) ∨ entry ∈ record.contextEntries := by
  obtain ⟨own, start, others⟩ := Except.bind_eq_ok_iff.mp made
  obtain ⟨report, -, rfl⟩ := Except.map_eq_ok_iff.mp others
  rw [ownMembers_eq_startMembers filled timed, Except.ok.injEq] at start
  have together (inside : entry ∈ own.putAll record.contextEntries) :
      (∃ content, entry.2 = .text content) ∨ entry ∈ record.contextEntries := by
    apply (Fields.mem_of_mem_putAll inside).imp_left
    rw [← start]
    exact text_of_mem_startMembers named leveled
  cases report with
  | none => exact together member
  | some text =>
      rcases Fields.eq_of_mem_put member with inside | rfl
      · exact together inside
      · exact .inl ⟨text, rfl⟩

/-- Each entry of the context is found in the line, unless the error report has its name. -/
theorem get?_members (distinct : record.attributes.Distinct)
    (made : members record withTime = .ok all) {entry : String × Value}
    (member : entry ∈ record.contextEntries) (apart : entry.1 ≠ "exception") :
    all.get? entry.1 = some entry.2 := by
  obtain ⟨own, -, others⟩ := Except.bind_eq_ok_iff.mp made
  obtain ⟨report, -, rfl⟩ := Except.map_eq_ok_iff.mp others
  have found := Fields.get?_putAll_of_mem (Record.distinct_contextEntries distinct) own member
  cases report with
  | none => exact found
  | some text =>
      have different : ("exception" == entry.1) = false := beq_eq_false_iff_ne.mpr apart.symm
      exact (Fields.get?_put_of_ne _ _ different).trans found

/-- Of the values in a line only those of the context can have a name that cannot be written. -/
theorem misnamed_members_iff {name levelName : String} (named : record.name = .text name)
    (leveled : record.levelName = .text levelName) (filled : record.text = .ok message)
    (timed : withTime = true → timestamp record.created = .ok time)
    (distinct : record.attributes.Distinct)
    (apart : ∀ entry ∈ record.contextEntries, entry.1 ≠ "exception")
    (made : members record withTime = .ok all) :
    (Value.mapping (Context.ofNamed all)).Misnamed ↔
      ∃ entry ∈ record.contextEntries, entry.2.Misnamed := by
  rw [Value.misnamed_mapping_iff]
  constructor
  · rintro ⟨written, inside, wrong⟩
    obtain ⟨entry, member, rfl⟩ := List.mem_map.mp inside
    -- The names of the line itself are texts.
    have misnamed : entry.2.Misnamed := wrong.resolve_left nofun
    rcases text_or_mem_of_mem_members named leveled filled timed made member with
      ⟨content, text⟩ | context
    · rw [text] at misnamed
      exact absurd misnamed (Value.not_misnamed rfl)
    · exact ⟨entry, context, misnamed⟩
  · rintro ⟨entry, member, misnamed⟩
    have held := Fields.mem_of_get? (get?_members distinct made member (apart entry member))
    exact ⟨(.text entry.1, entry.2), List.mem_map.mpr ⟨entry, held, rfl⟩, .inr misnamed⟩

end Members

/-- A record whose own parts can be written gives a line unless some value of its context has a name that
cannot be written, and for such a name alone it fails. In its line every value of the context stands under
its name, of whatever kind it is. -/
theorem written_unless_misnamed {record : Record} {withTime : Bool}
    {name levelName message time : String} {report : Option String} (named : record.name = .text name)
    (leveled : record.levelName = .text levelName) (filled : record.text = .ok message)
    (reported : record.reportText = .ok report)
    (timed : withTime = true → timestamp record.created = .ok time)
    (distinct : record.attributes.Distinct)
    (apart : ∀ entry ∈ record.contextEntries, entry.1 ≠ "exception") :
    (∀ failure, ofRecord record withTime = .error failure ↔
      failure = .unwritableName ∧ ∃ entry ∈ record.contextEntries, entry.2.Misnamed) ∧
    ((∃ text, ofRecord record withTime = .ok text) ↔
      ∀ entry ∈ record.contextEntries, ¬entry.2.Misnamed) ∧
    ∀ text, ofRecord record withTime = .ok text →
      ∃ members : Fields String String, text = Json.object members ∧
        ∀ entry ∈ record.contextEntries, ∃ shown,
          members.get? entry.1 = some shown ∧ Json.value entry.2 = .ok shown := by
  obtain ⟨all, made⟩ : ∃ all, members record withTime = .ok all := by
    rw [members, ownMembers_eq_startMembers filled timed, reported]
    exact ⟨_, rfl⟩
  have line : ofRecord record withTime = Json.value (.mapping (Context.ofNamed all)) := by
    rw [ofRecord, made]
    rfl
  have fails := (Json.fails_value (.mapping (Context.ofNamed all))).congr
    (misnamed_members_iff named leveled filled timed distinct apart made)
  rw [← line] at fails
  refine ⟨fails, ?_, ?_⟩
  · rw [fails.exists_ok_iff]
    simp
  · intro text written
    rw [line, Json.value] at written
    obtain ⟨shown, listed, rfl⟩ := Except.map_eq_ok_iff.mp written
    obtain ⟨-, items⟩ := Json.members_ofNamed listed
    refine ⟨shown, rfl, fun entry member => ?_⟩
    obtain ⟨content, wrote, held⟩ :=
      items entry.1 entry.2 (get?_members distinct made member (apart entry member))
    exact ⟨content, held, wrote⟩

/-- A report of the routes of a service, in some value of its context. -/
def routesRecord (routes : Value) : Record where
  name := .text "service"
  level := .int 20
  levelName := .text "INFO"
  message := .text "routes"
  arguments := .tuple []
  report := some (.raised .runtime [])
  created := .int 1700000000
  attributes := [("ctx_user", .text "bob"), ("ctx_routes", routes)]

theorem contextEntries_routesRecord (routes : Value) :
    (routesRecord routes).contextEntries = [("user", .text "bob"), ("routes", routes)] := by
  have user : Record.contextName? "ctx_user" = some "user" := rfl
  have other : Record.contextName? "ctx_routes" = some "routes" := rfl
  simp [Record.contextEntries, routesRecord, user, other]

/-- A name that is a tuple spoils the line inside of lists and tuples, but not in a pair. -/
theorem written_unless_misnamed_on_routes :
    let byTarget := Value.mapping [(.text "open", .bool true), (.tuple [.int 1, .int 2], .absent)]
    ofRecord (routesRecord (.list [.int 1, .tuple [byTarget]])) true = .error .unwritableName ∧
    ∃ text, ofRecord (routesRecord (.list [.int 1, .pair (.text "all") byTarget])) true =
      .ok text := by
  intro byTarget
  have timed : timestamp (.int 1700000000) = .ok "2023-11-14T22:13:20Z" := by
    apply Except.toOption_eq_some_iff.mp
    decide +kernel
  have whole (routes : Value) := @written_unless_misnamed (routesRecord routes) true "service" "INFO"
    "routes" "2023-11-14T22:13:20Z" (some "RuntimeError") rfl rfl rfl rfl (fun _ => timed)
    (by simp [routesRecord, Fields.Distinct]) (by simp [contextEntries_routesRecord])
  constructor
  · apply ((whole _).1 _).mpr
    have wrong : byTarget.Misnamed := by
      refine ⟨_, .self _, (.tuple [.int 1, .int 2], .absent), ?_, rfl⟩
      simp
    have nested : (Value.list [.int 1, .tuple [byTarget]]).Misnamed := by
      simp [Value.misnamed_list_iff, Value.misnamed_tuple_iff, wrong]
    simp [contextEntries_routesRecord, nested]
  · apply (whole _).2.1.mpr
    have user : ¬(Value.text "bob").Misnamed := Value.not_misnamed rfl
    have number : ¬(Value.int 1).Misnamed := Value.not_misnamed rfl
    have closed : ¬(Value.pair (.text "all") byTarget).Misnamed := Value.not_misnamed rfl
    simp [contextEntries_routesRecord, Value.misnamed_list_iff, user, number, closed]

end Line

end LogGate

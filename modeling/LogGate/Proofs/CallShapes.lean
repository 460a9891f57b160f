import LogGate.Step.Effect
import LogGate.Proofs.Action
import LogGate.Proofs.Grades
import LogGate.Proofs.Snapshot

/-!
One judgement for all call shapes. A filter judges an event by its rank and by one context, whether
the event comes as a level, as a level number, as a call or as a record.
-/

namespace LogGate

/-- The entries that a provider supplies: a context, a mapping, or nothing at all. -/
def Provider.supplied? (session : Session) (context : Context) : Provider → Option Context
  | ambient => some context
  | source number _ =>
    match (session.source number).data with
    | .mapping entries => some entries
    | .absent => some []
    | _ => none
  | silent => some []

namespace Record

/-- The attributes of a record that carry the mark of the context. -/
def marked (record : Record) : Fields String Value :=
  record.attributes.filter fun entry => contextMark.toList.isPrefixOf entry.1.toList

/-- The context of a record is what its marked attributes hold, without the mark. -/
theorem contextEntries_of_marked {record : Record} {fields : Fields String Value}
    (carried : record.marked = fields.map fun entry => (contextMark ++ entry.1, entry.2)) :
    record.contextEntries = fields := by
  have passed : record.contextEntries = record.marked.filterMap fun entry =>
      (contextName? entry.1).map fun name => (name, entry.2) := by
    rw [contextEntries, marked, List.filterMap_filter]
    apply List.filterMap_congr
    intro entry _
    by_cases inside : contextMark.toList.isPrefixOf entry.1.toList
    · rw [if_pos inside]
    · rw [if_neg inside, contextName?, if_neg inside]
      rfl
  rw [passed, carried, List.filterMap_map]
  simp

end Record

/-- Only the rank of a level counts. -/
theorem LevelOrder.passes_congr (order : LevelOrder) {first second : Level}
    (same : first.rank = second.rank) (threshold : Level) :
    order.passes first threshold = order.passes second threshold := by
  cases order <;> simp [passes, same]

/-- Levels of one rank get the same outcome. -/
theorem Rule.outcome_congr (rule : Rule) (order : LevelOrder) {first second : Level}
    (same : first.rank = second.rank) (snapshot : Snapshot) :
    rule.outcome order first snapshot = rule.outcome order second snapshot := by
  unfold outcome outcomeBy
  cases snapshot.get? rule.key with
  | none => rfl
  | some value => simp only [order.passes_congr same]

namespace Act

variable {session : Session} {context : Context} {filter : Filter}

/-- A name that a filter has is found in the session. -/
theorem exec_filter {name : String} {own : Nat}
    (named : session.objects.get? name = some (.filter own filter)) :
    (Act.filter name).exec session = (.ok filter, session) := by
  simp [Act.filter, object, exec_bind, named]

/-- Arguments that can be read are read without an effect. -/
theorem exec_readAll_of_readable {arguments : List Literal}
    (readable : ∀ literal ∈ arguments, ∃ value, literal.read session.registry = .ok value) :
    ∃ values, (readAll arguments).exec session = (.ok values, session) := by
  rw [exec_readAll]
  induction arguments with
  | nil => exact ⟨[], rfl⟩
  | cons literal rest ih =>
      obtain ⟨value, first⟩ := readable literal List.mem_cons_self
      obtain ⟨values, others⟩ := ih fun other member =>
        readable other (List.mem_cons_of_mem _ member)
      rw [Prod.mk.injEq] at others
      refine ⟨value :: values, ?_⟩
      rw [Literal.readItems, first, Except.bind, others.1]
      rfl

theorem exec_eventRank (session : Session) (level : Value) :
    (eventRank level).exec session = (session.registry.rankOf level, session) := rfl

/-- A level, and a whole number, have the rank that they show in every registry that can be reached. -/
theorem exec_eventRank_of_rank? (reached : session.registry.Reachable) {level : Value} {rank : Int}
    (ranked : level.rank? = some rank) :
    (eventRank level).exec session = (.ok (.int rank), session) := by
  rw [exec_eventRank, Registry.rankOf_of_rank? reached ranked]

/-- The current snapshot holds what the provider supplies. -/
theorem exec_currentSnapshot {entries : Context}
    (supplied : filter.provider.supplied? session context = some entries) :
    ∃ later, (currentSnapshot context filter).exec session =
      (.ok (Snapshot.ofEntries entries), later) ∧ later.registry = session.registry := by
  cases provided : filter.provider with
  | ambient =>
      simp only [provided, Provider.supplied?, Option.some.injEq] at supplied
      exact ⟨session, by simp [currentSnapshot, ask, provided, supplied], rfl⟩
  | silent =>
      simp only [provided, Provider.supplied?, Option.some.injEq] at supplied
      rw [← supplied]
      exact ⟨session, by simp [currentSnapshot, ask, provided]; rfl, rfl⟩
  | source number label =>
      simp only [provided, Provider.supplied?] at supplied
      have given : Snapshot.ofValue (session.source number).data =
          .ok (Snapshot.ofEntries entries) := by
        split at supplied
        · next data held => simp_all [Snapshot.ofValue, Value.entriesOrNone, Except.map]
        · next held =>
          rw [Option.some.injEq] at supplied
          rw [held, ← supplied]
          rfl
        · contradiction
      let asked : Source := { session.source number with
        calls := (session.source number).calls + 1 }
      exact ⟨{ session with sources := session.sources.set number asked },
        by simp [currentSnapshot, exec_bind, ask, askSource, provided, given, asked],
        rfl⟩

/-- An event is judged by what the provider gives. -/
theorem exec_eventOutcome (reached : session.registry.Reachable) {entries : Context}
    (supplied : filter.provider.supplied? session context = some entries) {value : Value}
    (level : Level) (ranked : value.rank? = some level.rank) :
    ((eventOutcome context filter value).exec session).1 =
      .ok (filter.evaluate level (Snapshot.ofEntries entries)) := by
  obtain ⟨later, current, -⟩ := exec_currentSnapshot supplied
  rw [eventOutcome, exec_bind_ok (exec_eventRank_of_rank? reached ranked), exec_bind_ok current,
    exec_attempt, filter.judge_int]

/-- A record without a context of its own is judged like an event without a record. -/
theorem exec_recordOutcome_unmarked (reached : session.registry.Reachable) {entries : Context}
    (supplied : filter.provider.supplied? session context = some entries) {record : Record}
    (unmarked : record.contextEntries = []) (level : Level)
    (ranked : record.level.rank? = some level.rank) :
    ((recordOutcome context filter record).exec session).1 =
      .ok (filter.evaluate level (Snapshot.ofEntries entries)) := by
  obtain ⟨later, current, kept⟩ := exec_currentSnapshot supplied
  have taken : (recordSnapshot context filter record).exec session =
      (.ok (Snapshot.ofEntries entries), later) := by
    rw [recordSnapshot, Record.snapshot?_of_unmarked unmarked]
    exact current
  rw [← kept] at reached
  rw [recordOutcome, exec_bind_ok taken, exec_bind_ok (exec_eventRank_of_rank? reached ranked), exec_attempt,
    filter.judge_int]

/-- A record with a context of its own is judged by it, and no provider is asked. -/
theorem exec_recordOutcome_marked (reached : session.registry.Reachable) {record : Record}
    {snapshot : Snapshot} (carried : record.snapshot? = some snapshot) (level : Level)
    (ranked : record.level.rank? = some level.rank) :
    (recordOutcome context filter record).exec session =
      (.ok (filter.evaluate level snapshot), session) := by
  have taken : (recordSnapshot context filter record).exec session = (.ok snapshot, session) := by
    rw [recordSnapshot, carried, exec_pure]
  rw [recordOutcome, exec_bind_ok taken, exec_bind_ok (exec_eventRank_of_rank? reached ranked), exec_attempt,
    filter.judge_int]

end Act

/-- What an operation answers in a session. -/
def Operation.answer (operation : Operation) (context : Context) (session : Session) :
    Except Failure Answer :=
  ((operation.perform context).exec session).1

section Operations

variable {session : Session} {context : Context} {name : String} {own : Nat} {filter : Filter}

open Act

/-- An event of a level is answered by its outcome. -/
theorem answer_judgeLevel (named : session.objects.get? name = some (.filter own filter))
    {literal : Literal} {value : Value} (given : literal.read session.registry = .ok value) :
    (Operation.judgeLevel name literal).answer context session =
      ((eventOutcome context filter value).exec session).1.map .value := by
  have read := (exec_read literal session).trans (by rw [given])
  rw [Operation.answer, Operation.perform, exec_bind_ok (exec_filter named), exec_bind_ok read,
    ← map_eq_pure_bind, exec_map]

/-- The arguments of a call and its marker play no part in the outcome. -/
theorem answer_judgeCall (named : session.objects.get? name = some (.filter own filter))
    {literal marker : Literal} {value mark : Value} {arguments : List Literal}
    (given : literal.read session.registry = .ok value)
    (readable : ∀ argument ∈ arguments, ∃ value, argument.read session.registry = .ok value)
    (marked : marker.read session.registry = .ok mark) :
    (Operation.judgeCall name literal arguments marker).answer context session =
      ((eventOutcome context filter value).exec session).1.map .value := by
  have read := (exec_read literal session).trans (by rw [given])
  have readMarker := (exec_read marker session).trans (by rw [marked])
  obtain ⟨values, readArguments⟩ := exec_readAll_of_readable readable
  rw [Operation.answer, Operation.perform, exec_bind_ok (exec_filter named), exec_bind_ok read,
    exec_bind_ok readArguments, exec_bind_ok readMarker, ← map_eq_pure_bind, exec_map]

/-- A record is answered by its outcome. -/
theorem answer_judgeRecord (named : session.objects.get? name = some (.filter own filter))
    {form : RecordForm} {record : Record}
    (made : (readRecord form).exec session = (.ok record, session)) :
    (Operation.judgeRecord name form).answer context session =
      ((recordOutcome context filter record).exec session).1.map .value := by
  rw [Operation.answer, Operation.perform, exec_bind_ok (exec_filter named), exec_bind_ok made,
    ← map_eq_pure_bind, exec_map]

/-- A snapshot of any form is judged by its entries. -/
theorem answer_evaluate_of_taken (named : session.objects.get? name = some (.filter own filter))
    {literal : Literal} {form : SnapshotForm} {level : Level} {snapshot : Snapshot}
    (given : literal.read session.registry = .ok (.level level))
    (taken : (snapshotOf form).exec session = (.ok snapshot, session)) :
    (Operation.evaluate name literal form).answer context session =
      .ok (.value (filter.evaluate level snapshot)) := by
  have read := (exec_read literal session).trans (by rw [given])
  rw [Operation.answer, Operation.perform, exec_bind_ok (exec_filter named), exec_bind_ok read,
    exec_bind_ok taken]
  rfl

/-- Entries that are given in place of a snapshot are judged like a snapshot of them. -/
theorem answer_evaluate (named : session.objects.get? name = some (.filter own filter))
    {literal data : Literal} {level : Level} {entries : Context} {value : Value}
    (given : literal.read session.registry = .ok (.level level))
    (supplied : data.read session.registry = .ok value)
    (held : value.entriesOrNone = .ok entries) :
    (Operation.evaluate name literal (.data data)).answer context session =
      .ok (.value (filter.evaluate level (Snapshot.ofEntries entries))) := by
  have taken : (snapshotOf (.data data)).exec session =
      (.ok (Snapshot.ofEntries entries), session) := by
    rw [snapshotOf, exec_bind_ok ((exec_read data session).trans (by rw [supplied])),
      exec_attempt, Snapshot.ofValue, held]
    rfl
  exact answer_evaluate_of_taken named given taken

end Operations

/-- Evaluating a level and a snapshot decides every way in which an event of this rank can be
judged: without a record and with a record that has no context it is the snapshot of what the
provider supplies, and otherwise it is that of the record's own context, whatever the provider. -/
theorem judgements_agree {session : Session} (reached : session.registry.Reachable)
    (context : Context) {name : String} {own : Nat} {filter : Filter}
    (named : session.objects.get? name = some (.filter own filter)) (level : Level) :
    (∀ entries, filter.provider.supplied? session context = some entries →
      let outcome := filter.evaluate level (Snapshot.ofEntries entries)
      (∀ literal data value, literal.read session.registry = .ok (.level level) →
        data.read session.registry = .ok value → value.entriesOrNone = .ok entries →
        (Operation.evaluate name literal (.data data)).answer context session =
          .ok (.value outcome)) ∧
      (∀ literal value, literal.read session.registry = .ok value →
        value.rank? = some level.rank →
        (Operation.judgeLevel name literal).answer context session = .ok (.value outcome) ∧
        ∀ arguments marker mark,
          (∀ argument ∈ arguments, ∃ value, argument.read session.registry = .ok value) →
          marker.read session.registry = .ok mark →
          (Operation.judgeCall name literal arguments marker).answer context session =
            .ok (.value outcome)) ∧
      ∀ record : Record, record.level.rank? = some level.rank → record.marked = [] →
        ((Act.recordOutcome context filter record).exec session).1 = .ok outcome ∧
        ∀ form, (Act.readRecord form).exec session = (.ok record, session) →
          (Operation.judgeRecord name form).answer context session = .ok (.value outcome)) ∧
    ∀ (record : Record) (fields : Fields String Value), record.level.rank? = some level.rank →
      fields ≠ [] → record.marked = fields.map (fun entry => (Record.contextMark ++ entry.1, entry.2)) →
      let outcome := filter.evaluate level (Snapshot.ofEntries (Context.ofNamed fields))
      ((Act.recordOutcome context filter record).exec session).1 = .ok outcome ∧
      ∀ form, (Act.readRecord form).exec session = (.ok record, session) →
        (Operation.judgeRecord name form).answer context session = .ok (.value outcome) := by
  constructor
  · intro entries supplied
    refine ⟨?_, ?_, ?_⟩
    · intro literal data value given held taken
      exact answer_evaluate named given held taken
    · intro literal value given ranked
      have judged := Act.exec_eventOutcome reached supplied level ranked
      constructor
      · rw [answer_judgeLevel named given, judged]
        rfl
      · intro arguments marker mark readable marked
        rw [answer_judgeCall named given readable marked, judged]
        rfl
    · intro record ranked unmarked
      have bare : record.contextEntries = [] := Record.contextEntries_of_marked unmarked
      have judged := Act.exec_recordOutcome_unmarked reached supplied bare level ranked
      refine ⟨judged, ?_⟩
      intro form made
      rw [answer_judgeRecord named made, judged]
      rfl
  · intro record fields ranked filled carried
    have taken :=
      Record.snapshot?_of_contextEntries (Record.contextEntries_of_marked carried) filled
    have judged : (Act.recordOutcome context filter record).exec session =
        (.ok (filter.evaluate level (Snapshot.ofEntries (Context.ofNamed fields))), session) :=
      Act.exec_recordOutcome_marked reached taken level ranked
    refine ⟨by rw [judged], ?_⟩
    intro form made
    rw [answer_judgeRecord named made, judged]
    rfl

/-- A filter that lets exactly its thresholds pass, over a source that names one tenant. An event of
rank 30 has three shapes without a context, and one shape with a context of its own. -/
theorem judgements_agree_on_source :
    let rule : Rule := ⟨"tenant", ⟨[(.text "acme", ⟨"WARN", 30, true⟩)], .error⟩,
      .verdict .accept, .verdict .deny⟩
    let session := { Session.initial with
      objects := [("filter", .filter 0 ⟨rule, .exact, .source 0 (.text "custom")⟩)]
      sources := [⟨.mapping [(.text "tenant", .text "acme")], 0⟩] }
    let record : Record := ⟨.text "service", .int 30, .text "WARNING", .text "message", .tuple [],
      none, .int 0, []⟩
    let tagged := { record with
      attributes := [("ctx_tenant", .text "globex"), ("ctx_user", .absent)] }
    let filter : Filter := ⟨rule, .exact, .source 0 (.text "custom")⟩
    (Operation.evaluate "filter" (.level "LOUD" 30)
      (.data (.mapping [(.text "tenant", .text "acme")]))).answer [] session =
        .ok (.value (.verdict .accept)) ∧
    (Operation.judgeLevel "filter" (.int 30)).answer [] session = .ok (.value (.verdict .accept)) ∧
    (Operation.judgeCall "filter" (.level "LOUD" 30) [.int 1] .absent).answer [] session =
      .ok (.value (.verdict .accept)) ∧
    ((Act.recordOutcome [] filter record).exec session).1 = .ok (.verdict .accept) ∧
    ((Act.recordOutcome [] filter tagged).exec session).1 = .ok (.verdict .deny) := by
  intro rule session record tagged filter
  have reached : session.registry.Reachable := .standard
  have named : session.objects.get? "filter" = some (.filter 0 filter) := rfl
  have supplied : filter.provider.supplied? session [] =
    some [(.text "tenant", .text "acme")] := rfl
  obtain ⟨shared, own⟩ := judgements_agree reached [] named ⟨"LOUD", 30, false⟩
  obtain ⟨evaluated, judged, recorded⟩ := shared _ supplied
  refine ⟨evaluated (.level "LOUD" 30) (.mapping [(.text "tenant", .text "acme")]) _ rfl rfl rfl,
    (judged (.int 30) (.int 30) rfl rfl).1, ?_, (recorded record rfl rfl).1, ?_⟩
  · apply (judged (.level "LOUD" 30) (.level ⟨"LOUD", 30, false⟩) rfl rfl).2
      [.int 1] .absent .absent
    · intro argument member
      rw [List.mem_singleton] at member
      exact ⟨.int 1, by rw [member]; rfl⟩
    · rfl
  · exact (own tagged [("tenant", .text "globex"), ("user", .absent)] rfl (by simp) rfl).1

end LogGate

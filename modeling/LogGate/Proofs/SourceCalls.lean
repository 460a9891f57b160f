import LogGate.Proofs.Calls
import LogGate.Proofs.Touch

/-!
How often sources are asked. A source counts one call for each event that is judged by what its provider
gives, and for each snapshot that is taken of it, and nothing else.
-/

namespace LogGate

variable {α β : Type}

/-- The provider that is asked for an event without a record. A level that cannot be looked up, or cannot
be named, fails before. -/
def Filter.askedAt? (filter : Filter) (level : Value) : Option Provider :=
  if level.isHashable && level.isNameable then some filter.provider else none

/-- The provider that is asked for a record: only one without a context of its own needs a snapshot. -/
def Filter.askedFor? (filter : Filter) (record : Record) : Option Provider :=
  if record.marked.isEmpty then some filter.provider else none

/-- The provider that an operation asks, if it comes to that. The parts of the operation have to be there
first, and the name of an adapter has to let the record pass. -/
def Operation.asked? (session : Session) : Operation → Option Provider
  | .askProvider _ name => session.result? (Act.provider name)
  | .filterSnapshot name => do
    let filter ← session.result? (Act.filter name)
    some filter.provider
  | .judgeLevel name level => do
    let filter ← session.result? (Act.filter name)
    let level ← session.result? (Act.read level)
    filter.askedAt? level
  | .judgeCall name level arguments marker => do
    let filter ← session.result? (Act.filter name)
    let level ← session.result? (Act.read level)
    let _ ← session.result? (Act.readAll arguments)
    let _ ← session.result? (Act.read marker)
    filter.askedAt? level
  | .judgeRecord name form => do
    let filter ← session.result? (Act.filter name)
    let record ← session.result? (Act.readRecord form)
    filter.askedFor? record
  | .adapt name adapterName form => do
    let filter ← session.result? (Act.filter name)
    let adapterName ← session.result? (Act.readOption adapterName)
    let record ← session.result? (Act.readRecord form)
    let passes ← (Act.passesName (adapterName.getD (.text "")) record.name).toOption
    if passes then filter.askedFor? record else none
  | _ => none

/-- A provider of snapshots of a source asks it for its data. -/
def Provider.draws (number : Nat) : Provider → Bool
  | source other _ => other == number
  | ambient | silent => false

/-- An operation asks a source when it asks a provider of its snapshots. -/
def Operation.asks (session : Session) (number : Nat) (operation : Operation) : Bool :=
  (operation.asked? session).any (·.draws number)

/-- Changing one source changes no other one. -/
theorem Session.source_set {session : Session} {number : Nat} (known : number < session.sources.length)
    (other : Nat) (changed : Source) :
    Session.source { session with sources := session.sources.set other changed } number =
      if other = number then changed else session.source number := by
  by_cases same : other = number
  · rw [if_pos same, same, source, List.getElem?_set_self known, Option.getD_some]
  · rw [if_neg same, source, List.getElem?_set_ne same, source]

namespace Act

/-- In this session, an action asks the given provider once and no other one. -/
def Asks (session : Session) (asked : Option Provider) (act : Act α) : Prop :=
  ∀ number, number < session.sources.length → number < (act.exec session).2.sources.length ∧
    ((act.exec session).2.source number).calls =
      (session.source number).calls + if asked.any (·.draws number) then 1 else 0

/-- An action that leaves all sources as they are asks none. -/
theorem asks_none {act : Act α} {session : Session}
    (same : (act.exec session).2.sources = session.sources) : act.Asks session none := by
  intro number known
  rw [Session.source, same]
  exact ⟨known, rfl⟩

/-- An action that may not touch sources asks none. -/
theorem Within.asks_none {act : Act α} (within : act.Within (Touch.Allows {})) (session : Session) :
    act.Asks session none := Act.asks_none ((within session).sources rfl)

/-- What is read first decides what is asked. -/
theorem Within.asks_bind {act : Act α} {next : α → Act β} (reads : act.Within Eq) {session : Session}
    {asked : α → Option Provider} (second : ∀ value, (next value).Asks session (asked value)) :
    (act >>= next).Asks session ((session.result? act).bind asked) := by
  have still := reads session
  rw [Asks, exec_bind, Session.result?]
  generalize act.exec session = done at still
  obtain ⟨_ | value, later⟩ := done <;> obtain rfl : session = later := still
  · exact fun number known => ⟨known, rfl⟩
  · exact second value

/-- Reading before asking nothing asks nothing. -/
theorem Within.asks_none_bind {act : Act α} {next : α → Act β} (reads : act.Within Eq)
    {session : Session} (second : ∀ value, (next value).Asks session none) :
    (act >>= next).Asks session none := by
  simpa only [Option.bind_fun_none] using reads.asks_bind second

/-- What follows may ask nothing more. -/
theorem Asks.followed {act : Act α} {next : α → Act β} {session : Session} {asked : Option Provider}
    (first : act.Asks session asked) (rest : ∀ value, (next value).Within (Touch.Allows {})) :
    (act >>= next).Asks session asked := by
  rw [Asks, exec_bind]
  rw [Asks] at first
  generalize act.exec session = done at first
  obtain ⟨_ | value, later⟩ := done
  · exact first
  · intro number known
    have same := (rest value later).sources rfl
    rw [Session.source, same]
    exact first number known

/-- Asking a source counts as one call, whether it has a snapshot or not. -/
theorem asks_ask (context : Context) (provider : Provider) (session : Session) :
    (ask context provider).Asks session (some provider) := by
  cases provider with
  | ambient => exact fun number known => ⟨known, rfl⟩
  | silent => exact fun number known => ⟨known, rfl⟩
  | source asked name =>
      intro number known
      let counted : Source := { session.source asked with calls := (session.source asked).calls + 1 }
      have done : ((ask context (.source asked name)).exec session).2 =
          { session with sources := session.sources.set asked counted } := by
        rw [ask, exec_map, askSource, exec_bind_ok (exec_get session), exec_bind_ok (exec_modify _ _),
          exec_attempt]
      rw [done, Session.source_set known]
      refine ⟨by rwa [List.length_set], ?_⟩
      by_cases same : asked = number
      · simp [Provider.draws, counted, same]
      · simp [Provider.draws, same]

/-- A new source leaves the calls of the others as they are. -/
theorem asks_none_addSource (added : Source) (session : Session) :
    (modify fun session : Session => { session with sources := session.sources ++ [added] } :
      Act Unit).Asks session none := by
  intro number known
  rw [exec_modify, Session.source, Session.source, List.getElem?_append_left known]
  exact ⟨by rw [List.length_append]; omega, rfl⟩

/-- New data of a source do not ask it. -/
theorem asks_none_setSource (other : Nat) (data : Value) (session : Session) :
    (modify fun session : Session => { session with
      sources := session.sources.set other { session.source other with data } } :
        Act Unit).Asks session none := by
  intro number known
  rw [exec_modify, Session.source_set known]
  refine ⟨by rwa [List.length_set], ?_⟩
  by_cases same : other = number
  · rw [if_pos same, same]
    rfl
  · rw [if_neg same]
    rfl

/-- A snapshot is taken with one call. -/
theorem asks_currentSnapshot (context : Context) (filter : Filter) (session : Session) :
    (currentSnapshot context filter).Asks session (some filter.provider) :=
  (asks_ask context filter.provider session).followed fun _ => closed_within.pure _

/-- A level has a rank in a session if it can be looked up and named. -/
theorem isSome_result?_eventRank (session : Session) (level : Value) :
    (session.result? (eventRank level)).isSome = (level.isHashable && level.isNameable) := by
  rw [Session.result?, exec_eventRank]
  exact session.registry.isSome_rankOf level

/-- The rank of the level is found first, whatever it is. -/
theorem asks_eventOutcome (context : Context) (filter : Filter) (level : Value) (session : Session) :
    (eventOutcome context filter level).Asks session (filter.askedAt? level) := by
  have asked : (eventOutcome context filter level).Asks session
      ((session.result? (eventRank level)).bind fun _ => some filter.provider) :=
    (closed_within.eventRank level).asks_bind fun rank =>
      (asks_currentSnapshot context filter session).followed fun _ => closed_within.attempt _
  have found := isSome_result?_eventRank session level
  rw [Filter.askedAt?, ← found]
  cases ranked : session.result? (eventRank level) with
  | none => rwa [ranked] at asked
  | some rank => rwa [ranked] at asked

end Act

/-- A record has a snapshot of its own when it has a marked attribute, whatever that holds. -/
theorem Record.snapshot?_eq_none_iff {record : Record} :
    record.snapshot? = none ↔ record.marked = [] := by
  have unmarked : record.contextEntries = [] ↔ record.marked = [] := by
    rw [contextEntries, marked, List.filterMap_eq_nil_iff, List.filter_eq_nil_iff]
    refine forall₂_congr fun entry _ => ?_
    rw [Option.map_eq_none_iff, contextName?]
    split <;> simp [*]
  rw [← unmarked, snapshot?]
  split <;> simp_all

namespace Act

/-- A record with a context of its own asks no provider. -/
theorem asks_recordSnapshot (context : Context) (filter : Filter) (record : Record)
    (session : Session) :
    (recordSnapshot context filter record).Asks session (filter.askedFor? record) := by
  rw [recordSnapshot, Filter.askedFor?]
  cases carried : record.snapshot? with
  | none =>
      rw [Record.snapshot?_eq_none_iff.mp carried]
      exact asks_currentSnapshot context filter session
  | some snapshot =>
      have marked : record.marked ≠ [] := fun nothing => by
        simp [Record.snapshot?_eq_none_iff.mpr nothing] at carried
      rw [List.isEmpty_eq_false_iff.mpr marked]
      exact (closed_within.pure snapshot).asks_none session

/-- The snapshot of a record is taken first, whatever its level is. -/
theorem asks_recordOutcome (context : Context) (filter : Filter) (record : Record)
    (session : Session) :
    (recordOutcome context filter record).Asks session (filter.askedFor? record) :=
  (asks_recordSnapshot context filter record session).followed fun _ =>
    (closed_within.eventRank _).bind fun _ => closed_within.attempt _

/-- An adapter asks no provider for a record that its name keeps back. -/
theorem asks_adapterAdmits (context : Context) (filter : Filter) (name : Value) (record : Record)
    (session : Session) :
    (adapterAdmits context filter name record).Asks session
      ((passesName name record.name).toOption.bind fun passes =>
        if passes then filter.askedFor? record else none) := by
  refine (closed_within.attempt (passesName name record.name)).asks_bind fun passes => ?_
  cases passes with
  | true => exact (asks_recordOutcome context filter record session).followed fun _ => closed_within.pure _
  | false => exact (closed_within.pure false).asks_none session

end Act

open Act

/-- An operation asks the provider that it needs once, and no other one. -/
theorem Operation.asks_perform (context : Context) (session : Session) (operation : Operation) :
    (operation.perform context).Asks session (operation.asked? session) := by
  have touches := operation.within_perform context
  cases operation with
  | askProvider id name =>
      have asked : ((Operation.askProvider id name).perform context).Asks session
          ((session.result? (provider name)).bind some) :=
        (closed_within.provider name).asks_bind fun provider =>
          (asks_ask context provider session).followed fun found => by
            cases found with
            | none => exact closed_within.throw _
            | some snapshot => exact (within_store _ _).bind fun _ => closed_within.pure _
      rwa [Option.bind_fun_some] at asked
  | filterSnapshot name =>
      exact (closed_within.filter name).asks_bind fun filter =>
        (asks_currentSnapshot context filter session).followed fun _ => closed_within.pure _
  | judgeLevel name level =>
      exact (closed_within.filter name).asks_bind fun filter =>
        (closed_within.read level).asks_bind fun value =>
          (asks_eventOutcome context filter value session).followed fun _ => closed_within.pure _
  | judgeCall name level arguments marker =>
      exact (closed_within.filter name).asks_bind fun filter =>
        (closed_within.read level).asks_bind fun value =>
          (closed_within.readAll arguments).asks_bind fun _ =>
            (closed_within.read marker).asks_bind fun _ =>
              (asks_eventOutcome context filter value session).followed fun _ => closed_within.pure _
  | judgeRecord name form =>
      exact (closed_within.filter name).asks_bind fun filter =>
        (closed_within.readRecord form).asks_bind fun record =>
          (asks_recordOutcome context filter record session).followed fun _ => closed_within.pure _
  | adapt name adapterName form =>
      exact (closed_within.filter name).asks_bind fun filter =>
        (closed_within.readOption adapterName).asks_bind fun wanted =>
          (closed_within.readRecord form).asks_bind fun record =>
            (asks_adapterAdmits context filter _ record session).followed fun _ => closed_within.pure _
  | newProvider id form =>
      have kept (made : Provider) : (store (some id) (.provider made) >>= fun _ =>
          pure (Answer.text made.text)).Within (Touch.Allows {}) :=
        (within_store _ _).bind fun _ => closed_within.pure _
      cases form with
      | ambient => exact ((closed_within.pure Provider.ambient).bind kept).asks_none session
      | silent => exact ((closed_within.pure Provider.silent).bind kept).asks_none session
      | source data name =>
          have looked : (get : Act Session).Within Eq := fun _ => rfl
          exact (closed_within.read data).asks_none_bind fun data =>
            (closed_within.readOption name).asks_none_bind fun _ => looked.asks_none_bind fun _ =>
              (asks_none_addSource ⟨data, 0⟩ session).followed fun _ =>
                (closed_within.pure _).bind kept
  | setSource name data =>
      refine (closed_within.provider name).asks_none_bind fun provider => ?_
      cases provider with
      | source other _ =>
          exact (closed_within.read data).asks_none_bind fun data =>
            (asks_none_setSource other data session).followed fun _ => closed_within.pure _
      | _ => exact (closed_within.throw _).asks_none session
  | _ => exact asks_none ((touches session).sources rfl)

/-- The calls of a source are counted by the operations that ask it. -/
theorem callInvariant_calls (number base : Nat) :
    CallInvariant fun calls session => number < session.sources.length ∧
      (session.source number).calls =
        base + calls.countP fun call => call.operation.asks call.session number where
  aside _ _ _ := id
  called := by
    rintro calls call ⟨known, counted⟩
    obtain ⟨still, grown⟩ := call.operation.asks_perform call.context call.session number known
    refine ⟨still, grown.trans ?_⟩
    rw [counted, List.countP_append, List.countP_singleton, Nat.add_assoc]
    rfl

/-- A source is asked once for each event without a record, for each record without a context of its own
that an adapter lets pass, and for each snapshot, of a filter that draws from it; nothing else that runs
asks it. Only a level that cannot be looked up, or cannot be named, ends an event before. -/
theorem source_is_asked_when_needed (ambient : Ambient) (session : Session) (steps : List Step)
    {number : Nat} (known : number < session.sources.length) :
    ((runAll ambient session steps).2.2.source number).calls =
      (session.source number).calls +
        (runCalls ambient session steps).countP fun call =>
          call.operation.asks call.session number :=
  ((callInvariant_calls number (session.source number).calls).runAll ⟨known, rfl⟩ ambient steps).2

/-- A filter that draws from a source, and its provider. -/
def meteredSession : Session :=
  let provider := Provider.source 0 (.text "custom")
  { Session.initial with
    objects := [("provider", .provider provider),
      ("gate", .filter 0 ⟨⟨"tenant", ⟨[], .error⟩, .verdict .neutral, .verdict .deny⟩,
        .severity, provider⟩)]
    sources := [⟨.mapping [(.text "tenant", .text "acme")], 0⟩] }

/-- Six operations that ask the source, one of them in a thread, and seven that do not. -/
def meteredSteps : List Step :=
  [.operation (.judgeLevel "gate" (.int 10)),
    .operation (.judgeLevel "gate" (.text "INFO")),
    .operation (.judgeLevel "gate" (.list [.int 10])),
    .operation (.judgeCall "gate" (.bool true) [.int 1] .absent),
    .operation (.judgeRecord "gate" {}),
    .operation (.judgeRecord "gate" { attributes := [("ctx_tenant", .absent)] }),
    .operation (.adapt "gate" none {}),
    .operation (.adapt "gate" (some (.text "other")) {}),
    .operation (.evaluate "gate" (.levelNamed "INFO") (.data .absent)),
    .operation (.compareFilters "gate" (.object "gate")),
    .operation (.describeFilter "gate"),
    .operation (.setSource "provider" .absent),
    .thread [.operation (.filterSnapshot "gate")]]

theorem source_is_asked_six_times :
    0 < meteredSession.sources.length ∧
      ((runAll ⟨0, []⟩ meteredSession meteredSteps).2.2.source 0).calls = 6 :=
  ⟨by decide, (source_is_asked_when_needed ⟨0, []⟩ meteredSession meteredSteps (by decide)).trans rfl⟩

end LogGate

import LogGate.Proofs.CallOutcome
import LogGate.Proofs.Interning

/-!
More severe events. A rule that does not deny what passes admits with an event every more severe one. So
does a logger with such rules, and it writes both events equally often.
-/

namespace LogGate

/-- What is not denied at a level is not denied at a more severe one, unless passing is denied. -/
theorem Rule.denies_outcome_of_severe {rule : Rule} (lenient : denies rule.onMatch = false)
    {lower upper : Level} (severe : lower.rank ≤ upper.rank) {snapshot : Snapshot}
    (admitted : denies (rule.outcome .severity lower snapshot) = false) :
    denies (rule.outcome .severity upper snapshot) = false := by
  rw [outcome, outcomeBy] at admitted ⊢
  cases found : snapshot.get? rule.key with
  | none => rfl
  | some value =>
      rw [found] at admitted
      dsimp only at admitted ⊢
      by_cases passes : LevelOrder.severity.passes upper (rule.table.lookup (.text value)) = true
      · rw [if_pos passes]
        exact lenient
      -- What the more severe level does not reach, the other one does not reach either.
      · have short : ¬LevelOrder.severity.passes lower (rule.table.lookup (.text value)) = true := by
          intro reached
          apply passes
          rw [LevelOrder.passes, decide_eq_true_eq] at reached ⊢
          exact Int.le_trans reached severe
        rw [if_neg passes]
        rw [if_neg short] at admitted
        exact admitted

namespace Record

/-- The same event at another level. -/
def atLevel (record : Record) (level : Int) : Record :=
  { record with
    level := .int level
    levelName := .text (Level.numberName level) }

/-- A record can be made at one level and moved to another one. -/
theorem new_atLevel (clock : Binary64) (name : String) (lower upper : Int) (message : Value)
    (arguments : List Value) (report : Option ErrorReport) :
    new clock name upper message arguments report =
      (new clock name lower message arguments report).map (·.atLevel upper) := by
  cases clock <;> rfl

/-- The context does not depend on the level. -/
theorem withContext_atLevel (record : Record) (level : Int) (context : Context) :
    (record.atLevel level).withContext context = (record.withContext context).atLevel level := by
  rw [withContext_eq, withContext_eq]
  rfl

end Record

section Writable

/-- Values that can be written as JSON. -/
def Json.isWritable (given : Value) : Bool := (value given).toOption.isSome

/-- Which values under which names can be written. -/
def Line.shape (fields : Fields String Value) : Fields String Bool :=
  fields.map fun entry => (entry.1, Json.isWritable entry.2)

/-- A line can be written if all its members can. -/
theorem Json.isSome_members_ofNamed (fields : Fields String Value) :
    (members (Context.ofNamed fields)).toOption.isSome = (Line.shape fields).all (·.2) := by
  induction fields with
  | nil => rfl
  | cons entry rest ih =>
      have split : members (Context.ofNamed (entry :: rest)) =
          (value entry.2).bind fun item =>
            (members (Context.ofNamed rest)).map fun rest => (entry.1, item) :: rest := rfl
      rw [Line.shape, List.map_cons, List.all_cons, ← Line.shape, ← ih, split, isWritable]
      cases value entry.2 with
      | error failure => rfl
      | ok item => cases members (Context.ofNamed rest) <;> rfl

/-- What the context and the error report add. -/
def Line.completed (record : Record) (own : Fields String Bool) :
    Except Failure (Fields String Bool) :=
  record.reportText.map fun report =>
    let all := own.putAll (shape record.contextEntries)
    match report with
    | some _ => all.put "exception" true
    | none => all

/-- Which members a line has depends on the parts of the record that can fail. -/
theorem Line.shape_members (record : Record) (withTime : Bool) :
    (members record withTime).map shape =
      ((ownMembers record withTime).map shape).bind (completed record) := by
  rw [members]
  cases ownMembers record withTime with
  | error failure => rfl
  | ok own =>
      have all : shape (own.putAll record.contextEntries) =
          Fields.putAll (shape own) (shape record.contextEntries) :=
        Fields.map_putAll Json.isWritable own record.contextEntries
      dsimp only [Except.bind, Except.map]
      rw [completed]
      cases record.reportText with
      | error failure => rfl
      | ok report =>
          apply congrArg Except.ok
          cases report with
          | none => exact all
          | some text =>
              have put := Fields.map_put Json.isWritable (own.putAll record.contextEntries)
                "exception" (.text text)
              exact put.trans (congrArg (Fields.put · "exception" true) all)

variable {record : Record} {name : String} (named : record.levelName = .text name) (level : Int)

include named in
/-- The name of the level is a text, which can always be written. -/
theorem Line.shape_ownMembers_atLevel (withTime : Bool) :
    (ownMembers (record.atLevel level) withTime).map shape =
      (ownMembers record withTime).map shape := by
  have filled : (record.atLevel level).text = record.text := rfl
  rw [ownMembers, ownMembers, named, filled]
  cases record.text with
  | error failure => rfl
  | ok message =>
      cases withTime with
      | false => rfl
      | true =>
          change ((timestamp record.created).map _).map shape =
            ((timestamp record.created).map _).map shape
          cases timestamp record.created <;> rfl

include named in
/-- A record can be written at one level if it can be written at another one. -/
theorem Line.isSome_ofRecord_atLevel (withTime : Bool) :
    (ofRecord (record.atLevel level) withTime).toOption.isSome =
      (ofRecord record withTime).toOption.isSome := by
  have whole (given : Record) : (ofRecord given withTime).toOption.isSome =
      (((members given withTime).map shape).toOption.any fun fields => fields.all (·.2)) := by
    rw [ofRecord]
    cases members given withTime with
    | error failure => rfl
    | ok all =>
        change ((Json.members (Context.ofNamed all)).map Json.object).toOption.isSome =
          (shape all).all (·.2)
        rw [← Json.isSome_members_ofNamed]
        cases Json.members (Context.ofNamed all) <;> rfl
  rw [whole, whole, shape_members, shape_members, shape_ownMembers_atLevel named level withTime]
  rfl

end Writable

section Lines

variable {session : Session} {context : Context} {target : Option String}

/-- A record that is admitted and can be written is written once for each handler that it reaches. -/
theorem Act.lineBreaks_output {record : Record} {written : String}
    (done : output session context target record = .ok written) : ∃ admitted,
      (session.loggers.get target).admits session.registry context record = .ok admitted ∧
      lineBreaks written = if admitted && (Line.ofRecord record true).toOption.isSome then
        session.loggers.handlerCount target else 0 := by
  obtain ⟨admitted, judged, -⟩ := Except.map_eq_ok_iff.mp done
  refine ⟨admitted, judged, ?_⟩
  cases admitted with
  | false =>
      rw [output_of_denied judged] at done
      exact congrArg lineBreaks (Except.ok.inj done).symm
  | true =>
      cases shown : Line.ofRecord record true with
      | error failure =>
          rw [output_of_unwritable shown judged] at done
          exact congrArg lineBreaks (Except.ok.inj done).symm
      | ok line =>
          rw [output_of_admitted judged, Except.ok.injEq] at done
          rw [← done, lineBreaks_join_replicate, lineBreaks_lineOf shown, Nat.mul_one]
          rfl

/-- A logger whose rules deny nothing that passes. -/
def Logger.Lenient (logger : Logger) : Prop :=
  ∀ kept ∈ logger.rules, Rule.denies kept.2.onMatch = false

/-- A record that a lenient logger lets pass is let pass at every higher level. -/
theorem Logger.Lenient.admits_atLevel {logger : Logger} (lenient : logger.Lenient)
    {registry : Registry} (reached : registry.Reachable) {record : Record} {lower upper : Int}
    (leveled : record.level = .int lower) (severe : lower ≤ upper)
    (admitted : logger.admits registry context record = .ok true) :
    logger.admits registry context (record.atLevel upper) = .ok true := by
  rw [admits_int logger registry context leveled, Except.ok.injEq, List.all_eq_true] at admitted
  rw [admits_int logger registry context rfl, Except.ok.injEq, List.all_eq_true]
  intro rule listed
  obtain ⟨kept, member, rfl⟩ := List.mem_map.mp listed
  have passed := admitted kept.2 listed
  rw [Bool.not_eq_true'] at passed ⊢
  apply Rule.denies_outcome_of_severe (lenient kept member) _ passed
  rw [Registry.rank_ofNumber reached, Registry.rank_ofNumber reached]
  exact severe

/-- What a lenient logger writes of an event, it writes as often of a more severe one. -/
theorem Act.lineBreaks_output_atLevel (reached : session.registry.Reachable)
    (lenient : (session.loggers.get target).Lenient) {record : Record} {name : String}
    (named : record.levelName = .text name) {lower upper : Int} (leveled : record.level = .int lower)
    (severe : lower ≤ upper) {written : String}
    (done : output session context target record = .ok written) (filled : 0 < lineBreaks written) :
    ∃ more, output session context target (record.atLevel upper) = .ok more ∧
      lineBreaks more = lineBreaks written := by
  obtain ⟨admitted, judged, counted⟩ := lineBreaks_output done
  rw [counted] at filled
  split at filled
  · next both =>
    obtain ⟨rfl, writable⟩ := Bool.and_eq_true_iff.mp both
    have again := lenient.admits_atLevel reached leveled severe judged
    have more := output_of_admitted again
    obtain ⟨passed, rejudged, recounted⟩ := lineBreaks_output more
    rw [again, Except.ok.injEq] at rejudged
    refine ⟨_, more, ?_⟩
    rw [recounted, counted, Line.isSome_ofRecord_atLevel named, ← rejudged]
  · exact absurd filled (Nat.lt_irrefl 0)

end Lines

section Events

variable {session : Session} {context fields : Context} {target : Option String} {message : Value}
  {arguments : List Value}

/-- A lenient logger writes a more severe event as often as an event that it writes at all. -/
theorem Act.lineBreaks_log_of_severe (reached : session.registry.Reachable)
    (lenient : (session.loggers.get target).Lenient) {lower upper : Int} (severe : lower ≤ upper)
    {output : String}
    (logged : ((log context target lower message arguments fields).exec session).1 = .ok output)
    (written : 0 < lineBreaks output) :
    ∃ more, ((log context target upper message arguments fields).exec session).1 = .ok more ∧
      lineBreaks more = lineBreaks output := by
  rw [exec_log_eq] at logged ⊢
  dsimp only at logged ⊢
  split at logged
  · next enabled =>
    obtain ⟨record, made, done⟩ := Except.bind_eq_ok_iff.mp logged
    have above : session.loggers.isEnabled target upper = true := by
      rw [LoggerTree.isEnabled, Bool.and_eq_true, decide_eq_true_eq, decide_eq_true_eq] at enabled ⊢
      omega
    have again : Record.new session.clock (LoggerTree.nameOf target) upper message arguments none =
        .ok (record.atLevel upper) := by
      rw [Record.new_atLevel _ _ lower, made]
      rfl
    have named : (record.withContext fields).levelName = .text (Level.numberName lower) := by
      rw [Record.withContext_eq, ← Record.levelName_of_new made]
    have leveled : (record.withContext fields).level = .int lower := by
      rw [Record.withContext_eq, (Record.new_cases made).2.1]
    rw [if_pos above, again]
    dsimp only [Except.bind]
    rw [Record.withContext_atLevel]
    exact lineBreaks_output_atLevel reached lenient named leveled severe done written
  · cases logged
    exact absurd written (Nat.lt_irrefl 0)

/-- At a finite time every event can be logged. -/
theorem Act.exists_log {negative : Bool} {significand : Nat} {exponent : Int}
    (timed : session.clock = .finite negative significand exponent) (level : Int) :
    ∃ output, ((log context target level message arguments fields).exec session).1 = .ok output := by
  have made : ∃ record, Record.new session.clock (LoggerTree.nameOf target) level message arguments
      none = .ok record := by
    rw [timed]
    exact ⟨_, rfl⟩
  obtain ⟨record, made⟩ := made
  obtain ⟨output, logged⟩ := exists_exec_log made context fields
  exact ⟨output, by rw [logged]⟩

/-- A rule that does not deny what passes refuses no more severe event. -/
theorem Act.refuses_of_severe {rule : Option (Nat × Rule)}
    (lenient : ∀ kept ∈ rule, Rule.denies kept.2.onMatch = false) {lower upper : Level}
    (severe : lower.rank ≤ upper.rank) {merged : Context}
    (admitted : refuses rule lower merged = false) : refuses rule upper merged = false := by
  cases rule with
  | none => rfl
  | some kept => exact Rule.denies_outcome_of_severe (lenient kept rfl) severe admitted

end Events

/-- Where neither the rules of a logger nor the rule of the configuration of a call deny what passes, a
call that logs an event logs every more severe event too, at any finite time. Whenever lines are written
of the event, with a context or without one, as many are written of the more severe one. -/
theorem severe_events_are_admitted {session : Session} (reached : session.registry.Reachable)
    {target : Option String} (attached : ∀ kept ∈ (session.loggers.get target).rules,
      Rule.denies kept.2.onMatch = false)
    {lower upper : Level} (severe : lower.rank ≤ upper.rank) (context : Context) (message : Value) :
    (∀ (config : Option Nat) (extra : Fields String Value) (given other : Value),
      (∀ own rule later, (Act.judgingRule config).exec session = (.ok (some (own, rule)), later) →
        Rule.denies rule.onMatch = false) →
      session.registry.resolve given none = .ok lower →
      session.registry.resolve other none = .ok upper →
      let call (level : Value) :=
        ((Act.logWithContext context target level message config extra).exec session).1
      ∀ output, call given = .ok (true, output) →
        (∀ negative significand exponent, session.clock = .finite negative significand exponent →
          ∃ more, call other = .ok (true, more)) ∧
        (0 < lineBreaks output →
          ∃ more, call other = .ok (true, more) ∧ lineBreaks more = lineBreaks output)) ∧
    ∀ (arguments : List Value) (output : String),
      let log (level : Level) :=
        ((Act.log context target level.rank message arguments []).exec session).1
      log lower = .ok output → 0 < lineBreaks output →
        ∃ more, log upper = .ok more ∧ lineBreaks more = lineBreaks output := by
  constructor
  · intro config extra given other lenient resolved otherResolved call output logged
    -- The rule is found before the level of the event counts, so that both calls meet the same one.
    obtain ⟨rule, later, found, passed, done⟩ := (Act.exec_logWithContext_iff resolved).mp logged
    obtain ⟨registered, unchanged, ticking⟩ := Act.judgingRule_frame found
    have kind : ∀ kept ∈ rule, Rule.denies kept.2.onMatch = false := by
      rintro kept ⟨⟩
      exact lenient kept.1 kept.2 later found
    have more (result : String)
        (finished : ((Act.log context target upper.rank message []
          (Context.merge context extra)).exec later).1 = .ok result) :
        call other = .ok (true, result) :=
      (Act.exec_logWithContext_iff otherResolved).mpr
        ⟨rule, later, found, Act.refuses_of_severe kind severe passed, finished⟩
    rw [← registered] at reached
    rw [← unchanged] at attached
    constructor
    · intro negative significand exponent timed
      obtain ⟨result, finished⟩ := Act.exists_log (ticking.trans timed) upper.rank
      exact ⟨result, more result finished⟩
    · intro written
      obtain ⟨result, finished, same⟩ :=
        Act.lineBreaks_log_of_severe reached attached severe done written
      exact ⟨result, more result finished, same⟩
  · intro arguments output log logged written
    exact Act.lineBreaks_log_of_severe reached attached severe logged written

/-- A logger with the filter of a configuration under which the tenant `acme` logs warnings. -/
def warningSteps : List Step :=
  [.operation (.newConfig (some "c") [("key", .text "tenant"),
      ("thresholds", .list [.tuple [.text "acme", .text "warn"]]), ("on_match", .text "accept")]),
    .operation (.getLogger (.text "svc") (some "c"))]

theorem severe_events_of_tenant_are_admitted :
    let session := (runAll ⟨0, []⟩ Session.initial warningSteps).2.2
    let call (level : Value) := ((Act.logWithContext [(.text "tenant", .text "acme")] (some "svc") level
      (.text "late") (some 0) []).exec session).1
    (∃ output, call (.text "warning") = .ok (true, output) ∧ lineBreaks output = 1) ∧
    (∃ output, call (.text "error") = .ok (true, output) ∧ lineBreaks output = 1) := by
  intro session call
  have reached : session.Reachable := reachable_runAll ⟨0, []⟩ warningSteps
  have attached : ∀ kept ∈ (session.loggers.get (some "svc")).rules,
      Rule.denies kept.2.onMatch = false := by decide +kernel
  have lenient : ∀ own rule later,
      (Act.judgingRule (some 0)).exec session = (.ok (some (own, rule)), later) →
        Rule.denies rule.onMatch = false := by
    have kind : (((Act.judgingRule (some 0)).exec session).1.toOption.join.all fun kept =>
        !Rule.denies kept.2.onMatch) = true := by decide +kernel
    intro own rule later found
    rw [found] at kind
    exact (Bool.not_eq_true' _).mp kind
  obtain ⟨⟨answer, output⟩, logged, counted⟩ := Except.exists_ok_of_any
    (show (call (.text "warning")).toOption.any (fun result =>
      result.1 && lineBreaks result.2 == 1) = true by decide +kernel)
  rw [Bool.and_eq_true, beq_iff_eq] at counted
  obtain ⟨rfl, one⟩ := counted
  have warning : session.registry.resolve (.text "warning") none = .ok ⟨"WARN", 30, true⟩ :=
    Registry.resolve_text_of_found (by decide +kernel) none
  have error : session.registry.resolve (.text "error") none = .ok ⟨"ERROR", 40, true⟩ :=
    Registry.resolve_text_of_found (by decide +kernel) none
  have severe : (⟨"WARN", 30, true⟩ : Level).rank ≤ (⟨"ERROR", 40, true⟩ : Level).rank := by decide
  obtain ⟨calls, -⟩ := severe_events_are_admitted reached.consistent.registry attached severe
    [(.text "tenant", .text "acme")] (.text "late")
  obtain ⟨-, written⟩ := calls (some 0) [] _ _ lenient warning error output logged
  obtain ⟨more, done, same⟩ := written (by rw [one]; decide)
  exact ⟨⟨output, logged, one⟩, more, done, same.trans one⟩

/-- Without a configuration the default one judges a call, and its filter may deny what passes: then a
message is logged, and an error is not. -/
theorem default_filter_denies_errors_only :
    ¬ ∀ (session : Session) (context : Context) (target : Option String) (message : Value)
      (config : Option Nat) (given other : Value) (lower upper : Level),
      session.Reachable →
      (∀ kept ∈ (session.loggers.get target).rules, Rule.denies kept.2.onMatch = false) →
      (∀ number, config = some number →
        Verdict.ofTokenOr (session.config number).onMatch .neutral ≠ .ok .deny) →
      session.registry.resolve given none = .ok lower →
      session.registry.resolve other none = .ok upper → lower.rank ≤ upper.rank →
      let call (level : Value) :=
        ((Act.logWithContext context target level message config []).exec session).1
      (∃ output, call given = .ok (true, output)) → ∃ output, call other = .ok (true, output) := by
  intro told
  let steps : List Step := [.operation (.setEnvironment [("DYNAMIC_LOG_KEY", some "tenant"),
    ("DYNAMIC_LOG_ON_MATCH", some "DENY"), ("DYNAMIC_LOG_ON_MISMATCH", some "NEUTRAL")]),
    .operation (.showLogger "svc")]
  let session := (runAll ⟨0, []⟩ Session.initial steps).2.2
  have debug : session.registry.resolve (.text "DEBUG") none = .ok ⟨"DEBUG", 10, true⟩ :=
    Registry.resolve_text_of_found (by decide +kernel) none
  have error : session.registry.resolve (.text "ERROR") none = .ok ⟨"ERROR", 40, true⟩ :=
    Registry.resolve_text_of_found (by decide +kernel) none
  let call (level : Value) := ((Act.logWithContext [(.text "tenant", .text "acme")] (some "svc") level
    (.text "m") none []).exec session).1
  obtain ⟨⟨answer, output⟩, logged, admitted⟩ := Except.exists_ok_of_any
    (show (call (.text "DEBUG")).toOption.any (·.1) = true by decide +kernel)
  obtain rfl : answer = true := admitted
  obtain ⟨more, other⟩ := told session [(.text "tenant", .text "acme")] (some "svc") (.text "m")
    none _ _ _ _ (reachable_runAll ⟨0, []⟩ steps) (by decide +kernel) nofun debug error (by decide)
    ⟨output, logged⟩
  have refused : (call (.text "ERROR")).toOption.any (!·.1) = true := by decide +kernel
  rw [show call (.text "ERROR") = _ from other] at refused
  cases refused

end LogGate

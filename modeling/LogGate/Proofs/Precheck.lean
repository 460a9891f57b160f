import LogGate.Proofs.Action
import LogGate.Proofs.CallShapes

/-!
The two judgements of an event that is logged with its context. The early one looks at the merged
context, the late one at the record made from it; they never disagree.
-/

namespace LogGate

namespace Record

/-- A new record has the given level and no attributes. -/
theorem new_cases {clock : Binary64} {name : String} {level : Int} {message : Value}
    {arguments : List Value} {report : Option ErrorReport} {record : Record}
    (made : new clock name level message arguments report = .ok record) :
    record.name = .text name ∧ record.level = .int level ∧ record.attributes = [] := by
  cases clock <;> simp only [new, Except.ok.injEq, reduceCtorEq] at made
  rw [← made]
  exact ⟨rfl, rfl, rfl⟩

/-- A new record has no context. -/
theorem contextEntries_new {clock : Binary64} {name : String} {level : Int} {message : Value}
    {arguments : List Value} {report : Option ErrorReport} {record : Record}
    (made : new clock name level message arguments report = .ok record) :
    record.contextEntries = [] := by
  rw [contextEntries, (new_cases made).2.2, List.filterMap_nil]

end Record

/-- A logger's rule judges a record that carries the merged context as it judges this context. -/
theorem Logger.ruleOutcome_merge {registry : Registry} (reached : registry.Reachable) (rule : Rule)
    (context : Context) (extra : Fields String Value) (level : Level) {record : Record}
    (unmarked : record.contextEntries = []) (ranked : record.level = .int level.rank) :
    ruleOutcome rule registry context (record.withContext (Context.merge context extra)) =
      .ok (rule.outcome .severity level (Snapshot.ofEntries (Context.merge context extra))) := by
  have leveled : (record.withContext (Context.merge context extra)).level = .int level.rank := by
    rw [Record.withContext_eq, ranked]
  rw [ruleOutcome_int rule registry context leveled,
    rule.outcome_congr .severity (Registry.rank_ofNumber reached level.rank),
    Record.snapshot?_merge unmarked]

namespace Act

/-- Finding the rule of a configuration registers no level and touches no logger. -/
theorem ruleOf_frame {number : Nat} {session later : Session}
    {result : Except Failure (Option (Nat × Rule))}
    (found : (ruleOf number).exec session = (result, later)) :
    later.registry = session.registry ∧ later.loggers = session.loggers ∧
      later.clock = session.clock := by
  cases exec_ruleOf_iff.mp found <;> exact ⟨rfl, rfl, rfl⟩

/-- The rule of a logger judges as a filter does that goes by severity and by the ambient context. -/
theorem exec_recordOutcome (session : Session) (context : Context) (rule : Rule) (record : Record) :
    (recordOutcome context ⟨rule, .severity, .ambient⟩ record).exec session =
      (Logger.ruleOutcome rule session.registry context record, session) := by
  have taken : (recordSnapshot context ⟨rule, .severity, .ambient⟩ record).exec session =
      (.ok (record.snapshot?.getD (Snapshot.ofEntries context)), session) := by
    rw [recordSnapshot]
    cases record.snapshot? <;> rfl
  rw [recordOutcome, exec_bind_ok taken, exec_bind, exec_eventRank, Logger.ruleOutcome]
  cases session.registry.rankOf record.level <;> rfl

/-- An adapter without a name lets a record pass exactly if its filter does not deny it. -/
theorem exec_adapterAdmits (session : Session) (context : Context) (rule : Rule) (name : String)
    {record : Record} (named : record.name = .text name) :
    (adapterAdmits context ⟨rule, .severity, .ambient⟩ (.text "") record).exec session =
      ((Logger.ruleOutcome rule session.registry context record).map (!Rule.denies ·), session) := by
  have passed : (attempt (passesName (.text "") record.name)).exec session = (.ok true, session) := by
    rw [named]
    rfl
  rw [adapterAdmits, exec_bind_ok passed, if_pos rfl, exec_bind, exec_recordOutcome]
  cases Logger.ruleOutcome rule session.registry context record <;> rfl

/-- An event at an enabled level is written as its record is. -/
theorem exec_log {session : Session} {context : Context} {target : Option String} {level : Int}
    {message : Value} {arguments : List Value} {record : Record}
    (made : Record.new session.clock (LoggerTree.nameOf target) level message arguments none =
      .ok record) (fields : Context) :
    (log context target level message arguments fields).exec session =
      (if session.loggers.isEnabled target level then
        output session context target (record.withContext fields) else .ok "", session) := by
  by_cases enabled : session.loggers.isEnabled target level <;>
    simp [log, exec_bind, enabled, made]

/-- Logging an event fails in no other way than in making its record. -/
theorem exists_exec_log {session : Session} {target : Option String} {level : Int}
    {message : Value} {arguments : List Value} {record : Record}
    (made : Record.new session.clock (LoggerTree.nameOf target) level message arguments none =
      .ok record) (context fields : Context) :
    ∃ output, (log context target level message arguments fields).exec session =
      (.ok output, session) := by
  have leveled : (record.withContext fields).level = .int level := by
    rw [Record.withContext_eq, (Record.new_cases made).2.1]
  rw [exec_log made, output, Logger.admits_int _ _ context leveled]
  split
  · exact ⟨_, rfl⟩
  · exact ⟨"", rfl⟩

/-- Without a level there is no event. -/
theorem exec_logWithContext_unknown {session : Session} {given : Value} {failure : Failure}
    (unknown : session.registry.resolve given none = .error failure) (context : Context)
    (target : Option String) (message : Value) (config : Option Nat)
    (extra : Fields String Value) :
    (logWithContext context target given message config extra).exec session =
      (.error failure, session) := by
  have read : (attempt (session.registry.resolve given none)).exec session =
      (.error failure, session) := by rw [exec_attempt, unknown]
  rw [logWithContext, exec_bind_ok (exec_get session), exec_bind_error read]

/-- An event with a context is logged unless the rule of its configuration denies the merged
context. -/
theorem exec_logWithContext {session middle later : Session} {config : Option Nat} {number : Nat}
    {rule : Option (Nat × Rule)}
    (chosen : (configOrDefault config).exec session = (.ok number, middle))
    (found : (ruleOf number).exec middle = (.ok rule, later)) {given : Value} {level : Level}
    (resolved : session.registry.resolve given none = .ok level) (context : Context)
    (target : Option String) (message : Value) (extra : Fields String Value) :
    (logWithContext context target given message config extra).exec session =
      let merged := Context.merge context extra
      if rule.any fun kept =>
          Rule.denies (kept.2.outcome .severity level (Snapshot.ofEntries merged)) then
        (.ok (false, ""), later)
      else ((true, ·) <$> log context target level.rank message [] merged).exec later := by
  have read : (attempt (session.registry.resolve given none)).exec session =
      (.ok level, session) := by rw [exec_attempt, resolved]
  rw [logWithContext, exec_bind_ok (exec_get session), exec_bind_ok read, exec_bind_ok chosen,
    exec_bind_ok found]
  cases rule with
  | none => rfl
  | some kept =>
      by_cases denied : Rule.denies
          (kept.2.outcome .severity level (Snapshot.ofEntries (Context.merge context extra)))
      · simp [denied]
      · simp only [denied, Option.any_some, Bool.false_eq_true, if_false]
        rfl

/-- Without a configuration, or without a rule where one is wanted, there is no event either. -/
theorem exec_logWithContext_unchosen {session later : Session} {config : Option Nat}
    {failure : Failure}
    (unchosen : (configOrDefault config).exec session = (.error failure, later)) {given : Value}
    {level : Level} (resolved : session.registry.resolve given none = .ok level) (context : Context)
    (target : Option String) (message : Value) (extra : Fields String Value) :
    (logWithContext context target given message config extra).exec session =
      (.error failure, later) := by
  have read : (attempt (session.registry.resolve given none)).exec session =
      (.ok level, session) := by rw [exec_attempt, resolved]
  rw [logWithContext, exec_bind_ok (exec_get session), exec_bind_ok read, exec_bind_error unchosen]

/-- A call whose rule cannot be built fails, with the session that the attempt leaves. -/
theorem exec_logWithContext_unbuilt {session middle later : Session} {config : Option Nat}
    {number : Nat} {failure : Failure}
    (chosen : (configOrDefault config).exec session = (.ok number, middle))
    (unbuilt : (ruleOf number).exec middle = (.error failure, later)) {given : Value} {level : Level}
    (resolved : session.registry.resolve given none = .ok level) (context : Context)
    (target : Option String) (message : Value) (extra : Fields String Value) :
    (logWithContext context target given message config extra).exec session =
      (.error failure, later) := by
  have read : (attempt (session.registry.resolve given none)).exec session =
      (.ok level, session) := by rw [exec_attempt, resolved]
  rw [logWithContext, exec_bind_ok (exec_get session), exec_bind_ok read, exec_bind_ok chosen,
    exec_bind_error unbuilt]

end Act

/-- Logging with context asks the rule of the configuration about the merged context; an adapter of
the same rule, alone or on a logger, gives the same answer for the record that is made. -/
theorem precheck_agrees_with_adapter {session later : Session}
    (reached : session.registry.Reachable) {number own : Nat} {rule : Rule}
    (found : (Act.ruleOf number).exec session = (.ok (some (own, rule)), later))
    {target : Option String} {level : Level} {message : Value} {record : Record}
    (made : Record.new later.clock (LoggerTree.nameOf target) level.rank message [] none =
      .ok record) (context : Context) (extra : Fields String Value) :
    let merged := Context.merge context extra
    let denied := Rule.denies (rule.outcome .severity level (Snapshot.ofEntries merged))
    (∀ given, session.registry.resolve given none = .ok level →
      ((Act.logWithContext context target given message (some number) extra).exec session).1.map
        (·.1) = .ok (!denied)) ∧
    (Act.adapterAdmits context ⟨rule, .severity, .ambient⟩ (.text "")
      (record.withContext merged)).exec later = (.ok (!denied), later) ∧
    (Logger.ruleOutcome rule later.registry context (record.withContext merged)).map Rule.denies =
      .ok denied := by
  intro merged denied
  obtain ⟨kept, -, -⟩ := Act.ruleOf_frame found
  rw [← kept] at reached
  obtain ⟨named, ranked, -⟩ := Record.new_cases made
  have same := Logger.ruleOutcome_merge reached rule context extra level
    (Record.contextEntries_new made) ranked
  have carried : (record.withContext merged).name = .text (LoggerTree.nameOf target) := by
    rw [Record.withContext_eq, named]
  refine ⟨?_, ?_, congrArg (Except.map Rule.denies) same⟩
  · intro given resolved
    rw [Act.exec_logWithContext rfl found resolved]
    obtain ⟨output, logged⟩ := Act.exists_exec_log made context merged
    cases refused : denied <;> simp only [denied, merged] at refused logged <;>
      simp [refused, logged, Except.map]
  · rw [Act.exec_adapterAdmits later context rule _ carried, same]
    rfl

/-- Events of the user `acme` have to be warnings at least, and those of other users errors. -/
def acmeConfig : Config where
  key := .text "1"
  thresholds := .list [Config.textPair "acme" "WARN"]

def acmeRule : Rule :=
  ⟨"1", ⟨[(.text "acme", ⟨"WARN", 30, true⟩)], .error⟩, .verdict .neutral, .verdict .deny⟩

/-- A session that has built this rule. -/
def acmeSession : Session := { Session.initial with
  configs := [acmeConfig]
  rules := [(0, 0, acmeRule)]
  built := 1 }

/-- Two names of the context have the same text, one extra field has no value, and the level is not
registered: the last value counts, and both judgements deny the event. -/
theorem precheck_agrees_with_adapter_on_equal_texts :
    let context : Context := [(.int 1, .text "globex"), (.text "1", .text "acme")]
    let record : Record := ⟨.text "service", .int 25, .text "Level 25", .text "message", .tuple [],
      none, .float (.ofInt 1700000000), []⟩
    ((Act.logWithContext context (some "service") (.level ⟨"LOUD", 25, false⟩) (.text "message")
      (some 0) [("user", .absent)]).exec acmeSession).1.map (·.1) = .ok false ∧
    (Act.adapterAdmits context ⟨acmeRule, .severity, .ambient⟩ (.text "")
      (record.withContext (Context.merge context [("user", .absent)]))).exec acmeSession =
        (.ok false, acmeSession) := by
  intro context record
  have reached : acmeSession.registry.Reachable := .standard
  have found : (Act.ruleOf 0).exec acmeSession = (.ok (some (0, acmeRule)), acmeSession) := rfl
  have made : Record.new acmeSession.clock (LoggerTree.nameOf (some "service"))
    (⟨"LOUD", 25, false⟩ : Level).rank (.text "message") [] none = .ok record := rfl
  obtain ⟨early, late, -⟩ := precheck_agrees_with_adapter reached found made context
    [("user", .absent)]
  exact ⟨early (.level ⟨"LOUD", 25, false⟩) rfl, late⟩

end LogGate

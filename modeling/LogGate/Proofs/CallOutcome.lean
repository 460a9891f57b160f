import LogGate.Proofs.LineCount
import LogGate.Proofs.PlainLines

/-!
What a call comes to. The rule that judges a call is found before the level of the event counts. Unless it
denies the event, the call writes what the record of the event comes to.
-/

namespace LogGate

/-- A result that passes a test is there. -/
theorem Except.exists_ok_of_any {ε α : Type} {result : Except ε α} {test : α → Bool}
    (passed : result.toOption.any test = true) : ∃ value, result = .ok value ∧ test value = true := by
  cases result with
  | error failure => contradiction
  | ok value => exact ⟨value, rfl, passed⟩

/-- A new record has the name of its level number. -/
theorem Record.levelName_of_new {clock : Binary64} {name : String} {level : Int} {message : Value}
    {arguments : List Value} {report : Option ErrorReport} {record : Record}
    (made : new clock name level message arguments report = .ok record) :
    record.levelName = .text (Level.numberName level) := by
  cases clock <;> simp only [new, Except.ok.injEq, reduceCtorEq] at made
  rw [← made]

namespace Act

/-- The rule that judges a call: that of its configuration, or that of the default one. -/
def judgingRule (config : Option Nat) : Act (Option (Nat × Rule)) :=
  configOrDefault config >>= ruleOf

variable {session later : Session} {config : Option Nat}

/-- Choosing a configuration leaves the clock as it is. -/
theorem clock_configOrDefault {result : Except Failure Nat}
    (chosen : (configOrDefault config).exec session = (result, later)) :
    later.clock = session.clock := by
  cases config with
  | some number =>
      cases chosen
      rfl
  | none => cases exec_defaultConfig_iff.mp chosen <;> rfl

/-- Looking for the rule leaves levels, loggers and the clock alone. -/
theorem judgingRule_frame {result : Except Failure (Option (Nat × Rule))}
    (found : (judgingRule config).exec session = (result, later)) :
    later.registry = session.registry ∧ later.loggers = session.loggers ∧
      later.clock = session.clock := by
  cases chosen : (configOrDefault config).exec session with
  | mk number middle =>
      obtain ⟨registered, unchanged, -⟩ := configOrDefault_frame chosen
      have timed := clock_configOrDefault chosen
      cases number with
      | error failure =>
          rw [judgingRule, exec_bind_error chosen, Prod.mk.injEq] at found
          rw [← found.2]
          exact ⟨registered, unchanged, timed⟩
      | ok number =>
          rw [judgingRule, exec_bind_ok chosen] at found
          obtain ⟨first, second, third⟩ := ruleOf_frame found
          exact ⟨first.trans registered, second.trans unchanged, third.trans timed⟩

variable {given : Value} {level : Level}

/-- The judgement of a call: the rule denies the event in the merged context. -/
def refuses (rule : Option (Nat × Rule)) (level : Level) (merged : Context) : Bool :=
  rule.any fun kept => Rule.denies (kept.2.outcome .severity level (Snapshot.ofEntries merged))

/-- A call finds its rule, then is refused or logged. -/
theorem exec_logWithContext_eq (resolved : session.registry.resolve given none = .ok level)
    (context : Context) (target : Option String) (message : Value) (extra : Fields String Value) :
    (logWithContext context target given message config extra).exec session =
      match (judgingRule config).exec session with
      | (.error failure, later) => (.error failure, later)
      | (.ok rule, later) =>
        if refuses rule level (Context.merge context extra) then (.ok (false, ""), later)
        else ((true, ·) <$> log context target level.rank message []
          (Context.merge context extra)).exec later := by
  cases chosen : (configOrDefault config).exec session with
  | mk number middle =>
      cases number with
      | error failure =>
          rw [exec_logWithContext_unchosen chosen resolved, judgingRule, exec_bind_error chosen]
      | ok number =>
          rw [judgingRule, exec_bind_ok chosen]
          cases found : (ruleOf number).exec middle with
          | mk result last =>
              cases result with
              | error failure => rw [exec_logWithContext_unbuilt chosen found resolved]
              | ok rule => rw [exec_logWithContext chosen found resolved]; rfl

/-- What an event comes to: nothing unless its level is enabled, and otherwise what its record does. -/
theorem exec_log_eq (session : Session) (context : Context) (target : Option String) (level : Int)
    (message : Value) (arguments : List Value) (fields : Context) :
    (log context target level message arguments fields).exec session =
      (if session.loggers.isEnabled target level then
        (Record.new session.clock (LoggerTree.nameOf target) level message arguments none).bind
          fun record => output session context target (record.withContext fields)
      else .ok "", session) := by
  by_cases enabled : session.loggers.isEnabled target level
  · cases made : Record.new session.clock (LoggerTree.nameOf target) level message arguments none <;>
      simp [log, exec_bind, enabled, made, Except.bind]
  · simp [log, exec_bind, enabled]

/-- A call answers that it logged the event exactly if its rule does not refuse the event and the event
could be logged. -/
theorem exec_logWithContext_iff (resolved : session.registry.resolve given none = .ok level)
    {context : Context} {target : Option String} {message : Value} {extra : Fields String Value}
    {output : String} :
    ((logWithContext context target given message config extra).exec session).1 = .ok (true, output) ↔
      ∃ rule later, (judgingRule config).exec session = (.ok rule, later) ∧
        refuses rule level (Context.merge context extra) = false ∧
        ((log context target level.rank message [] (Context.merge context extra)).exec later).1 =
          .ok output := by
  rw [exec_logWithContext_eq resolved]
  cases found : (judgingRule config).exec session with
  | mk result last =>
      cases result with
      | error failure => simp
      | ok rule =>
          dsimp only
          cases refused : refuses rule level (Context.merge context extra) with
          | true => simp [refused]
          | false =>
              simp only [Bool.false_eq_true, if_false, exec_map, Except.map_eq_ok_iff, Prod.mk.injEq,
                true_and, exists_eq_right, Except.ok.injEq]
              constructor
              · intro done
                exact ⟨rule, last, ⟨rfl, rfl⟩, refused, done⟩
              · rintro ⟨other, later, ⟨rfl, rfl⟩, -, done⟩
                exact done

end Act

end LogGate

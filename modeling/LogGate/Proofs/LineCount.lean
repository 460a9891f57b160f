import LogGate.Proofs.Ancestry
import LogGate.Proofs.Isolation
import LogGate.Proofs.LoggerSettings
import LogGate.Proofs.LineReading
import LogGate.Proofs.PlainLines
import LogGate.Proofs.ServingLogger

/-!
The lines of an event. An event that its own logger lets pass is written once by each logger that has a
handler, from this logger up to the root. The rules of the loggers above are not asked.
-/

namespace LogGate

/-- What an event writes once its logger is there: nothing if its record cannot be made. -/
def Session.written (session : Session) (context : Context) (target : Option String) (level : Int)
    (message : Value) (arguments : List Value) (fields : Context) : String :=
  match Record.new session.clock (LoggerTree.nameOf target) level message arguments none with
  | .error _ => ""
  | .ok record =>
    if session.loggers.isEnabled target level then
      (Act.output session context target (record.withContext fields)).toOption.getD ""
    else ""

/-- Logging changes nothing, and writes what the event comes to. -/
theorem Act.exec_log_written (session : Session) (context : Context) (target : Option String)
    (level : Int) (message : Value) (arguments : List Value) (fields : Context) :
    ∃ result, (log context target level message arguments fields).exec session = (result, session) ∧
      result.toOption.getD "" = session.written context target level message arguments fields := by
  rw [Session.written]
  cases made : Record.new session.clock (LoggerTree.nameOf target) level message arguments none with
  | ok record =>
      refine ⟨_, exec_log made fields, ?_⟩
      by_cases enabled : session.loggers.isEnabled target level <;> simp only [enabled] <;> rfl
  | error failure =>
      by_cases enabled : session.loggers.isEnabled target level
      · exact ⟨.error failure, by simp [log, exec_bind, enabled, made], rfl⟩
      · exact ⟨.ok "", by simp [log, exec_bind, enabled], rfl⟩

/-- An event without a context of its own changes nothing but that its logger is there, and writes what
its record comes to. -/
theorem run_log (ambient : Ambient) (session : Session) (name : String) (level : Int)
    (message : Literal) (arguments : List Literal) :
    let event := Step.operation (.log name level message arguments)
    let ready := session.ensured (LoggerTree.target name)
    (event.run ambient session).2 = (ambient, ready) ∧
      event.output (event.run ambient session).1 =
        match message.read session.registry, Literal.readItems session.registry arguments with
        | .ok message, .ok arguments =>
          ready.written ambient.context (LoggerTree.target name) level message arguments []
        | _, _ => "" := by
  intro event ready
  have read := Operation.exec_log ambient.context session name level message arguments
  cases given : message.read session.registry with
  | error failure =>
      rw [given] at read
      rw [Step.run_operation read]
      exact ⟨rfl, rfl⟩
  | ok content =>
      rw [given] at read
      cases listed : Literal.readItems session.registry arguments with
      | error failure =>
          rw [listed] at read
          rw [Step.run_operation read]
          exact ⟨rfl, rfl⟩
      | ok values =>
          obtain ⟨result, logged, output⟩ := Act.exec_log_written ready ambient.context
            (LoggerTree.target name) level content values []
          rw [listed] at read
          dsimp only at read
          rw [Act.exec_map, logged] at read
          rw [Step.run_operation read]
          refine ⟨rfl, Eq.trans ?_ output⟩
          cases result <;> rfl

/-- A rule of the logger itself denies plain events of this level. -/
def Logger.Refuses (logger : Logger) (registry : Registry) (context : Context) (level : Int) : Prop :=
  ∃ kept ∈ logger.rules, Rule.denies
    (kept.2.outcome .severity (registry.ofNumber level) (Snapshot.ofEntries context)) = true

instance (logger : Logger) (registry : Registry) (context : Context) (level : Int) :
    Decidable (logger.Refuses registry context level) := by
  unfold Logger.Refuses
  infer_instance

/-- A logger lets a plain record pass that none of its rules denies. -/
theorem Logger.admits_plain (logger : Logger) (registry : Registry) (context : Context)
    {record : Record} {level : Int} (unmarked : record.contextEntries = [])
    (leveled : record.level = .int level) :
    logger.admits registry context record = .ok (!decide (logger.Refuses registry context level)) := by
  rw [admits_int logger registry context leveled, Record.snapshot?_of_unmarked unmarked,
    Option.getD_none, Except.ok.injEq, Bool.eq_iff_iff, Bool.not_eq_true', decide_eq_false_iff_not,
    Refuses]
  simp

namespace LoggerTree

variable {tree first second : LoggerTree} {target : Option String}

theorem target_eq_some {name other : String} (same : LoggerTree.target name = some other) :
    name = other := by
  rw [LoggerTree.target] at same
  split at same
  · contradiction
  · exact Option.some.inj same

/-- A logger, its ancestors and the root, the nearest first. -/
def withAncestors (tree : LoggerTree) : Option String → List (Option String)
  | none => [none]
  | some name => some name :: ((tree.ancestors name).map some ++ [none])

/-- The loggers with a handler, from a logger up to the root. -/
def writers (tree : LoggerTree) (target : Option String) : List (Option String) :=
  (tree.withAncestors target).filter fun logger => (tree.get logger).handlers != 0

/-- The way up is the logger, its ancestors and the root. -/
theorem path_eq_withAncestors (ancestry : tree.Ancestry) (known : tree.Knows target)
    (plain : ∀ name, target = some name → Logger.Plain name.toList) :
    tree.path target = tree.withAncestors target := by
  cases target with
  | none => rfl
  | some name => exact path_eq_ancestors ancestry (plain name rfl) (known name rfl)

/-- Names above that have no logger have no handler either, so that they need not be left out. -/
theorem writers_eq_of_far {name : String}
    (far : ∀ above ∈ namesAbove name, beginsRoot above = false) :
    tree.writers (some name) = (some name :: ((namesAbove name).map some ++ [none])).filter
      fun logger => (tree.get logger).handlers != 0 := by
  have bare {above : String} (handled : ((tree.get (some above)).handlers != 0) = true) :
      tree.named.has above = true := by
    rw [← Fields.isSome_get?]
    cases found : tree.named.get? above with
    | none => simp [get, found, Logger.fresh] at handled
    | some logger => rfl
  have middle : ((tree.ancestors name).map some).filter (fun logger => (tree.get logger).handlers != 0) =
      ((namesAbove name).map some).filter fun logger => (tree.get logger).handlers != 0 := by
    rw [ancestors_eq_filter far, List.filter_map, List.filter_map, List.filter_filter]
    congr 1
    refine List.filter_congr fun above _ => ?_
    rw [Bool.eq_iff_iff, Bool.and_eq_true]
    exact ⟨And.left, fun handled => ⟨handled, bare handled⟩⟩
  rw [writers, withAncestors, List.filter_cons, List.filter_cons, List.filter_append,
    List.filter_append, middle]

/-- Where no logger has two handlers, these are counted by the loggers that have one. -/
theorem handlerCount_eq_length (once : ∀ target, (tree.get target).handlers ≤ 1) :
    tree.handlerCount target =
      ((tree.path target).filter fun logger => (tree.get logger).handlers != 0).length := by
  rw [handlerCount, chain_eq_map_path]
  induction tree.path target with
  | nil => rfl
  | cons logger rest ih =>
      rw [List.map_cons, List.foldr_cons, ih]
      by_cases bare : (tree.get logger).handlers = 0
      · rw [List.filter_cons_of_neg (by simpa using bare), bare, Nat.zero_add]
      · have one : (tree.get logger).handlers = 1 :=
          Nat.le_antisymm (once logger) (Nat.one_le_iff_ne_zero.mpr bare)
        rw [List.filter_cons_of_pos (by simpa using bare), one, List.length_cons, Nat.add_comm]

/-- The levels along the way up decide. -/
theorem effectiveLevel_congr (shape : first.bare = second.bare)
    (levels : ∀ logger, (first.get logger).level = (second.get logger).level) :
    first.effectiveLevel target = second.effectiveLevel target := by
  rw [effectiveLevel, effectiveLevel, chain_eq_map_path, chain_eq_map_path, path_congr shape,
    List.map_map, List.map_map]
  congr 3
  exact funext levels

/-- The handlers along the way up are counted. -/
theorem handlerCount_congr (shape : first.bare = second.bare)
    (handlers : ∀ logger, (first.get logger).handlers = (second.get logger).handlers) :
    first.handlerCount target = second.handlerCount target := by
  rw [handlerCount, handlerCount, chain_eq_map_path, chain_eq_map_path, path_congr shape,
    List.foldr_map, List.foldr_map]
  congr 1
  funext logger count
  rw [handlers]

end LoggerTree

namespace Session

variable {session : Session} {context : Context} {target : Option String} {level : Int}
  {message : Value} {arguments : List Value}

/-- An event of a level that is not enabled writes nothing, nor does one that the own rules deny. -/
theorem written_of_silent (silent : level ≤ 0 ∨ level < session.loggers.effectiveLevel target ∨
      (session.loggers.get target).Refuses session.registry context level) :
    session.written context target level message arguments [] = "" := by
  rw [written]
  cases made : Record.new session.clock (LoggerTree.nameOf target) level message arguments none with
  | error failure => rfl
  | ok record =>
      dsimp only
      split
      · next enabled =>
        rw [LoggerTree.isEnabled, Bool.and_eq_true, decide_eq_true_eq, decide_eq_true_eq] at enabled
        have refuses := (silent.resolve_left (by omega)).resolve_left (by omega)
        have denied := (session.loggers.get target).admits_plain session.registry context
          (Record.contextEntries_new made) (Record.new_cases made).2.1
        rw [decide_eq_true refuses] at denied
        rw [show record.withContext [] = record from rfl, Act.output_of_denied denied]
        rfl
      · rfl

/-- Any other event is written once for each handler that it reaches. -/
theorem written_of_not_silent (heard : ¬(level ≤ 0 ∨ level < session.loggers.effectiveLevel target ∨
      (session.loggers.get target).Refuses session.registry context level)) :
    session.written context target level message arguments [] =
      String.join (List.replicate (session.loggers.handlerCount target)
        (Event.textOf (Event.lineAt session.clock target level message arguments []))) := by
  rw [not_or, not_or, Int.not_le, Int.not_lt] at heard
  obtain ⟨positive, reached, admitted⟩ := heard
  have enabled : session.loggers.isEnabled target level = true := by
    rw [LoggerTree.isEnabled, decide_eq_true positive, decide_eq_true reached, Bool.and_true]
  rw [written, Event.lineAt]
  cases made : Record.new session.clock (LoggerTree.nameOf target) level message arguments none with
  | error failure =>
      have nothing (count : Nat) : String.join (List.replicate count "") = "" := by
        induction count with
        | zero => rfl
        | succ count ih => rw [List.replicate_succ, String.join_cons, ih, String.empty_append]
      exact (nothing _).symm
  | ok record =>
      have passed := (session.loggers.get target).admits_plain session.registry context
        (Record.contextEntries_new made) (Record.new_cases made).2.1
      rw [decide_eq_false admitted] at passed
      dsimp only
      rw [if_pos enabled, show record.withContext [] = record from rfl,
        Act.output_of_admitted passed]
      rfl

end Session

/-- The line of an event with a text and without arguments, at a time that can be written. -/
theorem Event.lineAt_text {clock : Binary64} {time : String} (timed : Timestamp.text clock = .ok time)
    (target : Option String) (level : Int) (message : String) :
    lineAt clock target level (.text message) [] [] =
      .ok (Json.object [("level", Json.string (Level.numberName level)),
        ("logger", Json.string (LoggerTree.nameOf target)), ("message", Json.string message),
        ("timestamp", Json.string time)]) := by
  cases clock with
  | undefined mark => cases timed
  | infinite negative => cases timed
  | finite negative significand exponent =>
      let record : Record := ⟨.text (LoggerTree.nameOf target), .int level,
        .text (Level.numberName level), .text message, .tuple [], none,
        .float (.finite negative significand exponent), []⟩
      have own : Line.ownMembers record true = .ok (Line.startMembers record true message time) :=
        Line.ownMembers_eq_startMembers rfl fun _ => timed
      have all : Line.members record true = .ok (Line.startMembers record true message time) := by
        rw [Line.members, own]
        rfl
      have line : lineAt (.finite negative significand exponent) target level (.text message) [] [] =
          Line.ofRecord record true := rfl
      rw [line, Line.ofRecord, all]
      rfl

/-- Trees in which a logger logs alike: they have the same loggers, of the same levels and with the same
handlers, and the logger itself has the same rules, under whatever numbers. -/
structure LoggerTree.LogsAlike (target : Option String) (first second : LoggerTree) : Prop where
  shape : second.bare = first.bare
  levels : ∀ logger, (second.get logger).level = (first.get logger).level
  handlers : ∀ logger, (second.get logger).handlers = (first.get logger).handlers
  rules : (second.get target).rules.map (·.2) = (first.get target).rules.map (·.2)

/-- A logger that is made in both trees logs alike. -/
theorem LoggerTree.LogsAlike.ensure {target : Option String} {first second : LoggerTree}
    (alike : LogsAlike target first second) (other : Option String) :
    LogsAlike target (first.ensure other) (second.ensure other) := by
  refine ⟨?_, fun logger => ?_, fun logger => ?_, ?_⟩
  · rw [bare_ensure, bare_ensure, alike.shape]
  · rw [level_ensure, level_ensure, alike.levels]
  · rw [handlers_ensure, handlers_ensure, alike.handlers]
  · rw [rules_ensure, rules_ensure, alike.rules]

/-- What an event writes depends on nothing else of the loggers. -/
theorem Session.written_congr {session : Session} {target : Option String} {loggers : LoggerTree}
    (alike : LoggerTree.LogsAlike target session.loggers loggers) (context : Context) (level : Int)
    (message : Value) (arguments : List Value) (fields : Context) :
    Session.written { session with loggers } context target level message arguments fields =
      session.written context target level message arguments fields := by
  simp only [written, LoggerTree.isEnabled, Act.output, Logger.admits, alike.rules,
    LoggerTree.effectiveLevel_congr alike.shape alike.levels,
    LoggerTree.handlerCount_congr alike.shape alike.handlers]
  rfl

/-- An event that its own logger lets pass is written once by each logger with a handler on the way up. -/
theorem Reached.output_of_heard {ambient : Ambient} {session : Session} (reached : Reached ambient session)
    {name : String} (plain : Logger.Plain name.toList) {level : Int} {message : String} :
    let target := LoggerTree.target name
    let tree := session.loggers.ensure target
    let event := Step.operation (.log name level (.text message) [])
    ¬(level ≤ 0 ∨ level < tree.effectiveLevel target ∨
      (tree.get target).Refuses session.registry ambient.context level) →
    event.output (event.run ambient session).1 = String.join ((tree.writers target).map fun _ =>
      Event.textOf (Event.lineAt session.clock target level (.text message) [] [])) := by
  intro target tree event heard
  have known : tree.Knows target := session.loggers.knows_ensure target
  have ancestry : tree.Ancestry := reached.grown.ancestry.ensure target
  have once : ∀ logger, (tree.get logger).handlers ≤ 1 := by
    intro logger
    rw [LoggerTree.handlers_ensure]
    exact reached.reachable.setUpOnce.handlers_le_one logger
  have named : ∀ other, target = some other → Logger.Plain other.toList := by
    intro other same
    rw [← LoggerTree.target_eq_some same]
    exact plain
  have logged := (run_log ambient session name level (.text message) []).2
  refine logged.trans ((Session.written_of_not_silent heard).trans ?_)
  change String.join (List.replicate (tree.handlerCount target) _) = _
  rw [LoggerTree.handlerCount_eq_length once,
    LoggerTree.path_eq_withAncestors ancestry known named, List.map_const']
  rfl

/-- In every state that code can come to, a plain event writes nothing if its level is not enabled for its
logger or a rule of this logger denies it. Otherwise each logger with a handler, from this logger up to the
root, writes the same line once. The rules of the loggers above do not matter. -/
theorem lines_of_event {ambient : Ambient} {session : Session} (reached : Reached ambient session)
    {name : String} (plain : Logger.Plain name.toList) (level : Int) (message : String) :
    let target := LoggerTree.target name
    let tree := session.loggers.ensure target
    let silent := level ≤ 0 ∨ level < tree.effectiveLevel target ∨
      (tree.get target).Refuses session.registry ambient.context level
    let event := Step.operation (.log name level (.text message) [])
    let line := Event.lineAt session.clock target level (.text message) [] []
    let output := event.output (event.run ambient session).1
    (silent → output = "") ∧
    (¬silent → output = String.join ((tree.writers target).map fun _ => Event.textOf line)) ∧
    (∀ time, Timestamp.text session.clock = .ok time → ∃ text, line = .ok text ∧
      '\n' ∉ text.toList ∧ text = Json.object [("level", Json.string (Level.numberName level)),
        ("logger", Json.string (LoggerTree.nameOf target)), ("message", Json.string message),
        ("timestamp", Json.string time)]) ∧
    ∀ loggers, LoggerTree.LogsAlike target session.loggers loggers →
      event.output (event.run ambient { session with loggers }).1 = output := by
  intro target tree silent event line output
  have logged (ready : Session) : event.output (event.run ambient ready).1 =
      (ready.ensured target).written ambient.context target level (.text message) [] [] :=
    (run_log ambient ready name level (.text message) []).2
  refine ⟨fun quiet => ?_, fun heard => ?_, fun time timed => ?_, fun loggers alike => ?_⟩
  · exact (logged session).trans (Session.written_of_silent quiet)
  · exact reached.output_of_heard plain heard
  · refine ⟨_, Event.lineAt_text timed target level message, ?_, rfl⟩
    refine Json.newline_not_mem_object ?_
    simp only [List.forall_mem_cons, Json.newline_not_mem_string]
    simp
  -- A logger that is new is made in both sessions alike, so that they still log alike afterwards.
  · have same : Session.written { session.ensured target with loggers := loggers.ensure target }
        ambient.context target level (.text message) [] [] = _ :=
      Session.written_congr (alike.ensure target) _ _ _ _ _
    exact (logged { session with loggers }).trans (same.trans (logged session).symm)

/-- Two loggers of one configuration, of which the upper one is two names above the lower one. -/
def twoWriters : List Step :=
  [.operation (.newConfig (some "c") [("key", .text "tenant")]),
    .operation (.getLogger (.text "shop.orders.mail") (some "c")),
    .operation (.getLogger (.text "shop") (some "c"))]

theorem lines_of_event_of_two_writers :
    let after := runAll ⟨0, []⟩ Session.initial twoWriters
    let event := Step.operation (.log "shop.orders.mail" 40 (.text "down") [])
    let line := "\x7b\"level\":\"ERROR\",\"logger\":\"shop.orders.mail\",\"message\":\"down\"," ++
      "\"timestamp\":\"2023-11-14T22:13:20Z\"\x7d\n"
    event.output (event.run after.2.1 after.2.2).1 = line ++ line := by
  intro after event line
  have reached : Reached after.2.1 after.2.2 := Reached.start.runAll twoWriters
  have plain : Logger.Plain "shop.orders.mail".toList := by
    unfold Logger.Plain
    decide +kernel
  obtain ⟨-, heard, -⟩ := lines_of_event reached plain 40 "down"
  refine (heard ?_).trans ?_
  · decide +kernel
  · decide +kernel

/-- A younger logger with a name like the start of the name of the root gets no lines of the older loggers
below it. -/
theorem younger_logger_is_passed_over :
    ¬ ∀ (steps : List Step) (name : String) (level : Int) (message : String),
      Logger.Plain name.toList → LoggerTree.target name = some name →
      let after := runAll ⟨0, []⟩ Session.initial steps
      let tree := after.2.2.loggers.ensure (some name)
      let event := Step.operation (.log name level (.text message) [])
      let line := Event.lineAt after.2.2.clock (some name) level (.text message) [] []
      let writers := (some name :: ((LoggerTree.namesAbove name).map some ++ [none])).filter
        fun logger => (tree.get logger).handlers != 0
      0 < level → tree.effectiveLevel (some name) ≤ level →
      ¬(tree.get (some name)).Refuses after.2.2.registry after.2.1.context level →
      event.output (event.run after.2.1 after.2.2).1 =
        String.join (writers.map fun _ => Event.textOf line) := by
  intro counted
  have plain : Logger.Plain "r.x".toList := by
    unfold Logger.Plain
    decide +kernel
  have lines := counted [.operation (.newConfig (some "c") [("key", .text "tenant")]),
    .operation (.getLogger (.text "r.x") (some "c")), .operation (.getLogger (.text "r") (some "c"))]
    "r.x" 40 "down" plain rfl (by decide) (by decide +kernel) (by decide +kernel)
  exact absurd lines (by decide +kernel)

/-- Below loggers of other names, every logger above writes the line that has a handler. -/
theorem lines_of_event_by_name {ambient : Ambient} {session : Session} (reached : Reached ambient session)
    {name : String} (plain : Logger.Plain name.toList) (named : LoggerTree.target name = some name)
    (far : ∀ above ∈ LoggerTree.namesAbove name, LoggerTree.beginsRoot above = false) {level : Int}
    (message : String) :
    let tree := session.loggers.ensure (some name)
    let event := Step.operation (.log name level (.text message) [])
    let line := Event.lineAt session.clock (some name) level (.text message) [] []
    let writers := (some name :: ((LoggerTree.namesAbove name).map some ++ [none])).filter
      fun logger => (tree.get logger).handlers != 0
    0 < level → tree.effectiveLevel (some name) ≤ level →
    ¬(tree.get (some name)).Refuses session.registry ambient.context level →
    event.output (event.run ambient session).1 =
      String.join (writers.map fun _ => Event.textOf line) := by
  intro tree event line writers positive enabled admitted
  have written := @Reached.output_of_heard ambient session reached name plain level message
  rw [named] at written
  refine (written ?_).trans ?_
  · rw [not_or, not_or, Int.not_le, Int.not_lt]
    exact ⟨positive, enabled, admitted⟩
  · rw [LoggerTree.writers_eq_of_far far]

end LogGate

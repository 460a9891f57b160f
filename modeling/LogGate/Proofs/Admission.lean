import LogGate.Proofs.NamedContext
import LogGate.Proofs.Precheck

/-!
The events of a run, and the events that a configuration admits. The admission of an event is the
judgement of the rule that is built from the configuration, behind the gate of the configured level.
-/

namespace LogGate

/-- An event that a logger is asked to log, with the context that it is judged in, and the line of its
record, if that can be written. -/
structure Event where
  rank : Int
  context : Context
  line : Except Failure String

namespace Event

/-- A line that cannot be written is left out. -/
def textOf (line : Except Failure String) : String :=
  match line with
  | .ok line => line ++ "\n"
  | .error _ => ""

/-- The line of a record that is made at the time of the clock and carries some fields. -/
def lineAt (clock : Binary64) (target : Option String) (rank : Int) (message : Value)
    (arguments : List Value) (fields : Context) : Except Failure String :=
  (Record.new clock (LoggerTree.nameOf target) rank message arguments none).bind fun record =>
    Line.ofRecord (record.withContext fields) true

end Event

/-- These names are parameters of a call and cannot name extra fields. -/
def parameterNames : List String := ["logger", "level", "message", "config"]

/-- The level, the message and the extra fields of a call are read in this order. -/
def readCall (registry : Registry) (level message : Literal) (extra : List (String × Literal)) :
    Except Failure (Value × Value × Fields String Value) :=
  (level.read registry).bind fun level => (message.read registry).bind fun message =>
    (Literal.readNamed registry extra).map fun extra => (level, message, extra)

/-- The message and the arguments of a plain event are read before it is logged. -/
theorem Operation.exec_log (context : Context) (session : Session) (name : String) (level : Int)
    (message : Literal) (arguments : List Literal) :
    ((Operation.log name level message arguments).perform context).exec session =
      match message.read session.registry, Literal.readItems session.registry arguments with
      | .ok message, .ok arguments =>
        (Answer.text <$> Act.log context (LoggerTree.target name) level message arguments []).exec
          (session.ensured (LoggerTree.target name))
      | .error failure, _ | .ok _, .error failure =>
        (.error failure, session.ensured (LoggerTree.target name)) := by
  have asked := Act.exec_logger name session
  have given := Act.exec_read message (session.ensured (LoggerTree.target name))
  have listed := Act.exec_readAll arguments (session.ensured (LoggerTree.target name))
  rw [show (session.ensured (LoggerTree.target name)).registry = session.registry from rfl]
    at given listed
  rw [Operation.perform, Act.exec_bind_ok asked]
  cases read : message.read session.registry with
  | error failure =>
      rw [read] at given
      rw [Act.exec_bind_error given]
  | ok content =>
      rw [read] at given
      rw [Act.exec_bind_ok given]
      cases readAll : Literal.readItems session.registry arguments with
      | error failure =>
          rw [readAll] at listed
          rw [Act.exec_bind_error listed]
      | ok values =>
          rw [readAll] at listed
          rw [Act.exec_bind_ok listed, ← map_eq_pure_bind]

/-- A call is read before anything else happens. -/
theorem Operation.exec_logWithContext (context : Context) (session : Session) (name : String)
    (given message : Literal) (config : ConfigArgument) (extra : List (String × Literal)) :
    ((Operation.logWithContext name given message config extra).perform context).exec session =
      match readCall session.registry given message extra with
      | .error failure => (.error failure, session.ensured (LoggerTree.target name))
      | .ok (given, message, extra) =>
        (Act.callConfig config extra >>= fun configured =>
          Act.logCall context (LoggerTree.target name) given message configured.1 configured.2).exec
            (session.ensured (LoggerTree.target name)) := by
  have asked := Act.exec_logger name session
  have graded := Act.exec_read given (session.ensured (LoggerTree.target name))
  have worded := Act.exec_read message (session.ensured (LoggerTree.target name))
  have listed := Act.exec_readFields extra (session.ensured (LoggerTree.target name))
  rw [show (session.ensured (LoggerTree.target name)).registry = session.registry from rfl]
    at graded worded listed
  rw [Operation.perform, Act.exec_bind_ok asked, readCall]
  cases readLevel : given.read session.registry with
  | error failure =>
      rw [readLevel] at graded
      rw [Act.exec_bind_error graded, Except.bind]
  | ok value =>
      rw [readLevel] at graded
      rw [Act.exec_bind_ok graded, Except.bind]
      cases readMessage : message.read session.registry with
      | error failure =>
          rw [readMessage] at worded
          rw [Act.exec_bind_error worded, Except.bind]
      | ok content =>
          rw [readMessage] at worded
          rw [Act.exec_bind_ok worded, Except.bind]
          cases readExtra : Literal.readNamed session.registry extra with
          | error failure =>
              rw [readExtra] at listed
              rw [Act.exec_bind_error listed, Except.map]
          | ok fields =>
              rw [readExtra] at listed
              rw [Act.exec_bind_ok listed, Except.map]

/-- The event of a call, unless the call fails before there is one. A plain event is judged in the
ambient context, and an event with a context in the merged one. -/
def Operation.event? (context : Context) (session : Session) : Operation → Option Event
  | .log name rank message arguments =>
    match message.read session.registry, Literal.readItems session.registry arguments with
    | .ok message, .ok arguments => some ⟨rank, context,
      Event.lineAt session.clock (LoggerTree.target name) rank message arguments []⟩
    | _, _ => none
  | .logWithContext name level message _ extra =>
    match readCall session.registry level message extra with
    | .error _ => none
    | .ok (given, message, extra) =>
      if parameterNames.any (extra.has ·) then none
      else
        match session.registry.resolve given none with
        | .error _ => none
        | .ok level => some ⟨level.rank, Context.merge context extra,
          Event.lineAt session.clock (LoggerTree.target name) level.rank message []
            (Context.merge context extra)⟩
  | _ => none

def Step.event? (ambient : Ambient) (session : Session) : Step → Option Event
  | .operation call => call.event? ambient.context session
  | _ => none

/-- The events of a run, in their order. -/
def events (ambient : Ambient) (session : Session) : List Step → List Event
  | [] => []
  | step :: rest => (step.event? ambient session).toList ++
    events (step.run ambient session).2.1 (step.run ambient session).2.2 rest

/-- What a step writes. -/
def Step.output : Step → Except Failure Answer → String
  | .operation (.log ..), .ok (.text output) => output
  | .operation (.logWithContext ..), .ok (.logged _ output) => output
  | _, _ => ""

/-- What a run writes in all. -/
def stdout (steps : List Step) (answers : List (Except Failure Answer)) : String :=
  String.join (List.zipWith Step.output steps answers)

namespace Config

/-- An event reaches a level whose rank is not above its own. -/
def reaches (rank : Int) (level : Except Failure Level) : Bool :=
  match level with
  | .ok level => level.rank ≤ rank
  | .error _ => false

/-- An event has to reach the level of the logger and, if its context has a value under the key, the
threshold of this value. -/
def admits (config : Config) (registry : Registry) (rank : Int) (context : Context) : Bool :=
  reaches rank (registry.resolve config.logLevel none) &&
    match context.value? config.key with
    | none => true
    | some value => reaches rank (config.threshold registry value.plain)

/-- The admission of an event is the judgement of the rule behind the gate of the logger's level. -/
theorem admits_eq {config : Config} {registry : Registry} {rule : Rule} {level : Level}
    (built : config.buildRule registry = .ok rule)
    (read : registry.resolve config.logLevel none = .ok level)
    (accepts : Rule.denies rule.onMatch = false) (refuses : Rule.denies rule.onMismatch = true)
    {context : Context} (named : context.IsNamed) (grade : Level) :
    config.admits registry grade.rank context = (decide (level.rank ≤ grade.rank) &&
      !Rule.denies (rule.outcome .severity grade (Snapshot.ofEntries context))) := by
  obtain ⟨key, -⟩ := Rule.create_eq_ok_iff.mp (buildRule_eq_ok_iff.mp built).2
  rw [admits, read, Rule.outcome, Rule.outcomeBy, named.get?_snapshot, key]
  cases context.value? (.text rule.key) with
  | none => rfl
  | some value =>
      simp only [Option.map_some, threshold_of_buildRule built, reaches, LevelOrder.passes]
      by_cases reached : (rule.table.lookup (.text value.plain)).rank ≤ grade.rank <;>
        simp [reached, accepts, refuses]

end Config

end LogGate

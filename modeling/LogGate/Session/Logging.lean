import LogGate.Line
import LogGate.Session

/-!
Loggers at work: the default configuration, the rule of a configuration, setting up a logger, and
logging an event.
-/

namespace LogGate.Act

/-- The default configuration is read from the environment at its first use and kept. -/
def defaultConfig : Act Nat := do
  match (← get).defaultConfig with
  | some number => pure number
  | none =>
    let config ← attempt (Config.ofEnvironment (← get).environment)
    let number ← addConfig config
    modify fun session => { session with defaultConfig := some number }
    return number

def configOrDefault (config : Option Nat) : Act Nat :=
  match config with
  | some number => pure number
  | none => defaultConfig

/-- The rule of an active configuration is built once; later changes of the configuration do not
change it. -/
def ruleOf (number : Nat) : Act (Option (Nat × Rule)) := do
  let config := (← get).config number
  if config.isActive then
    match (← get).rules.get? number with
    | some rule => return some rule
    | none =>
      let rule ← attempt (config.buildRule (← get).registry)
      let own ← nextNumber
      modify fun session => { session with rules := session.rules.put number (own, rule) }
      return some (own, rule)
  else return none

def changeLogger (target : Option String) (change : Logger → Logger) : Act Unit :=
  modify fun session =>
    { session with loggers := session.loggers.set target (change (session.loggers.get target)) }

/-- Asking for a logger makes it, if there is none of that name. -/
def logger (name : String) : Act (Option String) := do
  let target := LoggerTree.target name
  modify fun session => { session with loggers := session.loggers.ensure target }
  return target

/-- A name that counts as false means the root, and only a text can name another logger. -/
def loggerOf (name : Value) : Act (Option String) :=
  match name with
  | .text content => logger content
  | _ => if name.isTrue then throw .unsuitable else logger ""

/-- A logger is set up in steps: level, handler, rule. -/
def setUp (target : Option String) (number : Nat) : Act Unit := do
  let level ← attempt ((← get).registry.resolve ((← get).config number).logLevel none)
  changeLogger target fun logger => { logger with level := level.rank }
  changeLogger target fun logger => { logger with handlers := logger.handlers + 1 }
  match ← ruleOf number with
  | some kept =>
    changeLogger target fun logger => { logger with rules := logger.rules ++ [kept] }
  | none => pure ()

/-- A logger with a handler is left as it is. -/
def getLogger (name : Value) (config : Option Nat) : Act (Option String) := do
  let target ← loggerOf name
  if ((← get).loggers.get target).handlers == 0 then
    setUp target (← configOrDefault config)
  return target

/-- A record that cannot be written as a line leaves no trace. -/
def lineOf (record : Record) : String :=
  match Line.ofRecord record true with
  | .ok line => line ++ "\n"
  | .error _ => ""

/-- Every handler that the record reaches writes the same line. -/
def output (session : Session) (context : Context) (target : Option String) (record : Record) :
    Except Failure String :=
  ((session.loggers.get target).admits session.registry context record).map fun admitted =>
    if admitted then
      String.join (List.replicate (session.loggers.handlerCount target) (lineOf record))
    else ""

/-- An event at an enabled level becomes a record with the given fields. -/
def log (context : Context) (target : Option String) (level : Int) (message : Value)
    (arguments : List Value) (fields : Context) : Act String := do
  let session ← get
  if session.loggers.isEnabled target level then
    let record ← attempt
      (Record.new session.clock (LoggerTree.nameOf target) level message arguments none)
    attempt (output session context target (record.withContext fields))
  else return ""

/-- An event is first judged by the rule of its configuration, in the merged context; unless it is
denied, it is logged with that context. -/
def logWithContext (context : Context) (target : Option String) (level message : Value)
    (config : Option Nat) (extra : Fields String Value) : Act (Bool × String) := do
  let level ← attempt ((← get).registry.resolve level none)
  let merged := Context.merge context extra
  match ← ruleOf (← configOrDefault config) with
  | some (_, rule) =>
    if Rule.denies (rule.outcome .severity level (Snapshot.ofEntries merged)) then
      return (false, "")
  | none => pure ()
  return (true, ← log context target level.rank message [] merged)

end LogGate.Act

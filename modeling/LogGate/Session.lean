import LogGate.Config
import LogGate.Filter
import LogGate.Logger
import LogGate.Value.Literal

/-!
The state of a session, which all code that runs in it shares: levels, named objects, configurations
and what was built from them, loggers, the environment and the clock. The ambient context is not part
of it.
-/

namespace LogGate

/-- A source of snapshot data counts how often it was asked. -/
structure Source where
  data : Value
  calls : Nat

/-- Filters and configurations have numbers, so that one object can have several names. -/
inductive Object where
  | level (level : Level)
  | table (table : ThresholdTable)
  | snapshot (snapshot : Snapshot)
  | provider (provider : Provider)
  | filter (number : Nat) (filter : Filter)
  | config (number : Nat)

/-- An open scope remembers the context to restore, and which running code it belongs to. -/
structure Scope where
  restored : Context
  home : Nat

structure Session where
  registry : Registry
  objects : Fields String Object
  sources : List Source
  configs : List Config
  /-- The rule that was built for a configuration, under the number of the configuration. -/
  rules : Fields Nat (Nat × Rule)
  /-- The count of filters and rules built so far. -/
  built : Nat
  defaultConfig : Option Nat
  environment : Environment
  loggers : LoggerTree
  clock : Binary64
  /-- The count of request names issued so far. -/
  requests : Nat
  scopes : Fields String Scope
  /-- The count of running codes so far. -/
  homes : Nat

namespace Session

/-- A new session knows the standard levels and nothing else; its clock stands at 1700000000. -/
def initial : Session where
  registry := .standard
  objects := []
  sources := []
  configs := []
  rules := []
  built := 0
  defaultConfig := none
  environment := []
  loggers := .initial
  clock := .ofInt 1700000000
  requests := 0
  scopes := []
  homes := 1

def config (session : Session) (number : Nat) : Config :=
  session.configs[number]?.getD {}

def source (session : Session) (number : Nat) : Source :=
  session.sources[number]?.getD ⟨.absent, 0⟩

end Session

/-- An action on the session gives a result or fails; what it changed before it failed stays. -/
abbrev Act := ExceptT Failure (StateM Session)

namespace Act

def attempt {α : Type} (result : Except Failure α) : Act α :=
  ExceptT.mk (pure result)

def read (literal : Literal) : Act Value := do
  attempt (literal.read (← get).registry)

def readAll : List Literal → Act (List Value)
  | [] => pure []
  | literal :: rest => do
    let value ← read literal
    return value :: (← readAll rest)

def readPairs (fields : List (String × Literal)) : Act (List (String × Value)) := do
  attempt (Literal.readPairs (← get).registry fields)

def readFields (fields : List (String × Literal)) : Act (Fields String Value) := do
  attempt (Literal.readNamed (← get).registry fields)

/-- An object without a name is not kept. -/
def store (name : Option String) (object : Object) : Act Unit :=
  match name with
  | some name => modify fun session => { session with objects := session.objects.put name object }
  | none => pure ()

def object (name : String) : Act Object := do
  match (← get).objects.get? name with
  | some object => pure object
  | none => throw .unknownObject

def table (name : String) : Act ThresholdTable := do
  match ← object name with
  | .table table => pure table
  | _ => throw .unknownObject

def snapshot (name : String) : Act Snapshot := do
  match ← object name with
  | .snapshot snapshot => pure snapshot
  | _ => throw .unknownObject

def provider (name : String) : Act Provider := do
  match ← object name with
  | .provider provider => pure provider
  | _ => throw .unknownObject

def filter (name : String) : Act Filter := do
  match ← object name with
  | .filter _ filter => pure filter
  | _ => throw .unknownObject

def config (name : String) : Act Nat := do
  match ← object name with
  | .config number => pure number
  | _ => throw .unknownObject

/-- Every filter and every rule gets a number of its own. -/
def nextNumber : Act Nat := do
  let number := (← get).built
  modify fun session => { session with built := session.built + 1 }
  return number

def addConfig (config : Config) : Act Nat := do
  let number := (← get).configs.length
  modify fun session => { session with configs := session.configs ++ [config] }
  return number

def replaceConfig (number : Nat) (config : Config) : Act Unit :=
  modify fun session => { session with configs := session.configs.set number config }

/-- The name of a new request holds the count of requests in twelve hexadecimal digits. -/
def requestName (count : Nat) : String :=
  "00000000-0000-4000-8000-" ++ String.ofList (Text.hexDigits 12 count)

def nextRequest : Act Value := do
  let count := (← get).requests + 1
  modify fun session => { session with requests := count }
  return .text (requestName count)

end Act

end LogGate

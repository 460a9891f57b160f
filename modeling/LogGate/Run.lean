import LogGate.Step.Effect

/-!
Running scripts. The ambient context belongs to the code that runs; the session is shared. A block
that runs as a thread or as a task has a context of its own and leaves the outer one as it was.
-/

namespace LogGate

/-- The context of one running code, which its home tells apart from all others. -/
structure Ambient where
  home : Nat
  context : Context

namespace ContextChange

/-- A change gives the new context, or fails and leaves the old one. -/
def apply (registry : Registry) (context : Context) : ContextChange → Except Failure Context
  | put name value => do
    let name ← name.read registry
    let value ← value.read registry
    Context.checkName name
    return context.put name value
  | putAll fields => do
    let fields ← Literal.readNamed registry fields
    return context.putAll (Context.ofNamed fields)
  | remove name => do
    let name ← name.read registry
    Context.checkName name
    return context.remove name
  | clear => return []

end ContextChange

namespace ScopeStep

/-- The name of a request is given apart from the fields or among them, but not both. -/
def requestGiven (request : Option Value) (fields : Fields String Value) :
    Except Failure (Value × Fields String Value) :=
  match request, fields.get? "request_id" with
  | some _, some _ => .error .wrongArguments
  | some request, none => .ok (request, fields)
  | none, some request => .ok (request, fields.remove "request_id")
  | none, none => .ok (.absent, fields)

/-- The name and the fields of a request are read before it is entered. -/
def readRequest (registry : Registry) (request : Option Literal)
    (fields : List (String × Literal)) : Except Failure (Value × Fields String Value) := do
  let request ← request.mapM (·.read registry)
  let fields ← Literal.readNamed registry fields
  requestGiven request fields

/-- Entering a scope keeps the context as it is now, and adds the fields to it. -/
def enterWith (scope : String) (fields : Context) (ambient : Ambient) (session : Session) :
    Ambient × Session :=
  ({ ambient with context := ambient.context.putAll fields },
    { session with scopes := session.scopes.put scope ⟨ambient.context, ambient.home⟩ })

/-- A request without a name gets a new one. -/
def enterNamed (scope : String) (request : Value) (fields : Fields String Value)
    (ambient : Ambient) (session : Session) : Answer × Ambient × Session :=
  let count := if request.isTrue then session.requests else session.requests + 1
  let name := if request.isTrue then request else .text (Act.requestName count)
  let (ambient, session) := enterWith scope (Context.ofNamed (("request_id", name) :: fields))
    ambient { session with requests := count }
  (.request name ambient.context, ambient, session)

/-- Leaving a scope forgets it and restores the context in which it was entered, whatever happened
since; but only in the running code that entered it. -/
def leaveScope (scope : String) (ambient : Ambient) (session : Session) :
    Except Failure Answer × Ambient × Session :=
  match session.scopes.get? scope with
  | none => (.error .unknownObject, ambient, session)
  | some entered =>
    let session := { session with scopes := session.scopes.remove scope }
    if entered.home == ambient.home then
      (.ok (.left entered.restored), { ambient with context := entered.restored }, session)
    else (.error .foreignScope, ambient, session)

def run (ambient : Ambient) (session : Session) :
    ScopeStep → Except Failure Answer × Ambient × Session
  | enter scope fields =>
    match Literal.readNamed session.registry fields with
    | .error failure => (.error failure, ambient, session)
    | .ok fields =>
      let (ambient, session) := enterWith scope (Context.ofNamed fields) ambient session
      (.ok (.entries ambient.context), ambient, session)
  | enterRequest scope request fields =>
    match readRequest session.registry request fields with
    | .error failure => (.error failure, ambient, session)
    | .ok (request, fields) =>
      let (answer, ambient, session) := enterNamed scope request fields ambient session
      (.ok answer, ambient, session)
  | leave scope _ => leaveScope scope ambient session

end ScopeStep

/-- An operation sees the context and leaves it alone. -/
def Operation.run (ambient : Ambient) (session : Session) (operation : Operation) :
    Except Failure Answer × Session :=
  (operation.perform ambient.context).run.run session

/-- A new home belongs to nothing that ran before. -/
def Session.withHome (session : Session) : Session :=
  { session with homes := session.homes + 1 }

mutual

def Step.run (ambient : Ambient) (session : Session) :
    Step → Except Failure Answer × Ambient × Session
  | .change change =>
    match change.apply session.registry ambient.context with
    | .ok context => (.ok (.entries context), { ambient with context }, session)
    | .error failure => (.error failure, ambient, session)
  | .scope scope => scope.run ambient session
  | .operation operation =>
    let (answer, session) := operation.run ambient session
    (answer, ambient, session)
  | .thread steps =>
    let (answers, _, session) := runAll ⟨session.homes, []⟩ session.withHome steps
    (.ok (.answers answers), ambient, session)
  | .task steps =>
    let (answers, _, session) := runAll ⟨session.homes, ambient.context⟩ session.withHome steps
    (.ok (.answers answers), ambient, session)

/-- A step that fails does not keep the next ones from running. -/
def runAll (ambient : Ambient) (session : Session) :
    List Step → List (Except Failure Answer) × Ambient × Session
  | [] => ([], ambient, session)
  | step :: rest =>
    let (answer, ambient, session) := step.run ambient session
    let (answers, ambient, session) := runAll ambient session rest
    (answer :: answers, ambient, session)

end

/-- A script starts in a new session with an empty context. -/
def runScript (steps : List Step) : List (Except Failure Answer) :=
  (runAll ⟨0, []⟩ Session.initial steps).1

end LogGate

import LogGate.Snapshot
import LogGate.Template.Fill

/-!
Log records: one event on its way to a line of output.
-/

namespace LogGate

inductive ErrorKind where
  | value
  | key
  | runtime
  | configuration

def ErrorKind.label : ErrorKind → String
  | value => "ValueError"
  | key => "KeyError"
  | runtime => "RuntimeError"
  | configuration => "dynamic_logging.errors.ConfigurationError"

/-- A record can report an error with its arguments, or report that there is none. A value that was
assigned in place of a report is kept as it is. -/
inductive ErrorReport where
  | nothing
  | raised (kind : ErrorKind) (arguments : List Value)
  | assigned (value : Value)

namespace ErrorReport

/-- One argument is the text of an error; a missing key is quoted, and several arguments are written
as a tuple. -/
def detail (kind : ErrorKind) (arguments : List Value) : String :=
  match kind, arguments with
  | _, [] => ""
  | .key, [argument] => argument.quoted
  | _, [argument] => argument.plain
  | _, arguments => (Value.tuple arguments).quoted

/-- A sequence has its items as parts, and a mapping what it holds under whole numbers. -/
def part (value : Value) (position : Nat) : Except Failure Value :=
  match value with
  | .mapping entries =>
    match Fields.get? entries (.int position) with
    | some item => .ok item
    | none => .error .entryMissing
  | _ =>
    match value.items? with
    | some items =>
      match items[position]? with
      | some item => .ok item
      | none => .error .positionMissing
    | none => .error .unsuitable

/-- A value is read for a trace, a kind and an error, in this order; it holds no error that could be
written. -/
def text : ErrorReport → Except Failure String
  | nothing => .ok "NoneType: None"
  | raised kind arguments =>
    let shown := detail kind arguments
    .ok (if shown.isEmpty then kind.label else kind.label ++ ": " ++ shown)
  | assigned value =>
    (part value 2).bind fun trace => (part value 0).bind fun _ => (part value 1).bind fun error =>
      if trace.isAbsent && error.isAbsent then .ok "NoneType: None" else .error .memberMissing

/-- A value that counts as false reports nothing. -/
def ofValue (value : Value) : Option ErrorReport :=
  if value.isTrue then some (.assigned value) else none

end ErrorReport

structure Record where
  name : Value
  level : Value
  levelName : Value
  message : Value
  arguments : Value
  report : Option ErrorReport
  created : Value
  attributes : Fields String Value

namespace Record

/-- A single mapping with entries stands for named arguments. -/
def argumentsOf (arguments : List Value) : Value :=
  match arguments with
  | [.mapping (entry :: entries)] => .mapping (entry :: entries)
  | _ => .tuple arguments

/-- No record can be made while the clock shows no finite time. -/
def new (clock : Binary64) (name : String) (level : Int) (message : Value)
    (arguments : List Value) (report : Option ErrorReport) : Except Failure Record :=
  match clock with
  | .undefined _ => .error .undefinedNumber
  | .infinite _ => .error .numberTooLarge
  | _ => .ok {
    name := .text name
    level := .int level
    levelName := .text (Level.numberName level)
    message
    arguments := argumentsOf arguments
    report
    created := .float clock
    attributes := [] }

/-- An attribute named like a field of the record replaces the field. -/
def assign (record : Record) (name : String) (value : Value) : Record :=
  match name with
  | "name" => { record with name := value }
  | "levelname" => { record with levelName := value }
  | "levelno" => { record with level := value }
  | "msg" => { record with message := value }
  | "args" => { record with arguments := value }
  | "created" => { record with created := value }
  | "exc_info" => { record with report := ErrorReport.ofValue value }
  | _ => { record with attributes := record.attributes.put name value }

def assignAll (record : Record) (attributes : List (String × Value)) : Record :=
  attributes.foldl (fun result entry => result.assign entry.1 entry.2) record

/-- Attributes of the context carry this mark in front of their names. -/
def contextMark : String := "ctx_"

def withContext (record : Record) (context : Context) : Record :=
  record.assignAll (context.map fun entry => (contextMark ++ entry.1.plain, entry.2))

/-- The name of a context entry, without the mark. -/
def contextName? (label : String) : Option String :=
  if contextMark.toList.isPrefixOf label.toList then
    some (String.ofList (label.toList.drop contextMark.toList.length))
  else none

/-- The attributes that carry the mark, in their order. -/
def contextEntries (record : Record) : List (String × Value) :=
  record.attributes.filterMap fun entry => (contextName? entry.1).map fun name => (name, entry.2)

/-- A record without marked attributes has no snapshot of its own. -/
def snapshot? (record : Record) : Option Snapshot :=
  match record.contextEntries with
  | [] => none
  | entries => some (Snapshot.ofEntries (Context.ofNamed entries))

/-- The text of what a record reports, if it reports anything. -/
def reportText (record : Record) : Except Failure (Option String) :=
  match record.report with
  | some report => report.text.map some
  | none => .ok none

/-- Without arguments the message is no template. -/
def text (record : Record) : Except Failure String :=
  if record.arguments.isTrue then Template.fill record.message.plain record.arguments
  else .ok record.message.plain

end Record

end LogGate

import LogGate.Answer
import LogGate.Session.Demonstration
import LogGate.Session.Snapshots
import LogGate.Step.Reading

/-!
The effect of an operation on the shared session, and its answer.
-/

namespace LogGate

namespace Act

def answerTable (id : Option String) (table : ThresholdTable) : Act Answer := do
  store id (.table table)
  return .table table

def answerSnapshot (id : Option String) (snapshot : Snapshot) : Act Answer := do
  store id (.snapshot snapshot)
  return .snapshot (some snapshot)

def answerFilter (id : Option String) (filter : Filter) : Act Answer := do
  store id (.filter (← nextNumber) filter)
  return .filter (some filter)

def answerConfig (id : Option String) (number : Nat) : Act Answer := do
  store id (.config number)
  return .config ((← get).config number)

/-- A rule abstains before it looks at the level, so that only then any value will do. -/
def evaluate (filter : Filter) (level : Value) (snapshot : Snapshot) : Act Value :=
  match level with
  | .level grade => pure (filter.evaluate grade snapshot)
  | _ =>
    match snapshot.get? filter.rule.key with
    | none => pure (.verdict .neutral)
    | some _ => throw .memberMissing

/-- Setting a variable to nothing removes it. -/
def setEnvironment (assignments : List (String × Option String)) : Act Unit :=
  modify fun session =>
    { session with
      environment := assignments.foldl (fun environment entry =>
        match entry.2 with
        | some content => Fields.put environment entry.1 content
        | none => Fields.remove environment entry.1) session.environment }

def isIdentical (first second : Object) : Act Bool :=
  match first, second with
  | .level first, .level second => pure (first.identical second)
  | .filter first _, .filter second _ => pure (first == second)
  | .config first, .config second => pure (first == second)
  | .table _, _ | .snapshot _, _ | .provider _, _ => throw .unknownObject
  | _, .table _ | _, .snapshot _ | _, .provider _ => throw .unknownObject
  | _, _ => pure false

/-- The names of the parameters of a call cannot be names of extra fields. The configuration may be
given among the fields if it is not given otherwise; there it can only be left to the default. -/
def callConfig (config : ConfigArgument) (extra : Fields String Value) :
    Act (Option (Option Nat) × Fields String Value) := do
  if ["logger", "level", "message"].any (extra.has ·) then throw .wrongArguments
  match config, extra.get? "config" with
  | some _, some _ => throw .wrongArguments
  | some config, none => return (some (← findConfig config), extra)
  | none, none => return (some none, extra)
  | none, some given => return (if given.isTrue then none else some none, extra.remove "config")

/-- An event is logged under a configuration, or fails because something else was given for one. -/
def logCall (context : Context) (target : Option String) (level message : Value)
    (config : Option (Option Nat)) (extra : Fields String Value) : Act Answer := do
  match config with
  | some config =>
    let (written, output) ← logWithContext context target level message config extra
    return .logged written output
  | none =>
    let _ ← attempt ((← get).registry.resolve level none)
    throw .memberMissing

end Act

open Act

/-- An operation answers or fails; the ambient context is only read. -/
def Operation.perform (context : Context) : Operation → Act Answer
  | .register id name rank => do
    let (level, registry) ← attempt ((← get).registry.register (← read name) rank)
    modify fun session => { session with registry }
    store id (.level level)
    return .level level
  | .resolveLevel name default => do
    let name ← read name
    match ← read default with
    | .absent => return .level (← attempt ((← get).registry.resolve name none))
    | .level grade => return .level (← attempt ((← get).registry.resolve name (some grade)))
    | _ =>
      match (← get).registry.resolve name none with
      | .ok level => return .level level
      | .error failure =>
        match name with
        | .absent | .text _ => throw .memberMissing
        | _ => throw failure
  | .levelOfNumber number => do
    return .level ((← get).registry.ofNumber number)
  | .listLevels => do
    return .values ((← get).registry.sorted.map .level)
  | .compareLevels first second => do
    let first ← levelOf (← read first)
    let second ← levelOf (← read second)
    return .comparison (second.rank ≤ first.rank) (first.rank ≤ second.rank) (first.same second)
      (first.identical second) (LevelOrder.severity.passes first second)
  | .compareOrders first second =>
    return .orders (first.sameWhenSeparate second)
      (if first.sameWhenSeparate second then some true else none) first second
  | .readVerdict token default => do
    let token ← read token
    let default ← read default
    if token.isAbsent then return .value default
    else return .value (.verdict (← attempt (Verdict.ofToken token)))
  | .tableOfPairs id pairs default => do
    let pairs ← read pairs
    let default ← read default
    answerTable id (← attempt (ThresholdTable.ofPairs (← get).registry pairs default))
  | .tableOfMapping id levels default => do
    let levels ← read levels
    let default ← read default
    answerTable id (← attempt (ThresholdTable.ofMapping (← get).registry levels default))
  | .lookUp name value => do
    let found ← table name
    let value ← read value
    attempt (Context.checkName value)
    return .lookup (found.lookup value) (found.levels.has value)
  | .compareTables first second => do
    let first ← table first
    match second with
    | .object second =>
      let second ← table second
      return .equality (first.same second) (some (first.digest.same second.digest))
    | .value value =>
      let _ ← read value
      return .equality false none
  | .showContext => return .entries context
  | .getContext name default => do
    let name ← read name
    let default ← read default
    attempt (Context.checkName name)
    return .value ((Fields.get? context name).getD default)
  | .takeSnapshot id data => do
    answerSnapshot id (← attempt (Snapshot.ofValue (← read data)))
  | .getEntry name key default => do
    let found ← snapshot name
    let key ← read key
    let default ← read default
    match ← attempt (found.find? key) with
    | some content => return .found (.text content) true
    | none => return .found default false
  | .getItem name key => do
    let found ← snapshot name
    match ← attempt (found.find? (← read key)) with
    | some content => return .text content
    | none => throw .entryMissing
  | .compareSnapshots first second => do
    let first ← snapshot first
    match second with
    | .object second => return .matching (first.same (← snapshot second))
    | .value value => return .matching (first.toValue.same (← read value))
  | .emptySnapshot => return .sharedSnapshot .empty
  | .snapshotOfRecord form => do
    return .snapshot (← readRecord form).snapshot?
  | .newProvider id form => do
    let made ← match form with
      | .ambient => pure Provider.ambient
      | .silent => pure Provider.silent
      | .source data name => do
        let data ← read data
        let name := (← readOption name).getD (.text "custom")
        let number := (← get).sources.length
        modify fun session => { session with sources := session.sources ++ [⟨data, 0⟩] }
        pure (Provider.source number name)
    store (some id) (.provider made)
    return .text made.text
  | .setSource name data => do
    match ← provider name with
    | .source number _ =>
      let data ← read data
      modify fun session =>
        { session with sources := session.sources.set number { session.source number with data } }
      return .nothing
    | _ => throw .unknownObject
  | .countCalls name => do
    match ← provider name with
    | .source number _ => return .count ((← get).source number).calls
    | _ => throw .unknownObject
  | .askProvider id name => do
    match ← ask context (← provider name) with
    | some snapshot => answerSnapshot id snapshot
    | none => throw .memberMissing
  | .createFilter id form => do
    answerFilter id (← Act.createFilter form)
  | .newFilter id form => do
    answerFilter id (← Act.newFilter form)
  | .describeFilter name => do
    return .description (← filter name)
  | .levelMap name added => do
    let levels := (← filter name).rule.table.levels
    let entries : Fields Value Value := levels.map fun entry => (entry.1, .level entry.2)
    let added ← attempt (Literal.readEntries (← get).registry added)
    return .entries (Fields.putAll entries added)
  | .evaluate name level form => do
    let filter ← filter name
    let level ← read level
    return .value (← Act.evaluate filter level (← snapshotOf form))
  | .judgeCall name level arguments marker => do
    let filter ← filter name
    let level ← read level
    let _ ← readAll arguments
    let _ ← read marker
    return .value (← eventOutcome context filter level)
  | .judgeLevel name level => do
    let filter ← filter name
    return .value (← eventOutcome context filter (← read level))
  | .judgeRecord name form => do
    let filter ← filter name
    return .value (← recordOutcome context filter (← readRecord form))
  | .filterSnapshot name => do
    return .snapshot (some (← currentSnapshot context (← filter name)))
  | .compareFilters first second => do
    let first ← filter first
    match second with
    | .object second =>
      let second ← filter second
      return .equality (first.same second) (some (first.rule.sameDigest second.rule))
    | .value value =>
      let _ ← read value
      return .equality false none
  | .adapt name adapterName form => do
    let filter ← filter name
    let adapterName := (← readOption adapterName).getD (.text "")
    let record ← readRecord form
    return .truth (← adapterAdmits context filter adapterName record)
  | .compareObjects first second => do
    return .truth (← isIdentical (← object first) (← object second))
  | .readListing listing => do
    let entries ← attempt (Listing.readValue (← read listing))
    return .values (entries.map fun entry => Config.textPair entry.1 entry.2)
  | .setEnvironment assignments => do
    Act.setEnvironment assignments
    return .nothing
  | .configOfEnvironment id assignments => do
    Act.setEnvironment assignments
    let config ← attempt (Config.ofEnvironment (← get).environment)
    answerConfig id (← addConfig config)
  | .configOfNamed id data => do
    let config ← attempt (Config.ofNamed (← readFields data))
    answerConfig id (← addConfig config)
  | .newConfig id fields => do
    let config ← attempt (Config.ofFields {} (← readFields fields))
    answerConfig id (← addConfig config)
  | .setConfig name field value => do
    let number ← config name
    let value ← read value
    let old := (← get).config number
    replaceConfig number ((old.set? field value).getD old)
    return .config ((← get).config number)
  | .appendConfig name entry => do
    let number ← config name
    let entry ← read entry
    replaceConfig number (← attempt (((← get).config number).append entry))
    return .config ((← get).config number)
  | .showConfig name => do
    return .config ((← get).config (← config name))
  | .compareConfigs first second => do
    let first ← config first
    let second ← config second
    return .truth (((← get).config first).same ((← get).config second))
  | .buildFilter id name order provider => do
    let number ← config name
    let provider ← findProvider provider
    let rule ← attempt (((← get).config number).buildRule (← get).registry)
    answerFilter id ⟨rule, order, provider⟩
  | .getDefaultConfig id => do
    answerConfig id (← defaultConfig)
  | .setDefaultConfig name => do
    let number ← findConfig name
    modify fun session => { session with defaultConfig := number }
    return .nothing
  | .formatRecord form withTime => do
    let record ← readRecord form
    let withTime := (← readOption withTime).getD (.bool true)
    return .text (← attempt (Line.ofRecord record withTime.isTrue))
  | .setClock clock => do
    modify fun session => { session with clock }
    return .nothing
  | .getFilter id name => do
    match ← ruleOf (← configOrDefault (← findConfig name)) with
    | some (number, rule) =>
      let filter : Filter := ⟨rule, .severity, .ambient⟩
      store id (.filter number filter)
      return .filter (some filter)
    | none => return .filter none
  | .getLogger name config => do
    let name ← read name
    let target ← Act.getLogger name (← findConfig config)
    return .logger ((← get).loggers.view target)
  | .showLogger name => do
    let target ← logger name
    return .logger ((← get).loggers.view target)
  | .logWithContext name level message config extra => do
    let target ← logger name
    let level ← read level
    let message ← read message
    let extra ← readFields extra
    let (config, extra) ← callConfig config extra
    logCall context target level message config extra
  | .log name level message arguments => do
    let target ← logger name
    let message ← read message
    let arguments ← readAll arguments
    return .text (← Act.log context target level message arguments [])
  | .demonstrate => do
    return .text (← Act.demonstrate context)

end LogGate

import LogGate.Rule

/-!
Configurations of a rule and of the logger that it is attached to. A configuration holds values as
they were written; they are read when a rule is built.
-/

namespace LogGate

structure Config where
  key : Value := .absent
  thresholds : Value := .list []
  defaultThreshold : Value := .absent
  onMatch : Value := .absent
  onMismatch : Value := .absent
  logLevel : Value := .text "DEBUG"
  enabled : Value := .bool true

abbrev Environment := Fields String String

namespace Config

/-- Setting a field by its name; other names belong to no field. -/
def set? (config : Config) (name : String) (value : Value) : Option Config :=
  match name with
  | "key" => some { config with key := value }
  | "thresholds" => some { config with thresholds := value }
  | "default_threshold" => some { config with defaultThreshold := value }
  | "on_match" => some { config with onMatch := value }
  | "on_mismatch" => some { config with onMismatch := value }
  | "log_level" => some { config with logLevel := value }
  | "enabled" => some { config with enabled := value }
  | _ => none

/-- A new configuration takes only known fields. -/
def ofFields : Config → List (String × Value) → Except Failure Config
  | config, [] => .ok config
  | config, (name, value) :: rest =>
    match config.set? name value with
    | some config => ofFields config rest
    | none => .error .wrongArguments

/-- One more entry goes to the end of a list of thresholds. -/
def append (config : Config) (entry : Value) : Except Failure Config :=
  match config.thresholds with
  | .list entries => .ok { config with thresholds := .list (entries ++ [entry]) }
  | _ => .error .memberMissing

/-- Only the word `true` means true, in letters of any case; no letter beyond ASCII is a lower or
upper case of its letters. -/
def isTrueWord (word : String) : Bool :=
  word.toList.map Char.toLower == "true".toList

/-- A text is read as a word; every other value by whether it counts as true. -/
def readEnabled (value : Value) : Bool :=
  match value with
  | .text word => isTrueWord (Text.trim word)
  | _ => value.isTrue

def textPair (value level : String) : Value :=
  .tuple [.text value, .text level]

/-- An object with a key and a value is a pair, and every other entry gives its items. -/
def readEntry (entry : Value) : Except Failure Value :=
  match entry with
  | .mapping members =>
    .ok (.tuple [(Fields.get? members (.text "key")).getD .absent,
      (Fields.get? members (.text "value")).getD .absent])
  | _ =>
    match entry.items? with
    | some items => .ok (.tuple items)
    | none => .error .notIterable

def readEntries : List Value → Except Failure (List Value)
  | [] => .ok []
  | entry :: rest => (readEntry entry).bind fun entry =>
    (readEntries rest).map fun rest => entry :: rest

/-- Thresholds are a mapping of values to levels, a listing, or a sequence of entries. -/
def readThresholds (pairs : Value) : Except Failure (List Value) :=
  match pairs with
  | .mapping entries => .ok (entries.map fun entry => textPair entry.1.plain entry.2.plain)
  | .text listing => (Listing.read listing).map fun entries =>
    entries.map fun entry => textPair entry.1 entry.2
  | _ => pairs.itemsOrNone.bind readEntries

/-- A configuration is read from named values; names that mean nothing are passed over. -/
def ofNamed (data : Fields String Value) : Except Failure Config :=
  let value (name : String) : Value := (data.get? name).getD .absent
  (readThresholds (value "pairs")).map fun thresholds => {
    key := value "key"
    thresholds := .list thresholds
    defaultThreshold := value "default_threshold"
    onMatch := value "on_match"
    onMismatch := value "on_mismatch"
    logLevel := (data.get? "log_level").getD (.text "DEBUG")
    enabled := .bool (readEnabled ((data.get? "enabled").getD (.bool true))) }

def variableName (name : String) : String := "DYNAMIC_LOG_" ++ name

/-- A configuration is read from environment variables; an unset variable leaves its field empty. -/
def ofEnvironment (environment : Environment) : Except Failure Config :=
  let value (name : String) : Value :=
    match environment.get? (variableName name) with
    | some content => .text content
    | none => .absent
  (Listing.readValue (value "THRESHOLDS")).map fun entries => {
    key := value "KEY"
    thresholds := .list (entries.map fun entry => textPair entry.1 entry.2)
    defaultThreshold := value "DEFAULT_THRESHOLD"
    onMatch := value "ON_MATCH"
    onMismatch := value "ON_MISMATCH"
    logLevel := .text ((environment.get? (variableName "LEVEL")).getD "DEBUG")
    enabled := .bool (isTrueWord ((environment.get? (variableName "ENABLED")).getD "true")) }

/-- A rule is wanted when the configuration is enabled and has a key. -/
def isActive (config : Config) : Bool :=
  config.enabled.isTrue && config.key.isTrue

def buildRule (config : Config) (registry : Registry) : Except Failure Rule :=
  if config.key.isTrue then
    Rule.create registry config.key config.thresholds config.defaultThreshold config.onMatch
      config.onMismatch
  else .error (.misconfigured .configurationWithoutKey)

def values (config : Config) : List Value :=
  [config.key, config.thresholds, config.defaultThreshold, config.onMatch, config.onMismatch,
    config.logLevel, config.enabled]

def same (first second : Config) : Bool :=
  Value.sameItems first.values second.values

def quoted (config : Config) : String :=
  "DynamicThresholdConfig(key=" ++ config.key.quoted ++
    ", thresholds=" ++ config.thresholds.quoted ++
    ", default_threshold=" ++ config.defaultThreshold.quoted ++
    ", on_match=" ++ config.onMatch.quoted ++
    ", on_mismatch=" ++ config.onMismatch.quoted ++
    ", log_level=" ++ config.logLevel.quoted ++
    ", enabled=" ++ config.enabled.quoted ++ ")"

end Config

end LogGate

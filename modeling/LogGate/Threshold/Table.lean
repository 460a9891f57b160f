import LogGate.Level.Registry
import LogGate.Threshold.Listing
import LogGate.Value.Digest
import LogGate.Value.Items

/-!
Threshold tables: the least severe level that each context value lets through, and a default for all
other values.
-/

namespace LogGate

structure ThresholdTable where
  levels : Fields Value Level
  default : Level

namespace ThresholdTable

/-- A value without an entry has the default threshold. -/
def lookup (table : ThresholdTable) (value : Value) : Level :=
  (table.levels.get? value).getD table.default

/-- A missing default is the level ERROR. -/
def resolveDefault (registry : Registry) (default : Value) : Except Failure Level :=
  if default.isAbsent then .ok Level.error else registry.resolve default none

/-- One entry puts the level of its second half under its first half. -/
def addEntry (registry : Registry) (levels : Fields Value Level) (entry : Value) :
    Except Failure (Fields Value Level) :=
  match entry.halves? with
  | none => .error (.misconfigured (.invalidEntry entry))
  | some (value, name) =>
    if value.isAbsent then .error (.misconfigured (.entryWithoutValue entry))
    else (registry.resolve name none).bind fun level =>
      if value.isHashable then .ok (levels.put value level) else .error .unhashable

/-- Entries are added in their order, so that the last entry of a value decides. -/
def addEntries (registry : Registry) :
    Fields Value Level → List Value → Except Failure (Fields Value Level)
  | levels, [] => .ok levels
  | levels, entry :: rest =>
    (addEntry registry levels entry).bind fun levels => addEntries registry levels rest

/-- A table is built from a sequence of entries and the name of a default level. -/
def ofPairs (registry : Registry) (pairs default : Value) : Except Failure ThresholdTable :=
  pairs.itemsOrNone.bind fun entries =>
    (addEntries registry [] entries).bind fun levels =>
      (resolveDefault registry default).map fun default => ⟨levels, default⟩

/-- The values of a mapping name the levels of its keys. -/
def resolveEntries (registry : Registry) :
    List (Value × Value) → Except Failure (Fields Value Level)
  | [] => .ok []
  | (value, name) :: rest => (registry.resolve name none).bind fun level =>
    (resolveEntries registry rest).map fun levels => (value, level) :: levels

/-- A table is built from a mapping of values to level names. -/
def ofMapping (registry : Registry) (levels default : Value) : Except Failure ThresholdTable :=
  levels.entriesOrNone.bind fun entries =>
    (resolveEntries registry entries).bind fun levels =>
      (resolveDefault registry default).map fun default => ⟨levels, default⟩

/-- Tables are equal when they have equal defaults and map equal values to equal levels. -/
def same (first second : ThresholdTable) : Bool :=
  first.default.same second.default && first.levels.sameAs second.levels Level.same

/-- The digest of a table does not depend on the order of its entries. -/
structure TableDigest where
  default : Digest
  entries : SetDigest

def digest (table : ThresholdTable) : TableDigest where
  default := Digest.ofLevel table.default
  entries := SetDigest.ofMembers
    (table.levels.map fun entry => .group 2 :: (entry.1.digest ++ Digest.ofLevel entry.2))

def TableDigest.same (first second : TableDigest) : Bool :=
  first.default == second.default && first.entries.same second.entries

/-- Entries are written as in a listing, separated by a comma and a blank. -/
def entriesText (table : ThresholdTable) : List String :=
  table.levels.map fun entry => Listing.entryText entry.1.plain entry.2.name

def text (table : ThresholdTable) : String :=
  "default=" ++ table.default.name ++ Value.braced table.entriesText

def quoted (table : ThresholdTable) : String :=
  "ThresholdTable(" ++
    (Value.mapping (table.levels.map fun entry => (entry.1, .level entry.2))).quoted ++
    ", default_level=" ++ Value.levelQuoted table.default ++ ")"

end ThresholdTable

end LogGate

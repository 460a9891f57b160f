import LogGate.Failure

/-!
Walking through a value: its items, and the two items of a pair.
-/

namespace LogGate.Value

/-- A text has its characters as items, bytes their numbers, and a mapping its keys. -/
def items? : Value → Option (List Value)
  | list items => some items
  | tuple items => some items
  | text content => some (content.toList.map fun c => .text (String.singleton c))
  | bytes octets => some (octets.map fun octet => .int octet.toNat)
  | mapping entries => some (entries.map (·.1))
  | _ => none

/-- A configured pair, and every value with exactly two items, has a key and a value. -/
def halves? (value : Value) : Option (Value × Value) :=
  match value with
  | pair key value => some (key, value)
  | _ =>
    match value.items? with
    | some [key, value] => some (key, value)
    | _ => none

/-- A value that counts as false is walked through as if it were empty. -/
def itemsOrNone (value : Value) : Except Failure (List Value) :=
  if value.isTrue then
    match value.items? with
    | some items => .ok items
    | none => .error .notIterable
  else .ok []

/-- A value that counts as false has no entries; otherwise only a mapping has entries. -/
def entriesOrNone (value : Value) : Except Failure (List (Value × Value)) :=
  match value with
  | mapping entries => .ok entries
  | _ => if value.isTrue then .error .memberMissing else .ok []

end LogGate.Value

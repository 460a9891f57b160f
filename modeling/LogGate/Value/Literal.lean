import LogGate.Level.Registry

/-!
Literals: values as a script writes them. A literal may name a level, which is looked up when the
literal is read, and it may write an entry of a mapping twice.
-/

namespace LogGate

inductive Literal where
  | absent
  | bool (truth : Bool)
  | int (number : Int)
  | float (number : Binary64)
  | text (content : String)
  | list (items : List Literal)
  | tuple (items : List Literal)
  | mapping (entries : List (Literal × Literal))
  | bytes (octets : List UInt8)
  | levelNamed (name : String)
  | level (name : String) (rank : Int)
  | verdict (outcome : Verdict)
  | pair (key value : Literal)

instance : Inhabited Literal := ⟨.absent⟩

namespace Literal

mutual

/-- A mapping keeps the last value of equal keys. -/
def read (registry : Registry) : Literal → Except Failure Value
  | absent => .ok .absent
  | bool truth => .ok (.bool truth)
  | int number => .ok (.int number)
  | float number => .ok (.float number)
  | text content => .ok (.text content)
  | list items => (readItems registry items).map .list
  | tuple items => (readItems registry items).map .tuple
  | mapping entries => (readEntries registry entries).map fun entries =>
    .mapping (Fields.ofList entries)
  | bytes octets => .ok (.bytes octets)
  | levelNamed name => (registry.resolve (.text name) none).map .level
  | level name rank => .ok (.level ⟨name, rank, false⟩)
  | verdict outcome => .ok (.verdict outcome)
  | pair key value => (read registry key).bind fun key =>
    (read registry value).map fun value => .pair key value

def readItems (registry : Registry) : List Literal → Except Failure (List Value)
  | [] => .ok []
  | item :: rest => (read registry item).bind fun item =>
    (readItems registry rest).map fun rest => item :: rest

/-- A mapping takes only hashable keys. -/
def readEntries (registry : Registry) :
    List (Literal × Literal) → Except Failure (List (Value × Value))
  | [] => .ok []
  | (key, value) :: rest => (read registry key).bind fun key =>
    (read registry value).bind fun value =>
      if key.isHashable then (readEntries registry rest).map fun rest => (key, value) :: rest
      else .error .unhashable

end

def readPairs (registry : Registry) :
    List (String × Literal) → Except Failure (List (String × Value))
  | [] => .ok []
  | (name, literal) :: rest => (read registry literal).bind fun value =>
    (readPairs registry rest).map fun rest => (name, value) :: rest

/-- Named literals keep the first place and the last value of equal names. -/
def readNamed (registry : Registry) (fields : List (String × Literal)) :
    Except Failure (Fields String Value) :=
  (readPairs registry fields).map Fields.ofList

end Literal

end LogGate

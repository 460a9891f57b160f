import LogGate.Fields
import LogGate.Failure

/-!
The ambient context: values that the running code has set, under names of any kind.
-/

namespace LogGate

abbrev Context := Fields Value Value

namespace Context

/-- A name of a context, a table or a mapping must be hashable. -/
def checkName (name : Value) : Except Failure Unit :=
  if name.isHashable then .ok () else .error .unhashable

/-- Named fields are entries whose names are texts. -/
def ofNamed (fields : Fields String Value) : Context :=
  fields.map fun entry => (.text entry.1, entry.2)

/-- Entries without a value are left out. -/
def present (context : Context) : Context :=
  context.filter fun entry => !entry.2.isAbsent

/-- The context of one event is the ambient one, overridden by the fields given with the event. -/
def merge (ambient : Context) (extra : Fields String Value) : Context :=
  (present ambient).putAll (present (ofNamed extra))

end Context

end LogGate

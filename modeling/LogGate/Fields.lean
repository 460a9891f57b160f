/-!
Named entries in the order in which their names were first set. Setting a name again keeps its
place and its first spelling, and replaces its value.
-/

namespace LogGate

abbrev Fields (κ ν : Type) := List (κ × ν)

namespace Fields

variable {κ ν : Type} [BEq κ]

/-- A new name goes to the end; a present name takes the new value in its old place. -/
def put : Fields κ ν → κ → ν → Fields κ ν
  | [], name, value => [(name, value)]
  | (first, old) :: rest, name, value =>
    if first == name then (first, value) :: rest else (first, old) :: put rest name value

def get? : Fields κ ν → κ → Option ν
  | [], _ => none
  | (first, value) :: rest, name => if first == name then some value else get? rest name

def has (fields : Fields κ ν) (name : κ) : Bool :=
  fields.any fun entry => entry.1 == name

/-- The entries of the second are put one by one. -/
def putAll (fields added : Fields κ ν) : Fields κ ν :=
  added.foldl (fun result entry => result.put entry.1 entry.2) fields

/-- Entries with equal names collapse to one. -/
def ofList (entries : List (κ × ν)) : Fields κ ν :=
  putAll [] entries

def remove (fields : Fields κ ν) (name : κ) : Fields κ ν :=
  fields.filter fun entry => !(entry.1 == name)

/-- Two tables are equal when they have equally many entries and agree on every name. -/
def sameAs (first second : Fields κ ν) (sameValue : ν → ν → Bool) : Bool :=
  first.length == second.length && first.all fun entry =>
    match second.get? entry.1 with
    | some value => sameValue entry.2 value
    | none => false

@[simp] theorem get?_nil (name : κ) : get? ([] : Fields κ ν) name = none := rfl

@[simp] theorem get?_cons (first name : κ) (value : ν) (rest : Fields κ ν) :
    get? ((first, value) :: rest) name = if first == name then some value else get? rest name :=
  rfl

/-- Putting a value makes it the value of its name. -/
theorem get?_put_self [ReflBEq κ] (fields : Fields κ ν) (name : κ) (value : ν) :
    (fields.put name value).get? name = some value := by
  induction fields with
  | nil => simp [put]
  | cons entry rest ih =>
    obtain ⟨first, old⟩ := entry
    by_cases found : first == name <;> simp [put, found, ih]

/-- Putting a value leaves every other name as it was. -/
theorem get?_put_of_ne [EquivBEq κ] (fields : Fields κ ν) {name other : κ} (value : ν)
    (different : (name == other) = false) :
    (fields.put name value).get? other = fields.get? other := by
  induction fields with
  | nil => simp [put, different]
  | cons entry rest ih =>
    obtain ⟨first, old⟩ := entry
    by_cases found : first == name
    · have : (first == other) = false := by rw [BEq.congr_left found]; exact different
      simp [put, found, this]
    · by_cases second : first == other <;> simp [put, found, second, ih]

/-- A name has a value exactly when the table has the name. -/
theorem isSome_get? (fields : Fields κ ν) (name : κ) :
    (fields.get? name).isSome = fields.has name := by
  induction fields with
  | nil => rfl
  | cons entry rest ih =>
    obtain ⟨first, old⟩ := entry
    by_cases found : first == name <;> simp_all [has]

end Fields

end LogGate

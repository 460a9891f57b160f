import LogGate.Proofs.LoggerPath
import LogGate.Proofs.Footprint
import Mathlib.Data.List.TakeWhile

/-!
Parents by name. The parent of a logger is the nearest logger above its name, whatever the order in which
the two were made. Only loggers whose name the name of the root begins with are passed over by loggers
that are older than they are.
-/

namespace LogGate

namespace LoggerTree

/-- The name of the root begins with this name. -/
def beginsRoot (name : String) : Bool := name.toList.isPrefixOf rootName.toList

/-- The name of the root has no dot, and so no start of it has one. -/
theorem dotless_of_beginsRoot {name : String} (begins : beginsRoot name = true) :
    '.' ∉ name.toList := by
  have inside := (List.isPrefixOf_iff_prefix.mp begins).subset
  intro dot
  exact absurd (inside dot) (by decide)

/-- The names above a name that are nearer than every logger. -/
def unmade (tree : LoggerTree) (name : String) : List String :=
  (namesAbove name).takeWhile fun above => !tree.named.has above

/-- The nearest logger above a name. -/
def nearest? (tree : LoggerTree) (name : String) : Option String :=
  (namesAbove name).find? (tree.named.has ·)

/-- The names of all loggers, in the order in which they were made. -/
def names (tree : LoggerTree) : List String := tree.named.map (·.1)

def isOlder (tree : LoggerTree) (first second : String) : Bool :=
  tree.names.idxOf first < tree.names.idxOf second

/-- The parent that the names give a logger. Where the name of the root begins with the nearest name, the
root stays the parent of every older logger. -/
def parentByName (tree : LoggerTree) (name : String) : Option String :=
  (tree.nearest? name).filter fun above => !beginsRoot above || tree.isOlder above name

/-- Every logger has the parent that the names give it, and the loggers that wait for a name are those
below it, among them all that have no nearer logger above them. -/
structure Ancestry (tree : LoggerTree) : Prop where
  parent : ∀ {name : String}, tree.named.has name = true →
    (tree.get (some name)).parent = tree.parentByName name
  awaits : ∀ {child above : String}, tree.named.has child = true → above ∈ tree.unmade child →
    child ∈ tree.waiting above
  waits : ∀ {child above : String}, child ∈ tree.waiting above →
    tree.named.has child = true ∧ above ∈ namesAbove child

section Await

variable (child : String) (tree : LoggerTree) (names : List String)

/-- Waiting makes no logger. -/
theorem named_await : (await child tree names).1.named = tree.named := by
  induction names generalizing tree with
  | nil => rfl
  | cons name rest ih =>
      by_cases known : tree.named.has name
      · rw [await, if_pos known]
      · rw [await, if_neg known, ih]

/-- The walk up ends at the first name that has a logger. -/
theorem parent_await : (await child tree names).2 = names.find? (tree.named.has ·) := by
  induction names generalizing tree with
  | nil => rfl
  | cons name rest ih =>
      by_cases known : tree.named.has name
      · rw [await, if_pos known, List.find?_cons_of_pos known]
      · rw [await, if_neg known, ih, List.find?_cons_of_neg known]

omit tree names in
/-- A logger is added once to those that wait for a name. -/
theorem mem_addOnce {children : List String} {other : String} :
    other ∈ (if children.contains child then children else children ++ [child]) ↔
      other ∈ children ∨ other = child := by
  split
  · next present =>
    have inside : child ∈ children := List.contains_iff_mem.mp present
    exact ⟨.inl, fun either => either.elim id fun same => same ▸ inside⟩
  · rw [List.mem_append, List.mem_singleton]

/-- A logger that waits is added to those that wait for the names up to the first logger. -/
theorem mem_waiting_await {child : String} {tree : LoggerTree} {names : List String}
    {other above : String} :
    other ∈ (await child tree names).1.waiting above ↔
      other ∈ tree.waiting above ∨
        other = child ∧ above ∈ names.takeWhile fun name => !tree.named.has name := by
  induction names generalizing tree with
  | nil => simp [await]
  | cons name rest ih =>
      by_cases known : tree.named.has name
      · rw [await, if_pos known, List.takeWhile_cons_of_neg (by simp [known])]
        simp
      · rw [await, if_neg known, List.takeWhile_cons_of_pos (by simp [known]), ih, List.mem_cons,
          waiting, Fields.get?_put]
        by_cases same : name == above
        · rw [if_pos same, Option.getD_some, mem_addOnce, ← eq_of_beq same, waiting]
          tauto
        · have different : above ≠ name := fun equal => same (beq_iff_eq.mpr equal.symm)
          rw [if_neg same, waiting]
          tauto

end Await

section Create

variable {tree : LoggerTree} {name : String}

theorem has_iff_mem_names {name : String} :
    tree.named.has name = true ↔ name ∈ tree.names := by
  rw [names, List.mem_map, Fields.has, List.any_eq_true]
  simp only [beq_iff_eq]

/-- Changing a logger that is known keeps the names in their order. -/
theorem names_set {target : Option String} (known : tree.Knows target) (logger : Logger) :
    (tree.set target logger).names = tree.names := by
  cases target with
  | none => rfl
  | some name => exact Fields.names_put_of_mem (has_iff_mem_names.mp (known name rfl)) logger

/-- A new logger is the last one. -/
theorem names_opened (unknown : tree.named.has name = false) :
    (tree.opened name).names = tree.names ++ [name] := by
  have fresh : name ∉ tree.named.map (·.1) := fun inside => by
    rw [has_iff_mem_names.mpr inside] at unknown
    contradiction
  rw [names, opened, Fields.put_of_fresh fresh, List.map_append]
  rfl

/-- The parent of a logger after a new one was offered to it: it stays if its name begins with the new
name. -/
def parentAfter (name : String) (parent : Option String) : Option String :=
  if name.toList.isPrefixOf (nameOf parent).toList then parent else some name

theorem parentAfter_parentAfter (name : String) (parent : Option String) :
    parentAfter name (parentAfter name parent) = parentAfter name parent := by
  by_cases begins : name.toList.isPrefixOf (nameOf parent).toList
  · rw [parentAfter, parentAfter, if_pos begins, if_pos begins]
  · rw [parentAfter, parentAfter, if_neg begins]
    simp [nameOf]

/-- Only the child that is offered a new parent can change its parent. -/
theorem parent_adopt (tree : LoggerTree) (name child other : String) :
    ((adopt name tree child).get (some other)).parent =
      if other = child then parentAfter name (tree.get (some other)).parent
      else (tree.get (some other)).parent := by
  by_cases same : other = child
  · rw [if_pos same, same, adopt, parentAfter]
    split
    · rfl
    · rw [get_set_self]
  · have different : some child ≠ some other := fun equal => same (Option.some.inj equal).symm
    rw [if_neg same, adopt]
    split
    · rfl
    · rw [get_set_of_ne _ _ different]

theorem names_adopt {child : String} (known : tree.named.has child = true) :
    (adopt name tree child).names = tree.names := by
  rw [adopt]
  split
  · rfl
  · refine names_set ?_ _
    rintro _ ⟨⟩
    exact known

/-- The loggers that waited are offered the new parent, and nothing else changes. -/
theorem foldl_adopt_eq (name : String) {children : List String}
    (known : ∀ child ∈ children, tree.named.has child = true) :
    let later := children.foldl (adopt name) tree
    later.names = tree.names ∧ later.awaited = tree.awaited ∧
      ∀ other, (later.get (some other)).parent =
        if other ∈ children then parentAfter name (tree.get (some other)).parent
        else (tree.get (some other)).parent := by
  induction children generalizing tree with
  | nil => exact ⟨rfl, rfl, fun other => by simp⟩
  | cons child rest ih =>
      obtain ⟨first, others⟩ := List.forall_mem_cons.mp known
      have kept : (adopt name tree child).names = tree.names := names_adopt first
      have waiting : (adopt name tree child).awaited = tree.awaited := by
        rw [adopt]
        split
        · rfl
        · exact awaited_set _ _ _
      obtain ⟨names, awaited, parents⟩ := ih fun other member => by
        rw [has_iff_mem_names, kept, ← has_iff_mem_names]
        exact others other member
      refine ⟨names.trans kept, awaited.trans waiting, fun other => ?_⟩
      rw [List.foldl_cons, parents other, parent_adopt]
      by_cases same : other = child <;> by_cases member : other ∈ rest <;>
        simp [same, member, parentAfter_parentAfter]

/-- What a new logger changes: it is the last one, those that waited for it are offered it as a parent,
and it waits for the names up to its own parent. -/
structure Created (tree : LoggerTree) (name : String) (later : LoggerTree) : Prop where
  names : later.names = tree.names ++ [name]
  waiting : ∀ {other above : String}, other ∈ later.waiting above ↔
    above ≠ name ∧ other ∈ tree.waiting above ∨ other = name ∧ above ∈ later.unmade name
  own : (later.get (some name)).parent = later.nearest? name
  others : ∀ {other : String}, other ≠ name → (later.get (some other)).parent =
    if other ∈ tree.waiting name then parentAfter name (tree.get (some other)).parent
    else (tree.get (some other)).parent

theorem has_congr {first second : LoggerTree} (same : first.names = second.names) (name : String) :
    first.named.has name = second.named.has name := by
  rw [Bool.eq_iff_iff, has_iff_mem_names, has_iff_mem_names, same]

/-- Making a logger changes just what the structure says. -/
theorem Ancestry.created (ancestry : tree.Ancestry) (unknown : tree.named.has name = false) :
    tree.Created name (tree.create name) := by
  let middle := (await name (tree.adopted name) (namesAbove name)).1
  let parent := (await name (tree.adopted name) (namesAbove name)).2
  have made : tree.create name =
      middle.set (some name) { middle.get (some name) with parent } := create_eq tree name
  have known : ∀ child ∈ tree.waiting name, (tree.opened name).named.has child = true := by
    intro child member
    rw [has_iff_mem_names, names_opened unknown]
    exact List.mem_append_left _ (has_iff_mem_names.mp (ancestry.waits member).1)
  obtain ⟨adoptedNames, adoptedAwaited, adoptedParents⟩ := foldl_adopt_eq name known
  have placed : middle.named = (tree.adopted name).named := named_await _ _ _
  have middleNames : middle.names = tree.names ++ [name] := by
    rw [names, placed]
    exact adoptedNames.trans (names_opened unknown)
  have present : middle.Knows (some name) := by
    rintro _ ⟨⟩
    rw [has_iff_mem_names, middleNames]
    exact List.mem_append_right _ List.mem_cons_self
  have laterNames : (tree.create name).names = middle.names := by rw [made, names_set present]
  -- Whether a name is a logger is asked of the tree with the new one in it, at every stage after this.
  have sameHas (other : String) :
      (tree.create name).named.has other = (tree.adopted name).named.has other := by
    rw [has_congr laterNames, placed]
  refine ⟨laterNames.trans middleNames, ?_, ?_, ?_⟩
  · intro other above
    have waiting : other ∈ (tree.create name).waiting above ↔ other ∈ middle.waiting above := by
      rw [made, LoggerTree.waiting, awaited_set]
      rfl
    have old : other ∈ (tree.adopted name).waiting above ↔
        above ≠ name ∧ other ∈ tree.waiting above := by
      have removed : (tree.adopted name).awaited = tree.awaited.remove name := adoptedAwaited
      rw [LoggerTree.waiting, removed, Fields.get?_remove]
      by_cases same : name == above
      · rw [if_pos same]
        simp [eq_of_beq same]
      · have different : above ≠ name := fun equal => same (beq_iff_eq.mpr equal.symm)
        rw [if_neg same]
        simp [different, LoggerTree.waiting]
    rw [waiting, mem_waiting_await, old, unmade]
    simp only [sameHas]
  · rw [made, get_set_self, ← made, nearest?]
    simp only [sameHas]
    exact parent_await _ _ _
  · intro other different
    have distinct : some name ≠ some other := fun same => different (Option.some.inj same).symm
    rw [made, get_set_of_ne _ _ distinct]
    have kept : middle.get (some other) = (tree.adopted name).get (some other) := get_await _ _ _ _
    rw [kept]
    refine (adoptedParents other).trans ?_
    rw [get_opened, if_neg distinct]

namespace Created

variable {later : LoggerTree}

/-- The loggers are the old ones and the new one. -/
theorem has_iff (created : tree.Created name later) {other : String} :
    later.named.has other = true ↔ tree.named.has other = true ∨ other = name := by
  rw [has_iff_mem_names, has_iff_mem_names, created.names, List.mem_append, List.mem_singleton]

theorem has_of_has (created : tree.Created name later) {other : String}
    (known : tree.named.has other = true) : later.named.has other = true :=
  created.has_iff.mpr (.inl known)

theorem has_eq_false (created : tree.Created name later) {other : String}
    (unknown : tree.named.has other = false) (different : other ≠ name) :
    later.named.has other = false := by
  rw [← Bool.not_eq_true, created.has_iff, unknown]
  simp [different]

/-- Of two old loggers the older one stays the older. -/
theorem isOlder_eq (created : tree.Created name later) {first second : String}
    (firstKnown : tree.named.has first = true) (secondKnown : tree.named.has second = true) :
    later.isOlder first second = tree.isOlder first second := by
  rw [has_iff_mem_names] at firstKnown secondKnown
  rw [isOlder, isOlder, created.names, List.idxOf_append_of_mem firstKnown,
    List.idxOf_append_of_mem secondKnown]

/-- The new logger is the youngest. -/
theorem isOlder_new (created : tree.Created name later) (unknown : tree.named.has name = false)
    {other : String} (known : tree.named.has other = true) :
    later.isOlder other name = true ∧ later.isOlder name other = false := by
  rw [has_iff_mem_names] at known
  have fresh : name ∉ tree.names := by
    rw [← has_iff_mem_names, unknown]
    exact Bool.false_ne_true
  have lower := List.idxOf_lt_length_of_mem known
  rw [isOlder, isOlder, created.names, List.idxOf_append_of_mem known,
    List.idxOf_append_of_notMem fresh]
  simp only [decide_eq_true_eq, decide_eq_false_iff_not]
  omega

end Created

/-- Either no logger stands above a name, or the nearest one comes right after the unmade names. -/
theorem nearest_cases (tree : LoggerTree) (name : String) :
    tree.nearest? name = none ∧ tree.unmade name = namesAbove name ∨
      ∃ above further, tree.nearest? name = some above ∧ tree.named.has above = true ∧
        namesAbove name = tree.unmade name ++ above :: further := by
  rw [nearest?, unmade]
  induction namesAbove name with
  | nil => exact .inl ⟨rfl, rfl⟩
  | cons first rest ih =>
      by_cases known : tree.named.has first
      · rw [List.find?_cons_of_pos known, List.takeWhile_cons_of_neg (by simp [known])]
        exact .inr ⟨first, rest, rfl, known, rfl⟩
      · rw [List.find?_cons_of_neg known, List.takeWhile_cons_of_pos (by simp [known])]
        refine ih.imp (fun ⟨missing, all⟩ => ⟨missing, by rw [all]⟩) ?_
        rintro ⟨above, further, found, has, split⟩
        exact ⟨above, further, found, has, congrArg (first :: ·) split⟩

/-- An unmade name has no logger. -/
theorem has_of_mem_unmade {above : String} (member : above ∈ tree.unmade name) :
    tree.named.has above = false := by
  simpa using List.mem_takeWhile_imp member

/-- The nearest logger above a name is the one with the longest name. -/
theorem nearest_eq_some_iff {above : String} : tree.nearest? name = some above ↔
    above ∈ namesAbove name ∧ tree.named.has above = true ∧
      ∀ other ∈ namesAbove name, tree.named.has other = true → other.length ≤ above.length := by
  rcases tree.nearest_cases name with ⟨missing, all⟩ | ⟨nearest, further, found, has, split⟩
  · rw [missing]
    refine ⟨nofun, ?_⟩
    rintro ⟨member, known, -⟩
    rw [has_of_mem_unmade (all ▸ member)] at known
    contradiction
  · have inside : nearest ∈ namesAbove name := by rw [split]; simp
    have position {other : String} (member : other ∈ namesAbove name)
        (known : tree.named.has other = true) : other = nearest ∨ other.length < nearest.length := by
      rw [split, List.mem_append, List.mem_cons] at member
      rcases member with before | same | after
      · rw [has_of_mem_unmade before] at known
        contradiction
      · exact .inl same
      · exact .inr ((shorter_of_split split).2 other after)
    rw [found, Option.some.injEq]
    constructor
    · rintro rfl
      refine ⟨inside, has, fun other member known => ?_⟩
      rcases position member known with rfl | shorter
      · exact Nat.le_refl _
      · exact Nat.le_of_lt shorter
    · rintro ⟨member, known, longest⟩
      rcases position member known with same | shorter
      · exact same.symm
      · have longer := longest nearest inside has
        omega

/-- There is no nearest logger if no name above has one. -/
theorem nearest_eq_none_iff : tree.nearest? name = none ↔
    ∀ other ∈ namesAbove name, tree.named.has other = false := by
  rw [nearest?, List.find?_eq_none]
  simp only [Bool.not_eq_true]

/-- A name above a logger that is none is unmade, or it is shorter than the nearest logger. -/
theorem mem_unmade_or {above : String} (member : above ∈ namesAbove name)
    (unknown : tree.named.has above = false) :
    above ∈ tree.unmade name ∨ ∃ nearest further, tree.nearest? name = some nearest ∧
      namesAbove name = tree.unmade name ++ nearest :: further ∧ above ∈ further := by
  rcases tree.nearest_cases name with ⟨-, all⟩ | ⟨nearest, further, found, has, split⟩
  · exact .inl (all ▸ member)
  · rw [split, List.mem_append, List.mem_cons] at member
    rcases member with before | rfl | after
    · exact .inl before
    · rw [unknown] at has
      contradiction
    · exact .inr ⟨nearest, further, found, split, after⟩

/-- Every logger above is shorter than the unmade names. -/
theorem length_lt_of_mem_unmade {above other : String} (member : above ∈ tree.unmade name)
    (inside : other ∈ namesAbove name) (known : tree.named.has other = true) :
    other.length < above.length := by
  rcases tree.nearest_cases name with ⟨-, all⟩ | ⟨nearest, further, -, -, split⟩
  · rw [has_of_mem_unmade (all ▸ inside)] at known
    contradiction
  · rw [split, List.mem_append] at inside
    rcases inside with before | after
    · rw [has_of_mem_unmade before] at known
      contradiction
    · exact (shorter_of_split split).1 above member other after

theorem mem_namesAbove_of_mem_unmade {above : String} (member : above ∈ tree.unmade name) :
    above ∈ namesAbove name := (List.takeWhile_prefix _).subset member

namespace Created

variable {later : LoggerTree} {child : String}

/-- A name is unmade after a logger was made only if it was unmade before. -/
theorem mem_unmade (created : tree.Created name later) {above : String}
    (member : above ∈ later.unmade child) : above ∈ tree.unmade child ∧ above ≠ name := by
  have unknown := has_of_mem_unmade member
  have before : tree.named.has above = false := by
    rw [← Bool.not_eq_true] at unknown ⊢
    exact fun known => unknown (created.has_of_has known)
  constructor
  · rcases mem_unmade_or (mem_namesAbove_of_mem_unmade member) before with
      inside | ⟨nearest, further, found, split, after⟩
    · exact inside
    · obtain ⟨above_child, known, -⟩ := nearest_eq_some_iff.mp found
      have longer := (shorter_of_split split).2 above after
      have shorter := length_lt_of_mem_unmade member above_child (created.has_of_has known)
      omega
  · rintro rfl
    rw [created.has_iff.mpr (.inr rfl)] at unknown
    contradiction

/-- A logger that has the new name above it, and no nearer logger, has it as its nearest. -/
theorem nearest_of_mem (created : tree.Created name later) (member : name ∈ tree.unmade child) :
    later.nearest? child = some name := by
  rw [nearest_eq_some_iff]
  refine ⟨mem_namesAbove_of_mem_unmade member, created.has_iff.mpr (.inr rfl), ?_⟩
  intro other inside known
  rcases created.has_iff.mp known with old | rfl
  · exact Nat.le_of_lt (length_lt_of_mem_unmade member inside old)
  · exact Nat.le_refl _

/-- All others keep the nearest logger above them. -/
theorem nearest_of_not_mem (created : tree.Created name later) (unknown : tree.named.has name = false)
    (free : name ∉ tree.unmade child) : later.nearest? child = tree.nearest? child := by
  cases found : tree.nearest? child with
  | none =>
      rw [nearest_eq_none_iff]
      have nothing := nearest_eq_none_iff.mp found
      intro other inside
      refine created.has_eq_false (nothing other inside) ?_
      rintro rfl
      rcases mem_unmade_or inside unknown with member | ⟨nearest, further, some_found, -⟩
      · exact free member
      · rw [found] at some_found
        contradiction
  | some nearest =>
      obtain ⟨inside, known, longest⟩ := nearest_eq_some_iff.mp found
      rw [nearest_eq_some_iff]
      refine ⟨inside, created.has_of_has known, fun other member knownLater => ?_⟩
      rcases created.has_iff.mp knownLater with old | rfl
      · exact longest other member old
      · rcases mem_unmade_or member unknown with unmade | ⟨first, further, same, split, after⟩
        · exact absurd unmade free
        · rw [found, Option.some.injEq] at same
          rw [same]
          exact Nat.le_of_lt ((shorter_of_split split).2 other after)

/-- The new logger itself is below the nearest logger above it. -/
theorem parentByName_self (created : tree.Created name later)
    (unknown : tree.named.has name = false) : later.parentByName name = later.nearest? name := by
  rw [parentByName]
  cases found : later.nearest? name with
  | none => rfl
  | some above =>
      obtain ⟨inside, known, -⟩ := nearest_eq_some_iff.mp found
      have old := (created.has_iff.mp known).resolve_right (ne_of_mem_namesAbove inside)
      rw [Option.filter_some, (created.isOlder_new unknown old).1, Bool.or_true, if_pos rfl]

/-- A logger that waited for the new one, without a nearer logger, gets it as its parent, unless the name
of the root begins with the new name. -/
theorem parentByName_of_mem (created : tree.Created name later) (unknown : tree.named.has name = false)
    (known : tree.named.has child = true) (member : name ∈ tree.unmade child) :
    later.parentByName child = parentAfter name (tree.parentByName child) := by
  have young := (created.isOlder_new unknown known).2
  rw [parentByName, created.nearest_of_mem member, Option.filter_some, young, Bool.or_false]
  cases begins : beginsRoot name with
  | true =>
      have nothing : tree.nearest? child = none := by
        rcases tree.nearest_cases child with ⟨missing, -⟩ | ⟨nearest, further, -, -, split⟩
        · exact missing
        · obtain ⟨front, rest, between⟩ := List.append_of_mem member
          rw [between, List.append_assoc, List.cons_append] at split
          simpa using eq_nil_of_split (dotless_of_beginsRoot begins) split
      have starts : name.toList.isPrefixOf (nameOf none).toList = true := begins
      rw [parentByName, nothing, Option.filter_none, parentAfter, if_pos starts]
      rfl
  | false =>
      rw [Bool.not_false, if_pos rfl, parentAfter, if_neg]
      · cases parent : tree.parentByName child with
        | none =>
            rw [Bool.not_eq_true]
            exact begins
        | some nearest =>
            obtain ⟨found, -⟩ := Option.filter_eq_some_iff.mp parent
            obtain ⟨inside, has, -⟩ := nearest_eq_some_iff.mp found
            have shorter := length_lt_of_mem_unmade member inside has
            intro starts
            have longer := (List.isPrefixOf_iff_prefix.mp starts).length_le
            rw [String.length_toList, nameOf, Option.getD_some, String.length_toList] at longer
            omega

/-- A logger that has a nearer one above it keeps its parent. -/
theorem parentByName_of_not_mem (created : tree.Created name later)
    (unknown : tree.named.has name = false) (known : tree.named.has child = true)
    (free : name ∉ tree.unmade child) : later.parentByName child = tree.parentByName child := by
  rw [parentByName, parentByName, created.nearest_of_not_mem unknown free]
  cases found : tree.nearest? child with
  | none => rfl
  | some nearest =>
      obtain ⟨-, has, -⟩ := nearest_eq_some_iff.mp found
      rw [Option.filter_some, Option.filter_some, created.isOlder_eq has known]

end Created

/-- A logger that waits for a name although a nearer one is there has a parent that begins with it. -/
theorem parentAfter_of_not_mem {child : String} (inside : name ∈ namesAbove child)
    (unknown : tree.named.has name = false) (free : name ∉ tree.unmade child) :
    parentAfter name (tree.parentByName child) = tree.parentByName child := by
  obtain ⟨nearest, further, found, split, after⟩ := (mem_unmade_or inside unknown).resolve_left free
  have far : beginsRoot nearest = false := by
    rw [← Bool.not_eq_true]
    intro begins
    rw [eq_nil_of_split (dotless_of_beginsRoot begins) split] at after
    contradiction
  rw [parentByName, found, Option.filter_some, far, Bool.not_false, Bool.true_or, if_pos rfl,
    parentAfter, if_pos]
  obtain ⟨nearest_inside, -, -⟩ := nearest_eq_some_iff.mp found
  have shorter := (shorter_of_split split).2 name after
  rw [List.isPrefixOf_iff_prefix]
  refine List.prefix_of_prefix_length_le (prefix_of_mem_namesAbove inside)
    (prefix_of_mem_namesAbove nearest_inside) ?_
  rw [String.length_toList, String.length_toList]
  exact Nat.le_of_lt shorter

/-- Making a logger leaves every logger with the parent that the names give it. -/
theorem Ancestry.create (ancestry : tree.Ancestry) (unknown : tree.named.has name = false) :
    (tree.create name).Ancestry := by
  have created := ancestry.created unknown
  generalize tree.create name = later at created
  constructor
  · intro child known
    by_cases same : child = name
    · rw [same, created.own, created.parentByName_self unknown]
    have old := (created.has_iff.mp known).resolve_right same
    rw [created.others same, ancestry.parent old]
    -- A child can wait for the name although a nearer logger is there; it is offered the new one in vain.
    by_cases member : name ∈ tree.unmade child
    · rw [if_pos (ancestry.awaits old member), created.parentByName_of_mem unknown old member]
    · rw [created.parentByName_of_not_mem unknown old member]
      split
      · next waits => exact parentAfter_of_not_mem (ancestry.waits waits).2 unknown member
      · rfl
  · intro child above known member
    rw [created.waiting]
    rcases created.has_iff.mp known with old | rfl
    · obtain ⟨before, different⟩ := created.mem_unmade member
      exact .inl ⟨different, ancestry.awaits old before⟩
    · exact .inr ⟨rfl, member⟩
  · intro child above member
    rcases created.waiting.mp member with ⟨-, old⟩ | ⟨rfl, inside⟩
    · obtain ⟨known, inside⟩ := ancestry.waits old
      exact ⟨created.has_of_has known, inside⟩
    · exact ⟨created.has_iff.mpr (.inr rfl), mem_namesAbove_of_mem_unmade inside⟩

end Create

variable {tree later : LoggerTree}

theorem ancestry_initial : initial.Ancestry := ⟨nofun, nofun, nofun⟩

/-- A logger that is asked for is there already or is made. -/
theorem Ancestry.ensure (ancestry : tree.Ancestry) (target : Option String) :
    (tree.ensure target).Ancestry := by
  unfold LoggerTree.ensure
  split
  · exact ancestry
  · split
    · exact ancestry
    · next unknown => exact ancestry.create (by simpa using unknown)

/-- What is set up on loggers plays no part in the parents. -/
theorem Ancestry.set (ancestry : tree.Ancestry) {target : Option String} {logger : Logger}
    (known : tree.Knows target) (same : logger.parent = (tree.get target).parent) :
    (tree.set target logger).Ancestry := by
  have names := names_set known logger
  have has := has_congr names
  have parents (name : String) :
      ((tree.set target logger).get (some name)).parent = (tree.get (some name)).parent := by
    rw [get_set]
    split
    · next here => rw [same, here]
    · rfl
  have waiting (name : String) : (tree.set target logger).waiting name = tree.waiting name := by
    rw [LoggerTree.waiting, awaited_set]
    rfl
  constructor
  · intro name known
    rw [has] at known
    simp only [parents, ancestry.parent known, parentByName, nearest?, isOlder, has, names]
  · intro child above known member
    rw [has] at known
    simp only [unmade, has] at member
    rw [waiting]
    exact ancestry.awaits known member
  · intro child above member
    rw [waiting] at member
    rw [has]
    exact ancestry.waits member

/-- Every tree that grew from the root alone gives its loggers the parents that the names give them. -/
theorem Grows.ancestry (grown : initial.Grows tree) : tree.Ancestry :=
  grown.preserves ancestry_initial (fun _ target ancestry => ancestry.ensure target)
    fun _ _ _ known same ancestry => ancestry.set known same

/-- The loggers above a logger, out of the loggers whose names stand above its own: one that the logger
below it is older than is passed over if the name of the root begins with its name. -/
def lineage (tree : LoggerTree) (child : String) : List String → List String
  | [] => []
  | above :: rest =>
    if beginsRoot above && !tree.isOlder above child then []
    else above :: tree.lineage above rest

/-- The ancestors of a logger, the nearest first. -/
def ancestors (tree : LoggerTree) (name : String) : List String :=
  tree.lineage name ((namesAbove name).filter (tree.named.has ·))

/-- All loggers above the name are ancestors if the name of the root begins with none of them. -/
theorem ancestors_eq_filter {name : String}
    (far : ∀ above ∈ namesAbove name, beginsRoot above = false) :
    tree.ancestors name = (namesAbove name).filter (tree.named.has ·) := by
  have all (child : String) {names : List String}
      (far : ∀ above ∈ names, beginsRoot above = false) : tree.lineage child names = names := by
    induction names generalizing child with
    | nil => rfl
    | cons above rest ih =>
        obtain ⟨first, others⟩ := List.forall_mem_cons.mp far
        rw [lineage, first, Bool.false_and, if_neg Bool.false_ne_true, ih above others]
  exact all name fun above member => far above (List.mem_of_mem_filter member)

/-- The way up follows the lineage of a logger, and ends at the root. -/
theorem upward_eq_lineage (ancestry : tree.Ancestry) {name : String} {above : List String}
    (plain : Logger.Plain name.toList) (known : tree.named.has name = true)
    (loggers : (namesAbove name).filter (tree.named.has ·) = above) {fuel : Nat}
    (enough : above.length + 2 ≤ fuel) :
    tree.upward fuel (some name) = some name :: ((tree.lineage name above).map some ++ [none]) := by
  -- The loggers above the nearest one are the rest of those above the name, as no two dots are neighbours.
  induction above generalizing name fuel with
  | nil =>
      rw [List.length_nil] at enough
      obtain ⟨fuel, rfl⟩ : ∃ steps, fuel = steps + 2 := ⟨fuel - 2, by omega⟩
      have missing : tree.nearest? name = none := by
        rw [nearest_eq_none_iff]
        intro other member
        simpa using List.filter_eq_nil_iff.mp loggers other member
      rw [upward, ancestry.parent known, parentByName, missing]
      rfl
  | cons nearest rest ih =>
      obtain ⟨front, back, split, before, has, after⟩ := List.filter_eq_cons_iff.mp loggers
      have found : tree.nearest? name = some nearest := by
        rw [nearest?, List.find?_eq_some_iff_append]
        exact ⟨has, front, back, split, fun other member => by simpa using before other member⟩
      have inside : nearest ∈ namesAbove name := by rw [split]; simp
      rw [namesAbove_of_split plain split] at after
      rw [List.length_cons] at enough
      obtain ⟨fuel, rfl⟩ : ∃ steps, fuel = steps + 2 := ⟨fuel - 2, by omega⟩
      rw [upward, ancestry.parent known, parentByName, found, Option.filter_some, lineage]
      by_cases passed : beginsRoot nearest && !tree.isOlder nearest name
      · rw [if_pos passed, if_neg (by simpa [imp_iff_not_or] using passed)]
        rfl
      · have plainNearest := plain.of_infix (prefix_of_mem_namesAbove inside).isInfix
        rw [if_neg passed, if_pos (by simpa [imp_iff_not_or] using passed),
          ih plainNearest has after (by omega)]
        rfl

/-- On the way up from a logger stand its ancestors, and the root last. -/
theorem path_eq_ancestors (ancestry : tree.Ancestry) {name : String}
    (plain : Logger.Plain name.toList) (known : tree.named.has name = true) :
    tree.path (some name) = some name :: ((tree.ancestors name).map some ++ [none]) := by
  refine upward_eq_lineage ancestry plain known rfl ?_
  have fewer := List.length_filter_le (tree.named.has ·) (namesAbove name)
  have bound := Logger.length_namesAbove_le name.toList
  rw [String.length_toList, ← List.length_map String.ofList] at bound
  exact Nat.add_le_add_right (fewer.trans bound) 2

end LoggerTree

end LogGate

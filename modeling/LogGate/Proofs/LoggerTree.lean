import LogGate.Logger
import LogGate.Proofs.Fields

/-!
Trees of loggers. Every parent has a shorter name, so that no logger stands above itself; and making
a logger changes what is set up on none.
-/

namespace LogGate

/-- What is set up on a logger: its level, its handlers and its rules. -/
structure Logger.Settings where
  level : Int
  handlers : Nat
  rules : List (Nat × Rule)

def Logger.settings (logger : Logger) : Logger.Settings :=
  ⟨logger.level, logger.handlers, logger.rules⟩

/-- A name above is shorter. -/
theorem Logger.length_of_mem_namesAbove {chars above : List Char}
    (member : above ∈ namesAbove chars) : above.length < chars.length := by
  induction chars using namesAbove.induct with
  | case1 chars cut => rw [namesAbove] at member; split at member <;> simp_all
  | case2 chars before after cut shorter empty =>
      rw [namesAbove] at member
      split at member <;> simp_all
  | case3 chars before after cut shorter filled ih =>
      rw [namesAbove] at member
      split at member
      · contradiction
      · next other rest found =>
        rw [cut, Option.some.injEq, Prod.mk.injEq] at found
        obtain ⟨rfl, rfl⟩ := found
        rw [if_neg filled] at member
        rcases List.mem_cons.mp member with rfl | further
        · exact shorter
        · have lower := ih further
          rw [List.length_dropLast] at lower
          omega

namespace LoggerTree

/-- Changing a logger changes no other one. -/
theorem get_set (tree : LoggerTree) (target other : Option String) (logger : Logger) :
    (tree.set target logger).get other = if target = other then logger else tree.get other := by
  cases target with
  | none => cases other <;> simp [set, get]
  | some name =>
      cases other with
      | none => simp [set, get]
      | some label =>
          by_cases same : name = label
          · simp [set, get, Fields.get?_put, same]
          · simp [set, get, Fields.get?_put, same]

theorem get_set_self (tree : LoggerTree) (target : Option String) (logger : Logger) :
    (tree.set target logger).get target = logger := by
  rw [get_set, if_pos rfl]

theorem get_set_of_ne (tree : LoggerTree) {target other : Option String} (logger : Logger)
    (different : target ≠ other) : (tree.set target logger).get other = tree.get other := by
  rw [get_set, if_neg different]

/-- The last change of a logger counts. -/
theorem set_set (tree : LoggerTree) (target : Option String) (first second : Logger) :
    (tree.set target first).set target second = tree.set target second := by
  cases target with
  | none => rfl
  | some name => simp [set, Fields.put_put]

theorem awaited_set (tree : LoggerTree) (target : Option String) (logger : Logger) :
    (tree.set target logger).awaited = tree.awaited := by
  cases target <;> rfl

/-- Waiting for the loggers above changes no logger. -/
theorem get_await (tree : LoggerTree) (child : String) (names : List String)
    (other : Option String) : (await child tree names).1.get other = tree.get other := by
  induction names generalizing tree with
  | nil => rfl
  | cons name rest ih =>
      by_cases known : tree.named.has name
      · rw [await, if_pos known]
      · rw [await, if_neg known, ih]
        cases other <;> rfl

/-- Parents have shorter names than their children, now and once they come to exist. -/
structure Layered (tree : LoggerTree) : Prop where
  parent_lt : ∀ {name above : String}, (tree.get (some name)).parent = some above →
    above.length < name.length
  awaited_lt : ∀ {name child : String} {children : List String},
    tree.awaited.get? name = some children → child ∈ children → name.length < child.length

/-- At the start there is only the root, which has no parent. -/
theorem layered_initial : initial.Layered where
  parent_lt parent := by simp [initial, get, Logger.fresh] at parent
  awaited_lt waiting := by simp [initial] at waiting

/-- A logger may be replaced by one with a shorter parent. -/
theorem Layered.set {tree : LoggerTree} (layered : tree.Layered) {target : Option String}
    {logger : Logger} (shorter : ∀ name above, target = some name → logger.parent = some above →
      above.length < name.length) : (tree.set target logger).Layered where
  parent_lt {name above} parent := by
    rw [get_set] at parent
    split at parent
    · next same => exact shorter name above same parent
    · exact layered.parent_lt parent
  awaited_lt waiting member := by
    rw [awaited_set] at waiting
    exact layered.awaited_lt waiting member

/-- Changing what is set up on a logger leaves the tree layered. -/
theorem Layered.set_of_parent {tree : LoggerTree} (layered : tree.Layered)
    {target : Option String} {logger : Logger}
    (same : logger.parent = (tree.get target).parent) : (tree.set target logger).Layered := by
  apply layered.set
  intro name above reached parent
  rw [reached] at same
  exact layered.parent_lt (same.symm.trans parent)

/-- A new parent changes no settings. -/
theorem settings_adopt (tree : LoggerTree) (parent child : String) (other : Option String) :
    ((adopt parent tree child).get other).settings = (tree.get other).settings := by
  unfold adopt
  dsimp only
  split
  · rfl
  · rw [get_set]
    split
    · next same =>
      rw [← same]
      rfl
    · rfl

/-- A child may be offered any shorter parent. -/
theorem Layered.adopt {tree : LoggerTree} (layered : tree.Layered) {parent child : String}
    (shorter : parent.length < child.length) : (LoggerTree.adopt parent tree child).Layered := by
  unfold LoggerTree.adopt
  dsimp only
  split
  · exact layered
  · apply layered.set
    intro name above same given
    rw [Option.some.injEq] at same given
    rw [← same, ← given]
    exact shorter

/-- New parents change no settings. -/
theorem settings_foldl_adopt (tree : LoggerTree) (parent : String) (children : List String)
    (other : Option String) :
    ((children.foldl (adopt parent) tree).get other).settings = (tree.get other).settings := by
  induction children generalizing tree with
  | nil => rfl
  | cons child rest ih => rw [List.foldl_cons, ih, settings_adopt]

/-- All who waited may be offered a shorter parent. -/
theorem Layered.foldl_adopt {tree : LoggerTree} (layered : tree.Layered) {parent : String}
    {children : List String} (longer : ∀ child ∈ children, parent.length < child.length) :
    (children.foldl (LoggerTree.adopt parent) tree).Layered := by
  induction children generalizing tree with
  | nil => exact layered
  | cons child rest ih =>
      exact ih (layered.adopt (longer child List.mem_cons_self)) fun other member =>
        longer other (List.mem_cons_of_mem _ member)

/-- A logger waits only for names that are shorter than its own. -/
theorem Layered.await {tree : LoggerTree} (layered : tree.Layered) {child : String}
    {names : List String} (shorter : ∀ name ∈ names, name.length < child.length) :
    (LoggerTree.await child tree names).1.Layered ∧
      ∀ above, (LoggerTree.await child tree names).2 = some above →
        above.length < child.length := by
  induction names generalizing tree with
  | nil => exact ⟨layered, by simp [LoggerTree.await]⟩
  | cons name rest ih =>
      have first := shorter name List.mem_cons_self
      by_cases known : tree.named.has name
      · rw [LoggerTree.await, if_pos known]
        refine ⟨layered, ?_⟩
        intro above found
        rw [Option.some.injEq] at found
        rw [← found]
        exact first
      · rw [LoggerTree.await, if_neg known]
        refine ih ?_ fun other member => shorter other (List.mem_cons_of_mem _ member)
        constructor
        · exact layered.parent_lt
        · intro other waiter children waiting member
          rw [Fields.get?_put] at waiting
          split at waiting
          · next same =>
            rw [Option.some.injEq] at waiting
            rw [← eq_of_beq same]
            have old (inside : waiter ∈ (tree.awaited.get? name).getD []) :
                name.length < waiter.length := by
              cases found : tree.awaited.get? name with
              | none => simp [found] at inside
              | some children => exact layered.awaited_lt found (by simpa [found] using inside)
            rw [← waiting] at member
            split at member
            · exact old member
            · rcases List.mem_append.mp member with before | new
              · exact old before
              · rw [List.mem_singleton.mp new]
                exact first
          · exact layered.awaited_lt waiting member

/-- A tree with a place for a new logger, which nothing awaits any more. -/
def opened (tree : LoggerTree) (name : String) : LoggerTree := { tree with
  named := tree.named.put name (.fresh none)
  awaited := tree.awaited.remove name }

/-- A new logger is fresh, and all others are as they were. -/
theorem get_opened (tree : LoggerTree) (name : String) (other : Option String) :
    (tree.opened name).get other = if some name = other then .fresh none else tree.get other := by
  cases other with
  | none => rfl
  | some label => by_cases same : name = label <;> simp [opened, get, Fields.get?_put, same]

theorem Layered.opened {tree : LoggerTree} (layered : tree.Layered) (name : String) :
    (tree.opened name).Layered where
  parent_lt {other above} parent := by
    rw [get_opened] at parent
    split at parent
    · simp [Logger.fresh] at parent
    · exact layered.parent_lt parent
  awaited_lt {other child children} waiting member := by
    rw [LoggerTree.opened, Fields.get?_remove] at waiting
    split at waiting
    · contradiction
    · exact layered.awaited_lt waiting member

/-- The names above a logger's own are shorter. -/
theorem length_of_mem_ofList_namesAbove {name above : String}
    (member : above ∈ (Logger.namesAbove name.toList).map String.ofList) :
    above.length < name.length := by
  obtain ⟨chars, inside, rfl⟩ := List.mem_map.mp member
  have shorter := Logger.length_of_mem_namesAbove inside
  rwa [← String.length_toList, ← String.length_toList, String.toList_ofList]

/-- A new logger has nothing set up, and all others are set up as before. -/
theorem settings_create {tree : LoggerTree} {name : String} (unknown : tree.named.has name = false)
    (other : Option String) :
    ((tree.create name).get other).settings = (tree.get other).settings := by
  have place : ((tree.opened name).get other).settings = (tree.get other).settings := by
    rw [get_opened]
    split
    · next same =>
      have missing : tree.named.get? name = none := by
        have found := Fields.isSome_get? tree.named name
        rw [unknown] at found
        simpa using found
      rw [← same, get, missing]
      rfl
    · rfl
  rw [← place, ← settings_foldl_adopt (tree.opened name) name
    ((tree.awaited.get? name).getD []) other]
  unfold create
  rw [get_set]
  split
  · next same =>
    rw [← same, Logger.settings, get_await]
    rfl
  · rw [get_await]
    rfl

/-- Parents stay shorter than their children when a logger is made. -/
theorem Layered.create {tree : LoggerTree} (layered : tree.Layered) (name : String) :
    (tree.create name).Layered := by
  have longer : ∀ child ∈ (tree.awaited.get? name).getD [], name.length < child.length := by
    intro child member
    cases found : tree.awaited.get? name with
    | none => simp [found] at member
    | some children => exact layered.awaited_lt found (by simpa [found] using member)
  obtain ⟨placed, shorter⟩ := ((layered.opened name).foldl_adopt longer).await
    fun above member => length_of_mem_ofList_namesAbove member
  unfold LoggerTree.create
  apply placed.set
  intro label above same given
  rw [Option.some.injEq] at same
  rw [← same]
  exact shorter above given

/-- Making a logger changes no settings, as a fresh logger has those of an unknown one. -/
theorem settings_ensure (tree : LoggerTree) (target other : Option String) :
    ((tree.ensure target).get other).settings = (tree.get other).settings := by
  unfold ensure
  split
  · rfl
  · next name =>
    by_cases known : tree.named.has name
    · rw [if_pos known]
    · rw [if_neg known]
      exact settings_create (by simpa using known) other

theorem level_ensure (tree : LoggerTree) (target other : Option String) :
    ((tree.ensure target).get other).level = (tree.get other).level :=
  congrArg Logger.Settings.level (settings_ensure tree target other)

theorem handlers_ensure (tree : LoggerTree) (target other : Option String) :
    ((tree.ensure target).get other).handlers = (tree.get other).handlers :=
  congrArg Logger.Settings.handlers (settings_ensure tree target other)

theorem rules_ensure (tree : LoggerTree) (target other : Option String) :
    ((tree.ensure target).get other).rules = (tree.get other).rules :=
  congrArg Logger.Settings.rules (settings_ensure tree target other)

/-- Parents stay shorter than their children when a logger is asked for. -/
theorem Layered.ensure {tree : LoggerTree} (layered : tree.Layered) (target : Option String) :
    (tree.ensure target).Layered := by
  unfold LoggerTree.ensure
  split
  · exact layered
  · split
    · exact layered
    · exact layered.create _

/-- The loggers above a shorter name are not affected by a change of a logger. -/
theorem Layered.above_set {tree : LoggerTree} (layered : tree.Layered) (name : String)
    (logger : Logger) (fuel : Nat) {parent : Option String}
    (shorter : ∀ above, parent = some above → above.length < name.length) :
    (tree.set (some name) logger).above fuel parent = tree.above fuel parent := by
  induction fuel generalizing parent with
  | zero => rfl
  | succ fuel ih =>
      cases parent with
      | none => rfl
      | some label =>
          have lower := shorter label rfl
          have different : some name ≠ some label := by
            intro same
            rw [Option.some.injEq] at same
            rw [same] at lower
            omega
          rw [above, above, get_set_of_ne tree logger different, ih]
          intro further parent
          have := layered.parent_lt parent
          omega

/-- Changing what is set up on a logger changes only the first part of its chain. -/
theorem Layered.chain_set {tree : LoggerTree} (layered : tree.Layered) {name : String}
    {logger : Logger} (same : logger.parent = (tree.get (some name)).parent) :
    (tree.set (some name) logger).chain (some name) =
      logger :: (tree.chain (some name)).tail := by
  rw [chain, chain, above, above, get_set_self, List.tail_cons, same]
  rw [layered.above_set name logger _ fun _ parent => layered.parent_lt parent]

/-- A level that is not zero decides for its own logger. -/
theorem effectiveLevel_of_level {tree : LoggerTree} {target : Option String}
    (level : (tree.get target).level ≠ 0) :
    tree.effectiveLevel target = (tree.get target).level := by
  cases target with
  | none => simp_all [effectiveLevel, chain, above, get]
  | some name => simp [effectiveLevel, chain, above, level]

/-- A logger stands at the start of its own chain. -/
theorem get_mem_chain (tree : LoggerTree) (name : String) :
    tree.get (some name) ∈ tree.chain (some name) := List.mem_cons_self

/-- Loggers without handlers add nothing to the count. -/
theorem foldr_handlers_eq_zero {loggers : List Logger}
    (bare : ∀ logger ∈ loggers, logger.handlers = 0) :
    loggers.foldr (fun logger count => logger.handlers + count) 0 = 0 := by
  induction loggers with
  | nil => rfl
  | cons logger rest ih =>
      obtain ⟨first, others⟩ := List.forall_mem_cons.mp bare
      rw [List.foldr_cons, first, ih others]

/-- With no handler above it, a logger that is changed counts its own handlers. -/
theorem Layered.handlerCount_set {tree : LoggerTree} (layered : tree.Layered) {name : String}
    {logger : Logger} (same : logger.parent = (tree.get (some name)).parent)
    (bare : ∀ other ∈ (tree.chain (some name)).tail, other.handlers = 0) :
    (tree.set (some name) logger).handlerCount (some name) = logger.handlers := by
  rw [handlerCount, layered.chain_set same, List.foldr_cons, foldr_handlers_eq_zero bare]
  rfl

end LoggerTree

end LogGate

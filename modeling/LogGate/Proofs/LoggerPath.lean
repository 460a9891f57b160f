import LogGate.Proofs.NamesAbove

/-!
The way from a logger up to the root. It depends on the shape of the tree alone, and so do the loggers
that are made later; what is set up on loggers plays no part in it.
-/

namespace LogGate.LoggerTree

/-- The names of the loggers on the way up, in at most so many steps. -/
def upward (tree : LoggerTree) : Nat → Option String → List (Option String)
  | 0, _ => []
  | _ + 1, none => [none]
  | fuel + 1, some name => some name :: tree.upward fuel (tree.get (some name)).parent

/-- A logger, the loggers above it and the root, by their names. -/
def path (tree : LoggerTree) (target : Option String) : List (Option String) :=
  tree.upward ((nameOf target).length + 2) target

/-- The loggers on the way up are those of its names. -/
theorem above_eq_map_upward (tree : LoggerTree) (fuel : Nat) (target : Option String) :
    tree.above fuel target = (tree.upward fuel target).map tree.get := by
  induction fuel generalizing target with
  | zero => rfl
  | succ fuel ih =>
      cases target with
      | none => rfl
      | some name => rw [above, upward, List.map_cons, ih]

theorem chain_eq_map_path (tree : LoggerTree) (target : Option String) :
    tree.chain target = (tree.path target).map tree.get := above_eq_map_upward tree _ target

/-- The shape of a tree: its loggers with their parents, and nothing set up on them. -/
def bare (tree : LoggerTree) : LoggerTree where
  root := .fresh tree.root.parent
  named := tree.named.map fun entry => (entry.1, .fresh entry.2.parent)
  awaited := tree.awaited

/-- A bare logger keeps nothing but its parent. -/
theorem get_bare (tree : LoggerTree) (target : Option String) :
    tree.bare.get target = .fresh (tree.get target).parent := by
  cases target with
  | none => rfl
  | some name =>
      rw [get, get, bare, Fields.get?_map fun logger : Logger => Logger.fresh logger.parent]
      cases tree.named.get? name <;> rfl

theorem has_bare (tree : LoggerTree) (name : String) :
    tree.bare.named.has name = tree.named.has name := by
  rw [bare, Fields.has, Fields.has, List.any_map]
  rfl

theorem bare_set (tree : LoggerTree) (target : Option String) (logger : Logger) :
    (tree.set target logger).bare = tree.bare.set target (.fresh logger.parent) := by
  cases target with
  | none => rfl
  | some name =>
      simp only [set, bare]
      rw [Fields.map_put fun logger : Logger => Logger.fresh logger.parent]

/-- Names alone decide who waits. -/
theorem bare_await (child : String) (tree : LoggerTree) (names : List String) :
    await child tree.bare names =
      ((await child tree names).1.bare, (await child tree names).2) := by
  induction names generalizing tree with
  | nil => rfl
  | cons name rest ih =>
      by_cases known : tree.named.has name
      · rw [await, await, has_bare, if_pos known, if_pos known]
      · rw [await, await, has_bare, if_neg known, if_neg known, ← ih]
        rfl

/-- Names alone decide who is adopted. -/
theorem bare_adopt (parent : String) (tree : LoggerTree) (child : String) :
    (adopt parent tree child).bare = adopt parent tree.bare child := by
  simp only [adopt, get_bare, Logger.fresh]
  split
  · rfl
  · exact bare_set _ _ _

theorem bare_foldl_adopt (parent : String) (tree : LoggerTree) (children : List String) :
    (children.foldl (adopt parent) tree).bare = children.foldl (adopt parent) tree.bare := by
  induction children generalizing tree with
  | nil => rfl
  | cons child rest ih => rw [List.foldl_cons, List.foldl_cons, ih, bare_adopt]

theorem bare_opened (tree : LoggerTree) (name : String) :
    (tree.opened name).bare = tree.bare.opened name := by
  simp only [opened, bare]
  rw [Fields.map_put fun logger : Logger => Logger.fresh logger.parent]
  rfl

/-- The loggers that wait for a name. -/
def waiting (tree : LoggerTree) (name : String) : List String := (tree.awaited.get? name).getD []

/-- A tree with a place for a new logger that those who waited for it stand below. -/
def adopted (tree : LoggerTree) (name : String) : LoggerTree :=
  (tree.waiting name).foldl (adopt name) (tree.opened name)

/-- A new logger gets its place, its children, and last its parent. -/
theorem create_eq (tree : LoggerTree) (name : String) :
    tree.create name =
      let placed := await name (tree.adopted name) (namesAbove name)
      placed.1.set (some name) { placed.1.get (some name) with parent := placed.2 } := rfl

/-- The shape of a tree with one more logger is made from its shape. -/
theorem bare_create (tree : LoggerTree) (name : String) :
    (tree.create name).bare = tree.bare.create name := by
  have adopted_bare : tree.bare.adopted name = (tree.adopted name).bare := by
    rw [adopted, adopted, bare_foldl_adopt, bare_opened]
    rfl
  rw [create_eq, create_eq, adopted_bare, bare_await, bare_set]
  dsimp only
  rw [get_bare]
  rfl

/-- Making a logger depends on nothing but the parents and names. -/
theorem bare_ensure (tree : LoggerTree) (target : Option String) :
    (tree.ensure target).bare = tree.bare.ensure target := by
  cases target with
  | none => rfl
  | some name =>
      rw [ensure, ensure, has_bare]
      split
      · rfl
      · exact bare_create tree name

/-- The way up depends on nothing but the parents. -/
theorem upward_bare (tree : LoggerTree) (fuel : Nat) (target : Option String) :
    tree.bare.upward fuel target = tree.upward fuel target := by
  induction fuel generalizing target with
  | zero => rfl
  | succ fuel ih =>
      cases target with
      | none => rfl
      | some name => rw [upward, upward, ih, get_bare, Logger.fresh]

/-- Trees of one shape have the same ways up. -/
theorem path_congr {first second : LoggerTree} (same : first.bare = second.bare)
    (target : Option String) : first.path target = second.path target := by
  rw [path, path, ← upward_bare first, ← upward_bare second, same]

/-- What holds of the root and passes from every parent to its children holds of all loggers. -/
theorem Layered.induction {tree : LoggerTree} (layered : tree.Layered) {motive : Option String → Prop}
    (root : motive none)
    (named : ∀ name, motive (tree.get (some name)).parent → motive (some name))
    (target : Option String) : motive target := by
  have bounded (bound : Nat) : ∀ name : String, name.length < bound → motive (some name) := by
    induction bound with
    | zero => exact fun name short => absurd short (Nat.not_lt_zero _)
    | succ bound ih =>
        intro name short
        apply named
        cases above : (tree.get (some name)).parent with
        | none => exact root
        | some parent =>
            have shorter := layered.parent_lt above
            exact ih parent (by omega)
  cases target with
  | none => exact root
  | some name => exact bounded (name.length + 1) name (Nat.lt_succ_self _)

/-- More steps than the length of the name asks for lead no further. -/
theorem Layered.upward_eq {tree : LoggerTree} (layered : tree.Layered) {target : Option String}
    {fuel more : Nat} (enough : ∀ name, target = some name → name.length + 2 ≤ fuel)
    (positive : 0 < fuel) (le : fuel ≤ more) : tree.upward more target = tree.upward fuel target := by
  induction fuel generalizing target more with
  | zero => contradiction
  | succ fuel ih =>
      obtain ⟨more, rfl⟩ : ∃ steps, more = steps + 1 := ⟨more - 1, by omega⟩
      cases target with
      | none => rfl
      | some name =>
          have long := enough name rfl
          rw [upward, upward, ih _ (by omega) (by omega)]
          intro parent above
          have shorter := layered.parent_lt above
          omega

/-- The way up from a logger goes on as the way up from its parent. -/
theorem Layered.path_some {tree : LoggerTree} (layered : tree.Layered) (name : String) :
    tree.path (some name) = some name :: tree.path (tree.get (some name)).parent := by
  have start : tree.path (some name) =
      some name :: tree.upward (name.length + 1) (tree.get (some name)).parent := rfl
  rw [start, path]
  cases above : (tree.get (some name)).parent with
  | none => rfl
  | some parent =>
      have shorter := layered.parent_lt above
      have fits : (nameOf (some parent)).length + 2 ≤ name.length + 1 := Nat.succ_le_succ shorter
      rw [layered.upward_eq _ (Nat.succ_pos _) fits]
      rintro other same
      rw [Option.some.inj same]
      exact Nat.le_refl _

/-- A logger without a level of its own has the level of its parent. -/
theorem Layered.effectiveLevel_some {tree : LoggerTree} (layered : tree.Layered) (name : String) :
    tree.effectiveLevel (some name) =
      if (tree.get (some name)).level = 0 then tree.effectiveLevel (tree.get (some name)).parent
      else (tree.get (some name)).level := by
  rw [effectiveLevel, effectiveLevel, chain_eq_map_path, chain_eq_map_path, layered.path_some,
    List.map_cons, List.map_cons]
  by_cases zero : (tree.get (some name)).level = 0
  · rw [if_pos zero, List.find?_cons_of_neg (by simpa using zero)]
  · rw [if_neg zero, List.find?_cons_of_pos (by simpa using zero), Option.getD_some]

end LogGate.LoggerTree

import LogGate.Proofs.SetUp

/-!
Footprints: the name under which an action may keep an object, and whether it may build rules. All
actions leave other objects and the rules alone, and add to the tree of loggers; only those that may
build rules set loggers up.
-/

namespace LogGate

namespace LoggerTree

def Knows (tree : LoggerTree) (target : Option String) : Prop :=
  ∀ name, target = some name → tree.named.has name = true

theorem knows_set (tree : LoggerTree) (target : Option String) (logger : Logger) :
    (tree.set target logger).Knows target := by
  rintro name rfl
  rw [← Fields.isSome_get?]
  exact Option.isSome_of_eq_some (Fields.get?_put_self _ _ _)

/-- A logger that was asked for is known. -/
theorem knows_ensure (tree : LoggerTree) (target : Option String) :
    (tree.ensure target).Knows target := by
  rintro name rfl
  by_cases known : tree.named.has name
  · rw [ensure, if_pos known]
    exact known
  · rw [ensure, if_neg known]
    exact knows_set _ _ _ name rfl

/-- A tree grows by loggers that are made, and by the settings that known loggers get. -/
inductive Grows (tree : LoggerTree) : LoggerTree → Prop
  | refl : Grows tree tree
  | ensured {middle : LoggerTree} (grown : Grows tree middle) (target : Option String) :
      Grows tree (middle.ensure target)
  | changed {middle : LoggerTree} (grown : Grows tree middle) {target : Option String}
      {logger : Logger} (known : middle.Knows target)
      (same : logger.parent = (middle.get target).parent) : Grows tree (middle.set target logger)

/-- Trees grow step by step. -/
theorem Grows.trans {first second third : LoggerTree} (earlier : first.Grows second)
    (later : second.Grows third) : first.Grows third := by
  induction later with
  | refl => exact earlier
  | ensured _ target ih => exact ih.ensured target
  | changed _ known same ih => exact ih.changed known same

/-- What every growth preserves holds of a grown tree. -/
theorem Grows.preserves {condition : LoggerTree → Prop} {tree later : LoggerTree}
    (grown : tree.Grows later) (holds : condition tree)
    (ensured : ∀ (middle : LoggerTree) (target : Option String), condition middle →
      condition (middle.ensure target))
    (changed : ∀ (middle : LoggerTree) (target : Option String) (logger : Logger),
      middle.Knows target → logger.parent = (middle.get target).parent → condition middle →
        condition (middle.set target logger)) : condition later := by
  induction grown with
  | refl => exact holds
  | ensured _ target ih => exact ensured _ target ih
  | changed _ known same ih => exact changed _ _ _ known same ih

end LoggerTree

structure Footprint where
  place : Option String := none
  builds : Bool := false

/-- The change from one session to another stays inside a footprint. -/
structure Footprint.Allows (foot : Footprint) (session later : Session) : Prop where
  objects : ∀ name, foot.place ≠ some name → later.objects.get? name = session.objects.get? name
  rules : foot.builds = false → later.rules = session.rules
  settings : foot.builds = false → ∀ target,
    (later.loggers.get target).settings = (session.loggers.get target).settings
  loggers : session.loggers.Grows later.loggers

namespace Footprint.Allows

variable {foot : Footprint}

/-- A session with the same names, rules and loggers is within every footprint. -/
theorem of_same {session later : Session} (objects : later.objects = session.objects)
    (rules : later.rules = session.rules) (loggers : later.loggers = session.loggers) :
    foot.Allows session later where
  objects name _ := by rw [objects]
  rules _ := rules
  settings _ target := by rw [loggers]
  loggers := by
    rw [loggers]
    exact .refl

theorem refl (session : Session) : foot.Allows session session := of_same rfl rfl rfl

theorem trans {first second third : Session} (earlier : foot.Allows first second)
    (later : foot.Allows second third) : foot.Allows first third where
  objects name free := (later.objects name free).trans (earlier.objects name free)
  rules none_built := (later.rules none_built).trans (earlier.rules none_built)
  settings none_built target :=
    (later.settings none_built target).trans (earlier.settings none_built target)
  loggers := earlier.loggers.trans later.loggers

end Footprint.Allows

end LogGate

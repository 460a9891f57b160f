import LogGate.Value.Digest
import Mathlib.Data.List.Perm.Basic

/-!
Equality of values. Values that can be names in a table are equal exactly if they have the same content,
across all kinds of numbers, and their digests are digests of this content.
-/

namespace LogGate

/-- What counts when values are compared: of a number its quantity, and of a level its name and rank. -/
inductive Content where
  | absent
  | number (quantity : Quantity)
  | text (content : String)
  | bytes (octets : List UInt8)
  | tuple (items : List Content)
  | level (name : String) (rank : Int)
  | verdict (outcome : Verdict)
  | pair (key value : Content)
  /-- A list or a mapping, which is no name in a table. -/
  | changeable

namespace Value

mutual

def content : Value → Content
  | absent => .absent
  | bool truth => .number (.exact (if truth then 1 else 0))
  | int number => .number (.exact number)
  | float number => .number number.quantity
  | text content => .text content
  | bytes octets => .bytes octets
  | tuple items => .tuple (contents items)
  | level grade => .level grade.name grade.rank
  | verdict outcome => .verdict outcome
  | pair key value => .pair (content key) (content value)
  | list _ => .changeable
  | mapping _ => .changeable

def contents : List Value → List Content
  | [] => []
  | item :: rest => content item :: contents rest

end

/-- A value is a number if its content is one. -/
theorem quantity?_eq_some_iff {value : Value} {quantity : Quantity} :
    value.quantity? = some quantity ↔ .number quantity = value.content := by
  cases value <;> simp [quantity?, content, eq_comm]

mutual

/-- Values are the same exactly if they have the same content. -/
theorem same_iff_content {first : Value} (hashable : first.isHashable = true) (second : Value) :
    first.same second = true ↔ first.content = second.content := by
  cases first with
  | absent => cases second <;> simp [same, isAbsent, content]
  | bool truth => rw [same, beq_iff_eq, quantity?_eq_some_iff, content]
  | int number => rw [same, beq_iff_eq, quantity?_eq_some_iff, content]
  | float number => rw [same, beq_iff_eq, quantity?_eq_some_iff, content]
  | text content => cases second <;> simp [same, Value.content]
  | bytes octets => cases second <;> simp [same, content]
  | level grade => cases second <;> simp [same, content, Level.same]
  | verdict outcome => cases second <;> simp [same, content]
  | tuple items =>
      cases second with
      | tuple others =>
          rw [same, content, content, Content.tuple.injEq]
          exact sameItems_iff_contents hashable others
      | _ => simp [same, content]
  | pair key value =>
      rw [isHashable, Bool.and_eq_true] at hashable
      cases second with
      | pair otherKey otherValue =>
          rw [same, Bool.and_eq_true, content, content, Content.pair.injEq,
            same_iff_content hashable.1, same_iff_content hashable.2]
      | _ => simp [same, content]
  | list items => simp [isHashable] at hashable
  | mapping entries => simp [isHashable] at hashable

theorem sameItems_iff_contents {first : List Value} (hashable : isHashable.allHashable first = true)
    (second : List Value) : sameItems first second = true ↔ contents first = contents second := by
  cases first with
  | nil => cases second <;> simp [sameItems, contents]
  | cons item rest =>
      rw [isHashable.allHashable, Bool.and_eq_true] at hashable
      cases second with
      | nil => simp [sameItems, contents]
      | cons other others =>
          rw [sameItems, Bool.and_eq_true, contents, contents, List.cons.injEq,
            same_iff_content hashable.1, sameItems_iff_contents hashable.2]

end

mutual

/-- Every value equals itself, an undefined number too. -/
theorem same_refl (value : Value) : value.same value = true := by
  cases value with
  | list items => exact sameItems_refl items
  | tuple items => exact sameItems_refl items
  | mapping entries =>
      rw [same, beq_self_eq_true, Bool.true_and]
      exact allWithin_of_subset (List.Subset.refl entries)
  | pair key value => rw [same, same_refl key, same_refl value, Bool.and_self]
  | absent | bool | int | float | text | bytes | level | verdict =>
      exact (same_iff_content rfl _).mpr rfl

/-- Items are the same as themselves. -/
theorem sameItems_refl (items : List Value) : sameItems items items = true := by
  cases items with
  | nil => rfl
  | cons item rest => rw [sameItems, same_refl item, sameItems_refl rest, Bool.and_self]

theorem allWithin_of_subset {entries second : List (Value × Value)} (inside : entries ⊆ second) :
    allWithin entries second = true := by
  cases entries with
  | nil => rfl
  | cons entry rest =>
      obtain ⟨member, others⟩ := List.cons_subset.mp inside
      rw [allWithin, allWithin_of_subset others, Bool.and_true, List.any_eq_true]
      exact ⟨entry, member, by rw [same_refl entry.1, same_refl entry.2, Bool.and_self]⟩

end

end Value

namespace Content

mutual

def digest : Content → Digest
  | absent => [.nothing]
  | number quantity => [Digest.ofQuantity quantity]
  | text content => [Digest.ofText content]
  | bytes octets => [Digest.ofBytes (octets.map (·.toNat))]
  | tuple items => .group items.length :: digests items
  | level name rank => [.group 2, Digest.ofText name, Digest.ofRat rank]
  | verdict outcome => [Digest.ofText outcome.name]
  | pair key value => .group 2 :: (digest key ++ digest value)
  | changeable => []

def digests : List Content → Digest
  | [] => []
  | item :: rest => digest item ++ digests rest

end

end Content

namespace Value

theorem length_contents (items : List Value) : (contents items).length = items.length := by
  induction items with
  | nil => rfl
  | cons item rest ih => rw [contents, List.length_cons, List.length_cons, ih]

mutual

/-- The digest of a value depends on its content only. -/
theorem digest_content (value : Value) : value.content.digest = value.digest := by
  cases value with
  | tuple items =>
      rw [content, Content.digest, digest, length_contents, digestItems_contents]
  | pair key value =>
      rw [content, Content.digest, digest, digest_content key, digest_content value]
  | level grade => rfl
  | _ => simp only [content, Content.digest, digest, Digest.ofQuantity]

/-- The digest of items is that of their contents. -/
theorem digestItems_contents (items : List Value) :
    Content.digests (contents items) = digestItems items := by
  cases items with
  | nil => rfl
  | cons item rest =>
      rw [contents, Content.digests, digestItems, digest_content item, digestItems_contents rest]

end

end Value

end LogGate

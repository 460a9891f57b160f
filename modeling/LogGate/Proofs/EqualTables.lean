import LogGate.Filter
import LogGate.Proofs.Decision
import LogGate.Proofs.ValueEquality
import Mathlib.Data.List.Perm.Subperm

/-!
Equal tables and equal filters. Tables are equal when they give equal levels to equal values, in whatever
order they were written; equal ones have equal digests and decide alike.
-/

namespace LogGate

namespace SetDigest

/-- Toggling keeps members single. -/
theorem nodup_toggle {odd : List Digest} (single : odd.Nodup) (member : Digest) :
    (toggle odd member).Nodup := by
  unfold toggle
  split
  · exact single.erase member
  · next missing => exact List.nodup_cons.mpr ⟨by simpa using missing, single⟩

/-- Toggling changes whether one digest is there, and no other one. -/
theorem mem_toggle_iff {odd : List Digest} (single : odd.Nodup) {member digest : Digest} :
    digest ∈ toggle odd member ↔ (digest ∈ odd ↔ digest ≠ member) := by
  unfold toggle
  split
  · next found =>
    have inside : member ∈ odd := by simpa using found
    rw [single.mem_erase_iff]
    by_cases same : digest = member <;> simp_all
  · next missing =>
    have outside : member ∉ odd := by simpa using missing
    rw [List.mem_cons]
    by_cases same : digest = member <;> simp_all

/-- A digest is kept if it was met an odd number of times. -/
theorem mem_foldl_toggle_iff {odd : List Digest} (single : odd.Nodup) (members : List Digest)
    {digest : Digest} : digest ∈ members.foldl toggle odd ↔
      (digest ∈ odd ↔ members.count digest % 2 = 0) := by
  induction members generalizing odd with
  | nil => simp
  | cons member rest ih =>
      rw [List.foldl_cons, ih (nodup_toggle single member), mem_toggle_iff single, List.count_cons]
      by_cases same : digest = member
      · have parity : (rest.count digest + 1) % 2 = 0 ↔ ¬ rest.count digest % 2 = 0 := by omega
        simp only [same, ne_eq, not_true, beq_self_eq_true, if_true] at parity ⊢
        rw [parity]
        tauto
      · have other : (member == digest) = false := by simpa using fun equal => same equal.symm
        simp [same, other]

/-- The digest of a set does not depend on the order of its members. -/
theorem same_of_perm {members others : List Digest} (perm : members.Perm others) :
    (ofMembers members).same (ofMembers others) = true := by
  have agree (digest : Digest) :
      digest ∈ members.foldl toggle [] ↔ digest ∈ others.foldl toggle [] := by
    rw [mem_foldl_toggle_iff List.nodup_nil, mem_foldl_toggle_iff List.nodup_nil, perm.count_eq]
  simp only [same, ofMembers, perm.length_eq, beq_self_eq_true, Bool.true_and, Bool.and_eq_true,
    List.all_eq_true, List.contains_iff_mem]
  exact ⟨fun digest => (agree digest).mp, fun digest => (agree digest).mpr⟩

end SetDigest

namespace Fields

variable {κ ν : Type} [BEq κ]

/-- Putting an entry adds no name but its own. -/
theorem mem_names_put {fields : Fields κ ν} {name other : κ} {value : ν}
    (member : other ∈ (fields.put name value).map (·.1)) :
    other ∈ fields.map (·.1) ∨ other = name := by
  induction fields with
  | nil => exact .inr (List.mem_singleton.mp member)
  | cons entry rest ih =>
      by_cases found : entry.1 == name
      · rw [put, if_pos found] at member
        exact .inl member
      · rw [put, if_neg found] at member
        rcases List.mem_cons.mp member with first | later
        · exact .inl (List.mem_cons.mpr (.inl first))
        · exact (ih later).imp_left (List.mem_cons_of_mem _)

variable [LawfulBEq κ]

/-- Tables with the same entries in another order find the same under every name. -/
theorem perm_iff_get? {first second : Fields κ ν} (distinct : first.Distinct)
    (otherDistinct : second.Distinct) :
    first.Perm second ↔ ∀ name, first.get? name = second.get? name := by
  rw [List.perm_ext_iff_of_nodup (List.Nodup.of_map _ distinct) (List.Nodup.of_map _ otherDistinct)]
  constructor
  · intro same name
    apply Option.ext
    intro value
    rw [get?_eq_some_iff distinct, get?_eq_some_iff otherDistinct]
    exact same (name, value)
  · rintro same ⟨name, value⟩
    rw [← get?_eq_some_iff distinct, ← get?_eq_some_iff otherDistinct, same]

end Fields

/-- What counts when levels are compared. -/
def Level.signature (level : Level) : String × Int := (level.name, level.rank)

/-- Levels are the same if they have the same signature. -/
theorem Level.same_iff_signature {first second : Level} :
    first.same second = true ↔ first.signature = second.signature := by
  simp [same, signature]

noncomputable instance : DecidableEq Content := Classical.typeDecidableEq Content

/-- Values that can be looked up are compared by their content. -/
theorem Value.beq_eq_content_beq {first : Value} (hashable : first.isHashable = true)
    (second : Value) : (first == second) = (first.content == second.content) := by
  have same : (first == second) = true ↔ first.content = second.content :=
    same_iff_content hashable second
  rw [Bool.eq_iff_iff, same, beq_iff_eq]

/-- Entries of a mapping: their names are hashable, and no two of them are equal. -/
structure Fields.NamesApart {ν : Type} (entries : Fields Value ν) : Prop where
  hashable : ∀ name ∈ entries.map (·.1), name.isHashable = true
  apart : (entries.map (·.1)).Pairwise fun first second => first.same second = false

namespace ThresholdTable

/-- What counts of the entries of a table. -/
def contents (levels : Fields Value Level) : Fields Content (String × Int) :=
  levels.map fun entry => (entry.1.content, entry.2.signature)

section Contents

variable {levels : Fields Value Level}

/-- Contents are looked up like the values that they come from. -/
theorem get?_contents (hashable : ∀ name ∈ levels.map (·.1), name.isHashable = true)
    (value : Value) :
    (contents levels).get? value.content = (levels.get? value).map Level.signature := by
  induction levels with
  | nil => rfl
  | cons entry rest ih =>
      obtain ⟨first, others⟩ := List.forall_mem_cons.mp hashable
      have tail : (contents rest).get? value.content = _ := ih others
      rw [contents, List.map_cons, Fields.get?_cons, Fields.get?, Value.beq_eq_content_beq first]
      split
      · rfl
      · exact tail

/-- Contents change with the entries. -/
theorem contents_put (hashable : ∀ name ∈ levels.map (·.1), name.isHashable = true)
    (value : Value) (level : Level) :
    contents (levels.put value level) = (contents levels).put value.content level.signature := by
  induction levels with
  | nil => rfl
  | cons entry rest ih =>
      obtain ⟨first, others⟩ := List.forall_mem_cons.mp hashable
      have tail : contents (Fields.put rest value level) = _ := ih others
      rw [contents, contents, List.map_cons, Fields.put, Fields.put, Value.beq_eq_content_beq first]
      split
      · rfl
      · rw [List.map_cons]
        exact congrArg _ tail

/-- The entries of a table stand under different names, which are hashable. -/
structure Sound (levels : Fields Value Level) : Prop where
  hashable : ∀ name ∈ levels.map (·.1), name.isHashable = true
  distinct : (contents levels).Distinct

theorem sound_nil : Sound [] := ⟨List.forall_mem_nil _, List.nodup_nil⟩

theorem Sound.put (sound : Sound levels) {value : Value} (hashable : value.isHashable = true)
    (level : Level) : Sound (levels.put value level) where
  hashable name member := by
    rcases Fields.mem_names_put member with old | rfl
    · exact sound.hashable name old
    · exact hashable
  distinct := by
    rw [contents_put sound.hashable]
    exact sound.distinct.put _ _

/-- Entries that are added to sound levels leave them sound. -/
theorem Sound.addEntries {registry : Registry} {entries : List Value} {later : Fields Value Level}
    (sound : Sound levels) (added : addEntries registry levels entries = .ok later) :
    Sound later := by
  induction entries generalizing levels with
  | nil =>
      rw [ThresholdTable.addEntries, Except.ok.injEq] at added
      exact added ▸ sound
  | cons entry rest ih =>
      rw [ThresholdTable.addEntries, Except.bind_eq_ok_iff] at added
      obtain ⟨middle, first, others⟩ := added
      obtain ⟨value, name, level, -, -, -, hashable, rfl⟩ := addEntry_eq_ok_iff.mp first
      exact ih (sound.put hashable level) others

/-- The levels that are named in a mapping stand under its names. -/
theorem names_resolveEntries {registry : Registry} {entries : List (Value × Value)}
    (resolved : resolveEntries registry entries = .ok levels) :
    levels.map (·.1) = entries.map (·.1) := by
  induction entries generalizing levels with
  | nil =>
      rw [resolveEntries, Except.ok.injEq] at resolved
      rw [← resolved]
      rfl
  | cons entry rest ih =>
      simp only [resolveEntries, Except.bind_eq_ok_iff, Except.map_eq_ok_iff] at resolved
      obtain ⟨level, -, others, last, rfl⟩ := resolved
      rw [List.map_cons, List.map_cons, ih last]

/-- Levels under distinct texts are sound. -/
theorem Sound.of_names (apart : levels.NamesApart) : Sound levels where
  hashable := apart.hashable
  distinct := by
    have names : (contents levels).map (·.1) = (levels.map (·.1)).map Value.content := by
      rw [contents, List.map_map, List.map_map]
      rfl
    rw [Fields.Distinct, names, List.Nodup, List.pairwise_map]
    refine apart.apart.imp_of_mem fun {first second} member _ different same => ?_
    rw [(Value.same_iff_content (apart.hashable first member) second).mpr same] at different
    contradiction

end Contents

/-- The tables that can be built: from a sequence of entries, or from a mapping of values to levels. -/
inductive Built : ThresholdTable → Prop
  | ofPairs {registry : Registry} {pairs default : Value} {table : ThresholdTable}
      (made : ThresholdTable.ofPairs registry pairs default = .ok table) : Built table
  | ofMapping {registry : Registry} {levels default : Value} {table : ThresholdTable}
      (apart : ∀ entries, levels = .mapping entries → Fields.NamesApart entries)
      (made : ThresholdTable.ofMapping registry levels default = .ok table) : Built table

/-- The levels of a table that was built are sound. -/
theorem Built.sound {table : ThresholdTable} (built : table.Built) : Sound table.levels := by
  cases built with
  | ofPairs made =>
      obtain ⟨entries, -, added, -⟩ := ofPairs_eq_ok_iff.mp made
      exact sound_nil.addEntries added
  | @ofMapping registry levels default _ apart made =>
      simp only [ThresholdTable.ofMapping, Except.bind_eq_ok_iff, Except.map_eq_ok_iff] at made
      obtain ⟨entries, listed, named, resolved, level, -, rfl⟩ := made
      have names := names_resolveEntries resolved
      have known : Fields.NamesApart entries := by
        cases levels with
        | mapping given => exact apart entries (by rw [Except.ok.inj listed])
        | _ =>
          rw [Value.entriesOrNone] at listed
          split at listed
          · contradiction
          · cases listed
            exact ⟨List.forall_mem_nil _, List.Pairwise.nil⟩
          · simp
      exact .of_names ⟨names ▸ known.hashable, names ▸ known.apart⟩

section Comparing

variable {first second third : Fields Value Level}

/-- Entries agree up to their order exactly if equal values have equal levels. -/
theorem sameAs_iff_perm (sound : Sound first) (otherSound : Sound second) :
    first.sameAs second Level.same = true ↔ (contents first).Perm (contents second) := by
  rw [Fields.sameAs, Bool.and_eq_true, beq_iff_eq, List.all_eq_true]
  constructor
  · rintro ⟨lengths, within⟩
    have subset : contents first ⊆ contents second := by
      intro pair member
      obtain ⟨entry, inside, rfl⟩ := List.mem_map.mp member
      have found := within entry inside
      rw [← Fields.get?_eq_some_iff otherSound.distinct, get?_contents otherSound.hashable]
      split at found
      · next level held => rw [held, Option.map_some, Level.same_iff_signature.mp found]
      · contradiction
    have single : (contents first).Nodup := List.Nodup.of_map _ sound.distinct
    refine (List.subperm_of_subset single subset).perm_of_length_le ?_
    simp [contents, lengths]
  · intro perm
    refine ⟨by simpa [contents] using perm.length_eq, fun entry inside => ?_⟩
    have member : (entry.1.content, entry.2.signature) ∈ contents second :=
      perm.mem_iff.mp (List.mem_map.mpr ⟨entry, inside, rfl⟩)
    rw [← Fields.get?_eq_some_iff otherSound.distinct, get?_contents otherSound.hashable,
      Option.map_eq_some_iff] at member
    obtain ⟨level, held, same⟩ := member
    rw [held]
    exact Level.same_iff_signature.mpr same.symm

/-- Tables that agree on all values have the same contents. -/
theorem contents_subset (sound : Sound first) (otherSound : Sound second)
    (agree : ∀ value : Value, value.isHashable = true →
      (first.get? value).map Level.signature = (second.get? value).map Level.signature) :
    contents first ⊆ contents second := by
  intro pair member
  obtain ⟨entry, inside, rfl⟩ := List.mem_map.mp member
  have hashable := sound.hashable entry.1 (List.mem_map.mpr ⟨entry, inside, rfl⟩)
  rw [← Fields.get?_eq_some_iff sound.distinct, get?_contents sound.hashable] at member
  rw [← Fields.get?_eq_some_iff otherSound.distinct, get?_contents otherSound.hashable,
    ← agree entry.1 hashable, member]

/-- Contents are the same up to order exactly when the tables agree on every value. -/
theorem perm_iff_agree (sound : Sound first) (otherSound : Sound second) :
    (contents first).Perm (contents second) ↔ ∀ value : Value, value.isHashable = true →
      (first.get? value).map Level.signature = (second.get? value).map Level.signature := by
  constructor
  · intro perm value _
    rw [← get?_contents sound.hashable, ← get?_contents otherSound.hashable]
    exact (Fields.perm_iff_get? sound.distinct otherSound.distinct).mp perm value.content
  · intro agree
    rw [List.perm_ext_iff_of_nodup (List.Nodup.of_map _ sound.distinct)
      (List.Nodup.of_map _ otherSound.distinct)]
    have back (value : Value) (hashable : value.isHashable = true) := (agree value hashable).symm
    exact fun pair => ⟨(contents_subset sound otherSound agree ·),
      (contents_subset otherSound sound back ·)⟩

end Comparing

/-- What entries list: the level that each of them names, under its value. -/
def listed (registry : Registry) (entries : List Value) : Fields Value Level :=
  entries.filterMap fun entry => entry.halves?.bind fun pair =>
    (registry.resolve pair.2 none).toOption.map (pair.1, ·)

/-- The level that the last entry for a value names. -/
def lastLevel? (registry : Registry) (entries : List Value) (value : Value) : Option Level :=
  Fields.get? (listed registry entries).reverse value

/-- Entries are put as they are listed. -/
theorem eq_putAll_of_addEntries {registry : Registry} {entries : List Value}
    {levels later : Fields Value Level} (added : addEntries registry levels entries = .ok later) :
    later = levels.putAll (listed registry entries) ∧
      ∀ name ∈ (listed registry entries).map (·.1), name.isHashable = true := by
  induction entries generalizing levels with
  | nil =>
      rw [addEntries, Except.ok.injEq] at added
      exact ⟨added.symm, List.forall_mem_nil _⟩
  | cons entry rest ih =>
      rw [addEntries, Except.bind_eq_ok_iff] at added
      obtain ⟨middle, first, others⟩ := added
      obtain ⟨value, name, level, halves, -, named, hashable, rfl⟩ := addEntry_eq_ok_iff.mp first
      obtain ⟨same, known⟩ := ih others
      have head : listed registry (entry :: rest) = (value, level) :: listed registry rest := by
        simp [listed, halves, named, Except.toOption]
      rw [head, Fields.putAll_cons, List.map_cons, List.forall_mem_cons]
      exact ⟨same, hashable, known⟩

/-- Contents of a table with entries added are the contents with these entries added. -/
theorem contents_putAll {levels added : Fields Value Level} (sound : Sound levels)
    (hashable : ∀ name ∈ added.map (·.1), name.isHashable = true) :
    contents (levels.putAll added) = (contents levels).putAll (contents added) := by
  induction added generalizing levels with
  | nil => rfl
  | cons entry rest ih =>
      obtain ⟨first, others⟩ := List.forall_mem_cons.mp hashable
      rw [Fields.putAll_cons, ih (sound.put first _) others, contents_put sound.hashable]
      rfl

/-- A table holds for every value the level that the last entry for it names. -/
theorem get?_of_ofPairs {registry : Registry} {pairs default : Value} {entries : List Value}
    {table : ThresholdTable} (items : pairs.itemsOrNone = .ok entries)
    (made : ofPairs registry pairs default = .ok table) (value : Value) :
    (table.levels.get? value).map Level.signature =
      (lastLevel? registry entries value).map Level.signature := by
  obtain ⟨other, itemsAgain, added, -⟩ := ofPairs_eq_ok_iff.mp made
  obtain rfl : entries = other := Except.ok.inj (items.symm.trans itemsAgain)
  obtain ⟨same, hashable⟩ := eq_putAll_of_addEntries added
  have sound : Sound table.levels := (Built.ofPairs made).sound
  have collapsed : contents table.levels = Fields.ofList (contents (listed registry entries)) := by
    rw [same, contents_putAll sound_nil hashable]
    rfl
  have reversed : ∀ name ∈ List.map (·.1) (listed registry entries).reverse,
      name.isHashable = true := by
    simpa using hashable
  rw [← get?_contents sound.hashable, collapsed, Fields.get?_ofList, lastLevel?,
    ← get?_contents reversed, contents, contents, List.map_reverse]

section Equality

variable {first second third : ThresholdTable}

/-- Tables are the same if they have the same default and the same contents in some order. -/
theorem same_iff_perm (built : first.Built) (otherBuilt : second.Built) :
    first.same second = true ↔ first.default.signature = second.default.signature ∧
      (contents first.levels).Perm (contents second.levels) := by
  rw [same, Bool.and_eq_true, Level.same_iff_signature,
    sameAs_iff_perm built.sound otherBuilt.sound]

/-- Tables are the same if they have the same default and list every value at the same level. -/
theorem same_iff_agree (built : first.Built) (otherBuilt : second.Built) :
    first.same second = true ↔ first.default.signature = second.default.signature ∧
      ∀ value : Value, value.isHashable = true →
        (first.levels.get? value).map Level.signature =
          (second.levels.get? value).map Level.signature := by
  rw [same_iff_perm built otherBuilt, perm_iff_agree built.sound otherBuilt.sound]

/-- Every table is the same as itself. -/
theorem Built.same_refl (built : first.Built) : first.same first = true :=
  (same_iff_perm built built).mpr ⟨rfl, .refl _⟩

/-- The order of the tables does not matter. -/
theorem Built.same_symm (built : first.Built) (otherBuilt : second.Built)
    (equal : first.same second = true) : second.same first = true := by
  obtain ⟨defaults, perm⟩ := (same_iff_perm built otherBuilt).mp equal
  exact (same_iff_perm otherBuilt built).mpr ⟨defaults.symm, perm.symm⟩

/-- Tables that are the same as a third one are the same. -/
theorem Built.same_trans (built : first.Built) (middle : second.Built) (last : third.Built)
    (equal : first.same second = true) (again : second.same third = true) :
    first.same third = true := by
  obtain ⟨defaults, perm⟩ := (same_iff_perm built middle).mp equal
  obtain ⟨others, further⟩ := (same_iff_perm middle last).mp again
  exact (same_iff_perm built last).mpr ⟨defaults.trans others, perm.trans further⟩

/-- The digest of an entry, as its content gives it. -/
def entryDigest (entry : Content × String × Int) : Digest :=
  .group 2 :: (entry.1.digest ++
    [.group 2, Digest.ofText entry.2.1, Digest.ofRat entry.2.2])

/-- Tables that are the same have the same digest. -/
theorem digest_same_of_same (built : first.Built) (otherBuilt : second.Built)
    (equal : first.same second = true) : first.digest.same second.digest = true := by
  obtain ⟨defaults, perm⟩ := (same_iff_perm built otherBuilt).mp equal
  have entries (levels : Fields Value Level) :
      levels.map (fun entry => .group 2 :: (entry.1.digest ++ Digest.ofLevel entry.2)) =
        (contents levels).map entryDigest := by
    rw [contents, List.map_map]
    refine List.map_congr_left fun entry _ => ?_
    rw [Function.comp_apply, entryDigest, Value.digest_content]
    rfl
  have default : Digest.ofLevel first.default = Digest.ofLevel second.default := by
    rw [Level.signature, Level.signature, Prod.mk.injEq] at defaults
    rw [Digest.ofLevel, Digest.ofLevel, defaults.1, defaults.2]
  rw [TableDigest.same, Bool.and_eq_true, beq_iff_eq]
  refine ⟨default, ?_⟩
  dsimp only [digest]
  rw [entries, entries]
  exact SetDigest.same_of_perm (perm.map entryDigest)

/-- Equal tables require levels of the same rank of every value. -/
theorem lookup_same_of_same (built : first.Built) (otherBuilt : second.Built)
    (equal : first.same second = true) {value : Value} (hashable : value.isHashable = true) :
    (first.lookup value).same (second.lookup value) = true := by
  obtain ⟨defaults, agree⟩ := (same_iff_agree built otherBuilt).mp equal
  have found := agree value hashable
  rw [Level.same_iff_signature, lookup, lookup]
  cases given : first.levels.get? value <;> cases other : second.levels.get? value <;>
    simp only [given, other, Option.map_none, Option.map_some, reduceCtorEq, Option.some.injEq] at found
  · exact defaults
  · exact found

end Equality

end ThresholdTable

namespace Level

/-- Both levels are missing, or they are equal. -/
theorem rel_same_iff {first second : Option Level} :
    Option.Rel (fun level other => level.same other = true) first second ↔
      first.map signature = second.map signature := by
  cases first <;> cases second <;> simp [same_iff_signature]

end Level

namespace Rule

/-- The rules that can be built: from what a filter is created from, or around a table. -/
inductive Built : Rule → Prop
  | create {registry : Registry} {key pairs default onMatch onMismatch : Value} {rule : Rule}
      (created : Rule.create registry key pairs default onMatch onMismatch = .ok rule) : Built rule
  | new {key onMatch onMismatch : Value} {table : Option ThresholdTable} {rule : Rule}
      (built : ∀ given, table = some given → given.Built)
      (made : Rule.new key table onMatch onMismatch = .ok rule) : Built rule

theorem Built.table {rule : Rule} (built : rule.Built) : rule.table.Built := by
  cases built with
  | create created => exact .ofPairs (Rule.create_eq_ok_iff.mp created).2.2.1
  | @new key onMatch onMismatch table _ given made =>
      cases key with
      | text content =>
          rw [Rule.new] at made
          split at made
          · contradiction
          · cases made
            cases table with
            | none =>
                have empty : ThresholdTable.ofPairs .standard .absent .absent = .ok emptyTable := rfl
                exact .ofPairs empty
            | some table => exact given table rfl
      | _ => simp [Rule.new] at made

/-- Rules are compared by key and table only. -/
theorem same_iff {first second : Rule} : first.same second = true ↔
    first.key = second.key ∧ first.table.same second.table = true := by
  rw [same, Bool.and_eq_true, beq_iff_eq]

/-- Equal rules with the same outcomes decide alike, as long as equal levels are compared alike. -/
theorem outcomeBy_of_same {first second : Rule} (built : first.Built) (otherBuilt : second.Built)
    (equal : first.same second = true) (matched : first.onMatch = second.onMatch)
    (mismatched : first.onMismatch = second.onMismatch) {passes : Level → Level → Bool}
    (alike : ∀ level threshold other : Level, threshold.same other = true →
      passes level threshold = passes level other) (level : Level) (snapshot : Snapshot) :
    first.outcomeBy passes level snapshot = second.outcomeBy passes level snapshot := by
  obtain ⟨keys, tables⟩ := same_iff.mp equal
  rw [outcomeBy, outcomeBy, keys, matched, mismatched]
  cases snapshot.get? second.key with
  | none => rfl
  | some value =>
      have hashable : (Value.text value).isHashable = true := rfl
      have thresholds := ThresholdTable.lookup_same_of_same built.table otherBuilt.table tables hashable
      dsimp only
      rw [alike level _ _ thresholds]

end Rule

/-- No order tells equal levels apart. -/
theorem LevelOrder.passes_of_same (order : LevelOrder) (level : Level) {threshold other : Level}
    (equal : threshold.same other = true) :
    order.passes level threshold = order.passes level other := by
  have ranks : threshold.rank = other.rank :=
    congrArg Prod.snd (Level.same_iff_signature.mp equal)
  cases order <;> simp [passes, ranks]

/-- Equality of tables and of filters is an equivalence. Tables are equal exactly if their defaults are
and they give equal levels to equal values; for tables of pairs these are the levels of the last pairs.
Filters are equal exactly if their keys and tables are. Equal ones have equal digests, and equal filters
with the same outcomes and the same order decide every event alike. -/
theorem equal_filters_are_interchangeable :
    (Equivalence fun first second : { table : ThresholdTable // table.Built } =>
      first.val.same second.val = true) ∧
    (Equivalence fun first second : { filter : Filter // filter.rule.Built } =>
      first.val.same second.val = true) ∧
    (∀ first second : ThresholdTable, first.Built → second.Built →
      (first.same second = true ↔ first.default.same second.default = true ∧
        ∀ value other : Value, value.isHashable = true → value.same other = true →
          Option.Rel (fun level wanted => level.same wanted = true)
            (first.levels.get? value) (second.levels.get? other)) ∧
      (first.same second = true → first.digest.same second.digest = true)) ∧
    (∀ (registry later : Registry) (pairs others default otherDefault : Value)
      (entries otherEntries : List Value) (first second : ThresholdTable),
      pairs.itemsOrNone = .ok entries → others.itemsOrNone = .ok otherEntries →
      ThresholdTable.ofPairs registry pairs default = .ok first →
      ThresholdTable.ofPairs later others otherDefault = .ok second →
      (first.same second = true ↔ first.default.same second.default = true ∧
        ∀ value : Value, value.isHashable = true →
          Option.Rel (fun level wanted => level.same wanted = true)
            (ThresholdTable.lastLevel? registry entries value)
            (ThresholdTable.lastLevel? later otherEntries value))) ∧
    ∀ first second : Filter, first.rule.Built → second.rule.Built →
      (first.same second = true ↔
        first.rule.key = second.rule.key ∧ first.rule.table.same second.rule.table = true) ∧
      (first.same second = true → first.rule.sameDigest second.rule = true ∧
        (first.rule.onMatch = second.rule.onMatch →
          first.rule.onMismatch = second.rule.onMismatch →
          (first.order = second.order → ∀ (level : Level) (snapshot : Snapshot),
            first.evaluate level snapshot = second.evaluate level snapshot) ∧
          ∀ passes : Level → Level → Bool,
            (∀ level threshold other : Level, threshold.same other = true →
              passes level threshold = passes level other) →
            ∀ (level : Level) (snapshot : Snapshot),
              first.rule.outcomeBy passes level snapshot =
                second.rule.outcomeBy passes level snapshot)) := by
  refine ⟨⟨fun table => table.2.same_refl, fun {first second} => first.2.same_symm second.2,
    fun {first second third} => first.2.same_trans second.2 third.2⟩, ⟨?_, ?_, ?_⟩, ?_, ?_, ?_⟩
  · rintro ⟨filter, built⟩
    exact Rule.same_iff.mpr ⟨rfl, built.table.same_refl⟩
  · rintro ⟨first, built⟩ ⟨second, otherBuilt⟩ equal
    obtain ⟨keys, tables⟩ := Rule.same_iff.mp equal
    exact Rule.same_iff.mpr ⟨keys.symm, built.table.same_symm otherBuilt.table tables⟩
  · rintro ⟨first, built⟩ ⟨second, middle⟩ ⟨third, last⟩ equal again
    obtain ⟨keys, tables⟩ := Rule.same_iff.mp equal
    obtain ⟨otherKeys, further⟩ := Rule.same_iff.mp again
    exact Rule.same_iff.mpr ⟨keys.trans otherKeys,
      built.table.same_trans middle.table last.table tables further⟩
  · intro first second built otherBuilt
    refine ⟨?_, ThresholdTable.digest_same_of_same built otherBuilt⟩
    rw [ThresholdTable.same_iff_agree built otherBuilt, Level.same_iff_signature]
    refine and_congr_right fun _ => ⟨fun agree value other hashable equal => ?_,
      fun agree value hashable => ?_⟩
    · rw [Level.rel_same_iff, agree value hashable,
        ← ThresholdTable.get?_contents otherBuilt.sound.hashable,
        ← ThresholdTable.get?_contents otherBuilt.sound.hashable,
        (Value.same_iff_content hashable other).mp equal]
    · have itself := (Value.same_iff_content hashable value).mpr rfl
      exact Level.rel_same_iff.mp (agree value value hashable itself)
  · intro registry later pairs others default otherDefault entries otherEntries first second items
      otherItems made otherMade
    rw [ThresholdTable.same_iff_agree (.ofPairs made) (.ofPairs otherMade),
      Level.same_iff_signature]
    simp only [Level.rel_same_iff, ThresholdTable.get?_of_ofPairs items made,
      ThresholdTable.get?_of_ofPairs otherItems otherMade]
  · intro first second built otherBuilt
    refine ⟨Rule.same_iff, fun equal => ⟨?_, fun matched mismatched => ⟨?_, ?_⟩⟩⟩
    · obtain ⟨keys, tables⟩ := Rule.same_iff.mp equal
      rw [Rule.sameDigest, keys, beq_self_eq_true, Bool.true_and]
      exact ThresholdTable.digest_same_of_same built.table otherBuilt.table tables
    · intro orders level snapshot
      rw [Filter.evaluate, Filter.evaluate, orders]
      exact Rule.outcomeBy_of_same built otherBuilt equal matched mismatched
        (fun level _ _ => second.order.passes_of_same level) level snapshot
    · intro passes alike level snapshot
      exact Rule.outcomeBy_of_same built otherBuilt equal matched mismatched alike level snapshot

/-- One value is written as a whole number, as a truth value and as a binary number, and the pairs stand
in another order. -/
theorem equal_filters_are_interchangeable_on_ones :
    let first : Filter := ⟨⟨"tenant", ⟨[(.int 1, ⟨"ERROR", 40, true⟩),
      (.text "acme", ⟨"INFO", 20, true⟩)], .error⟩, .verdict .neutral, .verdict .deny⟩,
      .severity, .ambient⟩
    let second : Filter := ⟨⟨"tenant", ⟨[(.text "acme", ⟨"INFO", 20, false⟩),
      (.float (.ofInt 1), ⟨"ERROR", 40, true⟩)], ⟨"ERROR", 40, false⟩⟩, .verdict .neutral,
      .verdict .deny⟩, .severity, .silent⟩
    first.same second = true ∧ first.rule.sameDigest second.rule = true ∧
      ∀ (level : Level) (snapshot : Snapshot),
        first.evaluate level snapshot = second.evaluate level snapshot := by
  intro first second
  have created : Rule.create .standard (.text "tenant") (.list [.tuple [.int 1, .text "warn"],
      .pair (.text "acme") (.text "info"), .tuple [.bool true, .text "Error"]]) .absent .absent
      .absent = .ok first.rule := rfl
  have again : Rule.create .standard (.text "tenant") (.list
      [.tuple [.text "acme", .level ⟨"INFO", 20, false⟩], .list [.float (.ofInt 1), .text "error"]])
      (.level ⟨"ERROR", 40, false⟩) (.text "neutral") .absent = .ok second.rule := rfl
  have equal : first.same second = true := by decide
  obtain ⟨-, -, -, -, filters⟩ := equal_filters_are_interchangeable
  obtain ⟨-, alike⟩ := filters first second (.create created) (.create again)
  obtain ⟨digests, decided⟩ := alike equal
  exact ⟨equal, digests, (decided rfl rfl).1 rfl⟩

end LogGate

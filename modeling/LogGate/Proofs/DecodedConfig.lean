import LogGate.Proofs.ConfiguredPairs
import LogGate.Proofs.Fields
import LogGate.Proofs.Listings
import LogGate.Proofs.RuleFailures

/-!
Rules of configurations that were decoded from a text: what they fail with. All failures are
misconfigurations, except where the pairs hold a value that cannot be walked through, or a level for a
list or an object.
-/

namespace LogGate

/-- The values that JSON can be decoded to. The names of an object are texts. -/
inductive Value.Decoded : Value → Prop
  | absent : Decoded .absent
  | bool (truth : Bool) : Decoded (.bool truth)
  | int (number : Int) : Decoded (.int number)
  | float (number : Binary64) : Decoded (.float number)
  | text (content : String) : Decoded (.text content)
  | list {items : List Value} (parts : ∀ item ∈ items, Decoded item) : Decoded (.list items)
  | mapping {members : List (Value × Value)}
      (names : ∀ entry ∈ members, ∃ name, entry.1 = .text name)
      (values : ∀ entry ∈ members, Decoded entry.2) : Decoded (.mapping members)

/-- Only lists and objects cannot be names in a table. -/
theorem Value.Decoded.isHashable_eq_false_iff {value : Value} (decoded : value.Decoded) :
    value.isHashable = false ↔
      (∃ items, value = .list items) ∨ ∃ members, value = .mapping members := by
  cases decoded <;> simp [isHashable]

namespace Config

section Items

variable {registry : Registry} {item entry value : Value}

/-- An item gives a level to a value. -/
def GivesLevel (registry : Registry) (item value : Value) : Prop :=
  ∃ name level, Gives item ⟨value, value, name⟩ ∧ value.isAbsent = false ∧
    registry.resolve name none = .ok level

/-- An item is taken when it gives a level to a value that can be a name in a table. -/
def Taken (registry : Registry) (item : Value) : Prop :=
  ∃ value, GivesLevel registry item value ∧ value.isHashable = true

/-- An item misnames when it gives a level to a list or to an object. -/
def Misnames (registry : Registry) (item : Value) : Prop :=
  ∃ value, GivesLevel registry item value ∧
    ((∃ items, value = .list items) ∨ ∃ members, value = .mapping members)

/-- Pairs that cannot be walked through are a number or a truth value that counts as true, or a list with
an item that has no items. -/
def Unwalkable (pairs : Value) : Prop :=
  (pairs.isTrue = true ∧ pairs.items? = none) ∨
    ∃ items, pairs = .list items ∧ ∃ item ∈ items, item.items? = none

/-- The first item that is not taken misnames, and every item has items. -/
def MisnamesFirst (registry : Registry) (pairs : Value) : Prop :=
  ∃ earlier item later, pairs = .list (earlier ++ item :: later) ∧
    (∀ other ∈ earlier ++ item :: later, other.items? ≠ none) ∧
      (∀ other ∈ earlier, Taken registry other) ∧ Misnames registry item

/-- Reading an entry fails only where it has no items. -/
theorem readEntry_eq_error_iff {failure : Failure} :
    readEntry item = .error failure ↔ failure = .notIterable ∧ item.items? = none := by
  cases item <;> simp [readEntry, Value.items?, eq_comm]

/-- The halves of an entry are what its item gives. -/
theorem halves?_eq_some_iff_gives (read : readEntry item = .ok entry) {name : Value} :
    entry.halves? = some (value, name) ↔ Gives item ⟨value, value, name⟩ := by
  constructor
  · intro halves
    exact (gives_of_readEntry read halves).1
  · intro gives
    cases gives with
    | object key level =>
        rw [readEntry, Except.ok.injEq] at read
        rw [← read, Value.halves?_tuple, key, level]
    | items other items =>
        rw [readEntry, items, Except.ok.injEq] at read
        · rw [← read, Value.halves?_tuple]
        · exact other

/-- An entry is taken whatever was taken before it. -/
theorem addEntry_ok_iff_taken (read : readEntry item = .ok entry) (levels : Fields Value Level) :
    (∃ later, ThresholdTable.addEntry registry levels entry = .ok later) ↔ Taken registry item := by
  simp only [ThresholdTable.addEntry_eq_ok_iff, halves?_eq_some_iff_gives read]
  constructor
  · rintro ⟨later, value, name, level, gives, given, resolved, hashable, -⟩
    exact ⟨value, ⟨name, level, gives, given, resolved⟩, hashable⟩
  · rintro ⟨value, ⟨name, level, gives, given, resolved⟩, hashable⟩
    exact ⟨_, value, name, level, gives, given, resolved, hashable, rfl⟩

/-- What an item gives is decoded with it. -/
theorem decoded_of_gives (decoded : item.Decoded) {listed : Listed} (gives : Gives item listed) :
    listed.value.Decoded := by
  cases gives with
  | @object members value name key level =>
      cases decoded with
      | mapping names values =>
          dsimp only
          rw [← key]
          cases found : Fields.get? members (.text "key") with
          | none => exact .absent
          | some held =>
              obtain ⟨entry, member, rfl⟩ := Fields.exists_mem_of_get? found
              exact values entry member
  | @items item value name other items =>
      cases decoded with
      | text content =>
          have member : value ∈ content.toList.map fun c => Value.text (String.singleton c) := by
            rw [Option.some.inj items]
            exact List.mem_cons_self
          obtain ⟨c, -, rfl⟩ := List.mem_map.mp member
          exact .text _
      | list parts =>
          apply parts
          rw [Option.some.inj items]
          exact List.mem_cons_self
      | mapping names values => exact absurd rfl (other _)
      | _ => contradiction

/-- An entry fails as one that cannot be looked up exactly when it misnames. -/
theorem addEntry_unhashable_iff_misnames (decoded : item.Decoded)
    (read : readEntry item = .ok entry) (levels : Fields Value Level) :
    ThresholdTable.addEntry registry levels entry = .error .unhashable ↔ Misnames registry item := by
  simp only [ThresholdTable.addEntry_eq_unhashable_iff, halves?_eq_some_iff_gives read]
  constructor
  · rintro ⟨value, name, level, gives, given, resolved, unhashable⟩
    have kind := (decoded_of_gives decoded gives).isHashable_eq_false_iff.mp unhashable
    exact ⟨value, ⟨name, level, gives, given, resolved⟩, kind⟩
  · rintro ⟨value, ⟨name, level, gives, given, resolved⟩, kind⟩
    have unhashable := (decoded_of_gives decoded gives).isHashable_eq_false_iff.mpr kind
    exact ⟨value, name, level, gives, given, resolved, unhashable⟩

end Items

section Sequence

variable {registry : Registry} {items entries : List Value}

/-- Reading a list fails if some entry of it has no items. -/
theorem readEntries_eq_error_iff {failure : Failure} : readEntries items = .error failure ↔
    failure = .notIterable ∧ ∃ item ∈ items, item.items? = none := by
  induction items with
  | nil => simp [readEntries]
  | cons item rest ih =>
      rw [readEntries, Except.bind_eq_error_iff, readEntry_eq_error_iff]
      simp only [Except.map_eq_error_iff, ih, List.mem_cons, exists_eq_or_imp]
      constructor
      · rintro (⟨same, itemless⟩ | ⟨entry, -, same, later⟩)
        · exact ⟨same, .inl itemless⟩
        · exact ⟨same, .inr later⟩
      · rintro ⟨same, itemless | later⟩
        · exact .inl ⟨same, itemless⟩
        · cases first : readEntry item with
          | error failure => exact .inl ⟨same, (readEntry_eq_error_iff.mp first).2⟩
          | ok entry => exact .inr ⟨entry, rfl, same, later⟩

/-- Entries are refused for a value when the first item that is not taken misnames. -/
theorem addEntries_unhashable_iff (decoded : ∀ item ∈ items, item.Decoded)
    (read : readEntries items = .ok entries) (levels : Fields Value Level) :
    ThresholdTable.addEntries registry levels entries = .error .unhashable ↔
      ∃ earlier item later, items = earlier ++ item :: later ∧
        (∀ other ∈ earlier, Taken registry other) ∧ Misnames registry item := by
  -- Whether an item is taken does not depend on the levels, so they are general.
  induction items generalizing entries levels with
  | nil =>
      cases read
      simp [ThresholdTable.addEntries]
  | cons item rest ih =>
      rw [readEntries, Except.bind_eq_ok_iff] at read
      obtain ⟨entry, first, read⟩ := read
      obtain ⟨others, remaining, rfl⟩ := Except.map_eq_ok_iff.mp read
      obtain ⟨whole, parts⟩ := List.forall_mem_cons.mp decoded
      rw [ThresholdTable.addEntries, Except.bind_eq_error_iff,
        addEntry_unhashable_iff_misnames whole first]
      constructor
      · rintro (misnames | ⟨middle, added, refused⟩)
        · exact ⟨[], item, rest, rfl, List.forall_mem_nil _, misnames⟩
        · obtain ⟨earlier, other, later, rfl, taken, misnames⟩ :=
            (ih parts remaining middle).mp refused
          have here := (addEntry_ok_iff_taken first levels).mp ⟨middle, added⟩
          refine ⟨item :: earlier, other, later, rfl, ?_, misnames⟩
          exact List.forall_mem_cons.mpr ⟨here, taken⟩
      · rintro ⟨earlier, other, later, split, taken, misnames⟩
        cases earlier with
        | nil =>
            cases split
            exact .inl misnames
        | cons head tail =>
            cases split
            obtain ⟨here, taken⟩ := List.forall_mem_cons.mp taken
            obtain ⟨middle, added⟩ := (addEntry_ok_iff_taken first levels).mpr here
            refine .inr ⟨middle, added, (ih parts remaining middle).mpr ?_⟩
            exact ⟨tail, other, later, rfl, taken, misnames⟩

end Sequence

section Pairs

variable {registry : Registry} {pairs : Value} {entries : List Value}

theorem readThresholds_list (items : List Value) :
    readThresholds (.list items) = readEntries items := by
  rw [readThresholds_of_other (by simp) (by simp), Value.itemsOrNone_list]
  rfl

/-- A value without items cannot be walked if it is true, and stands for no pairs otherwise. -/
theorem readThresholds_of_itemless (itemless : pairs.items? = none) :
    readThresholds pairs = if pairs.isTrue then .error .notIterable else .ok [] := by
  have unmapped : ∀ entries, pairs ≠ .mapping entries := by
    rintro entries rfl
    contradiction
  have unlisted : ∀ listing, pairs ≠ .text listing := by
    rintro listing rfl
    contradiction
  rw [readThresholds_of_other unmapped unlisted, Value.itemsOrNone, itemless]
  split <;> rfl

/-- Decoded pairs are a listing, a mapping, a list, or have no items. -/
theorem shape_of_decoded (decoded : pairs.Decoded) :
    (∃ listing, pairs = .text listing) ∨ (∃ members, pairs = .mapping members) ∨
      (∃ items, pairs = .list items ∧ ∀ item ∈ items, item.Decoded) ∨ pairs.items? = none := by
  cases decoded with
  | text listing => exact .inl ⟨listing, rfl⟩
  | mapping names values => exact .inr (.inl ⟨_, rfl⟩)
  | list parts => exact .inr (.inr (.inl ⟨_, rfl, parts⟩))
  | _ => exact .inr (.inr (.inr rfl))

/-- Decoded pairs are read, or misconfigured, or cannot be walked. -/
theorem failure_of_readThresholds (decoded : pairs.Decoded) {failure : Failure}
    (failed : readThresholds pairs = .error failure) :
    (∃ cause, failure = .misconfigured cause) ∨ failure = .notIterable := by
  rcases shape_of_decoded decoded with
    ⟨listing, rfl⟩ | ⟨members, rfl⟩ | ⟨items, rfl, -⟩ | itemless
  · obtain ⟨piece, rfl⟩ := Listing.malformed_of_read (Except.map_eq_error_iff.mp failed)
    exact .inl ⟨_, rfl⟩
  · contradiction
  · rw [readThresholds_list, readEntries_eq_error_iff] at failed
    exact .inr failed.1
  · rw [readThresholds_of_itemless itemless] at failed
    split at failed
    · exact .inr (Except.error.inj failed).symm
    · contradiction

/-- Decoded pairs cannot be walked exactly when they are unwalkable. -/
theorem readThresholds_notIterable_iff (decoded : pairs.Decoded) :
    readThresholds pairs = .error .notIterable ↔ Unwalkable pairs := by
  rcases shape_of_decoded decoded with
    ⟨listing, rfl⟩ | ⟨members, rfl⟩ | ⟨items, rfl, -⟩ | itemless
  · have read : readThresholds (.text listing) ≠ .error .notIterable := by
      intro failed
      obtain ⟨piece, other⟩ := Listing.malformed_of_read (Except.map_eq_error_iff.mp failed)
      contradiction
    simp [read, Unwalkable, Value.items?]
  · simp [readThresholds, Unwalkable, Value.items?]
  · rw [readThresholds_list, readEntries_eq_error_iff]
    simp [Unwalkable, Value.items?]
  · rw [readThresholds_of_itemless itemless, Unwalkable]
    have unlisted : ∀ items, pairs ≠ .list items := by
      rintro items rfl
      contradiction
    simp [itemless, unlisted]

/-- The entries of a listing and of a mapping have texts as their values. -/
theorem addEntries_textPairs_ne
    (texts : ∀ entry ∈ entries, ∃ value level, entry = textPair value level) :
    ThresholdTable.addEntries registry [] entries ≠ .error .unhashable := by
  intro refused
  rcases ThresholdTable.failure_of_addEntries refused with
    ⟨cause, other⟩ | ⟨-, entry, member, value, name, halves, unhashable⟩
  · contradiction
  · obtain ⟨content, level, rfl⟩ := texts entry member
    cases halves
    contradiction

/-- An entry of decoded pairs cannot be looked up exactly when the first item that is not taken
misnames. -/
theorem addEntries_thresholds_unhashable_iff (decoded : pairs.Decoded)
    (read : readThresholds pairs = .ok entries) :
    ThresholdTable.addEntries registry [] entries = .error .unhashable ↔
      MisnamesFirst registry pairs := by
  -- Texts can be names in a table, so only a list misnames.
  have unlisted (other : ∀ items, pairs ≠ .list items)
      (texts : ∀ entry ∈ entries, ∃ value level, entry = textPair value level) :
      ThresholdTable.addEntries registry [] entries = .error .unhashable ↔
        MisnamesFirst registry pairs := by
    refine iff_of_false (addEntries_textPairs_ne texts) ?_
    rintro ⟨earlier, item, later, same, -⟩
    exact other _ same
  rcases shape_of_decoded decoded with
    ⟨listing, rfl⟩ | ⟨members, rfl⟩ | ⟨items, rfl, parts⟩ | itemless
  · obtain ⟨written, -, rfl⟩ := Except.map_eq_ok_iff.mp read
    refine unlisted (by simp) fun entry member => ?_
    obtain ⟨pair, -, rfl⟩ := List.mem_map.mp member
    exact ⟨_, _, rfl⟩
  · cases read
    refine unlisted (by simp) fun entry member => ?_
    obtain ⟨pair, -, rfl⟩ := List.mem_map.mp member
    exact ⟨_, _, rfl⟩
  · rw [readThresholds_list] at read
    have walkable : ∀ item ∈ items, item.items? ≠ none := by
      intro item member itemless
      rw [readEntries_eq_error_iff.mpr ⟨rfl, item, member, itemless⟩] at read
      contradiction
    rw [addEntries_unhashable_iff parts read]
    constructor
    · rintro ⟨earlier, item, later, rfl, taken, misnames⟩
      exact ⟨earlier, item, later, rfl, walkable, taken, misnames⟩
    · rintro ⟨earlier, item, later, same, -, taken, misnames⟩
      exact ⟨earlier, item, later, Value.list.inj same, taken, misnames⟩
  · rw [readThresholds_of_itemless itemless] at read
    split at read
    · contradiction
    · cases read
      refine unlisted ?_ (List.forall_mem_nil _)
      rintro items rfl
      contradiction

/-- Pairs of which the first item that is not taken misnames can be read. -/
theorem exists_read_of_misnamesFirst (first : MisnamesFirst registry pairs) :
    ∃ entries, readThresholds pairs = .ok entries := by
  obtain ⟨earlier, item, later, rfl, walkable, -⟩ := first
  rw [readThresholds_list]
  cases read : readEntries (earlier ++ item :: later) with
  | ok entries => exact ⟨entries, rfl⟩
  | error failure =>
      obtain ⟨-, other, member, itemless⟩ := readEntries_eq_error_iff.mp read
      exact absurd itemless (walkable other member)

end Pairs

section Building

variable {registry : Registry} {entries : List Value}

theorem ofPairs_unhashable_iff {default : Value} :
    ThresholdTable.ofPairs registry (.list entries) default = .error .unhashable ↔
      ThresholdTable.addEntries registry [] entries = .error .unhashable := by
  simp only [ThresholdTable.ofPairs, Value.itemsOrNone_list, Except.bind_eq_error_iff, reduceCtorEq,
    false_or, Except.ok.injEq, exists_eq_left']
  refine or_iff_left ?_
  rintro ⟨levels, -, unread⟩
  rw [Except.map_eq_error_iff, ThresholdTable.resolveDefault] at unread
  split at unread
  · contradiction
  · obtain ⟨cause, other⟩ := Registry.misconfigured_of_resolve unread
    contradiction

/-- Only the table of a rule can refuse a value, and only if the key is no white space. -/
theorem buildRule_unhashable_iff {config : Config} (listed : config.thresholds = .list entries) :
    config.buildRule registry = .error .unhashable ↔ config.key.isTrue = true ∧
      Text.isBlank config.key.plain = false ∧
        ThresholdTable.addEntries registry [] entries = .error .unhashable := by
  cases keyed : config.key.isTrue with
  | false => simp [buildRule, keyed]
  | true =>
      have present : config.key.isAbsent = false := by
        cases same : config.key with
        | absent =>
            rw [same] at keyed
            contradiction
        | _ => rfl
      cases blank : Text.isBlank config.key.plain with
      | true => simp [buildRule, keyed, Rule.create, blank]
      | false =>
          rw [buildRule, if_pos keyed, Rule.create, present, blank, listed]
          simp only [Bool.or_self, Bool.false_eq_true, if_false, Except.bind_eq_error_iff,
            ofPairs_unhashable_iff, true_and]
          refine or_iff_left ?_
          rintro ⟨table, -, failed | ⟨onMatch, -, failed | ⟨onMismatch, -, failed⟩⟩⟩
          · obtain ⟨cause, other⟩ := Verdict.misconfigured_of_ofTokenOr failed
            contradiction
          · obtain ⟨cause, other⟩ := Verdict.misconfigured_of_ofTokenOr failed
            contradiction
          · obtain ⟨cause, other⟩ := Rule.misconfigured_of_new failed
            contradiction

end Building

section Decoded

variable {data : Fields String Value} {registry : Registry}

/-- A configuration is made exactly when its pairs can be read. -/
theorem ofNamed_eq_ok_iff {config : Config} : ofNamed data = .ok config ↔
    ∃ entries, readThresholds ((data.get? "pairs").getD .absent) = .ok entries ∧
      { key := (data.get? "key").getD .absent
        thresholds := .list entries
        defaultThreshold := (data.get? "default_threshold").getD .absent
        onMatch := (data.get? "on_match").getD .absent
        onMismatch := (data.get? "on_mismatch").getD .absent
        logLevel := (data.get? "log_level").getD (.text "DEBUG")
        enabled := .bool (readEnabled ((data.get? "enabled").getD (.bool true))) } = config :=
  Except.map_eq_ok_iff

/-- Only the pairs keep a configuration from being made. -/
theorem ofNamed_eq_error_iff {failure : Failure} : ofNamed data = .error failure ↔
    readThresholds ((data.get? "pairs").getD .absent) = .error failure :=
  Except.map_eq_error_iff

/-- Building a rule fails when the pairs are not read, or later, with the configuration that was read. -/
theorem build_eq_error_iff {failure : Failure} :
    (ofNamed data).bind (fun config => config.buildRule registry) = .error failure ↔
      readThresholds ((data.get? "pairs").getD .absent) = .error failure ∨
        ∃ config, ofNamed data = .ok config ∧ config.buildRule registry = .error failure := by
  rw [Except.bind_eq_error_iff, ofNamed_eq_error_iff]

/-- A configuration that was read keeps a list, so building its rule walks through. -/
theorem misconfigured_or_unhashable_of_read {config : Config} {failure : Failure}
    (read : ofNamed data = .ok config) (failed : config.buildRule registry = .error failure) :
    (∃ cause, failure = .misconfigured cause) ∨ failure = .unhashable := by
  obtain ⟨entries, -, rfl⟩ := ofNamed_eq_ok_iff.mp read
  cases unbuildable_of_buildRule failed with
  | misconfigured cause => exact .inl ⟨cause, rfl⟩
  | notIterable filled itemless => contradiction
  | unhashable => exact .inr rfl

section Pairs

variable (decoded : ((data.get? "pairs").getD .absent).Decoded)

include decoded

/-- A decoded configuration fails in one of three ways. -/
theorem failure_of_build {failure : Failure}
    (failed : (ofNamed data).bind (fun config => config.buildRule registry) = .error failure) :
    (∃ cause, failure = .misconfigured cause) ∨ failure = .notIterable ∨ failure = .unhashable := by
  rcases build_eq_error_iff.mp failed with unread | ⟨config, read, failed⟩
  · exact (failure_of_readThresholds decoded unread).imp_right .inl
  · exact (misconfigured_or_unhashable_of_read read failed).imp_right .inr

/-- Walking fails exactly for unwalkable pairs. -/
theorem build_notIterable_iff :
    (ofNamed data).bind (fun config => config.buildRule registry) = .error .notIterable ↔
      Unwalkable ((data.get? "pairs").getD .absent) := by
  rw [build_eq_error_iff, readThresholds_notIterable_iff decoded, or_iff_left]
  rintro ⟨config, read, failed⟩
  rcases misconfigured_or_unhashable_of_read read failed with ⟨cause, other⟩ | other
  · contradiction
  · contradiction

/-- Looking up fails exactly if the key is right and the first item that is not taken misnames. -/
theorem build_unhashable_iff :
    (ofNamed data).bind (fun config => config.buildRule registry) = .error .unhashable ↔
      ((data.get? "key").getD .absent).isTrue = true ∧
        Text.isBlank ((data.get? "key").getD .absent).plain = false ∧
          MisnamesFirst registry ((data.get? "pairs").getD .absent) := by
  have readable : readThresholds ((data.get? "pairs").getD .absent) ≠ .error .unhashable := by
    intro unread
    rcases failure_of_readThresholds decoded unread with ⟨cause, other⟩ | other
    · contradiction
    · contradiction
  rw [build_eq_error_iff, or_iff_right readable]
  constructor
  · rintro ⟨config, read, failed⟩
    obtain ⟨entries, listed, rfl⟩ := ofNamed_eq_ok_iff.mp read
    obtain ⟨keyed, filled, added⟩ := (buildRule_unhashable_iff rfl).mp failed
    exact ⟨keyed, filled, (addEntries_thresholds_unhashable_iff decoded listed).mp added⟩
  · rintro ⟨keyed, filled, first⟩
    obtain ⟨entries, listed⟩ := exists_read_of_misnamesFirst first
    have added := (addEntries_thresholds_unhashable_iff decoded listed).mpr first
    refine ⟨_, ofNamed_eq_ok_iff.mpr ⟨entries, listed, rfl⟩, ?_⟩
    exact (buildRule_unhashable_iff rfl).mpr ⟨keyed, filled, added⟩

end Pairs

/-- A decoded configuration gives a rule or is a misconfiguration, except in two cases. The pairs cannot
be walked through, or the first item of the pairs that is not taken gives a level to a list or an
object. -/
theorem failures_of_decoded (decoded : ∀ entry ∈ data, entry.2.Decoded) (registry : Registry) :
    let key := (data.get? "key").getD .absent
    let pairs := (data.get? "pairs").getD .absent
    let built := (ofNamed data).bind fun config => config.buildRule registry
    ((∃ rule, built = .ok rule) ∨ (∃ cause, built = .error (.misconfigured cause)) ∨
      built = .error .notIterable ∨ built = .error .unhashable) ∧
    (built = .error .notIterable ↔ Unwalkable pairs) ∧
    (built = .error .unhashable ↔ key.isTrue = true ∧ Text.isBlank key.plain = false ∧
      MisnamesFirst registry pairs) := by
  intro key pairs built
  have whole : pairs.Decoded := by
    dsimp only [pairs]
    cases found : data.get? "pairs" with
    | none => exact .absent
    | some held => exact decoded _ (Fields.mem_of_get? found)
  refine ⟨?_, build_notIterable_iff whole, build_unhashable_iff whole⟩
  cases outcome : built with
  | ok rule => exact .inl ⟨rule, rfl⟩
  | error failure =>
      rcases failure_of_build whole outcome with ⟨cause, rfl⟩ | rfl | rfl
      · exact .inr (.inl ⟨cause, rfl⟩)
      · exact .inr (.inr (.inl rfl))
      · exact .inr (.inr (.inr rfl))

end Decoded

/-- The second item gives its level to an empty list, after a first item that is taken. -/
theorem failures_of_decoded_on_list :
    let data : Fields String Value := [("key", .text "tenant"),
      ("pairs", .list [.list [.int 5, .text "debug"],
        .mapping [(.text "value", .text "warn"), (.text "key", .list [])], .text "no"])]
    (∀ entry ∈ data, entry.2.Decoded) ∧
      (ofNamed data).bind (fun config => config.buildRule .standard) = .error .unhashable := by
  intro data
  have decoded : ∀ entry ∈ data, entry.2.Decoded := by
    have first : (Value.list [.int 5, .text "debug"]).Decoded :=
      .list (by simp [Value.Decoded.int, Value.Decoded.text])
    have second : (Value.mapping [(.text "value", .text "warn"), (.text "key", .list [])]).Decoded :=
      .mapping (by simp) (by simp [Value.Decoded.text, Value.Decoded.list])
    have pairs : (Value.list [.list [.int 5, .text "debug"],
        .mapping [(.text "value", .text "warn"), (.text "key", .list [])], .text "no"]).Decoded :=
      .list (by simp [first, second, Value.Decoded.text])
    simp [data, pairs, Value.Decoded.text]
  have filled : Text.isBlank (Value.text "tenant").plain = false := by decide
  refine ⟨decoded, (failures_of_decoded decoded .standard).2.2.mpr ⟨rfl, filled, ?_⟩⟩
  refine ⟨[.list [.int 5, .text "debug"]], _, [.text "no"], rfl, ?_, ?_,
    .list [], ?_, .inl ⟨[], rfl⟩⟩
  · simp [Value.items?]
  · refine List.forall_mem_singleton.mpr ⟨.int 5, ?_, rfl⟩
    exact ⟨.text "debug", ⟨"DEBUG", 10, true⟩, .items (by simp) rfl, rfl, rfl⟩
  · exact ⟨.text "warn", ⟨"WARN", 30, true⟩, .object rfl rfl, rfl, rfl⟩

/-- A number among the pairs fails outside of all misconfigurations. -/
theorem decoded_number_is_not_walked :
    ¬∀ (data : Fields String Value) (registry : Registry), (∀ entry ∈ data, entry.2.Decoded) →
      (∃ rule, (ofNamed data).bind (fun config => config.buildRule registry) = .ok rule) ∨
        ∃ cause, (ofNamed data).bind (fun config => config.buildRule registry) =
          .error (.misconfigured cause) := by
  intro surfaces
  let data : Fields String Value := [("key", .text "tenant"), ("pairs", .list [.int 5])]
  have outcome : (ofNamed data).bind (fun config => config.buildRule .standard) =
      .error .notIterable := by
    rfl
  have decoded : ∀ entry ∈ data, entry.2.Decoded :=
    List.forall_mem_cons.mpr ⟨.text _,
      List.forall_mem_singleton.mpr (.list (List.forall_mem_singleton.mpr (.int 5)))⟩
  rcases surfaces data .standard decoded with ⟨rule, built⟩ | ⟨cause, built⟩
  · rw [outcome] at built
    cases built
  · rw [outcome] at built
    cases built

end Config

end LogGate

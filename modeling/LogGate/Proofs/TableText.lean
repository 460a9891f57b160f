import LogGate.Proofs.ConfiguredPairs
import LogGate.Proofs.EqualTables
import LogGate.Proofs.Listings
import LogGate.Proofs.UpperCase

/-!
Tables written as listings. A table that was read from a listing writes its entries as a listing again.
Reading this one gives the entries of the table, and building a table from them gives the table.
-/

namespace LogGate

namespace Listing

/-- Every part but the first one starts with a blank. -/
def setOff : List (List Char) → List (List Char)
  | [] => []
  | first :: rest => first :: rest.map (' ' :: ·)

theorem intercalate_cons_head (separator : List Char) (c : Char) (first : List Char)
    (rest : List (List Char)) :
    separator.intercalate ((c :: first) :: rest) = c :: separator.intercalate (first :: rest) := by
  cases rest with
  | nil => rw [List.intercalate_singleton, List.intercalate_singleton]
  | cons second rest =>
      rw [List.intercalate_cons_cons, List.intercalate_cons_cons, List.cons_append, List.cons_append]

/-- A space after each comma is part of the separator. -/
theorem intercalate_setOff (parts : List (List Char)) :
    [','].intercalate (setOff parts) = [',', ' '].intercalate parts := by
  cases parts with
  | nil => rfl
  | cons first rest =>
      rw [setOff]
      induction rest generalizing first with
      | nil => rfl
      | cons second rest ih =>
          rw [List.map_cons, List.intercalate_cons_cons, List.intercalate_cons_cons,
            intercalate_cons_head, ih second]
          simp only [List.append_assoc, List.cons_append, List.nil_append]

/-- A blank in front of an entry makes no difference. -/
theorem writes_setOff {entries : List (String × String)} (clean : ∀ entry ∈ entries, Clean entry) :
    Writes (setOff (entries.map fun entry => (entryText entry.1 entry.2).toList)) entries := by
  have blank : Text.Blank [' '] := Text.blank_iff_all.mp (by decide)
  have rest {entries : List (String × String)} (clean : ∀ entry ∈ entries, Clean entry) :
      Writes ((entries.map fun entry => (entryText entry.1 entry.2).toList).map (' ' :: ·))
        entries := by
    induction entries with
    | nil => exact .nil
    | cons entry rest ih =>
        obtain ⟨first, others⟩ := List.forall_mem_cons.mp clean
        refine .entry first ⟨[' '], [], [], [], blank, Text.blank_nil, Text.blank_nil,
          Text.blank_nil, ?_⟩ (ih others)
        simp [entryText]
  cases entries with
  | nil => exact .nil
  | cons entry others =>
      obtain ⟨first, last⟩ := List.forall_mem_cons.mp clean
      refine .entry first ⟨[], [], [], [], Text.blank_nil, Text.blank_nil, Text.blank_nil,
        Text.blank_nil, ?_⟩ (rest last)
      simp [entryText]

/-- Clean entries that are written with a comma and a blank between them are read as themselves. -/
theorem readValue_commaJoined {entries : List (String × String)}
    (clean : ∀ entry ∈ entries, Clean entry) :
    readValue (.text (Value.commaJoined (entries.map fun entry => entryText entry.1 entry.2))) =
      .ok entries := by
  refine (writes_setOff clean).readValue ?_
  rw [intercalate_setOff, Value.commaJoined, String.toList_intercalate, List.map_map]
  rfl

/-- Whatever a listing lists is clean. -/
theorem clean_of_readValue {listing : String} {entries : List (String × String)}
    (read : readValue (.text listing) = .ok entries) : ∀ entry ∈ entries, Clean entry := by
  have whole : ∀ piece ∈ Text.pieces ',' listing.toList, ',' ∉ piece :=
    fun piece member => Text.not_mem_of_mem_pieces member
  rw [readValue_text] at read
  rcases writes_or_malformed whole with ⟨others, written⟩ | ⟨piece, -, -, failed⟩
  · rw [written.readPieces] at read
    cases read
    exact written.clean
  · rw [failed] at read
    contradiction

/-- An entry stays clean when its level is written in normal form. -/
theorem Clean.normal {value name : String} (clean : Clean (value, name)) :
    Clean (value, Level.normalName name) := by
  have filled : Level.normalName name ≠ "" := by
    rw [ne_eq, Level.normalName_eq_empty_iff, ← Text.trim_eq_empty_iff, clean.levelTrimmed]
    exact clean.levelFilled
  have trimmed := (Level.isNormal_normalName name).trimmed
  have whole := Level.not_mem_normalName (.inl rfl) clean.levelWhole
  have unmarked := Level.not_mem_normalName (.inr rfl) clean.levelUnmarked
  generalize Level.normalName name = normal at *
  exact ⟨clean.valueFilled, filled, clean.valueTrimmed, trimmed, clean.valueWhole, whole, unmarked⟩

end Listing

namespace Registry

variable {registry : Registry} {content : String} {level : Level}

/-- A level is found under its own name. -/
theorem Interned.name_of_get? (interned : registry.Interned) {name : String}
    (found : registry.byName.get? name = some level) : level.name = name :=
  (interned.named _ (Fields.mem_of_get? found)).1

/-- A level that was found has the normal form of the text as its name. -/
theorem Interned.name_of_find? (interned : registry.Interned)
    (found : registry.find? content = some level) : level.name = Level.normalName content := by
  rw [find?] at found
  exact interned.name_of_get? found

/-- A level that was found is found under its own name. -/
theorem Interned.find?_name (interned : registry.Interned)
    (found : registry.find? content = some level) : registry.find? level.name = some level := by
  rw [find?, interned.name_of_find? found, (Level.isNormal_normalName content).normalName_eq]
  exact found

end Registry

namespace ThresholdTable

/-- Texts with levels, as entries of a table. -/
def ofNames (levels : Fields String Level) : Fields Value Level :=
  levels.map fun entry => (.text entry.1, entry.2)

/-- Levels can be put before or after the names are made values. -/
theorem put_ofNames (levels : Fields String Level) (name : String) (level : Level) :
    Fields.put (ofNames levels) (.text name) level = ofNames (levels.put name level) := by
  induction levels with
  | nil => rfl
  | cons entry rest ih =>
      have same : (Value.text entry.1 == Value.text name) = (entry.1 == name) := rfl
      rw [ofNames, List.map_cons, Fields.put, Fields.put, same]
      split
      · rfl
      · exact congrArg _ ih

/-- A pair of texts lists the level that its second text stands for under its first one. -/
structure Lists (registry : Registry) (pair : String × String) (entry : String × Level) : Prop where
  key : entry.1 = pair.1
  level : registry.find? pair.2 = some entry.2

/-- Pairs of texts are added if each of them lists a level. -/
theorem addEntries_textPairs_iff {registry : Registry} {pairs : List (String × String)}
    {levels : Fields String Level} {later : Fields Value Level} :
    addEntries registry (ofNames levels) (pairs.map fun pair => Config.textPair pair.1 pair.2) =
        .ok later ↔
      ∃ listed, List.Forall₂ (Lists registry) pairs listed ∧
        later = ofNames (levels.putAll listed) := by
  induction pairs generalizing levels with
  | nil =>
      rw [List.map_nil, addEntries, Except.ok.injEq]
      constructor
      · intro same
        exact ⟨[], .nil, same.symm⟩
      · rintro ⟨listed, none, rfl⟩
        cases none
        rfl
  | cons pair rest ih =>
      have halves : (Config.textPair pair.1 pair.2).halves? = some (.text pair.1, .text pair.2) := rfl
      rw [List.map_cons, addEntries, Except.bind_eq_ok_iff]
      constructor
      · rintro ⟨middle, first, others⟩
        obtain ⟨value, name, level, same, -, named, -, rfl⟩ := addEntry_eq_ok_iff.mp first
        rw [halves, Option.some.injEq, Prod.mk.injEq] at same
        obtain ⟨rfl, rfl⟩ := same
        rw [put_ofNames] at others
        obtain ⟨listed, lists, rfl⟩ := ih.mp others
        have head : Lists registry pair (pair.1, level) :=
          ⟨rfl, Registry.resolve_text_eq_ok_iff.mp named⟩
        exact ⟨(pair.1, level) :: listed, .cons head lists, rfl⟩
      · rintro ⟨listed, lists, rfl⟩
        cases lists with
        | @cons _ entry _ listed head tail =>
            obtain ⟨same, found⟩ := head
            refine ⟨ofNames (levels.put entry.1 entry.2), addEntry_eq_ok_iff.mpr ?_,
              ih.mpr ⟨listed, tail, rfl⟩⟩
            refine ⟨.text pair.1, .text pair.2, entry.2, halves, rfl,
              Registry.resolve_text_eq_ok_iff.mpr found, rfl, ?_⟩
            rw [same, put_ofNames]

/-- What clean pairs list is clean again under the names of the levels, which list themselves. -/
theorem clean_of_lists {registry : Registry} (interned : registry.Interned)
    {pairs : List (String × String)} {listed : List (String × Level)}
    (lists : List.Forall₂ (Lists registry) pairs listed)
    (clean : ∀ pair ∈ pairs, Listing.Clean pair) :
    ∀ entry ∈ listed, Listing.Clean (entry.1, entry.2.name) ∧
      Lists registry (entry.1, entry.2.name) entry := by
  induction lists with
  | nil => exact List.forall_mem_nil _
  | @cons pair entry _ _ head _ ih =>
      obtain ⟨first, others⟩ := List.forall_mem_cons.mp clean
      obtain ⟨same, found⟩ := head
      refine List.forall_mem_cons.mpr ⟨⟨?_, rfl, interned.find?_name found⟩, ih others⟩
      rw [same, interned.name_of_find? found]
      exact first.normal

/-- So many times the entries of a table are written as a listing, and a table is built from what is
read there. -/
def reread (registry : Registry) : Nat → ThresholdTable → Except Failure ThresholdTable
  | 0, table => .ok table
  | count + 1, table =>
    (Listing.readValue (.text (Value.commaJoined table.entriesText))).bind fun entries =>
      (ofPairs registry (.list (entries.map fun entry => Config.textPair entry.1 entry.2))
        (.level table.default)).bind (reread registry count)

/-- The entries of a table that was built from a listing, as texts. -/
theorem exists_entries_of_listing {registry : Registry} (interned : registry.Interned)
    {pairs : List (String × String)} (clean : ∀ pair ∈ pairs, Listing.Clean pair) {default : Value}
    {table : ThresholdTable}
    (made : ofPairs registry (.list (pairs.map fun pair => Config.textPair pair.1 pair.2)) default =
      .ok table) :
    ∃ levels : Fields String Level, table.levels = ofNames levels ∧ levels.Distinct ∧
      ∀ entry ∈ levels, Listing.Clean (entry.1, entry.2.name) ∧
        Lists registry (entry.1, entry.2.name) entry := by
  obtain ⟨given, items, added, -⟩ := ofPairs_eq_ok_iff.mp made
  rw [Value.itemsOrNone_list, Except.ok.injEq] at items
  rw [← items] at added
  change addEntries registry (ofNames []) _ = .ok _ at added
  obtain ⟨listed, lists, same⟩ := addEntries_textPairs_iff.mp added
  refine ⟨Fields.ofList listed, same, Fields.distinct_ofList listed, fun entry member => ?_⟩
  have inside : entry ∈ listed := (Fields.mem_of_mem_putAll member).resolve_left List.not_mem_nil
  exact clean_of_lists interned lists clean entry inside

/-- A table that was built from a listing writes its entries as a listing. This one lists the entries of
the table, in their order, and the table that they make with the same default is the table again, however
often this is done. -/
theorem table_reads_back {registry : Registry} (reached : registry.Reachable) {listing : String}
    {pairs : List (String × String)} (read : Listing.readValue (.text listing) = .ok pairs)
    {default : Value} {table : ThresholdTable}
    (made : ofPairs registry (.list (pairs.map fun pair => Config.textPair pair.1 pair.2)) default =
      .ok table) :
    ∃ written entries,
      table.text = "default=" ++ table.default.name ++ "\x7b" ++ written ++ "\x7d" ∧
      (∀ rule : Rule, rule.table = table →
        rule.text = "key=" ++ rule.key ++ ", default=" ++ table.default.name ++
          if table.levels.isEmpty then "" else "\x7b" ++ written ++ "\x7d") ∧
      (table.levels.map fun entry => (entry.1, entry.2.name)) =
        entries.map (fun entry : String × String => (Value.text entry.1, entry.2)) ∧
      Listing.readValue (.text written) = .ok entries ∧
      (∃ again, ofPairs registry (.list (entries.map fun entry => Config.textPair entry.1 entry.2))
        (.level table.default) = .ok again ∧ again.same table = true) ∧
      ∀ count, reread registry count table = .ok table := by
  obtain ⟨levels, same, distinct, listed⟩ :=
    exists_entries_of_listing reached.interned (Listing.clean_of_readValue read) made
  let entries := levels.map fun entry => (entry.1, entry.2.name)
  have clean : ∀ entry ∈ entries, Listing.Clean entry :=
    List.forall_mem_map.mpr fun entry member => (listed entry member).1
  have shown : table.entriesText = entries.map fun entry => Listing.entryText entry.1 entry.2 := by
    rw [entriesText, same, ofNames, List.map_map, List.map_map]
    rfl
  have readBack : Listing.readValue (.text (Value.commaJoined table.entriesText)) = .ok entries := by
    rw [shown]
    exact Listing.readValue_commaJoined clean
  have rebuilt : ofPairs registry (.list (entries.map fun entry => Config.textPair entry.1 entry.2))
      (.level table.default) = .ok table := by
    have lists : List.Forall₂ (Lists registry) entries levels := by
      rw [List.forall₂_map_left_iff, List.forall₂_same]
      exact fun entry member => (listed entry member).2
    -- The names of a table are distinct, so that no entry takes the place of another one.
    have all : table.levels = ofNames (Fields.putAll [] levels) := by
      rw [same]
      exact congrArg ofNames (Fields.ofList_of_distinct distinct).symm
    exact ofPairs_eq_ok_iff.mpr ⟨_, Value.itemsOrNone_list _,
      addEntries_textPairs_iff.mpr ⟨levels, lists, all⟩, rfl⟩
  refine ⟨Value.commaJoined table.entriesText, entries, ?_, ?_, ?_, readBack, ?_, ?_⟩
  · rw [text, Value.braced]
    simp only [String.append_assoc]
  · intro rule shared
    rw [Rule.text, shared, Value.braced]
  · rw [same, ofNames, List.map_map, List.map_map]
    rfl
  · exact ⟨table, rebuilt, (Built.ofPairs made).same_refl⟩
  · intro count
    induction count with
    | zero => rfl
    | succ count ih =>
        rw [reread, readBack]
        exact (congrArg (·.bind (reread registry count)) rebuilt).trans ih

/-- A registry with one more level, whose name is longer in capitals. -/
def streetRegistry : Registry := Registry.standard.add "STRASSE" 35

/-- A tenant that stands twice, an equals sign in a value, and a level that is spelled otherwise. -/
theorem table_reads_back_of_tenants :
    let pairs := [("tenant", "Warning"), ("a=b", "stra\u00dfe"), ("tenant", "debug")]
    let table : ThresholdTable := ⟨[(.text "tenant", ⟨"DEBUG", 10, true⟩),
      (.text "a=b", ⟨"STRASSE", 35, true⟩)], ⟨"FATAL", 50, true⟩⟩
    Listing.readValue (.text " tenant = Warning ,\ta=b = stra\u00dfe , ,tenant=debug") = .ok pairs ∧
    ofPairs streetRegistry (.list (pairs.map fun pair => Config.textPair pair.1 pair.2))
      (.text "critical") = .ok table ∧
    table.text = "default=FATAL\x7btenant=DEBUG, a=b=STRASSE\x7d" ∧
    ∀ count, reread streetRegistry count table = .ok table := by
  intro pairs table
  have reached : streetRegistry.Reachable := by
    have registered : Registry.standard.register (.text "Stra\u00dfe") 35 =
      .ok (⟨"STRASSE", 35, true⟩, streetRegistry) := rfl
    exact .register .standard registered
  have read : Listing.readValue (.text " tenant = Warning ,\ta=b = stra\u00dfe , ,tenant=debug") =
    .ok pairs := rfl
  have made : ofPairs streetRegistry (.list (pairs.map fun pair => Config.textPair pair.1 pair.2))
    (.text "critical") = .ok table := rfl
  obtain ⟨written, entries, -, -, -, -, -, again⟩ := table_reads_back reached read made
  exact ⟨read, made, by decide +kernel, again⟩

end ThresholdTable

end LogGate

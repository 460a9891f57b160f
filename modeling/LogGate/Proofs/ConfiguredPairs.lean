import LogGate.Filter
import LogGate.Proofs.Decision

/-!
The pairs of a configuration and the contexts that hold their values. A context value reaches a pair by
its text. A mapping and a listing keep the texts of their values; a sequence keeps the values as they are,
and there only texts are reached.
-/

namespace LogGate

/-- A context shows a value under a name when no later entry that has a value is written under it. -/
def Context.Shows (context : Context) (name : String) (value : Value) : Prop :=
  ∃ before after, context = before ++ (.text name, value) :: after ∧
    ∀ entry ∈ after, entry.1.plain = name → entry.2.isAbsent = true

/-- The snapshot has the text of the value that is shown. -/
theorem Context.Shows.get?_snapshot {context : Context} {name : String} {value : Value}
    (shown : context.Shows name value) (given : value.isAbsent = false) :
    (Snapshot.ofEntries context).get? name = some value.plain := by
  obtain ⟨before, after, rfl, hidden⟩ := shown
  have overtaken : (after.filter fun entry => entry.1.plain == name && !entry.2.isAbsent) = [] := by
    rw [List.filter_eq_nil_iff]
    intro entry member named
    rw [Bool.and_eq_true, beq_iff_eq, Bool.not_eq_true'] at named
    rw [hidden entry member named.1] at named
    exact Bool.noConfusion named.2
  rw [Snapshot.get?_ofEntries, List.filter_append,
    List.filter_cons_of_pos (by simp [Value.plain, given]), overtaken, List.getLast?_concat]
  rfl

/-- An entry has two halves if it is a pair, or has exactly two items. -/
theorem Value.halves?_eq_some_iff {entry value name : Value} :
    entry.halves? = some (value, name) ↔
      entry = .pair value name ∨ entry.items? = some [value, name] := by
  cases entry with
  | pair first second => simp [halves?, items?]
  | _ =>
      simp only [halves?, reduceCtorEq, false_or]
      split
      · next walked => simp [walked]
      · next other => simpa using other value name

theorem Value.halves?_tuple {items : List Value} {value name : Value} :
    (tuple items).halves? = some (value, name) ↔ items = [value, name] := by
  simp [halves?_eq_some_iff, items?]

theorem Value.itemsOrNone_list (items : List Value) : (list items).itemsOrNone = .ok items := by
  cases items <;> rfl

theorem Value.itemsOrNone_tuple (items : List Value) : (tuple items).itemsOrNone = .ok items := by
  cases items <;> rfl

/-- A value without items is walked through only if it counts as false. -/
theorem Value.isTrue_of_itemsOrNone {value : Value} {items : List Value} (itemless : value.items? = none)
    (walked : value.itemsOrNone = .ok items) : value.isTrue = false ∧ items = [] := by
  rw [itemsOrNone, itemless] at walked
  split at walked
  · contradiction
  · next empty =>
    cases walked
    exact ⟨by simpa using empty, rfl⟩

namespace ThresholdTable

/-- Every entry that was added has a value and the name of a level. -/
theorem halves?_of_addEntries {registry : Registry} {entries : List Value}
    {levels later : Fields Value Level} (added : addEntries registry levels entries = .ok later) :
    ∀ entry ∈ entries, ∃ value name, entry.halves? = some (value, name) := by
  induction entries generalizing levels with
  | nil => exact List.forall_mem_nil _
  | cons entry rest ih =>
      rw [addEntries, Except.bind_eq_ok_iff] at added
      obtain ⟨middle, first, others⟩ := added
      obtain ⟨value, name, -, halves, -⟩ := addEntry_eq_ok_iff.mp first
      exact List.forall_mem_cons.mpr ⟨⟨value, name, halves⟩, ih others⟩

end ThresholdTable

namespace Config

/-- A configured value with the name of its level, and the value that is kept in its place. -/
structure Listed where
  value : Value
  kept : Value
  name : Value

/-- The entry that a table is built from. -/
def Listed.entry (listed : Listed) : Value := .tuple [listed.kept, listed.name]

/-- An item of a sequence is an object with a key and a value, or has exactly two items. -/
inductive Gives : Value → Listed → Prop
  | object {members : List (Value × Value)} {value name : Value}
      (key : (Fields.get? members (.text "key")).getD .absent = value)
      (level : (Fields.get? members (.text "value")).getD .absent = name) :
      Gives (.mapping members) ⟨value, value, name⟩
  | items {item value name : Value} (other : ∀ members, item ≠ .mapping members)
      (items : item.items? = some [value, name]) : Gives item ⟨value, value, name⟩

/-- What the pairs of a configuration list. Values and names of a mapping become texts. -/
inductive Lists : Value → List Listed → Prop
  | nothing {pairs : Value} (empty : pairs.isTrue = false) : Lists pairs []
  | mapping (entries : List (Value × Value)) : Lists (.mapping entries)
      (entries.map fun entry => ⟨entry.1, .text entry.1.plain, .text entry.2.plain⟩)
  | listing {listing : String} {entries : List (String × String)}
      (read : Listing.read listing = .ok entries) : Lists (.text listing)
        (entries.map fun entry => ⟨.text entry.1, .text entry.1, .text entry.2⟩)
  | sequence {pairs : Value} {items : List Value} {listed : List Listed}
      (sequence : pairs = .list items ∨ pairs = .tuple items)
      (given : List.Forall₂ Gives items listed) : Lists pairs listed

/-- An entry that is read, and has halves, gives these. -/
theorem gives_of_readEntry {item entry value name : Value} (read : readEntry item = .ok entry)
    (halves : entry.halves? = some (value, name)) :
    Gives item ⟨value, value, name⟩ ∧ entry = .tuple [value, name] := by
  by_cases object : ∃ members, item = .mapping members
  · obtain ⟨members, rfl⟩ := object
    rw [readEntry, Except.ok.injEq] at read
    rw [← read, Value.halves?_tuple] at halves
    cases halves
    exact ⟨.object rfl rfl, read.symm⟩
  · have other := not_exists.mp object
    rw [readEntry] at read
    · cases found : item.items? with
      | none =>
          rw [found] at read
          contradiction
      | some items =>
          rw [found, Except.ok.injEq] at read
          rw [← read, Value.halves?_tuple] at halves
          rw [halves] at found read
          exact ⟨.items other found, read.symm⟩
    · exact other

/-- Entries that all have two halves were given by the items they were read from. -/
theorem gives_of_readEntries {items entries : List Value} (read : readEntries items = .ok entries)
    (paired : ∀ entry ∈ entries, ∃ value name, entry.halves? = some (value, name)) :
    ∃ listed, List.Forall₂ Gives items listed ∧ entries = listed.map Listed.entry := by
  induction items generalizing entries with
  | nil =>
      cases read
      exact ⟨[], .nil, rfl⟩
  | cons item rest ih =>
      rw [readEntries, Except.bind_eq_ok_iff] at read
      obtain ⟨entry, first, read⟩ := read
      obtain ⟨others, later, rfl⟩ := Except.map_eq_ok_iff.mp read
      obtain ⟨⟨value, name, halves⟩, remaining⟩ := List.forall_mem_cons.mp paired
      obtain ⟨gives, rfl⟩ := gives_of_readEntry first halves
      obtain ⟨listed, given, rfl⟩ := ih later remaining
      exact ⟨⟨value, value, name⟩ :: listed, .cons gives given, rfl⟩

/-- Pairs that are neither a mapping nor a text are read item by item. -/
theorem readThresholds_of_other {pairs : Value} (unmapped : ∀ entries, pairs ≠ .mapping entries)
    (unlisted : ∀ listing, pairs ≠ .text listing) :
    readThresholds pairs = pairs.itemsOrNone.bind readEntries := by
  rw [readThresholds]
  · exact unmapped
  · exact unlisted

/-- Pairs that a table can be built from list the entries of the table. -/
theorem lists_of_readThresholds {pairs : Value} {entries : List Value}
    (read : readThresholds pairs = .ok entries)
    (paired : ∀ entry ∈ entries, ∃ value name, entry.halves? = some (value, name)) :
    ∃ listed, Lists pairs listed ∧ entries = listed.map Listed.entry := by
  have sequence {items : List Value} (same : pairs = .list items ∨ pairs = .tuple items)
      (read : readEntries items = .ok entries) :
      ∃ listed, Lists pairs listed ∧ entries = listed.map Listed.entry := by
    obtain ⟨listed, given, rfl⟩ := gives_of_readEntries read paired
    exact ⟨listed, .sequence same given, rfl⟩
  by_cases mapped : ∃ members, pairs = .mapping members
  · obtain ⟨members, rfl⟩ := mapped
    cases read
    exact ⟨_, .mapping members, by simp [Listed.entry, textPair]⟩
  by_cases written : ∃ listing, pairs = .text listing
  · obtain ⟨listing, rfl⟩ := written
    obtain ⟨listed, listing, rfl⟩ := Except.map_eq_ok_iff.mp read
    exact ⟨_, .listing listing, by simp [Listed.entry, textPair]⟩
  rw [readThresholds_of_other (not_exists.mp mapped) (not_exists.mp written)] at read
  obtain ⟨items, walked, entered⟩ := Except.bind_eq_ok_iff.mp read
  cases pairs with
  | mapping members => exact absurd ⟨members, rfl⟩ mapped
  | text listing => exact absurd ⟨listing, rfl⟩ written
  | list others =>
      rw [Value.itemsOrNone_list, Except.ok.injEq] at walked
      exact sequence (.inl (by rw [walked])) entered
  | tuple others =>
      rw [Value.itemsOrNone_tuple, Except.ok.injEq] at walked
      exact sequence (.inr (by rw [walked])) entered
  | bytes octets =>
      cases octets with
      | nil =>
          cases walked
          cases entered
          exact ⟨[], .nothing rfl, rfl⟩
      | cons octet rest =>
          -- The items of bytes are numbers, which are no entries.
          cases walked
          contradiction
  | _ =>
      obtain ⟨empty, rfl⟩ := Value.isTrue_of_itemsOrNone rfl walked
      cases entered
      exact ⟨[], .nothing empty, rfl⟩

/-- The items of a sequence give their values as they are. -/
theorem kept_of_gives {items : List Value} {listed : List Listed}
    (given : List.Forall₂ Gives items listed) : ∀ entry ∈ listed, entry.kept = entry.value := by
  induction given with
  | nil => exact List.forall_mem_nil _
  | cons gives _ ih =>
      refine List.forall_mem_cons.mpr ⟨?_, ih⟩
      cases gives <;> rfl

/-- In a mapping or a listing every value is kept as its text. In a sequence a value that is no text is
kept as no text either. -/
theorem Lists.kept {pairs : Value} {listed : List Listed} (lists : Lists pairs listed) :
    ∀ entry ∈ listed, entry.kept = .text entry.value.plain ∨
      (∃ items, pairs = .list items ∨ pairs = .tuple items) ∧
        ∀ content, entry.kept ≠ .text content := by
  intro entry member
  cases lists with
  | nothing => contradiction
  | mapping entries =>
      obtain ⟨pair, -, rfl⟩ := List.mem_map.mp member
      exact .inl rfl
  | listing read =>
      obtain ⟨pair, -, rfl⟩ := List.mem_map.mp member
      exact .inl rfl
  | @sequence pairs items listed sequence given =>
      have same := kept_of_gives given entry member
      by_cases text : ∃ content, entry.value = .text content
      · obtain ⟨content, text⟩ := text
        rw [same, text]
        exact .inl rfl
      · rw [same]
        exact .inr ⟨⟨items, sequence⟩, not_exists.mp text⟩

/-- A listed value that is kept as a text is looked up by this text. -/
theorem Lists.plain_of_kept {pairs : Value} {listed : List Listed} (lists : Lists pairs listed)
    {entry : Listed} (member : entry ∈ listed) {content : String} (text : entry.kept = .text content) :
    entry.value.plain = content := by
  rcases lists.kept entry member with same | ⟨-, other⟩
  · rw [same] at text
    exact Value.text.inj text
  · exact absurd text (other content)

/-- No entry of the table is for a text that no value is kept as. -/
theorem unlisted_of_kept {listed : List Listed} {content : String}
    (unkept : ∀ entry ∈ listed, entry.kept ≠ .text content) :
    ThresholdTable.Unlisted (listed.map Listed.entry) content := by
  intro entry member name halves
  obtain ⟨given, inside, rfl⟩ := List.mem_map.mp member
  rw [Listed.entry, Value.halves?_tuple, List.cons.injEq] at halves
  exact unkept given inside halves.1

section Built

variable {data : Fields String Value} {config : Config} {registry : Registry} {rule : Rule}

/-- A configuration that a rule was built from keeps the pairs that it was read from. -/
theorem lists_of_buildRule (read : ofNamed data = .ok config)
    (built : config.buildRule registry = .ok rule) :
    ∃ listed, Lists ((data.get? "pairs").getD .absent) listed ∧
      config.thresholds = .list (listed.map Listed.entry) := by
  obtain ⟨entries, thresholds, same⟩ := Except.map_eq_ok_iff.mp read
  have kept : config.thresholds = .list entries := by rw [← same]
  obtain ⟨-, created⟩ := buildRule_eq_ok_iff.mp built
  have tabled := (Rule.create_eq_ok_iff.mp created).2.2.1
  rw [kept] at tabled
  obtain ⟨others, items, added, -⟩ := ThresholdTable.ofPairs_eq_ok_iff.mp tabled
  rw [Value.itemsOrNone_list, Except.ok.injEq] at items
  rw [← items] at added
  obtain ⟨listed, lists, rfl⟩ :=
    lists_of_readThresholds thresholds (ThresholdTable.halves?_of_addEntries added)
  exact ⟨listed, lists, kept⟩

variable {listed : List Listed}

/-- The threshold of a text is that of the last entry that is listed for it, or else the default. -/
theorem threshold_of_listed (built : config.buildRule registry = .ok rule)
    (kept : config.thresholds = .list (listed.map Listed.entry)) (content : String) :
    (match ThresholdTable.lastFor? (listed.map Listed.entry) content with
      | some name => registry.resolve name none
      | none => ThresholdTable.resolveDefault registry config.defaultThreshold) =
      .ok (rule.table.lookup (.text content)) := by
  rw [← threshold_of_buildRule built content, Config.threshold, ThresholdTable.configured, kept,
    Value.itemsOrNone_list]
  rfl

/-- The last value that is kept as a text decides for it. -/
theorem resolve_of_last (built : config.buildRule registry = .ok rule)
    (kept : config.thresholds = .list (listed.map Listed.entry)) {content : String}
    {earlier later : List Listed} {last : Listed} (split : listed = earlier ++ last :: later)
    (text : last.kept = .text content) (final : ∀ other ∈ later, other.kept ≠ .text content) :
    registry.resolve last.name none = .ok (rule.table.lookup (.text content)) := by
  have found : ThresholdTable.lastFor? (listed.map Listed.entry) content = some last.name := by
    rw [ThresholdTable.lastFor?_eq_some_iff]
    refine ⟨earlier.map Listed.entry, last.entry, later.map Listed.entry, ?_, ?_,
      unlisted_of_kept final⟩
    · rw [split, List.map_append, List.map_cons]
    · rw [Listed.entry, Value.halves?_tuple, text]
  have threshold := threshold_of_listed built kept content
  rw [found] at threshold
  exact threshold

/-- Without a value that is kept as a text, the default threshold decides for the text. -/
theorem resolveDefault_of_unkept (built : config.buildRule registry = .ok rule)
    (kept : config.thresholds = .list (listed.map Listed.entry)) {content : String}
    (unkept : ∀ entry ∈ listed, entry.kept ≠ .text content) :
    ThresholdTable.resolveDefault registry config.defaultThreshold =
      .ok (rule.table.lookup (.text content)) := by
  have missing := ThresholdTable.lastFor?_eq_none_iff.mpr (unlisted_of_kept unkept)
  have threshold := threshold_of_listed built kept content
  rw [missing] at threshold
  exact threshold

/-- An event in a context that shows a value is judged against the level of the last pair whose value is
kept as the text of the shown one, or against the default threshold if there is no such pair. So the last
pair whose value has the same text decides, unless its value is kept as no text; that happens only in a
sequence. -/
theorem threshold_of_shown_value (read : ofNamed data = .ok config)
    (built : config.buildRule registry = .ok rule) :
    let pairs := (data.get? "pairs").getD .absent
    ∃ listed, Lists pairs listed ∧
      (∀ entry ∈ listed, entry.kept = .text entry.value.plain ∨
        (∃ items, pairs = .list items ∨ pairs = .tuple items) ∧
          ∀ content, entry.kept ≠ .text content) ∧
      ∀ (shown : Value) (context : Context), shown.isAbsent = false →
        context.Shows rule.key shown → ∃ threshold,
          (∀ (order : LevelOrder) (provider : Provider) (level : Level),
            Filter.evaluate ⟨rule, order, provider⟩ level (Snapshot.ofEntries context) =
              if order.passes level threshold then rule.onMatch else rule.onMismatch) ∧
          (∀ earlier last later, listed = earlier ++ last :: later →
            last.value.plain = shown.plain → (∀ other ∈ later, other.value.plain ≠ shown.plain) →
            last.kept = .text last.value.plain → registry.resolve last.name none = .ok threshold) ∧
          (∀ earlier last later, listed = earlier ++ last :: later →
            last.kept = .text shown.plain → (∀ other ∈ later, other.kept ≠ .text shown.plain) →
            registry.resolve last.name none = .ok threshold) ∧
          ((∀ entry ∈ listed, entry.kept ≠ .text shown.plain) →
            ThresholdTable.resolveDefault registry config.defaultThreshold = .ok threshold) := by
  intro pairs
  obtain ⟨listed, lists, kept⟩ := lists_of_buildRule read built
  refine ⟨listed, lists, lists.kept, fun shown context given shows => ?_⟩
  refine ⟨rule.table.lookup (.text shown.plain), ?_, ?_, ?_, ?_⟩
  · intro order provider level
    rw [Filter.evaluate, Rule.outcome, Rule.outcomeBy, shows.get?_snapshot given]
  · intro earlier last later split same final text
    rw [same] at text
    refine resolve_of_last built kept split text fun other member => ?_
    intro otherText
    have inside : other ∈ listed := by
      rw [split]
      exact List.mem_append_right _ (List.mem_cons_of_mem _ member)
    exact final other member (lists.plain_of_kept inside otherText)
  · intro earlier last later split text final
    exact resolve_of_last built kept split text final
  · intro unkept
    exact resolveDefault_of_unkept built kept unkept

end Built

/-- A number and its text are both listed in a mapping; the last one decides for the number. -/
theorem threshold_of_shown_number :
    let pairs : Value := .mapping [(.int 5, .text "debug"), (.text "5", .text "warn")]
    let config : Config := {
      key := .text "tenant"
      thresholds := .list [textPair "5" "debug", textPair "5" "warn"] }
    let rule : Rule := ⟨"tenant", ⟨[(.text "5", ⟨"WARN", 30, true⟩)], .error⟩,
      .verdict .neutral, .verdict .deny⟩
    ofNamed [("key", .text "tenant"), ("pairs", pairs)] = .ok config ∧
      config.buildRule .standard = .ok rule ∧
      Filter.evaluate ⟨rule, .severity, .ambient⟩ ⟨"INFO", 20, true⟩
        (Snapshot.ofEntries [(.text "tenant", .int 5)]) = .verdict .deny := by
  intro pairs config rule
  have read : ofNamed [("key", .text "tenant"), ("pairs", pairs)] = .ok config := rfl
  have built : config.buildRule .standard = .ok rule := by
    dsimp only [config, rule]
    rfl
  obtain ⟨listed, lists, -, judged⟩ := threshold_of_shown_value read built
  have mapped : Lists (.mapping [(.int 5, .text "debug"), (.text "5", .text "warn")]) listed := lists
  have whole : listed = [⟨.int 5, .text "5", .text "debug"⟩] ++ [⟨.text "5", .text "5", .text "warn"⟩] := by
    cases mapped with
    | nothing empty => contradiction
    | mapping => rfl
    | sequence sequence => simp at sequence
  obtain ⟨threshold, outcome, last, -⟩ := judged (.int 5) [(.text "tenant", .int 5)] rfl
    ⟨[], [], rfl, List.forall_mem_nil _⟩
  have resolved := last _ _ _ whole rfl (List.forall_mem_nil _) rfl
  obtain rfl : ⟨"WARN", 30, true⟩ = threshold := Except.ok.inj resolved
  exact ⟨read, built, outcome .severity .ambient ⟨"INFO", 20, true⟩⟩

/-- A number that is listed in a sequence is not reached: the number itself is judged by the default
threshold, although its pair lets the level pass. -/
theorem listed_number_is_unreached :
    let data : Fields String Value := [("key", .text "tenant"),
      ("pairs", .list [.list [.int 5, .text "DEBUG"]])]
    ∃ config rule, ofNamed data = .ok config ∧ config.buildRule .standard = .ok rule ∧
      Registry.standard.resolve (.text "DEBUG") none = .ok ⟨"DEBUG", 10, true⟩ ∧
      Filter.evaluate ⟨rule, .severity, .ambient⟩ ⟨"INFO", 20, true⟩
        (Snapshot.ofEntries [(.text "tenant", .int 5)]) = .verdict .deny ∧
      (if LevelOrder.severity.passes ⟨"INFO", 20, true⟩ ⟨"DEBUG", 10, true⟩ then rule.onMatch
        else rule.onMismatch) = .verdict .neutral := by
  exact ⟨_, _, rfl, rfl, rfl, rfl, rfl⟩

end Config

end LogGate

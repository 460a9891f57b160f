import LogGate.Proofs.DecodedConfig
import LogGate.Proofs.EqualTables
import LogGate.Proofs.Listings
import LogGate.Proofs.NamedContext

/-!
Shapes of pairs. Pairs of texts can be written as a mapping, as a list of lists and objects, and as a listing.
Configurations that differ only in this are equal, and so are the rules that are built from them.
-/

namespace LogGate.Config

/-- An entry as an item of a list: its two texts, or an object with its key and its value. -/
inductive Item (entry : String × String) : Value → Prop
  | list : Item entry (.list [.text entry.1, .text entry.2])
  | object {members : List (Value × Value)}
      (key : Fields.get? members (.text "key") = some (.text entry.1))
      (value : Fields.get? members (.text "value") = some (.text entry.2)) :
      Item entry (.mapping members)

/-- The ways to write pairs. In a listing they must be clean; a mapping keeps one pair for each value. -/
inductive Shape (entries : List (String × String)) : Value → Prop
  | mapping : Shape entries
      (.mapping (Fields.ofList (entries.map fun entry => (.text entry.1, .text entry.2))))
  | items {items : List Value} (written : List.Forall₂ Item entries items) :
      Shape entries (.list items)
  | listing (clean : ∀ entry ∈ entries, Listing.Clean entry) :
      Shape entries (.text (Listing.plain entries))

/-- The pairs as a configuration keeps them. -/
def textPairs (entries : List (String × String)) : List Value :=
  entries.map fun entry => textPair entry.1 entry.2

section Reading

variable {entries : List (String × String)}

/-- Every shape of an entry is read as the pair of its texts. -/
theorem Item.readEntry {entry : String × String} {item : Value} (written : Item entry item) :
    Config.readEntry item = .ok (textPair entry.1 entry.2) := by
  cases written with
  | list => rfl
  | object key value =>
      rw [Config.readEntry, key, value]
      rfl

/-- Items of any shapes are read as the pairs of their texts. -/
theorem readEntries_of_items {items : List Value} (written : List.Forall₂ Item entries items) :
    readEntries items = .ok (textPairs entries) := by
  induction written with
  | nil => rfl
  | cons first _ ih =>
      rw [readEntries, first.readEntry, Except.bind, ih]
      rfl

/-- With distinct values no pair of a mapping takes the place of another one. -/
theorem readThresholds_mapping (distinct : Fields.Distinct entries) :
    readThresholds (.mapping (Fields.ofList (entries.map fun entry =>
      (.text entry.1, .text entry.2)))) = .ok (textPairs entries) := by
  let named : Fields String Value := entries.map fun entry => (entry.1, .text entry.2)
  have apart : named.Distinct := by
    rw [Fields.Distinct, List.map_map]
    exact distinct
  have kept : Fields.ofList (Context.ofNamed named) = Context.ofNamed named :=
    (Context.putAll_ofNamed [] named).trans (congrArg _ (Fields.ofList_of_distinct apart))
  have written : Context.ofNamed named = entries.map fun entry => (.text entry.1, .text entry.2) := by
    rw [Context.ofNamed, List.map_map]
    rfl
  rw [← written, kept, written, readThresholds, List.map_map]
  rfl

/-- Clean entries can be given as one text. -/
theorem readThresholds_plain (clean : ∀ entry ∈ entries, Listing.Clean entry) :
    readThresholds (.text (Listing.plain entries)) = .ok (textPairs entries) := by
  have joined : (Listing.plain entries).toList =
      [','].intercalate (entries.map fun entry => (Listing.entryText entry.1 entry.2).toList) := by
    rw [Listing.plain, String.toList_intercalate, List.map_map]
    rfl
  have read : Listing.read (Listing.plain entries) = .ok entries := by
    rw [Listing.read, ← Listing.readValue_text]
    exact (Listing.writes_plain clean).readValue joined
  rw [readThresholds, read]
  rfl

/-- Pairs with distinct values are read alike from every shape. -/
theorem Shape.readThresholds {pairs : Value} (shape : Shape entries pairs)
    (distinct : Fields.Distinct entries) :
    Config.readThresholds pairs = .ok (textPairs entries) := by
  cases shape with
  | mapping => exact readThresholds_mapping distinct
  | items written => rw [readThresholds_list, readEntries_of_items written]
  | listing clean => exact readThresholds_plain clean

end Reading

section Agreeing

variable {data : Fields String Value} {entries : List (String × String)} {pairs : Value}

/-- The configuration of pairs and of what else is given; it does not depend on their shape. -/
def ofPairs (data : Fields String Value) (entries : List (String × String)) : Config where
  key := (data.get? "key").getD .absent
  thresholds := .list (textPairs entries)
  defaultThreshold := (data.get? "default_threshold").getD .absent
  onMatch := (data.get? "on_match").getD .absent
  onMismatch := (data.get? "on_mismatch").getD .absent
  logLevel := (data.get? "log_level").getD (.text "DEBUG")
  enabled := .bool (readEnabled ((data.get? "enabled").getD (.bool true)))

/-- Every shape of the pairs makes the same configuration. -/
theorem ofNamed_put_pairs (shape : Shape entries pairs) (distinct : Fields.Distinct entries) :
    ofNamed (data.put "pairs" pairs) = .ok (ofPairs data entries) := by
  have other (name : String) (different : ("pairs" == name) = false) :
      (data.put "pairs" pairs).get? name = data.get? name :=
    Fields.get?_put_of_ne data pairs different
  rw [ofNamed_eq_ok_iff, Fields.get?_put_self]
  refine ⟨textPairs entries, shape.readThresholds distinct, ?_⟩
  rw [other "key" (by decide), other "default_threshold" (by decide), other "on_match" (by decide),
    other "on_mismatch" (by decide), other "log_level" (by decide), other "enabled" (by decide)]
  rfl

/-- A configuration is the same as itself. -/
theorem same_refl (config : Config) : config.same config = true :=
  Value.sameItems_refl config.values

/-- The values of text pairs can be names in a table, so that only a misconfiguration is left. -/
theorem misconfigured_of_ofPairs {registry : Registry} {failure : Failure}
    (failed : (ofPairs data entries).buildRule registry = .error failure) :
    ∃ cause, failure = .misconfigured cause := by
  have texts : ∀ entry ∈ textPairs entries, ∃ value level, entry = textPair value level := by
    intro entry member
    obtain ⟨pair, -, rfl⟩ := List.mem_map.mp member
    exact ⟨_, _, rfl⟩
  cases unbuildable_of_buildRule failed with
  | misconfigured cause => exact ⟨cause, rfl⟩
  | notIterable _ itemless => contradiction
  | unhashable =>
      obtain ⟨-, -, refused⟩ := (buildRule_unhashable_iff rfl).mp failed
      exact absurd refused (addEntries_textPairs_ne texts)

/-- A rule that is built is the same as itself. -/
theorem same_of_buildRule {config : Config} {registry : Registry} {rule : Rule}
    (built : config.buildRule registry = .ok rule) : rule.same rule = true := by
  obtain ⟨-, created⟩ := buildRule_eq_ok_iff.mp built
  exact Rule.same_iff.mpr ⟨rfl, (Rule.Built.create created).table.same_refl⟩

end Agreeing

/-- Pairs of texts with distinct values give the same configuration in every shape, whatever else is given,
with the pairs in their order. Under each registry all shapes give equal rules with the same outcomes, or all
of them are misconfigurations. -/
theorem shapes_of_pairs_agree {entries : List (String × String)} (distinct : Fields.Distinct entries)
    (data : Fields String Value) {first second : Value} (shape : Shape entries first)
    (other : Shape entries second) :
    ∃ config again, ofNamed (data.put "pairs" first) = .ok config ∧
      ofNamed (data.put "pairs" second) = .ok again ∧
      config.thresholds = .list (entries.map fun entry => textPair entry.1 entry.2) ∧
      config.same again = true ∧ config = again ∧
      ∀ registry : Registry,
        (∃ cause, config.buildRule registry = .error (.misconfigured cause) ∧
          again.buildRule registry = .error (.misconfigured cause)) ∨
        ∃ rule twin, config.buildRule registry = .ok rule ∧ again.buildRule registry = .ok twin ∧
          rule.same twin = true ∧ rule.onMatch = twin.onMatch ∧
          rule.onMismatch = twin.onMismatch := by
  refine ⟨ofPairs data entries, ofPairs data entries, ofNamed_put_pairs shape distinct,
    ofNamed_put_pairs other distinct, rfl, same_refl _, rfl, fun registry => ?_⟩
  cases built : (ofPairs data entries).buildRule registry with
  | ok rule => exact .inr ⟨rule, rule, rfl, rfl, same_of_buildRule built, rfl, rfl⟩
  | error failure =>
      obtain ⟨cause, rfl⟩ := misconfigured_of_ofPairs built
      exact .inl ⟨cause, rfl, rfl⟩

/-- A value with an equals sign, in a listing and in a list that holds a list and an object. -/
theorem shapes_of_pairs_agree_on_tenants :
    let data : Fields String Value :=
      [("key", .text "tenant"), ("pairs", .int 5), ("on_match", .text "accept")]
    let mixed : Value := .list [.list [.text "a=b", .text "DEBUG"],
      .mapping [(.text "value", .text "warn"), (.text "key", .text "acme")]]
    ∃ config again, ofNamed (data.put "pairs" (.text "a=b=DEBUG,acme=warn")) = .ok config ∧
      ofNamed (data.put "pairs" mixed) = .ok again ∧ config.same again = true ∧
      ∃ rule twin, config.buildRule .standard = .ok rule ∧ again.buildRule .standard = .ok twin ∧
        rule.same twin = true ∧ rule.onMatch = twin.onMatch := by
  intro data mixed
  let entries := [("a=b", "DEBUG"), ("acme", "warn")]
  have clean : ∀ entry ∈ entries, Listing.Clean entry := by
    simp only [entries, List.forall_mem_cons]
    refine ⟨?_, ?_, List.forall_mem_nil _⟩
    all_goals constructor <;> decide +kernel
  have items : Shape entries mixed := .items (.cons .list (.cons (.object rfl rfl) .nil))
  have distinct : Fields.Distinct entries := by
    rw [Fields.Distinct]
    decide
  obtain ⟨config, again, read, readAgain, -, same, -, builds⟩ :=
    shapes_of_pairs_agree distinct data (.listing clean) items
  refine ⟨config, again, read, readAgain, same, ?_⟩
  rcases builds .standard with ⟨cause, failed, -⟩ | ⟨rule, twin, built, builtTwin, equal, policy, -⟩
  · have known : config = ofPairs data entries :=
      Except.ok.inj (read.symm.trans (ofNamed_put_pairs (.listing clean) distinct))
    have made : ((ofPairs data entries).buildRule .standard).isOk = true := by
      dsimp only [data, entries]
      decide +kernel
    rw [← known, failed] at made
    contradiction
  · exact ⟨rule, twin, built, builtTwin, equal, policy⟩

end LogGate.Config

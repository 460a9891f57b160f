import LogGate.Config
import LogGate.Proofs.Listings
import LogGate.Proofs.ValueEquality

/-!
Configurations that are read from environment variables and from named values. The same texts give the
same configuration, unless the word that enables it is written with white space around it.
-/

namespace LogGate

namespace Config

/-- The name of every variable, and the name of the value that says the same. -/
def sources : List (String × String) :=
  [("KEY", "key"), ("THRESHOLDS", "pairs"), ("DEFAULT_THRESHOLD", "default_threshold"),
    ("ON_MATCH", "on_match"), ("ON_MISMATCH", "on_mismatch"), ("LEVEL", "log_level"),
    ("ENABLED", "enabled")]

/-- Named values mirror an environment when they hold the texts of its variables, each exactly if its
variable is set. -/
def Mirrors (environment : Environment) (data : Fields String Value) : Prop :=
  ∀ source ∈ sources,
    data.get? source.2 = (environment.get? (variableName source.1)).map Value.text

/-- The texts of the variables that are set, under the names of their values. -/
def named (environment : Environment) (sources : List (String × String)) : Fields String Value :=
  sources.filterMap fun source =>
    (environment.get? (variableName source.1)).map fun content => (source.2, .text content)

/-- A setting without a variable is not there. -/
theorem get?_named_of_not_mem {environment : Environment} {sources : List (String × String)}
    {name : String} (unlisted : name ∉ sources.map (·.2)) :
    (named environment sources).get? name = none := by
  induction sources with
  | nil => rfl
  | cons source rest ih =>
      rw [List.map_cons, List.mem_cons, not_or] at unlisted
      rw [named, List.filterMap_cons]
      cases environment.get? (variableName source.1) with
      | none => exact ih unlisted.2
      | some content =>
          have other : (source.2 == name) = false := beq_eq_false_iff_ne.mpr (Ne.symm unlisted.1)
          dsimp only [Option.map_some]
          rw [Fields.get?_cons, other]
          exact ih unlisted.2

/-- A setting has the text of its variable. -/
theorem get?_named {environment : Environment} {sources : List (String × String)}
    (distinct : (sources.map (·.2)).Nodup) {source : String × String} (listed : source ∈ sources) :
    (named environment sources).get? source.2 =
      (environment.get? (variableName source.1)).map Value.text := by
  induction sources with
  | nil => contradiction
  | cons first rest ih =>
      obtain ⟨unlisted, others⟩ := List.nodup_cons.mp distinct
      rcases List.mem_cons.mp listed with rfl | later
      · rw [named, List.filterMap_cons]
        cases environment.get? (variableName source.1) with
        | none => exact get?_named_of_not_mem unlisted
        | some content =>
            dsimp only [Option.map_some]
            rw [Fields.get?_cons, beq_self_eq_true, if_pos rfl]
      · have other : (first.2 == source.2) = false := by
          refine beq_eq_false_iff_ne.mpr fun same => unlisted ?_
          change first.2 ∈ _
          rw [same]
          exact List.mem_map_of_mem later
        rw [named, List.filterMap_cons]
        cases environment.get? (variableName first.1) with
        | none => exact ih others later
        | some content =>
            dsimp only [Option.map_some]
            rw [Fields.get?_cons, other]
            exact ih others later

/-- Every environment is mirrored. -/
theorem mirrors_named (environment : Environment) : Mirrors environment (named environment sources) :=
  fun _ listed => get?_named (by decide) listed

/-- The word that enables a configuration is in the environment, with white space around it. -/
def EnabledPadded (environment : Environment) : Prop :=
  ∃ before word after : List Char,
    environment.get? (variableName "ENABLED") = some (String.ofList (before ++ word ++ after)) ∧
      Text.Blank before ∧ Text.Blank after ∧ before ++ after ≠ [] ∧
        isTrueWord (String.ofList word) = true

/-- A configuration is enabled by a word, which is true if it is unset. -/
def enabledWord (environment : Environment) : String :=
  (environment.get? (variableName "ENABLED")).getD "true"

section TrueWord

variable {word : String}

/-- A word for true has four letters. -/
theorem length_of_isTrueWord (truth : isTrueWord word = true) : word.toList.length = 4 := by
  rw [isTrueWord, beq_iff_eq] at truth
  rw [← List.length_map Char.toLower, truth]
  rfl

/-- The letters of a true word are no white space. -/
theorem visible_of_isTrueWord (truth : isTrueWord word = true) :
    ∀ c ∈ word.toList, Text.isBlankChar c = false := by
  intro c member
  rw [← Bool.not_eq_true]
  intro blank
  rw [isTrueWord, beq_iff_eq] at truth
  have letter : c ∈ "true".toList := by
    rw [← truth, ← Text.toLower_of_blank blank]
    exact List.mem_map_of_mem member
  have spelled : "true".toList = ['t', 'r', 'u', 'e'] := rfl
  simp only [spelled, List.mem_cons, List.not_mem_nil, or_false] at letter
  rcases letter with rfl | rfl | rfl | rfl
  all_goals exact absurd blank (by decide)

/-- A word for true has no spaces around it. -/
theorem trim_of_isTrueWord (truth : isTrueWord word = true) : Text.trim word = word := by
  rw [Text.trim, Text.trimChars_of_visible (visible_of_isTrueWord truth), String.ofList_toList]

end TrueWord

/-- Only trimming makes a true word of a padded one. -/
theorem enabledPadded_iff {environment : Environment} : EnabledPadded environment ↔
    isTrueWord (enabledWord environment) = false ∧
      isTrueWord (Text.trim (enabledWord environment)) = true := by
  constructor
  · rintro ⟨before, word, after, held, blankBefore, blankAfter, padded, truth⟩
    rw [enabledWord, held, Option.getD_some]
    constructor
    · rw [← Bool.not_eq_true]
      intro longer
      have four := length_of_isTrueWord truth
      have same := length_of_isTrueWord longer
      rw [String.toList_ofList] at four same
      rw [List.length_append, List.length_append, four] at same
      apply padded
      rw [← List.length_eq_zero_iff, List.length_append]
      omega
    · rw [Text.trim, String.toList_ofList, Text.trimChars_append blankBefore blankAfter,
        ← String.toList_ofList (l := word), ← Text.trim, trim_of_isTrueWord truth]
      exact truth
  · rintro ⟨other, truth⟩
    cases held : environment.get? (variableName "ENABLED") with
    | none =>
        rw [enabledWord, held] at other
        contradiction
    | some word =>
        rw [enabledWord, held, Option.getD_some] at other truth
        obtain ⟨before, after, blankBefore, blankAfter, whole⟩ :=
          Text.eq_append_trimChars word.toList
        refine ⟨before, Text.trimChars word.toList, after, ?_, blankBefore, blankAfter, ?_, truth⟩
        · rw [held, ← whole, String.ofList_toList]
        · intro nothing
          rw [List.append_eq_nil_iff] at nothing
          rw [nothing.1, nothing.2, List.nil_append, List.append_nil] at whole
          rw [Text.trim, ← whole, String.ofList_toList, other] at truth
          contradiction

/-- Both readings of the word agree unless it is padded. -/
theorem isTrueWord_eq_trim_iff {environment : Environment} :
    isTrueWord (enabledWord environment) = isTrueWord (Text.trim (enabledWord environment)) ↔
      ¬EnabledPadded environment := by
  rw [enabledPadded_iff]
  cases truth : isTrueWord (enabledWord environment) with
  | true => simp [trim_of_isTrueWord truth, truth]
  | false => simp

section Reading

/-- The text of a variable, or nothing if it is unset. -/
def setting (environment : Environment) (name : String) : Value :=
  match environment.get? (variableName name) with
  | some content => .text content
  | none => .absent

/-- A configuration of the texts of an environment, with the thresholds and the truth that were read. -/
def ofSettings (environment : Environment) (entries : List (String × String)) (enabled : Bool) :
    Config where
  key := setting environment "KEY"
  thresholds := .list (entries.map fun entry => textPair entry.1 entry.2)
  defaultThreshold := setting environment "DEFAULT_THRESHOLD"
  onMatch := setting environment "ON_MATCH"
  onMismatch := setting environment "ON_MISMATCH"
  logLevel := .text ((environment.get? (variableName "LEVEL")).getD "DEBUG")
  enabled := .bool enabled

variable {environment : Environment} {data : Fields String Value}

/-- The environment's word is taken as it stands. -/
theorem ofEnvironment_eq_map : ofEnvironment environment =
    (Listing.readValue (setting environment "THRESHOLDS")).map fun entries =>
      ofSettings environment entries (isTrueWord (enabledWord environment)) := rfl

/-- Thresholds that are given as a text, or not at all, are a listing. -/
theorem readThresholds_setting (name : String) : readThresholds (setting environment name) =
    (Listing.readValue (setting environment name)).map fun entries =>
      entries.map fun entry => textPair entry.1 entry.2 := by
  rw [setting]
  cases environment.get? (variableName name) with
  | none => rfl
  | some listing =>
      change (Listing.read listing).map _ = (Listing.readValue (.text listing)).map _
      rw [Listing.readValue_text, Listing.read]

/-- The only failure of a setting is an entry that is malformed. -/
theorem malformed_of_setting {name : String} {failure : Failure}
    (failed : Listing.readValue (setting environment name) = .error failure) :
    ∃ piece, failure = .misconfigured (.malformedEntry piece) := by
  rw [setting] at failed
  cases held : environment.get? (variableName name) with
  | none =>
      rw [held] at failed
      contradiction
  | some listing =>
      rw [held] at failed
      dsimp only at failed
      rw [Listing.readValue_text] at failed
      exact Listing.malformed_of_read failed

/-- The same texts as named values are read in the same way, but for the word, which is trimmed. -/
theorem ofNamed_eq_map (mirrors : Mirrors environment data) : ofNamed data =
    (Listing.readValue (setting environment "THRESHOLDS")).map fun entries =>
      ofSettings environment entries (isTrueWord (Text.trim (enabledWord environment))) := by
  have held (source : String × String) (listed : source ∈ sources) :
      (data.get? source.2).getD .absent = setting environment source.1 := by
    rw [mirrors source listed, setting]
    cases environment.get? (variableName source.1) <;> rfl
  have level : (data.get? "log_level").getD (.text "DEBUG") =
      .text ((environment.get? (variableName "LEVEL")).getD "DEBUG") := by
    rw [mirrors ("LEVEL", "log_level") (by simp [sources])]
    cases environment.get? (variableName "LEVEL") <;> rfl
  have truth : readEnabled ((data.get? "enabled").getD (.bool true)) =
      isTrueWord (Text.trim (enabledWord environment)) := by
    rw [mirrors ("ENABLED", "enabled") (by simp [sources]), enabledWord]
    cases environment.get? (variableName "ENABLED") <;> rfl
  simp only [ofNamed, held ("KEY", "key") (by simp [sources]),
    held ("THRESHOLDS", "pairs") (by simp [sources]),
    held ("DEFAULT_THRESHOLD", "default_threshold") (by simp [sources]),
    held ("ON_MATCH", "on_match") (by simp [sources]),
    held ("ON_MISMATCH", "on_mismatch") (by simp [sources]), level, truth, readThresholds_setting]
  cases Listing.readValue (setting environment "THRESHOLDS") <;> rfl

/-- Configurations of the same texts are equal exactly if they were enabled alike. -/
theorem same_ofSettings_iff {entries : List (String × String)} {truth other : Bool} :
    (ofSettings environment entries truth).same (ofSettings environment entries other) = true ↔
      truth = other := by
  have texts (name : String) :
      (setting environment name).same (setting environment name) = true := by
    rw [setting]
    cases environment.get? (variableName name) <;> simp [Value.same, Value.isAbsent]
  have listed : Value.isHashable.allHashable (entries.map fun entry => textPair entry.1 entry.2) =
      true := by
    induction entries with
    | nil => rfl
    | cons entry rest ih => exact ih
  have pairs := (Value.sameItems_iff_contents listed _).mpr rfl
  simp only [same, values, ofSettings, Value.sameItems, Value.same, texts, pairs, beq_self_eq_true,
    Bool.true_and, Value.quantity?, List.isEmpty_nil, Bool.and_true]
  cases truth <;> cases other <;> decide

end Reading

variable {environment : Environment} {data : Fields String Value}

/-- An environment and named values with the same texts are refused together, both for the same malformed
threshold, or give configurations that agree in everything but whether they are enabled. These are equal
exactly if the word that enables them is not padded; a padded one counts only among the named values. -/
theorem readers_agree_on_unpadded (mirrors : Mirrors environment data) :
    (∃ piece, ofEnvironment environment = .error (.misconfigured (.malformedEntry piece)) ∧
      ofNamed data = .error (.misconfigured (.malformedEntry piece))) ∨
    ∃ first second, ofEnvironment environment = .ok first ∧ ofNamed data = .ok second ∧
      { first with enabled := second.enabled } = second ∧
      (first.same second = true ↔ ¬EnabledPadded environment) ∧
      (EnabledPadded environment → first.enabled = .bool false ∧ second.enabled = .bool true) := by
  rw [ofEnvironment_eq_map, ofNamed_eq_map mirrors]
  cases read : Listing.readValue (setting environment "THRESHOLDS") with
  | error failure =>
      obtain ⟨piece, rfl⟩ := malformed_of_setting read
      exact .inl ⟨piece, rfl, rfl⟩
  | ok entries =>
      refine .inr ⟨_, _, rfl, rfl, rfl, ?_, fun padded => ?_⟩
      · rw [same_ofSettings_iff, isTrueWord_eq_trim_iff]
      · obtain ⟨other, truth⟩ := enabledPadded_iff.mp padded
        exact ⟨congrArg Value.bool other, congrArg Value.bool truth⟩

/-- A word in capital letters is no padded one, whatever white space is in the thresholds. -/
theorem readers_agree_on_capital_letters :
    let environment : Environment := [("DYNAMIC_LOG_ENABLED", "TRUE"), ("DYNAMIC_LOG_KEY", "tenant"),
      ("LANG", "C"), ("DYNAMIC_LOG_THRESHOLDS", " acme = debug ,")]
    let config : Config := { key := .text "tenant", thresholds := .list [textPair "acme" "debug"] }
    named environment sources = [("key", .text "tenant"), ("pairs", .text " acme = debug ,"),
      ("enabled", .text "TRUE")] ∧
    ofEnvironment environment = .ok config ∧
    ∃ other, ofNamed (named environment sources) = .ok other ∧ config.same other = true := by
  intro environment config
  have read : ofEnvironment environment = .ok config := by
    dsimp only [environment, config]
    rfl
  refine ⟨rfl, read, ?_⟩
  rcases readers_agree_on_unpadded (mirrors_named environment) with
    ⟨piece, refused, -⟩ | ⟨first, second, same, named, -, equal, -⟩
  · rw [read] at refused
    contradiction
  · obtain rfl : config = first := Except.ok.inj (read.symm.trans same)
    refine ⟨second, named, equal.mpr fun padded => ?_⟩
    have truth : isTrueWord (enabledWord environment) = true := by
      dsimp only [environment]
      rfl
    rw [(enabledPadded_iff.mp padded).1] at truth
    contradiction

/-- A padded word turns a configuration off in the environment, and leaves it on among named values: the
readers do not agree for all texts. -/
theorem padded_word_is_read_apart :
    ¬∀ (environment : Environment) (data : Fields String Value), Mirrors environment data →
      (∃ cause other, ofEnvironment environment = .error (.misconfigured cause) ∧
        ofNamed data = .error (.misconfigured other)) ∨
      ∃ first second, ofEnvironment environment = .ok first ∧ ofNamed data = .ok second ∧
        first.same second = true := by
  intro agree
  rcases agree [("DYNAMIC_LOG_ENABLED", " true ")] [("enabled", .text " true ")]
      (mirrors_named [("DYNAMIC_LOG_ENABLED", " true ")]) with
    ⟨cause, -, refused, -⟩ | ⟨first, second, read, named, equal⟩
  · contradiction
  · cases read
    cases named
    contradiction

end Config

end LogGate

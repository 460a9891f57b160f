import LogGate.Proofs.Trimming
import LogGate.Threshold.Listing

/-!
Threshold listings and the entries they list. A listing is read exactly when every part between commas is
blank or an entry, and reading what was written gives the entries back.
-/

namespace LogGate

namespace Text

section Pieces

variable {mark : Char}

/-- There is always a last piece. -/
theorem pieces_ne_nil (chars : List Char) : pieces mark chars ≠ [] := by
  cases chars with
  | nil => simp [pieces]
  | cons c rest =>
      rw [pieces]
      split
      · exact List.cons_ne_nil _ _
      · split <;> exact List.cons_ne_nil _ _

/-- A character that is no mark belongs to the first piece. -/
theorem pieces_cons_of_ne {c : Char} (other : c ≠ mark) {rest first : List Char}
    {others : List (List Char)} (cut : pieces mark rest = first :: others) :
    pieces mark (c :: rest) = (c :: first) :: others := by
  rw [pieces, if_neg (by simpa using other), cut]

theorem pieces_cons_mark (rest : List Char) :
    pieces mark (mark :: rest) = [] :: pieces mark rest := by
  rw [pieces, if_pos (beq_self_eq_true mark)]

/-- The pieces with a mark between them are the text. -/
theorem intercalate_pieces (chars : List Char) : [mark].intercalate (pieces mark chars) = chars := by
  induction chars with
  | nil => rfl
  | cons c rest ih =>
      obtain ⟨first, others, cut⟩ := List.exists_cons_of_ne_nil (@pieces_ne_nil mark rest)
      by_cases marked : c = mark
      · rw [marked, pieces_cons_mark, cut, List.intercalate_cons_cons, ← cut, ih]
        rfl
      · rw [pieces_cons_of_ne marked cut]
        rw [cut] at ih
        cases others with
        | nil =>
            rw [List.intercalate_singleton] at ih ⊢
            rw [ih]
        | cons second others =>
            rw [List.intercalate_cons_cons] at ih ⊢
            rw [List.cons_append, List.cons_append, ih]

/-- No piece has a mark in it. -/
theorem not_mem_of_mem_pieces {chars piece : List Char} (member : piece ∈ pieces mark chars) :
    mark ∉ piece := by
  induction chars generalizing piece with
  | nil =>
      rw [pieces, List.mem_singleton] at member
      simp [member]
  | cons c rest ih =>
      obtain ⟨first, others, cut⟩ := List.exists_cons_of_ne_nil (@pieces_ne_nil mark rest)
      by_cases marked : c = mark
      · rw [marked, pieces_cons_mark, List.mem_cons] at member
        rcases member with rfl | later
        · exact List.not_mem_nil
        · exact ih later
      · rw [pieces_cons_of_ne marked cut, List.mem_cons] at member
        rw [cut] at ih
        rcases member with rfl | later
        · rw [List.mem_cons, not_or]
          exact ⟨Ne.symm marked, ih List.mem_cons_self⟩
        · exact ih (List.mem_cons_of_mem _ later)

/-- A text without the mark is one piece. -/
theorem pieces_of_not_mem {piece : List Char} (unmarked : mark ∉ piece) :
    pieces mark piece = [piece] := by
  induction piece with
  | nil => rfl
  | cons c rest ih =>
      rw [List.mem_cons, not_or] at unmarked
      exact pieces_cons_of_ne (Ne.symm unmarked.1) (ih unmarked.2)

/-- The first mark ends the first piece. -/
theorem pieces_append_mark {piece : List Char} (unmarked : mark ∉ piece) (rest : List Char) :
    pieces mark (piece ++ mark :: rest) = piece :: pieces mark rest := by
  induction piece with
  | nil => exact pieces_cons_mark rest
  | cons c others ih =>
      rw [List.mem_cons, not_or] at unmarked
      exact pieces_cons_of_ne (Ne.symm unmarked.1) (ih unmarked.2)

/-- Texts without a mark are the pieces of what they make with a mark between them. -/
theorem pieces_intercalate {parts : List (List Char)} (filled : parts ≠ [])
    (unmarked : ∀ part ∈ parts, mark ∉ part) : pieces mark ([mark].intercalate parts) = parts := by
  induction parts with
  | nil => contradiction
  | cons part rest ih =>
      obtain ⟨first, others⟩ := List.forall_mem_cons.mp unmarked
      cases rest with
      | nil =>
          rw [List.intercalate_singleton]
          exact pieces_of_not_mem first
      | cons second rest =>
          rw [List.intercalate_cons_cons, List.append_assoc, List.singleton_append,
            pieces_append_mark first, ih (List.cons_ne_nil _ _) others]

/-- No mark comes after the last one. -/
theorem not_mem_of_cutAtLast {chars before after : List Char}
    (cut : cutAtLast mark chars = some (before, after)) : mark ∉ after := by
  induction chars generalizing before with
  | nil => contradiction
  | cons c rest ih =>
      cases found : cutAtLast mark rest with
      | none =>
          rw [cutAtLast, found] at cut
          dsimp only at cut
          split at cut
          · cases cut
            exact cutAtLast_eq_none_iff.mp found
          · contradiction
      | some parts =>
          rw [cutAtLast, found] at cut
          cases cut
          exact ih found

/-- The last mark is the one with no mark after it. -/
theorem cutAtLast_append_mark (before : List Char) {after : List Char} (unmarked : mark ∉ after) :
    cutAtLast mark (before ++ mark :: after) = some (before, after) := by
  induction before with
  | nil => rw [List.nil_append, cutAtLast, cutAtLast_eq_none_iff.mpr unmarked]; simp
  | cons c rest ih => rw [List.cons_append, cutAtLast, ih]

end Pieces

end Text

namespace Listing

/-- A clean entry has a value and a level without white space around them, without a comma, and with no
equals sign in the level. -/
structure Clean (entry : String × String) : Prop where
  valueFilled : entry.1 ≠ ""
  levelFilled : entry.2 ≠ ""
  valueTrimmed : Text.trim entry.1 = entry.1
  levelTrimmed : Text.trim entry.2 = entry.2
  valueWhole : ',' ∉ entry.1.toList
  levelWhole : ',' ∉ entry.2.toList
  levelUnmarked : '=' ∉ entry.2.toList

/-- An entry as it can be written, with white space around the value, the equals sign and the level. -/
def Spells (piece : List Char) (entry : String × String) : Prop :=
  ∃ first second third fourth : List Char,
    Text.Blank first ∧ Text.Blank second ∧ Text.Blank third ∧ Text.Blank fourth ∧
      piece = (first ++ entry.1.toList ++ second) ++ '=' :: (third ++ entry.2.toList ++ fourth)

/-- Pieces that write clean entries in order, with blank pieces anywhere. -/
inductive Writes : List (List Char) → List (String × String) → Prop
  | nil : Writes [] []
  | blank {space : List Char} {pieces : List (List Char)} {entries : List (String × String)}
      (blank : Text.Blank space) (rest : Writes pieces entries) : Writes (space :: pieces) entries
  | entry {piece : List Char} {entry : String × String} {pieces : List (List Char)}
      {entries : List (String × String)} (clean : Clean entry) (spelled : Spells piece entry)
      (rest : Writes pieces entries) : Writes (piece :: pieces) (entry :: entries)

/-- A malformed piece is not blank, and has no equals sign, or nothing but white space on one side of the
last one. -/
def Malformed (piece : List Char) : Prop :=
  ¬Text.Blank piece ∧ ('=' ∉ piece ∨ ∃ before after, piece = before ++ '=' :: after ∧
    '=' ∉ after ∧ (Text.Blank before ∨ Text.Blank after))

/-- Trimming a piece does not move its last equals sign. -/
theorem readEntry_trimChars (piece : List Char) :
    readEntry (Text.trimChars piece) =
      match Text.cutAtLast '=' piece with
      | some (before, after) =>
        if before.all Text.isBlankChar || after.all Text.isBlankChar then
          .error (.misconfigured (.malformedEntry (String.ofList (Text.trimChars piece))))
        else .ok (String.ofList (Text.trimChars before), String.ofList (Text.trimChars after))
      | none => .error (.misconfigured (.malformedEntry (String.ofList (Text.trimChars piece)))) := by
  obtain ⟨first, last, blankFirst, blankLast, whole⟩ := Text.eq_append_trimChars piece
  have visible : Text.isBlankChar '=' = false := by decide
  rw [readEntry]
  cases cut : Text.cutAtLast '=' (Text.trimChars piece) with
  | none =>
      have unmarked : '=' ∉ piece := by
        rw [whole, List.mem_append, List.mem_append, not_or, not_or]
        exact ⟨⟨blankFirst.not_mem visible, Text.cutAtLast_eq_none_iff.mp cut⟩,
          blankLast.not_mem visible⟩
      rw [Text.cutAtLast_eq_none_iff.mpr unmarked]
  | some parts =>
      obtain ⟨before, after⟩ := parts
      have unmarked : '=' ∉ after ++ last := by
        rw [List.mem_append, not_or]
        exact ⟨Text.not_mem_of_cutAtLast cut, blankLast.not_mem visible⟩
      have same : piece = (first ++ before) ++ '=' :: (after ++ last) := by
        conv_lhs => rw [whole, Text.eq_of_cutAtLast cut]
        simp only [List.append_assoc, List.cons_append]
      have wider : Text.cutAtLast '=' piece = some (first ++ before, after ++ last) := by
        conv_lhs => rw [same]
        exact Text.cutAtLast_append_mark _ unmarked
      have front := Text.trimChars_append blankFirst Text.blank_nil before
      have back := Text.trimChars_append Text.blank_nil blankLast after
      rw [List.append_nil] at front
      rw [List.nil_append] at back
      rw [wider]
      simp only [List.all_append, Text.blank_iff_all.mpr blankFirst,
        Text.blank_iff_all.mpr blankLast, Bool.true_and, Bool.and_true, front, back]

/-- An entry that was written is read. -/
theorem readEntry_of_spells {piece : List Char} {entry : String × String} (clean : Clean entry)
    (spelled : Spells piece entry) : readEntry (Text.trimChars piece) = .ok entry := by
  obtain ⟨first, second, third, fourth, blankFirst, blankSecond, blankThird, blankFourth, rfl⟩ :=
    spelled
  have visible : Text.isBlankChar '=' = false := by decide
  have unmarked : '=' ∉ third ++ entry.2.toList ++ fourth := by
    rw [List.mem_append, List.mem_append, not_or, not_or]
    exact ⟨⟨blankThird.not_mem visible, clean.levelUnmarked⟩, blankFourth.not_mem visible⟩
  have value : Text.isBlank entry.1 = false := by
    rw [← Bool.not_eq_true, ← Text.trim_eq_empty_iff, clean.valueTrimmed]
    exact clean.valueFilled
  have level : Text.isBlank entry.2 = false := by
    rw [← Bool.not_eq_true, ← Text.trim_eq_empty_iff, clean.levelTrimmed]
    exact clean.levelFilled
  rw [Text.isBlank] at value level
  rw [readEntry_trimChars, Text.cutAtLast_append_mark _ unmarked]
  simp only [List.all_append, value, level, Bool.and_false, Bool.false_and, Bool.or_self,
    Bool.false_eq_true, if_false]
  rw [Text.trimChars_append blankFirst blankSecond, Text.trimChars_append blankThird blankFourth,
    ← Text.trim, ← Text.trim, clean.valueTrimmed, clean.levelTrimmed]

/-- A malformed piece is refused, and named without the white space around it. -/
theorem readEntry_of_malformed {piece : List Char} (malformed : Malformed piece) :
    readEntry (Text.trimChars piece) =
      .error (.misconfigured (.malformedEntry (String.ofList (Text.trimChars piece)))) := by
  rw [readEntry_trimChars]
  rcases malformed.2 with unmarked | ⟨before, after, rfl, last, blank⟩
  · rw [Text.cutAtLast_eq_none_iff.mpr unmarked]
  · rw [Text.cutAtLast_append_mark _ last]
    rcases blank with blank | blank
    · simp only [Text.blank_iff_all.mpr blank, Bool.true_or, if_true]
    · simp only [Text.blank_iff_all.mpr blank, Bool.or_true, if_true]

/-- A text is what is left of it when it is trimmed, with white space around. -/
theorem exists_padding (chars : List Char) : ∃ before after,
    Text.Blank before ∧ Text.Blank after ∧
      chars = before ++ (String.ofList (Text.trimChars chars)).toList ++ after := by
  rw [String.toList_ofList]
  exact Text.eq_append_trimChars chars

/-- A piece between commas that is not blank writes a clean entry or is malformed. -/
theorem spells_or_malformed {piece : List Char} (whole : ',' ∉ piece)
    (filled : ¬Text.Blank piece) :
    (∃ entry, Clean entry ∧ Spells piece entry) ∨ Malformed piece := by
  cases cut : Text.cutAtLast '=' piece with
  | none => exact .inr ⟨filled, .inl (Text.cutAtLast_eq_none_iff.mp cut)⟩
  | some parts =>
      obtain ⟨before, after⟩ := parts
      have unmarked := Text.not_mem_of_cutAtLast cut
      have same := Text.eq_of_cutAtLast cut
      by_cases blank : Text.Blank before ∨ Text.Blank after
      · exact .inr ⟨filled, .inr ⟨before, after, same, unmarked, blank⟩⟩
      · rw [not_or, ← Text.trimChars_eq_nil_iff, ← Text.trimChars_eq_nil_iff] at blank
        rw [same, List.mem_append, List.mem_cons, not_or, not_or] at whole
        obtain ⟨first, second, blankFirst, blankSecond, value⟩ := exists_padding before
        obtain ⟨third, fourth, blankThird, blankFourth, level⟩ := exists_padding after
        refine .inl ⟨(String.ofList (Text.trimChars before), String.ofList (Text.trimChars after)),
          ?_, first, second, third, fourth, blankFirst, blankSecond, blankThird, blankFourth, ?_⟩
        · constructor
          · simpa using blank.1
          · simpa using blank.2
          · simp only [Text.trim, String.toList_ofList, Text.trimChars_trimChars]
          · simp only [Text.trim, String.toList_ofList, Text.trimChars_trimChars]
          · intro member
            rw [String.toList_ofList] at member
            exact whole.1 (Text.mem_of_mem_trimChars member)
          · intro member
            rw [String.toList_ofList] at member
            exact whole.2.2 (Text.mem_of_mem_trimChars member)
          · intro member
            rw [String.toList_ofList] at member
            exact unmarked (Text.mem_of_mem_trimChars member)
        · rw [← value, ← level]
          exact same

/-- Blank pieces are left out. -/
theorem readPieces_cons_blank {piece : List Char} (blank : Text.Blank piece)
    (rest : List (List Char)) : readPieces (piece :: rest) = readPieces rest := by
  rw [readPieces, if_pos (Text.blank_iff_all.mpr blank)]

/-- Other pieces are read one by one. -/
theorem readPieces_cons_filled {piece : List Char} (filled : ¬Text.Blank piece)
    (rest : List (List Char)) :
    readPieces (piece :: rest) = (readEntry (Text.trimChars piece)).bind fun entry =>
      (readPieces rest).map fun entries => entry :: entries := by
  rw [readPieces, if_neg (by rwa [Text.blank_iff_all])]

/-- A piece that spells an entry is not blank. -/
theorem Spells.filled {piece : List Char} {entry : String × String} (spelled : Spells piece entry) :
    ¬Text.Blank piece := by
  obtain ⟨first, second, third, fourth, -, -, -, -, rfl⟩ := spelled
  intro blank
  have marked := blank '=' (List.mem_append_right _ List.mem_cons_self)
  contradiction

namespace Writes

variable {pieces : List (List Char)} {entries : List (String × String)}

/-- What was written is read. -/
theorem readPieces (written : Writes pieces entries) :
    Listing.readPieces pieces = .ok entries := by
  induction written with
  | nil => rfl
  | blank blank _ ih => rw [readPieces_cons_blank blank, ih]
  | entry clean spelled _ ih =>
      rw [readPieces_cons_filled spelled.filled, readEntry_of_spells clean spelled, ih]
      rfl

/-- Pieces that write entries have both halves. -/
theorem not_malformed (written : Writes pieces entries) : ∀ piece ∈ pieces, ¬Malformed piece := by
  induction written with
  | nil => exact List.forall_mem_nil _
  | blank blank _ ih => exact List.forall_mem_cons.mpr ⟨fun malformed => malformed.1 blank, ih⟩
  | entry clean spelled _ ih =>
      refine List.forall_mem_cons.mpr ⟨fun malformed => ?_, ih⟩
      have read := readEntry_of_spells clean spelled
      rw [readEntry_of_malformed malformed] at read
      contradiction

/-- Entries that are written have no spaces around their parts. -/
theorem clean (written : Writes pieces entries) : ∀ entry ∈ entries, Clean entry := by
  induction written with
  | nil => exact List.forall_mem_nil _
  | blank _ _ ih => exact ih
  | entry clean _ _ ih => exact List.forall_mem_cons.mpr ⟨clean, ih⟩

/-- No piece has a comma. -/
theorem whole (written : Writes pieces entries) : ∀ piece ∈ pieces, ',' ∉ piece := by
  have visible : Text.isBlankChar ',' = false := by decide
  induction written with
  | nil => exact List.forall_mem_nil _
  | blank blank _ ih => exact List.forall_mem_cons.mpr ⟨blank.not_mem visible, ih⟩
  | entry clean spelled _ ih =>
      refine List.forall_mem_cons.mpr ⟨?_, ih⟩
      obtain ⟨first, second, third, fourth, blankFirst, blankSecond, blankThird, blankFourth, rfl⟩ :=
        spelled
      simp [blankFirst.not_mem visible, blankSecond.not_mem visible, blankThird.not_mem visible,
        blankFourth.not_mem visible, clean.valueWhole, clean.levelWhole]

end Writes

/-- Pieces between commas write entries, or the first malformed piece is refused. -/
theorem writes_or_malformed {pieces : List (List Char)} (whole : ∀ piece ∈ pieces, ',' ∉ piece) :
    (∃ entries, Writes pieces entries) ∨ ∃ piece ∈ pieces, Malformed piece ∧ readPieces pieces =
      .error (.misconfigured (.malformedEntry (String.ofList (Text.trimChars piece)))) := by
  induction pieces with
  | nil => exact .inl ⟨[], .nil⟩
  | cons piece rest ih =>
      obtain ⟨first, others⟩ := List.forall_mem_cons.mp whole
      by_cases blank : Text.Blank piece
      · rw [readPieces_cons_blank blank]
        rcases ih others with ⟨entries, written⟩ | ⟨other, member, malformed, failed⟩
        · exact .inl ⟨entries, .blank blank written⟩
        · exact .inr ⟨other, List.mem_cons_of_mem _ member, malformed, failed⟩
      · rw [readPieces_cons_filled blank]
        rcases spells_or_malformed first blank with ⟨entry, clean, spelled⟩ | malformed
        · rw [readEntry_of_spells clean spelled]
          rcases ih others with ⟨entries, written⟩ | ⟨other, member, malformed, failed⟩
          · exact .inl ⟨entry :: entries, .entry clean spelled written⟩
          · exact .inr ⟨other, List.mem_cons_of_mem _ member, malformed, by rw [failed]; rfl⟩
        · rw [readEntry_of_malformed malformed]
          exact .inr ⟨piece, List.mem_cons_self, malformed, rfl⟩

/-- A listing that is not read has a malformed piece. -/
theorem malformed_of_read {listing : String} {failure : Failure}
    (failed : read listing = .error failure) :
    ∃ piece, failure = .misconfigured (.malformedEntry piece) := by
  have whole : ∀ piece ∈ Text.pieces ',' listing.toList, ',' ∉ piece :=
    fun piece member => Text.not_mem_of_mem_pieces member
  rw [read] at failed
  rcases writes_or_malformed whole with ⟨entries, written⟩ | ⟨piece, -, -, refused⟩
  · rw [written.readPieces] at failed
    contradiction
  · rw [refused] at failed
    cases failed
    exact ⟨_, rfl⟩

theorem readValue_text (listing : String) :
    readValue (.text listing) = readPieces (Text.pieces ',' listing.toList) := by
  by_cases empty : listing = ""
  · rw [empty]
    rfl
  · have filled : (Value.text listing).isTrue = true := by
      simp [Value.isTrue, empty]
    rw [readValue, if_pos filled, read]

/-- Pieces that write entries are read as them, with commas between. -/
theorem Writes.readValue {pieces : List (List Char)} {entries : List (String × String)}
    (written : Writes pieces entries) {listing : String}
    (joined : listing.toList = [','].intercalate pieces) :
    Listing.readValue (.text listing) = .ok entries := by
  rw [readValue_text, joined]
  cases pieces with
  | nil =>
      cases written
      rfl
  | cons piece rest =>
      rw [Text.pieces_intercalate (List.cons_ne_nil _ _) written.whole, written.readPieces]

/-- Entries written without white space and without blank pieces. -/
def plain (entries : List (String × String)) : String :=
  ",".intercalate (entries.map fun entry => entryText entry.1 entry.2)

/-- Clean entries are written plainly. -/
theorem writes_plain {entries : List (String × String)} (clean : ∀ entry ∈ entries, Clean entry) :
    Writes (entries.map fun entry => (entryText entry.1 entry.2).toList) entries := by
  induction entries with
  | nil => exact .nil
  | cons entry rest ih =>
      obtain ⟨first, others⟩ := List.forall_mem_cons.mp clean
      refine .entry first ⟨[], [], [], [], Text.blank_nil, Text.blank_nil, Text.blank_nil,
        Text.blank_nil, ?_⟩ (ih others)
      simp [entryText]

/-- Reading a listing inverts writing one. The listings that are read are exactly those that clean
entries and blank pieces make with commas between them; the entries are read in order. What was read can
be written plainly and read again. A listing is refused exactly when a piece between commas is
malformed. -/
theorem reading_inverts_writing (listing : String) :
    (∀ entries, readValue (.text listing) = .ok entries ↔
      ∃ pieces, Writes pieces entries ∧ listing.toList = [','].intercalate pieces) ∧
    (∀ entries, readValue (.text listing) = .ok entries →
      (∀ entry ∈ entries, Clean entry) ∧ readValue (.text (plain entries)) = .ok entries) ∧
    (∀ failure, readValue (.text listing) = .error failure →
      ∃ piece, failure = .misconfigured (.malformedEntry piece)) ∧
    let pieces := Text.pieces ',' listing.toList
    listing.toList = [','].intercalate pieces ∧ (∀ piece ∈ pieces, ',' ∉ piece) ∧
      ((∃ failure, readValue (.text listing) = .error failure) ↔ ∃ piece ∈ pieces, Malformed piece) := by
  have joined := (@Text.intercalate_pieces ',' listing.toList).symm
  have whole : ∀ piece ∈ Text.pieces ',' listing.toList, ',' ∉ piece :=
    fun piece member => Text.not_mem_of_mem_pieces member
  have grammar (entries : List (String × String)) : readValue (.text listing) = .ok entries ↔
      ∃ pieces, Writes pieces entries ∧ listing.toList = [','].intercalate pieces := by
    constructor
    · intro read
      rcases writes_or_malformed whole with ⟨others, written⟩ | ⟨piece, -, -, failed⟩
      · rw [written.readValue joined] at read
        cases read
        exact ⟨_, written, joined⟩
      · rw [readValue_text, failed] at read
        contradiction
    · rintro ⟨pieces, written, same⟩
      exact written.readValue same
  refine ⟨grammar, ?_, ?_, joined, whole, ?_⟩
  · intro entries read
    obtain ⟨pieces, written, -⟩ := (grammar entries).mp read
    refine ⟨written.clean, (writes_plain written.clean).readValue ?_⟩
    rw [plain, String.toList_intercalate, List.map_map]
    rfl
  · intro failure refused
    rcases writes_or_malformed whole with ⟨entries, written⟩ | ⟨piece, -, -, failed⟩
    · rw [written.readValue joined] at refused
      contradiction
    · rw [readValue_text, failed] at refused
      cases refused
      exact ⟨_, rfl⟩
  · constructor
    · rintro ⟨failure, refused⟩
      rcases writes_or_malformed whole with ⟨entries, written⟩ | ⟨piece, member, malformed, -⟩
      · rw [written.readValue joined] at refused
        contradiction
      · exact ⟨piece, member, malformed⟩
    · rintro ⟨piece, member, malformed⟩
      rcases writes_or_malformed whole with ⟨entries, written⟩ | ⟨other, -, -, failed⟩
      · exact absurd malformed (written.not_malformed piece member)
      · exact ⟨_, (readValue_text listing).trans failed⟩

/-- A value with an equals sign of its own, written with white space of many kinds and a blank piece. -/
theorem reading_inverts_writing_of_tenants :
    readValue (.text "\u3000a=b =\tDEBUG, ,acme=warn\n") =
        .ok [("a=b", "DEBUG"), ("acme", "warn")] ∧
      readValue (.text "a=b=DEBUG,acme=warn") = .ok [("a=b", "DEBUG"), ("acme", "warn")] := by
  have read : readValue (.text "\u3000a=b =\tDEBUG, ,acme=warn\n") =
      .ok [("a=b", "DEBUG"), ("acme", "warn")] := by
    rfl
  exact ⟨read, ((reading_inverts_writing _).2.1 _ read).2⟩

end Listing

end LogGate

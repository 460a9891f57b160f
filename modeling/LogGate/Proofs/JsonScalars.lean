import LogGate.Line.Json
import LogGate.Proofs.JsonReader

/-!
Texts and whole numbers in JSON. What is written of them is read back, whatever stands behind it.
-/

namespace LogGate.Json

section Texts

/-- Each hexadecimal digit is read back. -/
theorem hexDigit?_hexDigit : ∀ digit < 16, hexDigit? (Text.hexDigit digit) = some digit := by
  decide

/-- Four digits are the four parts of a unit. -/
theorem hexDigits_four (code : Nat) : Text.hexDigits 4 code =
    [code / 0x1000, code / 0x100, code / 0x10, code / 1].map fun part =>
      Text.hexDigit (part % 16) := rfl

/-- A unit is read back from its four digits. -/
theorem hexValue?_hexDigits {code : Nat} (small : code < 0x10000) :
    hexValue? (Text.hexDigits 4 code) = some code := by
  have digit (part : Nat) : hexDigit? (Text.hexDigit (part % 16)) = some (part % 16) :=
    hexDigit?_hexDigit (part % 16) (Nat.mod_lt part (by decide))
  have places : 16 * (16 * (16 * (16 * 0 + code / 0x1000 % 16) + code / 0x100 % 16) +
      code / 0x10 % 16) + code / 1 % 16 = code := by
    omega
  simp only [hexValue?, hexDigits_four, List.map_cons, List.map_nil, List.foldlM_cons,
    List.foldlM_nil, digit, Option.map_some, Option.bind_eq_bind, Option.bind_some]
  exact congrArg some places

/-- A unit written as an escape is read as this unit. -/
theorem readUnits?_unitChars {code : Nat} (small : code < 0x10000) (more : List Char) :
    readUnits? (unitChars code ++ more) = withUnit (some code) (readUnits? more) := by
  have read : readUnits? (unitChars code ++ more) =
      withUnit (hexValue? (Text.hexDigits 4 code)) (readUnits? more) :=
    readUnits?_unit _ _ _ _ more
  rw [read, hexValue?_hexDigits small]

/-- The units of a character: one, or a pair of surrogates. -/
def units (c : Char) : List Nat :=
  if c.toNat < 0x10000 then [c.toNat]
  else [0xD800 + (c.toNat - 0x10000) / 0x400, 0xDC00 + (c.toNat - 0x10000) % 0x400]

theorem toNat_lt (c : Char) : c.toNat < 0x110000 := by
  have valid := c.valid
  rw [UInt32.isValidChar, Nat.isValidChar] at valid
  rw [Char.toNat]
  omega

/-- No character is a surrogate. -/
theorem not_surrogate (c : Char) : isHigh c.toNat = false ∧ isLow c.toNat = false := by
  have valid := c.valid
  rw [UInt32.isValidChar, Nat.isValidChar] at valid
  simp only [isHigh, isLow, Char.toNat, Bool.and_eq_false_imp, decide_eq_true_eq,
    decide_eq_false_iff_not]
  omega

/-- The units of a character are joined again. -/
theorem joinUnits?_units (c : Char) (more : List Nat) :
    joinUnits? (units c ++ more) = (joinUnits? more).map (c :: ·) := by
  by_cases small : c.toNat < 0x10000
  · obtain ⟨noHigh, noLow⟩ := not_surrogate c
    rw [units, if_pos small, List.singleton_append, joinUnits?_single noHigh noLow,
      Char.ofNat_toNat]
  · have bound := toNat_lt c
    have high : isHigh (0xD800 + (c.toNat - 0x10000) / 0x400) = true := by
      simp only [isHigh, Bool.and_eq_true, decide_eq_true_eq]
      omega
    have low : isLow (0xDC00 + (c.toNat - 0x10000) % 0x400) = true := by
      simp only [isLow, Bool.and_eq_true, decide_eq_true_eq]
      omega
    have code : 0x10000 + (0xD800 + (c.toNat - 0x10000) / 0x400 - 0xD800) * 0x400 +
        (0xDC00 + (c.toNat - 0x10000) % 0x400 - 0xDC00) = c.toNat := by
      omega
    rw [units, if_neg small, List.cons_append, List.singleton_append, joinUnits?_pair high low, code,
      Char.ofNat_toNat]

def withUnits (first : List Nat) (units : Option (List Nat × List Char)) :
    Option (List Nat × List Char) :=
  units.map fun (units, rest) => (first ++ units, rest)

theorem withUnit_eq (unit : Nat) (units : Option (List Nat × List Char)) :
    withUnit (some unit) units = withUnits [unit] units := rfl

/-- Units can be added one part after the other. -/
theorem withUnits_append (first second : List Nat) (units : Option (List Nat × List Char)) :
    withUnits (first ++ second) units = withUnits first (withUnits second units) := by
  cases units <;> simp [withUnits]

/-- The escape of a code is read as its units. -/
theorem readUnits?_codeChars (c : Char) (more : List Char) :
    readUnits? (codeChars c.toNat ++ more) = withUnits (units c) (readUnits? more) := by
  by_cases small : c.toNat < 0x10000
  · rw [codeChars, units, if_pos small, if_pos small, readUnits?_unitChars small, withUnit_eq]
  · have bound := toNat_lt c
    rw [codeChars, units, if_neg small, if_neg small, List.append_assoc,
      readUnits?_unitChars (by omega), readUnits?_unitChars (by omega), withUnit_eq, withUnit_eq,
      ← withUnits_append, List.singleton_append]

/-- A character that a letter stands for is one unit. -/
theorem readUnits?_escape {c letter : Char} (other : letter ≠ 'u')
    (stands : (escaped? letter).map (fun unit => [unit]) = some (units c)) (more : List Char) :
    readUnits? ('\x5c' :: letter :: more) = withUnits (units c) (readUnits? more) := by
  obtain ⟨unit, read, same⟩ := Option.map_eq_some_iff.mp stands
  rw [readUnits?_letter other, read, withUnit_eq, same]

/-- A character of a text is written so that its units are read back. -/
theorem readUnits?_stringChar (c : Char) (more : List Char) :
    readUnits? (stringChar c ++ more) = withUnits (units c) (readUnits? more) := by
  have short {escaped letter : Char} (same : (c == escaped) = true) (other : letter ≠ 'u')
      (stands : (escaped? letter).map (fun unit => [unit]) = some (units escaped)) :
      readUnits? ('\x5c' :: letter :: more) = withUnits (units c) (readUnits? more) := by
    rw [eq_of_beq same]
    exact readUnits?_escape other stands more
  rw [stringChar]
  split
  · next marked =>
    rcases Bool.or_eq_true_iff.mp marked with same | same
    · rw [eq_of_beq same]
      exact readUnits?_escape (by decide) rfl more
    · rw [eq_of_beq same]
      exact readUnits?_escape (by decide) rfl more
  next unmarked =>
  rw [Bool.or_eq_true, not_or, beq_iff_eq, beq_iff_eq] at unmarked
  split
  · next same => exact short same (by decide) rfl
  split
  · next same => exact short same (by decide) rfl
  split
  · next same => exact short same (by decide) rfl
  split
  · next same => exact short same (by decide) rfl
  split
  · next same => exact short same (by decide) rfl
  split
  · next plain =>
    rw [Text.isPlainAscii, Bool.and_eq_true, decide_eq_true_eq, decide_eq_true_eq] at plain
    rw [List.singleton_append, readUnits?_plain unmarked.1 unmarked.2 plain.1, withUnit_eq, units,
      if_pos (by omega)]
  · exact readUnits?_codeChars c more

/-- The units of all characters are read back, up to the closing quote. -/
theorem readUnits?_flatMap (chars rest : List Char) :
    readUnits? (chars.flatMap stringChar ++ '\x22' :: rest) = some (chars.flatMap units, rest) := by
  induction chars with
  | nil => exact readUnits?_quote rest
  | cons c others ih =>
      rw [List.flatMap_cons, List.append_assoc, readUnits?_stringChar, ih]
      rfl

/-- The units of a text are joined to its characters. -/
theorem joinUnits?_flatMap (chars : List Char) : joinUnits? (chars.flatMap units) = some chars := by
  induction chars with
  | nil => rfl
  | cons c others ih =>
      rw [List.flatMap_cons, joinUnits?_units, ih]
      rfl

/-- The inside of a text is read back up to its closing quote. -/
theorem readText?_flatMap (content : String) (rest : List Char) :
    readText? (content.toList.flatMap stringChar ++ '\x22' :: rest) = some (content, rest) := by
  simp only [readText?, readUnits?_flatMap, Option.bind_some, joinUnits?_flatMap, Option.map_some,
    String.ofList_toList]

theorem toList_string (content : String) :
    (string content).toList = '\x22' :: (content.toList.flatMap stringChar ++ ['\x22']) := by
  rw [string, String.toList_ofList, List.cons_append]

end Texts

section Numbers

/-- What stands behind a number does not belong to it. -/
def Ends (rest : List Char) : Prop :=
  ∀ c more, rest = c :: more → c.isDigit = false ∧ c ≠ '.' ∧ c ≠ 'e' ∧ c ≠ 'E'

theorem ends_nil : Ends [] := nofun

theorem ends_cons {c : Char} {more : List Char}
    (other : c.isDigit = false ∧ c ≠ '.' ∧ c ≠ 'e' ∧ c ≠ 'E') : Ends (c :: more) := by
  rintro first others ⟨⟩
  exact other

/-- Only the number zero is written with a zero in front. -/
theorem head?_toDigits {number : Nat} (positive : 0 < number) :
    (Nat.toDigits 10 number).head? ≠ some '0' := by
  induction number using Nat.strongRecOn with
  | ind number ih =>
      by_cases small : number < 10
      · rw [Nat.toDigits_of_lt_base small]
        have all : ∀ digit < 10, 0 < digit → [digit.digitChar].head? ≠ some '0' := by decide
        exact all number small positive
      · rw [Nat.toDigits_of_base_le (by decide) (by omega)]
        have shorter := ih (number / 10) (by omega) (by omega)
        obtain ⟨first, others, digits⟩ :=
          List.exists_cons_of_ne_nil (@Nat.toDigits_ne_nil (number / 10) 10)
        rw [digits] at shorter ⊢
        exact shorter

theorem isDigit_of_mem_toDigits (number : Nat) :
    ∀ c ∈ Nat.toDigits 10 number, c.isDigit = true := fun _ member =>
  Nat.isDigit_of_mem_toDigits (by decide) (by decide) member

theorem exists_cons_toDigits (number : Nat) :
    ∃ first more, Nat.toDigits 10 number = first :: more ∧ first.isDigit = true := by
  obtain ⟨first, more, digits⟩ := List.exists_cons_of_ne_nil (@Nat.toDigits_ne_nil number 10)
  refine ⟨first, more, digits, isDigit_of_mem_toDigits number first ?_⟩
  rw [digits]
  exact List.mem_cons_self

/-- No digit is left where a number ends. -/
theorem takeWhile_of_ends {rest : List Char} (ends : Ends rest) :
    rest.takeWhile Char.isDigit = [] ∧ rest.dropWhile Char.isDigit = rest := by
  cases rest with
  | nil => exact ⟨rfl, rfl⟩
  | cons c more =>
      have other : ¬c.isDigit = true := by simp [(ends c more rfl).1]
      rw [List.takeWhile_cons_of_neg other, List.dropWhile_cons_of_neg other]
      exact ⟨rfl, rfl⟩

/-- A whole number is read up to its end. -/
theorem readWhole?_toDigits (number : Nat) {rest : List Char} (ends : Ends rest) :
    readWhole? (Nat.toDigits 10 number ++ rest) = some (Nat.toDigits 10 number, rest) := by
  obtain ⟨nothing, everything⟩ := takeWhile_of_ends ends
  have allowed : ((Nat.toDigits 10 number).isEmpty || ((Nat.toDigits 10 number).head? == some '0' &&
      (Nat.toDigits 10 number).length != 1)) = false := by
    rcases Nat.eq_zero_or_pos number with rfl | positive
    · rfl
    · simp [Nat.toDigits_ne_nil, head?_toDigits positive]
  simp only [readWhole?, List.takeWhile_append_of_pos (isDigit_of_mem_toDigits number),
    List.dropWhile_append_of_pos (isDigit_of_mem_toDigits number), nothing, everything,
    List.append_nil, allowed, Bool.false_eq_true, if_false]

/-- No fraction follows where a number ends. -/
theorem readFraction?_of_ends {rest : List Char} (ends : Ends rest) :
    readFraction? rest = some ([], rest) := by
  rw [readFraction?]
  rintro more rfl
  exact (ends '.' more rfl).2.1 rfl

/-- No exponent follows where a number ends. -/
theorem readPower?_of_ends {rest : List Char} (ends : Ends rest) :
    readPower? rest = some (none, rest) := by
  cases rest with
  | nil => rfl
  | cons c more =>
      obtain ⟨-, -, lower, upper⟩ := ends c more rfl
      simp [readPower?, lower, upper]

/-- The digits of a number have its value. -/
theorem digitsValue_toDigits (number : Nat) :
    Binary64.digitsValue (Nat.toDigits 10 number) = number :=
  Nat.ofDigitChars_toDigits (by decide) (by decide)

/-- The digits of a number are read back. -/
theorem readMagnitude?_toDigits (negative : Bool) (number : Nat) {rest : List Char}
    (ends : Ends rest) : readMagnitude? negative (Nat.toDigits 10 number ++ rest) =
      some (.int (Binary64.signed negative number), rest) := by
  simp only [readMagnitude?, readWhole?_toDigits number ends, readFraction?_of_ends ends,
    readPower?_of_ends ends, Option.bind_some, Option.map_some, numberValue, List.isEmpty_nil,
    Option.isNone_none, Bool.and_self, if_true, digitsValue_toDigits]

theorem toList_intText (number : Int) : (Value.intText number).toList =
    (if number < 0 then ['-'] else []) ++ Nat.toDigits 10 number.natAbs := by
  rw [Value.intText, String.toList_ofList]

/-- A whole number starts with its sign or with a digit. -/
theorem exists_cons_intText (number : Int) : ∃ first more,
    (Value.intText number).toList = first :: more ∧ (first == '-' || first.isDigit) = true := by
  rw [toList_intText]
  by_cases negative : number < 0
  · rw [if_pos negative]
    exact ⟨'-', _, rfl, rfl⟩
  · obtain ⟨first, more, digits, digit⟩ := exists_cons_toDigits number.natAbs
    rw [if_neg negative, digits]
    exact ⟨first, more, rfl, by rw [digit, Bool.or_true]⟩

/-- A whole number is read back when no other part of a number stands behind it. -/
theorem readNumber?_intText (number : Int) {rest : List Char} (ends : Ends rest) :
    readNumber? ((Value.intText number).toList ++ rest) = some (.int number, rest) := by
  rw [toList_intText]
  by_cases negative : number < 0
  · rw [if_pos negative]
    have read := readMagnitude?_toDigits true number.natAbs ends
    have same : Binary64.signed true number.natAbs = number := by
      rw [Binary64.signed, if_pos rfl]
      omega
    rw [same] at read
    exact read
  · rw [if_neg negative, List.nil_append, readNumber?]
    · have read := readMagnitude?_toDigits false number.natAbs ends
      have same : Binary64.signed false number.natAbs = number := by
        rw [Binary64.signed, if_neg Bool.false_ne_true]
        omega
      rw [same] at read
      exact read
    · intro more same
      obtain ⟨first, others, digits, digit⟩ := exists_cons_toDigits number.natAbs
      rw [digits, List.cons_append, List.cons.injEq] at same
      rw [same.1] at digit
      contradiction

end Numbers

end LogGate.Json

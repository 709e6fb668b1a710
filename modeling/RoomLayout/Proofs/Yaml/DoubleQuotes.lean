import Mathlib.Algebra.Group.Nat.Defs
import RoomLayout.Yaml.FlowScalar

/-!
# Text in double quotes

Every text is read back from double quotes, character by character: what cannot stand as
it is has an escape, a letter or the number of the character in a fixed count of digits.
-/

namespace RoomLayout.Yaml

/-! ## Numbers in escapes -/

theorem digitValue_toUpper_digitChar :
    ∀ digit < 16, digitValue (Nat.digitChar digit).toUpper = digit := by
  decide

/-- The count that hexadecimal digits write, read from the left. -/
def hexadecimalValue (start : Nat) (digits : List Char) : Nat :=
  digits.foldl (fun count c => 16 * count + digitValue c) start

theorem hexadecimalValue_append (start : Nat) (digits further : List Char) :
    hexadecimalValue start (digits ++ further)
      = hexadecimalValue (hexadecimalValue start digits) further :=
  List.foldl_append

/-- The digits of a count, in capitals, are digits and write the count. -/
theorem hexadecimalValue_toDigits (count : Nat) :
    hexadecimalValue 0 ((Nat.toDigits 16 count).map Char.toUpper) = count
      ∧ ∀ c ∈ (Nat.toDigits 16 count).map Char.toUpper, digitValue c < 16 := by
  induction count using Nat.strongRecOn with
  | ind count inductionHypothesis =>
    rcases Nat.lt_or_ge count 16 with small | large
    · rw [Nat.toDigits_of_lt_base small]
      simp [hexadecimalValue, digitValue_toUpper_digitChar count small, small]
    · have lastSmall : count % 16 < 16 := Nat.mod_lt _ (by decide)
      obtain ⟨value, digits⟩ := inductionHypothesis (count / 16) (by omega)
      rw [Nat.toDigits_of_base_le (by decide) large, List.map_append]
      constructor
      · rw [hexadecimalValue_append, value]
        simp only [hexadecimalValue, List.map_cons, List.map_nil, List.foldl_cons, List.foldl_nil]
        rw [digitValue_toUpper_digitChar _ lastSmall]
        omega
      · intro c member
        rcases List.mem_append.mp member with earlier | last
        · exact digits c earlier
        · obtain rfl : c = (Nat.digitChar (count % 16)).toUpper := by simpa using last
          rwa [digitValue_toUpper_digitChar _ lastSmall]

/-- Leading zeros do not count. -/
theorem hexadecimalValue_zeros (zeros : Nat) (digits : List Char) :
    hexadecimalValue 0 (List.replicate zeros '0' ++ digits) = hexadecimalValue 0 digits := by
  induction zeros with
  | zero => rfl
  | succ zeros inductionHypothesis =>
    rw [List.replicate_succ, List.cons_append, ← inductionHypothesis]
    rfl

variable {width count : Nat}

/-- A count that fits is written in so many digits. -/
theorem length_hexadecimal (positive : 0 < width) (fits : count < 16 ^ width) :
    (hexadecimal width count).length = width := by
  have few : (Nat.toDigits 16 count).length ≤ width :=
    (Nat.length_toDigits_le_iff (by decide) positive).mpr fits
  simp only [hexadecimal, List.length_append, List.length_replicate, List.length_map]
  omega

/-- The digits of a count are read back as the count. -/
theorem countIn?_hexadecimal (positive : 0 < width) (fits : count < 16 ^ width) :
    countIn? 16 (hexadecimal width count) = some count := by
  obtain ⟨value, digits⟩ := hexadecimalValue_toDigits count
  have nonempty : hexadecimal width count ≠ [] := by
    intro empty
    have := length_hexadecimal positive fits
    simp only [empty, List.length_nil] at this
    omega
  rw [countIn?, if_neg]
  · exact congrArg some ((hexadecimalValue_zeros _ _).trans value)
  · simp only [Bool.or_eq_true, List.isEmpty_iff, nonempty, false_or, List.any_eq_true,
      decide_eq_true_eq, not_exists, not_and, Nat.not_le]
    intro c member
    rcases List.mem_append.mp member with zero | digit
    · rw [(List.mem_replicate.mp zero).2]
      decide
    · exact digits c digit

/-! ## Double quotes -/

/-- Each letter stands for the character it is listed with, and can be written. -/
theorem characterFor?_of_mem :
    ∀ entry ∈ letterEscapes, characterFor? entry.1 = some entry.2 ∧ isBreak entry.1 = false := by
  decide

/-- A character by its number, in digits behind a letter, is read back. -/
theorem readEscape_numeric {letter : Char} (noCharacter : characterFor? letter = none)
    (digits : numericEscapes.lookup letter = some width) (positive : 0 < width) {c : Char}
    (fits : c.toNat < 16 ^ width) (behind : List Char) :
    readEscape (letter :: (hexadecimal width c.toNat ++ behind))
      = some (c, (letter :: hexadecimal width c.toNat).length) := by
  have length := length_hexadecimal positive fits
  have taken : (hexadecimal width c.toNat ++ behind).take width = hexadecimal width c.toNat :=
    List.take_left' length
  have character : characterOf? c.toNat = some c := by
    rw [characterOf?, if_pos (show c.toNat.isValidChar from c.valid), Char.ofNat_toNat]
  rw [readEscape, noCharacter]
  simp only [digits, taken, length, Nat.lt_irrefl, if_false, countIn?_hexadecimal positive fits,
    character, List.length_cons, Option.bind_eq_bind, Option.bind_some, Option.pure_def]

/-- What is written for a character that has to be escaped is a backslash and something
that reads back as the character. -/
theorem readEscape_quotedCharacter {c : Char} (needed : needsEscape c = true) :
    ∃ letter digits, quotedCharacter c = '\\' :: letter :: digits ∧ isBreak letter = false
      ∧ ∀ behind, readEscape (letter :: (digits ++ behind))
          = some (c, (letter :: digits).length) := by
  rw [quotedCharacter, if_neg (by simp [needed])]
  cases lettered : letterFor? c with
  | some letter =>
    obtain ⟨entry, found, rfl⟩ := Option.map_eq_some_iff.mp lettered
    obtain rfl : entry.2 = c := by simpa using List.find?_some found
    obtain ⟨stands, noBreak⟩ := characterFor?_of_mem entry (List.mem_of_find?_eq_some found)
    refine ⟨entry.1, [], rfl, noBreak, fun behind => ?_⟩
    rw [readEscape, stands]
    rfl
  | none =>
    have bound : c.toNat < 0x110000 := by
      rcases c.valid with low | ⟨-, high⟩
      · exact Nat.lt_trans low (by decide)
      · exact high
    dsimp only
    split
    · next small =>
      exact ⟨'x', _, rfl, by decide, readEscape_numeric (by decide) rfl (by decide) (by omega)⟩
    · split
      · next medium =>
        exact ⟨'u', _, rfl, by decide, readEscape_numeric (by decide) rfl (by decide) (by omega)⟩
      · exact ⟨'U', _, rfl, by decide, readEscape_numeric (by decide) rfl (by decide) (by omega)⟩

/-- What an escape has taken is passed over. -/
theorem readQuoted_passed (double : Bool) (text : List Char) (spacing : Spacing)
    (line column : Nat) (taken behind : List Char) :
    readQuoted double taken.length text spacing line column (taken ++ behind)
      = readQuoted double 0 text spacing line (column + taken.length) behind := by
  induction taken generalizing column with
  | nil => rfl
  | cons c taken inductionHypothesis =>
    rw [List.length_cons, List.cons_append, readQuoted, inductionHypothesis, Nat.add_assoc,
      Nat.add_comm 1]

/-- A character in double quotes is read back; the blanks before it are kept. A space
counts among the blanks. -/
theorem readQuoted_quotedCharacter (blanks text : List Char) (line : Nat) {column : Nat}
    (notFirst : 0 < column) (c : Char) (behind : List Char) :
    ∃ blanks' text' column', 0 < column' ∧ blanks' ++ text' = c :: (blanks ++ text)
      ∧ readQuoted true 0 text (.blanks blanks) line column (quotedCharacter c ++ behind)
          = readQuoted true 0 text' (.blanks blanks') line column' behind := by
  have noMarker (rest : List Char) :
      ¬((column = 0 && startsWithMarker rest) = true) := by
    simp [Nat.ne_of_gt notFirst]
  cases needed : needsEscape c with
  | true =>
    obtain ⟨letter, digits, written, noBreak, reads⟩ := readEscape_quotedCharacter needed
    refine ⟨[], c :: (blanks ++ text), column + 1 + (letter :: digits).length, by omega, rfl, ?_⟩
    rw [written, List.cons_append, List.cons_append, readQuoted, if_neg (noMarker _),
      if_neg (by decide), if_neg (by decide)]
    simp only [Spacing.foldedReversed, noBreak, reads]
    exact readQuoted_passed true _ _ line _ (letter :: digits) behind
  | false =>
    obtain ⟨⟨⟨printable, noBreak⟩, noQuote⟩, noBackslash⟩ :
        ((isPrintable c = true ∧ isBreak c = false) ∧ c ≠ '\x22') ∧ c ≠ '\\' := by
      simpa [needsEscape] using needed
    rw [quotedCharacter, if_pos (by simp [needed]), List.singleton_append, readQuoted,
      if_neg (noMarker _)]
    cases blank : isBlank c with
    | true =>
      rw [if_pos rfl]
      exact ⟨c :: blanks, text, column + 1, Nat.succ_pos column, rfl, rfl⟩
    | false =>
      rw [if_neg (by simp), noBreak, if_neg (by simp)]
      refine ⟨[], c :: (blanks ++ text), column + 1, Nat.succ_pos column, rfl, ?_⟩
      simp [noQuote, noBackslash, Spacing.foldedReversed, Spacing.none]

/-- Text in double quotes is read back up to the closing quote. -/
theorem readQuoted_quotedCharacters (blanks text : List Char) (line : Nat) {column : Nat}
    (notFirst : 0 < column) (remaining behind : List Char) :
    ∃ column', readQuoted true 0 text (.blanks blanks) line column
        (remaining.flatMap quotedCharacter ++ '\x22' :: behind)
      = some (String.ofList ((blanks ++ text).reverse ++ remaining),
          ⟨behind, line, column', false⟩) := by
  induction remaining generalizing blanks text column with
  | nil =>
    refine ⟨column + 1, ?_⟩
    rw [List.flatMap_nil, List.nil_append, readQuoted, if_neg (by simp [Nat.ne_of_gt notFirst]),
      if_neg (by decide), if_neg (by decide)]
    simp [Spacing.foldedReversed]
  | cons c rest inductionHypothesis =>
    rw [List.flatMap_cons, List.append_assoc]
    obtain ⟨blanks', text', column', notFirst', same, read⟩ := readQuoted_quotedCharacter
      blanks text line notFirst c (rest.flatMap quotedCharacter ++ '\x22' :: behind)
    obtain ⟨column'', readRest⟩ := inductionHypothesis blanks' text' notFirst'
    refine ⟨column'', ?_⟩
    rw [read, readRest, same]
    simp

/-- Every text is read back from double quotes. -/
theorem Place.quoted?_double (text : String) (line column : Nat) (keyAllowed : Bool)
    (behind : List Char) :
    ∃ column',
      (Place.mk ('\x22' :: text.toList.flatMap quotedCharacter ++ '\x22' :: behind) line column
          keyAllowed).quoted?
        = some ({ style := .doubleQuoted, text }, ⟨behind, line, column', false⟩) := by
  obtain ⟨column', read⟩ := readQuoted_quotedCharacters [] [] line (Nat.succ_pos column)
    text.toList behind
  refine ⟨column', ?_⟩
  simp only [Place.quoted?, List.cons_append, decide_true, Spacing.none, read]
  simp

end RoomLayout.Yaml

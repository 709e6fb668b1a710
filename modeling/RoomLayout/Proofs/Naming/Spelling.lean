import RoomLayout.Proofs.Naming.Numerals

/-!
# The spelling of words

Where a name is expected, a token is read as a word. A word keeps the spelling that the token
has in the script, unless the token is an integer: then it is the plain numeral of the number,
and spellings of one number are one name.
-/

namespace RoomLayout

/-! ### Words of lexemes -/

/-- A lexeme that is a word and no integer is spelled as it is written. -/
theorem IsLexemeOf.toList_word {text : List Char} {kind : TokenKind} {word : String}
    (isToken : IsLexemeOf text (.token kind)) (isWord : kind.asWord? = some word)
    (noInteger : ∀ value, kind ≠ .integer value) : word.toList = text := by
  obtain ⟨pattern, accepted, named⟩ := isToken.exists_pattern
  cases pattern with
  | blanks | comment => exact nomatch named
  | lineFeed | mark | variableName | percentage =>
    cases named
    exact nomatch isWord
  | integer =>
    cases named
    exact absurd rfl (noInteger _)
  | keyword k =>
    cases named
    obtain rfl := Option.some.inj isWord
    exact accepted.symm
  | alignment | word =>
    cases named
    obtain rfl := Option.some.inj isWord
    exact String.toList_ofList

/-- The word of an integer is the plain numeral of its number. -/
theorem TokenKind.word_of_integer {kind : TokenKind} {word : String} {value : Int}
    (isWord : kind.asWord? = some word) (isInteger : kind = .integer value) :
    word = toString value := by
  rw [isInteger] at isWord
  exact (Option.some.inj isWord).symm

/-- A character that an integer may begin with. -/
def BeginsInteger (c : Char) : Prop := c = '-' ∨ c.isDigit = true

instance : DecidablePred BeginsInteger := fun c =>
  inferInstanceAs (Decidable (c = '-' ∨ c.isDigit = true))

theorem not_beginsInteger_of_literal {spelling : String} {first : Char} {rest : List Char}
    (head : spelling.toList.head?.all (fun c => ¬ BeginsInteger c) = true)
    (spelled : first :: rest = spelling.toList) : ¬ BeginsInteger first := by
  rw [← spelled] at head
  simpa using head

/-- An integer begins as no lexeme of an earlier pattern does. -/
theorem Pattern.not_accepts_of_beginsInteger {pattern : Pattern}
    (earlier : pattern.rank < Pattern.integer.rank) {first : Char} {rest : List Char} (begins : BeginsInteger first) :
    ¬ pattern.Accepts (first :: rest) := by
  intro accepted
  revert begins
  cases pattern with
  | blanks =>
    rcases accepted.2 first List.mem_cons_self with rfl | rfl | rfl
    · decide
    · decide
    · decide
  | lineFeed =>
    obtain ⟨rfl, -⟩ := List.cons.inj accepted
    decide
  | comment =>
    obtain rfl := Option.some.inj accepted.1
    decide
  | keyword k => exact not_beginsInteger_of_literal (by cases k <;> decide) accepted
  | mark m => exact not_beginsInteger_of_literal (by cases m <;> decide) accepted
  | alignment =>
    obtain ⟨axis, suffix, spelled, isAxis, -⟩ := accepted
    obtain ⟨rfl, -⟩ := List.cons.inj spelled
    simp only [List.mem_cons, List.not_mem_nil, or_false] at isAxis
    rcases isAxis with rfl | rfl | rfl <;> decide
  | variableName =>
    obtain ⟨start, others, spelled, -⟩ := accepted
    obtain ⟨rfl, -⟩ := List.cons.inj spelled
    decide
  | integer | percentage | word => exact absurd earlier (by decide)

/-- What the integers accept is an integer. -/
theorem isLexemeOf_integer {text : List Char} (accepted : Pattern.integer.Accepts text) :
    IsLexemeOf text (.token (.integer (saturated (integerValue text)))) := by
  refine ⟨.integer, Pattern.isFirstFor_iff_accepts.mpr ⟨accepted, fun other earlier => ?_⟩,
    (Pattern.denotes_iff accepted).mpr rfl⟩
  obtain ⟨digits, ⟨nonempty, areDigits⟩, rfl | rfl⟩ := accepted
  · obtain ⟨first, rest, rfl⟩ := List.exists_cons_of_ne_nil nonempty
    exact Pattern.not_accepts_of_beginsInteger earlier (.inr (areDigits first List.mem_cons_self))
  · exact Pattern.not_accepts_of_beginsInteger earlier (.inl rfl)

theorem IsPlainNumeral.accepts {text : List Char} (plain : IsPlainNumeral text) :
    Pattern.integer.Accepts text := by
  cases plain with
  | count plain => exact ⟨text, plain.run, .inl rfl⟩
  | @negative digits plain _ => exact ⟨digits, plain.run, .inr rfl⟩

/-- An integer writes the number that it carries. -/
theorem Lexeme.WritesNumber.integerValue_eq {text : List Char} {value number : Int}
    (writes : (Lexeme.token (.integer value)).WritesNumber text number) :
    integerValue text = number := by
  cases writes with
  | integer run => exact integerValue_of_isRunOf run
  | negative run => rfl

/-! ### Words of tokens -/

/-- A token was cut from a piece of a text. -/
def Token.IsCutFrom (text piece : List Char) (token : Token) : Prop :=
  ∃ offset length, token.IsExact text offset length ∧ piece = (text.drop offset).take length

namespace Token.IsCutFrom

variable {text piece piece' : List Char} {token token' : Token} {word word' : String}

theorem isLexemeOf (cut : token.IsCutFrom text piece) : IsLexemeOf piece (.token token.kind) := by
  obtain ⟨offset, length, exact, rfl⟩ := cut
  exact exact.munch.lexeme

theorem integerValue_eq (cut : token.IsCutFrom text piece) {value : Int}
    (isInteger : token.kind = .integer value) : integerValue piece = value := by
  obtain ⟨offset, length, exact, rfl⟩ := cut
  have writes := exact.number value (by rw [isInteger]; rfl)
  rw [isInteger] at writes
  exact writes.integerValue_eq

/-- A word is spelled as in the script, unless it is an integer that is no plain numeral. -/
theorem toList_word_eq_iff (cut : token.IsCutFrom text piece)
    (isWord : token.kind.asWord? = some word) :
    word.toList = piece ↔ ∀ value, token.kind = .integer value → IsPlainNumeral piece := by
  by_cases isInteger : ∃ value, token.kind = .integer value
  · obtain ⟨value, isInteger⟩ := isInteger
    rw [TokenKind.word_of_integer isWord isInteger, ← cut.integerValue_eq isInteger,
      toString_integerValue_eq_iff]
    exact ⟨fun plain _ _ => plain, fun plain => plain value isInteger⟩
  · have noInteger : ∀ value, token.kind ≠ .integer value :=
      fun value same => isInteger ⟨value, same⟩
    exact iff_of_true (cut.isLexemeOf.toList_word isWord noInteger)
      fun value same => absurd same (noInteger value)

/-- No other token has the word of an integer. -/
theorem isInteger_of_word (cut : token.IsCutFrom text piece)
    (isWord : token.kind.asWord? = some word) {value : Int} (isNumeral : word = toString value) :
    ∃ number, token.kind = .integer number := by
  by_contra noInteger
  have spelled : word.toList = piece :=
    cut.isLexemeOf.toList_word isWord fun value same => noInteger ⟨value, same⟩
  have plain := isPlainNumeral_toString value
  rw [← isNumeral, spelled] at plain
  have same := cut.isLexemeOf.unique (isLexemeOf_integer plain.accepts)
  exact noInteger ⟨_, (Lexeme.token.inj same)⟩

/-- Two tokens are one name if they are spelled alike, or are integers of one number. -/
theorem word_eq_iff (cut : token.IsCutFrom text piece) (cut' : token'.IsCutFrom text piece')
    (isWord : token.kind.asWord? = some word) (isWord' : token'.kind.asWord? = some word') :
    word = word' ↔ piece = piece'
      ∨ ∃ value, token.kind = .integer value ∧ token'.kind = .integer value := by
  constructor
  · rintro rfl
    by_cases isInteger : ∃ value, token.kind = .integer value
    · obtain ⟨value, isInteger⟩ := isInteger
      have isNumeral : word = toString value := TokenKind.word_of_integer isWord isInteger
      obtain ⟨value', isInteger'⟩ := cut'.isInteger_of_word isWord' isNumeral
      have isNumeral' : word = toString value' := TokenKind.word_of_integer isWord' isInteger'
      have sameNumber : value = value' := by
        rw [← integerValue_toString value, ← isNumeral, isNumeral', integerValue_toString]
      exact .inr ⟨value, isInteger, sameNumber ▸ isInteger'⟩
    · have noInteger : ∀ value, token'.kind ≠ .integer value := fun value isInteger' =>
        isInteger (cut.isInteger_of_word isWord (TokenKind.word_of_integer isWord' isInteger'))
      have spelled := cut.isLexemeOf.toList_word isWord fun value same => isInteger ⟨value, same⟩
      exact .inl (spelled.symm.trans (cut'.isLexemeOf.toList_word isWord' noInteger))
  · rintro (rfl | ⟨value, isInteger, isInteger'⟩)
    · have same := Lexeme.token.inj (cut.isLexemeOf.unique cut'.isLexemeOf)
      rw [← same] at isWord'
      exact Option.some.inj (isWord.symm.trans isWord')
    · rw [isInteger, ← isInteger'] at isWord
      exact Option.some.inj (isWord.symm.trans isWord')

end Token.IsCutFrom

end RoomLayout

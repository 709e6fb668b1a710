import Mathlib.Computability.Language
import Mathlib.Data.Char
import Mathlib.Order.Interval.Set.Defs
import RoomLayout.Proofs.Lexing.Languages

/-!
# The patterns as regular expressions

The language of each pattern, written as a regular expression over characters. Languages form a
Kleene algebra: `+` is the choice between two of them, `*` puts a text of the one before a text
of the other, `∗` repeats, and `1` is the empty text. Classes of characters are sets, given by
their ranges and members. None of this knows how a buffer is held against a pattern; that the
patterns accept just these languages is `accepts_iff_mem_language`.
-/

namespace RoomLayout

open scoped Computability

namespace Expression

/-- One character of a class. -/
def oneOf (characters : Set Char) : Language Char := {text | ∃ c ∈ characters, text = [c]}

/-- A spelling and nothing else. -/
def exactly (spelling : String) : Language Char := {spelling.toList}

/-- A text of a language, or nothing. -/
def optional (language : Language Char) : Language Char := 1 + language

/-- One or more texts of a language. -/
def oneOrMore (language : Language Char) : Language Char := language * language∗

/-- The ASCII letters. -/
def letters : Set Char := Set.Icc 'A' 'Z' ∪ Set.Icc 'a' 'z'

/-- The decimal digits. -/
def digits : Set Char := Set.Icc '0' '9'

variable {characters : Set Char} {test : Char → Bool} {spelling : String}
  {language rest : Language Char} {text : List Char}

theorem mem_exactly : text ∈ exactly spelling ↔ text = spelling.toList := Iff.rfl

theorem mem_optional : text ∈ optional language ↔ text = [] ∨ text ∈ language := Iff.rfl

theorem mem_oneOf_mul :
    text ∈ oneOf characters * rest
      ↔ ∃ c others, text = c :: others ∧ c ∈ characters ∧ others ∈ rest := by
  rw [Language.mem_mul]
  constructor
  · rintro ⟨_, ⟨c, isMember, rfl⟩, others, inRest, rfl⟩
    exact ⟨c, others, rfl, isMember, inRest⟩
  · rintro ⟨c, others, rfl, isMember, inRest⟩
    exact ⟨[c], ⟨c, isMember, rfl⟩, others, inRest, rfl⟩

theorem mem_exactly_mul :
    text ∈ exactly spelling * rest ↔ ∃ others ∈ rest, text = spelling.toList ++ others := by
  rw [Language.mem_mul]
  constructor
  · rintro ⟨_, rfl, others, inRest, rfl⟩
    exact ⟨others, inRest, rfl⟩
  · rintro ⟨others, inRest, rfl⟩
    exact ⟨_, rfl, others, inRest, rfl⟩

theorem mem_mul_exactly :
    text ∈ rest * exactly spelling ↔ ∃ others ∈ rest, text = others ++ spelling.toList := by
  rw [Language.mem_mul]
  constructor
  · rintro ⟨others, inRest, _, rfl, rfl⟩
    exact ⟨others, inRest, rfl⟩
  · rintro ⟨others, inRest, rfl⟩
    exact ⟨others, inRest, _, rfl, rfl⟩

theorem mem_optional_mul :
    text ∈ optional language * rest ↔ text ∈ rest ∨ text ∈ language * rest := by
  rw [optional, add_mul, one_mul]
  rfl

/-- What is repeated from a class of characters is a text of that class. -/
theorem mem_kstar_oneOf : text ∈ (oneOf characters)∗ ↔ ∀ c ∈ text, c ∈ characters := by
  rw [Language.mem_kstar]
  constructor
  · rintro ⟨pieces, rfl, ofClass⟩ c inText
    obtain ⟨piece, isPiece, inPiece⟩ := List.mem_flatten.mp inText
    obtain ⟨c', isMember, rfl⟩ := ofClass piece isPiece
    exact List.mem_singleton.mp inPiece ▸ isMember
  · intro ofClass
    refine ⟨text.map fun c => [c], (List.flatMap_singleton' text).symm, fun piece isPiece => ?_⟩
    obtain ⟨c, inText, rfl⟩ := List.mem_map.mp isPiece
    exact ⟨c, ofClass c inText, rfl⟩

/-- One or more characters of a class are a run of it. -/
theorem mem_oneOrMore_oneOf (isClass : ∀ c, c ∈ characters ↔ test c = true) :
    text ∈ oneOrMore (oneOf characters) ↔ IsRunOf test text := by
  rw [oneOrMore, mem_oneOf_mul, IsRunOf]
  simp only [mem_kstar_oneOf, isClass]
  constructor
  · rintro ⟨c, others, rfl, isFirst, areOthers⟩
    exact ⟨List.cons_ne_nil c others, List.forall_mem_cons.mpr ⟨isFirst, areOthers⟩⟩
  · rintro ⟨nonempty, all⟩
    obtain ⟨c, others, rfl⟩ := List.exists_cons_of_ne_nil nonempty
    obtain ⟨isFirst, areOthers⟩ := List.forall_mem_cons.mp all
    exact ⟨c, others, rfl, isFirst, areOthers⟩

theorem mem_letters {c : Char} : c ∈ letters ↔ c.isAlpha = true := by
  have upper : c.isUpper = true ↔ 'A' ≤ c ∧ c ≤ 'Z' := decide_eq_true_iff
  have lower : c.isLower = true ↔ 'a' ≤ c ∧ c ≤ 'z' :=
    Bool.and_eq_true_iff.trans (and_congr decide_eq_true_iff decide_eq_true_iff)
  exact (or_congr upper lower).symm.trans Bool.or_eq_true_iff.symm

theorem mem_digits {c : Char} : c ∈ digits ↔ c.isDigit = true := by
  simp [digits, Char.isDigit, Char.le_def]

theorem mem_letters_or_underscore {c : Char} : c ∈ letters ∪ {'_'} ↔ isNameStart c = true := by
  simp [isNameStart, mem_letters, or_comm]

theorem mem_letters_digits_or_underscore {c : Char} :
    c ∈ letters ∪ digits ∪ {'_'} ↔ isNameChar c = true := by
  simp [isNameChar, Char.isAlphanum, mem_letters, mem_digits, or_comm]

end Expression

namespace Pattern

open Expression

/-- The texts of a pattern, as a regular expression. -/
def language : Pattern → Language Char
  -- `[ \t\r]+`
  | blanks => oneOrMore (oneOf {' ', '\t', '\r'})
  | lineFeed => exactly "\n"
  -- `#[^\n]*`
  | comment => exactly "#" * (oneOf {'\n'}ᶜ)∗
  | keyword k => exactly k.text
  | mark m => exactly m.text
  -- `[xyz](--|-|\+|\+\+)?`
  | alignment =>
    oneOf {'x', 'y', 'z'} * optional (exactly "--" + exactly "-" + exactly "+" + exactly "++")
  -- `\$[A-Za-z_][A-Za-z0-9_]*`
  | variableName =>
    exactly "$" * (oneOf (letters ∪ {'_'}) * (oneOf (letters ∪ digits ∪ {'_'}))∗)
  -- `-?[0-9]+`
  | integer => optional (exactly "-") * oneOrMore (oneOf digits)
  -- `[0-9]+%`
  | percentage => oneOrMore (oneOf digits) * exactly "%"
  | word => oneOrMore (oneOf ({c | Text.isAlphanumeric c = true} ∪ {c | c ∈ wordPunctuation}))

/-- The suffixes of an alignment code as an expression. -/
theorem mem_alignmentSuffixes_iff {suffix : List Char} :
    suffix ∈ alignmentSuffixes
      ↔ suffix ∈ optional (exactly "--" + exactly "-" + exactly "+" + exactly "++") := by
  have minus : "-".toList = ['-'] := rfl
  have minusMinus : "--".toList = ['-', '-'] := rfl
  have plus : "+".toList = ['+'] := rfl
  have plusPlus : "++".toList = ['+', '+'] := rfl
  simp only [mem_optional, Language.mem_add, mem_exactly, alignmentSuffixes, List.mem_cons,
    List.not_mem_nil, or_false, minus, minusMinus, plus, plusPlus, or_assoc]
  exact or_congr_right or_left_comm

/-- A pattern accepts the texts of its regular expression. -/
theorem accepts_iff_mem_language {pattern : Pattern} {text : List Char} :
    pattern.Accepts text ↔ text ∈ pattern.language := by
  cases pattern with
  | lineFeed | keyword k | mark m => exact Iff.rfl
  | blanks =>
    have isClass : ∀ c, c ∈ ({' ', '\t', '\r'} : Set Char) ↔ isBlankChar c = true :=
      fun c => isBlankChar_iff.symm
    rw [language, mem_oneOrMore_oneOf isClass, ← Fitting.run_eq_whole_iff]
    exact fit_blanks_iff.symm
  | comment =>
    rw [language, mem_exactly_mul]
    simp only [mem_kstar_oneOf]
    constructor
    · rintro ⟨begins, noFeed⟩
      obtain ⟨rest, rfl⟩ := List.head?_eq_some_iff.mp begins
      refine ⟨rest, fun c inRest isFeed => ?_, rfl⟩
      exact noFeed (List.mem_cons_of_mem _ (isFeed ▸ inRest))
    · rintro ⟨rest, noFeed, rfl⟩
      refine ⟨rfl, fun feed => ?_⟩
      rcases List.mem_cons.mp feed with impossible | inRest
      · exact absurd impossible (by decide)
      · exact noFeed _ inRest rfl
  | alignment =>
    have isAxis : ∀ c, c ∈ ['x', 'y', 'z'] ↔ c ∈ ({'x', 'y', 'z'} : Set Char) := by simp
    rw [language, mem_oneOf_mul]
    simp only [Accepts, isAxis, mem_alignmentSuffixes_iff]
  | variableName =>
    rw [language, mem_exactly_mul]
    simp only [mem_oneOf_mul, mem_kstar_oneOf, mem_letters_or_underscore,
      mem_letters_digits_or_underscore]
    constructor
    · rintro ⟨first, rest, rfl, isStart, areNameChars⟩
      exact ⟨first :: rest, ⟨first, rest, rfl, isStart, areNameChars⟩, rfl⟩
    · rintro ⟨_, ⟨first, rest, rfl, isStart, areNameChars⟩, rfl⟩
      exact ⟨first, rest, rfl, isStart, areNameChars⟩
  | integer =>
    rw [language, mem_optional_mul, mem_exactly_mul]
    simp only [mem_oneOrMore_oneOf fun c => mem_digits]
    constructor
    · rintro ⟨digits, run, rfl | rfl⟩
      · exact .inl run
      · exact .inr ⟨digits, run, rfl⟩
    · rintro (run | ⟨digits, run, rfl⟩)
      · exact ⟨text, run, .inl rfl⟩
      · exact ⟨digits, run, .inr rfl⟩
  | percentage =>
    rw [language, mem_mul_exactly]
    simp only [mem_oneOrMore_oneOf fun c => mem_digits]
    exact Iff.rfl
  | word =>
    have isClass : ∀ c, c ∈ {c | Text.isAlphanumeric c = true} ∪ {c | c ∈ wordPunctuation}
        ↔ isWordChar c = true := by
      simp [isWordChar]
    exact (mem_oneOrMore_oneOf isClass).symm

end Pattern

end RoomLayout

import RoomLayout.Proofs.Lexing.Separated
import RoomLayout.Proofs.Naming.Spelling

/-!
# Printing tokens

Every kind of token that a script can hold has a canonical text, which is that kind of token by
itself (`IsTokenText.isReadable`). Apart from numbers, a token has no other text, since what it
carries is the text that it was cut from. Numbers lose zeros in front and the sign of zero. So
the texts of a script's tokens, with a blank between each and the next, are tokenized back.
-/

namespace RoomLayout

namespace TokenKind

/-- The text in which a kind of token is printed. -/
def canonical : TokenKind → String
  | keyword k => k.text
  | mark m => m.text
  | alignment code => code
  | variableName name => "$" ++ name
  | integer value => toString value
  | percentage value => toString value ++ "%"
  | word text => text
  | newline => "\n"

/-- Kinds of tokens as a script, a blank between each and the next. -/
def print (kinds : List TokenKind) : String := " ".intercalate (kinds.map canonical)

/-- A kind of token that is read back from its canonical text. -/
def IsReadable (kind : TokenKind) : Prop := IsTokenText kind.canonical.toList kind

end TokenKind

/-! ### Canonical texts -/

/-- A token that carries no number is printed as it was written. -/
theorem IsLexemeOf.toList_canonical {text : List Char} {kind : TokenKind}
    (isToken : IsLexemeOf text (.token kind)) (noNumber : kind.number? = none) :
    kind.canonical.toList = text := by
  obtain ⟨pattern, accepted, named⟩ := isToken.exists_pattern
  cases pattern with
  | blanks | comment => exact nomatch named
  | integer | percentage =>
    cases named
    exact nomatch noNumber
  | lineFeed | keyword _ | mark _ =>
    cases named
    exact accepted.symm
  | alignment | word =>
    cases named
    exact String.toList_ofList
  | variableName =>
    cases named
    obtain ⟨first, rest, rfl, -, -⟩ := accepted
    simp [TokenKind.canonical]

/-- What the percentages accept is a percentage: no lexeme of a pattern before the integers begins
with a digit, and no integer ends with a percent sign. -/
theorem isLexemeOf_percentage {text : List Char} (accepted : Pattern.percentage.Accepts text) :
    IsLexemeOf text (.token (.percentage (saturated (Decimal.ofDigits text.dropLast)))) := by
  refine ⟨.percentage, Pattern.isFirstFor_iff_accepts.mpr ⟨accepted, fun other earlier => ?_⟩,
    (Pattern.denotes_iff accepted).mpr rfl⟩
  obtain ⟨digits, ⟨nonempty, areDigits⟩, rfl⟩ := accepted
  rcases Nat.lt_succ_iff_lt_or_eq.mp earlier with beforeInteger | sameRank
  · obtain ⟨first, rest, rfl⟩ := List.exists_cons_of_ne_nil nonempty
    exact Pattern.not_accepts_of_beginsInteger beforeInteger
      (.inr (areDigits first List.mem_cons_self))
  · obtain rfl : other = .integer := by
      cases other <;> first | rfl | exact nomatch sameRank
    rintro ⟨others, run, isRun | isSigned⟩
    · have percent : '%' ∈ others := isRun ▸ List.mem_append_right _ (List.mem_singleton_self _)
      exact absurd (run.2 _ percent) (by decide)
    · have percent : '%' ∈ '-' :: others :=
        isSigned ▸ List.mem_append_right _ (List.mem_singleton_self _)
      rcases List.mem_cons.mp percent with impossible | inOthers
      · exact absurd impossible (by decide)
      · exact absurd (run.2 _ inOthers) (by decide)

/-- A whole number of 64 bits is read back from its plain numeral. -/
theorem isReadable_integer {value : Int} (inRange : inIntegerRange value = true) :
    (TokenKind.integer value).IsReadable := by
  have isLexeme := isLexemeOf_integer (isPlainNumeral_toString value).accepts
  rw [integerValue_toString, saturated_of_inIntegerRange inRange] at isLexeme
  refine (IsTokenText.iff_isOutOfRange (scan_eq_some_iff.mpr isLexeme)).mpr ?_
  rw [Lexeme.isOutOfRange, Bool.not_eq_false']
  exact (integerValue_toString value).symm ▸ inRange

/-- A count of 64 bits is read back from its digits and a percent sign. -/
theorem isReadable_percentage {count : Nat} (inRange : inIntegerRange count = true) :
    (TokenKind.percentage count).IsReadable := by
  have spelled : (TokenKind.percentage count).canonical.toList
      = Nat.toDigits 10 count ++ ['%'] := by
    rw [TokenKind.canonical, String.toList_append, toList_toString_natCast]
    rfl
  have isLexeme := isLexemeOf_percentage ⟨_, (IsPlainCount.toDigits count).run, rfl⟩
  rw [List.dropLast_concat, Decimal.ofDigits_toDigits, saturated_of_inIntegerRange inRange]
    at isLexeme
  rw [TokenKind.IsReadable, spelled]
  refine (IsTokenText.iff_isOutOfRange (scan_eq_some_iff.mpr isLexeme)).mpr ?_
  rw [Lexeme.isOutOfRange, List.dropLast_concat, Decimal.ofDigits_toDigits, inRange]
  rfl

/-- What is a token by itself can be had back from its canonical text. -/
theorem IsTokenText.isReadable {text : List Char} {kind : TokenKind}
    (isToken : IsTokenText text kind) : kind.IsReadable := by
  have isLexeme := scan_eq_some_iff.mp isToken.whole
  -- The number that a token carries is the one written, so it is one of 64 bits.
  have carried : ∀ number, kind.number? = some number →
      (Lexeme.token kind).WritesNumber text number ∧ inIntegerRange number = true := by
    intro number isNumber
    have writes := isLexeme.writesNumber
      ((IsTokenText.iff_isOutOfRange isToken.whole).mp isToken) isNumber
    exact ⟨writes, inIntegerRange_iff.mpr (isToken.in_range number writes)⟩
  cases kind with
  | integer value => exact isReadable_integer (carried value rfl).2
  | percentage value =>
    obtain ⟨writes, inRange⟩ := carried value rfl
    obtain ⟨count, rfl⟩ := Int.eq_ofNat_of_zero_le writes.nonnegative
    exact isReadable_percentage inRange
  | _ =>
    rw [TokenKind.IsReadable, isLexeme.toList_canonical rfl]
    exact isToken

/-- The tokens of a script can be had back from their canonical texts. -/
theorem isReadable_of_mem {source : String} {tokens : List Token}
    (tokenized : tokenize source = .ok tokens) {token : Token} (member : token ∈ tokens) :
    token.kind.IsReadable := by
  obtain ⟨offset, length, cut⟩ := exists_isCutAt_of_mem tokenized member
  have whole := scan_eq_some_iff.mpr cut.munch.lexeme
  exact ((IsTokenText.iff_isOutOfRange whole).mpr cut.inRange).isReadable

/-! ### Printed scripts -/

namespace TokenKind

theorem toList_print_cons_cons (kind next : TokenKind) (rest : List TokenKind) :
    (print (kind :: next :: rest)).toList
      = kind.canonical.toList ++ ([' '] ++ (print (next :: rest)).toList) := by
  simp only [print, List.map_cons, String.intercalate_cons_cons, String.toList_append,
    List.append_assoc]
  rfl

/-- What is printed begins as the first token does. -/
theorem head_print_not_blank {kind : TokenKind} (readable : kind.IsReadable)
    (rest : List TokenKind) : ∀ c ∈ (print (kind :: rest)).toList.head?, ¬ IsBlankRun [c] := by
  have begins : (print (kind :: rest)).toList.head? = kind.canonical.toList.head? := by
    cases rest with
    | nil => simp [print]
    | cons next rest =>
      rw [toList_print_cons_cons, List.head?_append_of_ne_nil _ readable.nonempty]
  rw [begins]
  exact readable.head_not_blank

/-- Readable kinds are tokenized back one by one. -/
theorem exists_tokenizeFrom_print {kinds : List TokenKind}
    (readable : ∀ kind ∈ kinds, kind.IsReadable) (position : Position) :
    ∃ tokens, tokenizeFrom position (print kinds).toList = .ok tokens
      ∧ tokens.map Token.kind = kinds := by
  induction kinds generalizing position with
  | nil => exact ⟨[], tokenizeFrom_nil position, rfl⟩
  | cons kind rest inductionHypothesis =>
    obtain ⟨first, later⟩ := List.forall_mem_cons.mp readable
    cases rest with
    | nil =>
      have atEnd : ∀ c ∈ ([] : List Char).head?, c ∈ separators := nofun
      have cut := first.tokenizeFrom_append atEnd position
      rw [List.append_nil, tokenizeFrom_nil] at cut
      refine ⟨[⟨kind, position⟩], ?_, rfl⟩
      rw [print, List.map_singleton, String.intercalate_singleton, cut]
      rfl
    | cons next rest =>
      obtain ⟨tokens, tokenized, kinds⟩ := inductionHypothesis later
        ((position.advance kind.canonical.toList).advance [' '])
      have notBlank := head_print_not_blank (later next List.mem_cons_self) rest
      have atBlank : ∀ c ∈ ([' '] ++ (print (next :: rest)).toList).head?, c ∈ separators := by
        rintro _ ⟨⟩
        decide
      refine ⟨⟨kind, position⟩ :: tokens, ?_, congrArg (kind :: ·) kinds⟩
      rw [toList_print_cons_cons, first.tokenizeFrom_append atBlank,
        tokenizeFrom_blanks_append (by decide) notBlank, tokenized]
      rfl

end TokenKind

/-- Printing tokens and reading them again is the identity on kinds. Any text that can be cut
into tokens has a printed script, in which a blank stands between the canonical texts of each
token and the next. Cutting it succeeds too, and gives the same kinds of tokens in the same
order, with all that they carry. -/
theorem tokenize_print {source : String} {tokens : List Token}
    (tokenized : tokenize source = .ok tokens) :
    ∃ printed, tokenize (TokenKind.print (tokens.map Token.kind)) = .ok printed
      ∧ printed.map Token.kind = tokens.map Token.kind := by
  refine TokenKind.exists_tokenizeFrom_print (fun kind member => ?_) .start
  obtain ⟨token, inTokens, rfl⟩ := List.mem_map.mp member
  exact isReadable_of_mem tokenized inTokens

/-- Zeros in front, a zero with a sign, the smallest number, and tokens without blanks between
them. The tabulator and the comment are not printed. -/
theorem tokenize_print_odd_spellings :
    let source := "wall\x7b-007\t-0 x++007%$a=-9223372036854775808# x\n-north"
    let kinds : List TokenKind :=
      [.keyword .wall, .mark .leftBrace, .integer (-7), .integer 0, .alignment "x++",
        .percentage 7, .variableName "a", .mark .equals, .integer (-9223372036854775808), .newline,
        .word "-north"]
    let script := "wall \x7b -7 0 x++ 7% $a = -9223372036854775808 \n -north"
    (tokenize source).map (List.map Token.kind) = .ok kinds
      ∧ TokenKind.print kinds = script
      ∧ ∃ printed, tokenize script = .ok printed ∧ printed.map Token.kind = kinds := by
  intro source kinds script
  have lexed : (tokenize source).map (List.map Token.kind) = .ok kinds := by decide +kernel
  have isPrinted : TokenKind.print kinds = script := by decide +kernel
  refine ⟨lexed, isPrinted, ?_⟩
  cases tokenized : tokenize source with
  | error error =>
    rw [tokenized] at lexed
    exact nomatch lexed
  | ok tokens =>
    rw [tokenized] at lexed
    obtain same : tokens.map Token.kind = kinds := Except.ok.inj lexed
    rw [← same, ← isPrinted, ← same]
    exact tokenize_print tokenized

end RoomLayout

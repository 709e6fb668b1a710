import RoomLayout.Level.Compile
import RoomLayout.Proofs.Lexing.Cut
import RoomLayout.Proofs.Lexing.LongestMatch
import RoomLayout.Proofs.Lexing.Position

/-!
# Where a text cannot be cut

Cutting by maximal munches reaches certain offsets of a text. A fault is an offset reached
where no lexeme begins, or where the munch is a number that is out of range. The shape of a
number is a matter of the patterns and its range is not, so a number out of range is cut
like any other and slicing would go on behind it; what is reported is the first fault
(`tokenizeFrom_eq_error_iff`). Faults are told here from the text alone, without the scan
and without the numbers that it has saturated.
-/

namespace RoomLayout

/-! ## Numbers as they are written -/

/-- The number that the text of an integer or of a percentage writes: its digits in base ten,
with the sign in front of them. -/
inductive Lexeme.WritesNumber : Lexeme → List Char → Int → Prop where
  | integer {value : Int} {digits : List Char} (run : IsRunOf Char.isDigit digits) :
      WritesNumber (.token (.integer value)) digits (Decimal.ofDigits digits)
  | negative {value : Int} {digits : List Char} (run : IsRunOf Char.isDigit digits) :
      WritesNumber (.token (.integer value)) ('-' :: digits) (-Decimal.ofDigits digits)
  | percentage {value : Int} {digits : List Char} (run : IsRunOf Char.isDigit digits) :
      WritesNumber (.token (.percentage value)) (digits ++ ['%']) (Decimal.ofDigits digits)

/-- An integer is cut with its number saturated. -/
theorem IsLexemeOf.of_integer {text : List Char} {value : Int}
    (isInteger : IsLexemeOf text (.token (.integer value))) :
    value = saturated (integerValue text)
      ∧ (Lexeme.token (.integer value)).WritesNumber text (integerValue text) := by
  obtain ⟨pattern, accepted, named⟩ := isInteger.exists_pattern
  cases pattern with
  | integer =>
    obtain ⟨rfl⟩ := named
    obtain ⟨digits, run, rfl | rfl⟩ := accepted
    · rw [integerValue_of_isRunOf run]
      exact ⟨rfl, .integer run⟩
    · exact ⟨rfl, .negative run⟩
  | _ => exact nomatch named

/-- A percentage is cut with its number saturated. -/
theorem IsLexemeOf.of_percentage {text : List Char} {value : Int}
    (isPercentage : IsLexemeOf text (.token (.percentage value))) :
    value = saturated (Decimal.ofDigits text.dropLast)
      ∧ (Lexeme.token (.percentage value)).WritesNumber text (Decimal.ofDigits text.dropLast) := by
  obtain ⟨pattern, accepted, named⟩ := isPercentage.exists_pattern
  cases pattern with
  | percentage =>
    obtain ⟨rfl⟩ := named
    obtain ⟨digits, run, rfl⟩ := accepted
    rw [List.dropLast_concat]
    exact ⟨rfl, .percentage run⟩
  | _ => exact nomatch named

/-- A lexeme is out of range exactly when it is a number and the number written is. -/
theorem IsLexemeOf.isOutOfRange_iff {text : List Char} {lexeme : Lexeme}
    (isLexeme : IsLexemeOf text lexeme) :
    lexeme.isOutOfRange text = true
      ↔ ∃ number, lexeme.WritesNumber text number ∧ ¬ IsSigned64 number := by
  constructor
  · intro outOfRange
    unfold Lexeme.isOutOfRange at outOfRange
    split at outOfRange
    · refine ⟨_, isLexeme.of_integer.2, fun inRange => ?_⟩
      rw [inIntegerRange_iff.mpr inRange] at outOfRange
      exact nomatch outOfRange
    · refine ⟨_, isLexeme.of_percentage.2, fun inRange => ?_⟩
      rw [inIntegerRange_iff.mpr inRange] at outOfRange
      exact nomatch outOfRange
    · exact nomatch outOfRange
  · rintro ⟨number, writes, outside⟩
    rw [← inIntegerRange_iff, Bool.not_eq_true] at outside
    cases writes with
    | integer run =>
      rw [Lexeme.isOutOfRange, integerValue_of_isRunOf run, outside]
      rfl
    | negative run =>
      rw [Lexeme.isOutOfRange, integerValue, outside]
      rfl
    | percentage run =>
      rw [Lexeme.isOutOfRange, List.dropLast_concat, outside]
      rfl

/-! ## Faults -/

/-- The offsets of a text that are reached by cutting off one maximal munch after the other. -/
inductive Reaches (text : List Char) : Nat → Prop where
  | start : Reaches text 0
  | munch {offset : Nat} {lexeme : Lexeme} {length : Nat} (earlier : Reaches text offset)
      (munch : IsMaximalMunch (text.drop offset) lexeme length) : Reaches text (offset + length)

/-- A text begins with a fault: none of its nonempty beginnings is accepted by a pattern, or
its maximal munch is a number out of range. -/
inductive BeginsWithFault (text : List Char) : LexicalFault → Prop where
  | unexpected {first : Char} {rest : List Char} (remains : text = first :: rest)
      (unmatched : ∀ length, 0 < length → length ≤ text.length →
        ∀ pattern : Pattern, ¬ pattern.Accepts (text.take length)) :
      BeginsWithFault text (.unexpectedCharacter first)
  | outOfRange {lexeme : Lexeme} {length : Nat} {number : Int}
      (munch : IsMaximalMunch text lexeme length)
      (writes : lexeme.WritesNumber (text.take length) number) (outside : ¬ IsSigned64 number) :
      BeginsWithFault text (.numberOutOfRange (String.ofList (text.take length)))

/-- The first offset reached where a text goes on with a fault. -/
structure IsFirstFault (text : List Char) (offset : Nat) (fault : LexicalFault) : Prop where
  reached : Reaches text offset
  fault : BeginsWithFault (text.drop offset) fault
  first : ∀ earlier, earlier < offset → Reaches text earlier →
    ∀ other, ¬ BeginsWithFault (text.drop earlier) other

section Faults

variable {text : List Char} {lexeme : Lexeme} {length offset : Nat} {fault : LexicalFault}

theorem IsMaximalMunch.exists_accepts (munch : IsMaximalMunch text lexeme length) :
    ∃ pattern : Pattern, pattern.Accepts (text.take length) := by
  obtain ⟨pattern, accepted, -⟩ := munch.lexeme.exists_pattern
  exact ⟨pattern, accepted⟩

/-- A text begins with one fault at most. -/
theorem BeginsWithFault.unique {other : LexicalFault} (one : BeginsWithFault text fault)
    (two : BeginsWithFault text other) : fault = other := by
  -- A munch is accepted, so it excludes the other kind of fault.
  have exclusive : ∀ {lexeme length}, IsMaximalMunch text lexeme length →
      ¬ ∀ length, 0 < length → length ≤ text.length →
        ∀ pattern : Pattern, ¬ pattern.Accepts (text.take length) := by
    intro lexeme length munch unmatched
    obtain ⟨pattern, accepted⟩ := munch.exists_accepts
    exact unmatched length munch.nonempty munch.within pattern accepted
  cases one with
  | unexpected remains unmatched =>
    cases two with
    | unexpected remains' _ =>
      obtain ⟨rfl, _⟩ := List.cons.inj (remains.symm.trans remains')
      rfl
    | outOfRange munch _ _ => exact absurd unmatched (exclusive munch)
  | outOfRange munch _ _ =>
    cases two with
    | unexpected _ unmatched => exact absurd unmatched (exclusive munch)
    | outOfRange munch' _ _ => rw [(munch.unique munch').2]

/-- What is reached behind a munch is reached. -/
theorem Reaches.of_munch (munch : IsMaximalMunch text lexeme length)
    (reached : Reaches (text.drop length) offset) : Reaches text (length + offset) := by
  induction reached with
  | start =>
    have behind : Reaches text (0 + length) := .munch .start munch
    rwa [Nat.zero_add] at behind
  | munch earlier next inductionHypothesis =>
    rw [← Nat.add_assoc]
    rw [List.drop_drop] at next
    exact .munch inductionHypothesis next

/-- What is reached is the start, or reached behind the first munch. -/
theorem Reaches.start_or_behind (munch : IsMaximalMunch text lexeme length)
    (reached : Reaches text offset) :
    offset = 0 ∨ ∃ later, offset = length + later ∧ Reaches (text.drop length) later := by
  induction reached with
  | start => exact .inl rfl
  | @munch offset lexeme' length' earlier next inductionHypothesis =>
    right
    rcases inductionHypothesis with rfl | ⟨later, rfl, behind⟩
    · obtain ⟨-, rfl⟩ := munch.unique next
      exact ⟨0, Nat.add_comm _ _, .start⟩
    · rw [← List.drop_drop] at next
      exact ⟨later + length', Nat.add_assoc _ _ _, .munch behind next⟩

/-- A fault at the start is the first one. -/
theorem isFirstFault_iff_of_begins {atStart : LexicalFault}
    (begins : BeginsWithFault text atStart) :
    IsFirstFault text offset fault ↔ offset = 0 ∧ fault = atStart := by
  constructor
  · intro isFirst
    have atZero : offset = 0 := by
      by_contra behind
      exact isFirst.first 0 (Nat.pos_of_ne_zero behind) .start atStart begins
    subst atZero
    exact ⟨rfl, isFirst.fault.unique begins⟩
  · rintro ⟨rfl, rfl⟩
    exact ⟨.start, begins, fun earlier before => absurd before (Nat.not_lt_zero _)⟩

/-- The first fault of a text that begins with a munch in range is the first one behind it. -/
theorem isFirstFault_iff_of_munch (munch : IsMaximalMunch text lexeme length)
    (faultless : ∀ fault, ¬ BeginsWithFault text fault) :
    IsFirstFault text offset fault
      ↔ ∃ later, offset = length + later ∧ IsFirstFault (text.drop length) later fault := by
  constructor
  · intro isFirst
    rcases isFirst.reached.start_or_behind munch with rfl | ⟨later, rfl, behind⟩
    · exact absurd isFirst.fault (faultless fault)
    · refine ⟨later, rfl, behind, ?_, fun earlier before reached other begins => ?_⟩
      · rw [List.drop_drop]
        exact isFirst.fault
      · rw [List.drop_drop] at begins
        exact isFirst.first (length + earlier) (by omega) (reached.of_munch munch) other begins
  · rintro ⟨later, rfl, isFirst⟩
    refine ⟨isFirst.reached.of_munch munch, ?_, fun earlier before reached other begins => ?_⟩
    · rw [← List.drop_drop]
      exact isFirst.fault
    · rcases reached.start_or_behind munch with rfl | ⟨between, rfl, behind⟩
      · exact faultless other begins
      · rw [← List.drop_drop] at begins
        exact isFirst.first between (by omega) behind other begins

/-- Among the offsets with a fault there is a first one. -/
theorem exists_isFirstFault (reached : Reaches text offset)
    (begins : BeginsWithFault (text.drop offset) fault) :
    ∃ first fault, IsFirstFault text first fault := by
  induction offset using Nat.strongRecOn generalizing fault with
  | ind offset inductionHypothesis =>
    by_cases isFirst : ∀ earlier, earlier < offset → Reaches text earlier →
        ∀ other, ¬ BeginsWithFault (text.drop earlier) other
    · exact ⟨offset, fault, reached, begins, isFirst⟩
    · push Not at isFirst
      obtain ⟨earlier, before, reachedToo, other, beginsToo⟩ := isFirst
      exact inductionHypothesis earlier before reachedToo beginsToo

/-- A text begins with a fault exactly where its munch is out of range, if it has one. -/
theorem beginsWithFault_iff_of_munch (munch : IsMaximalMunch text lexeme length) :
    BeginsWithFault text fault
      ↔ lexeme.isOutOfRange (text.take length) = true
        ∧ fault = .numberOutOfRange (String.ofList (text.take length)) := by
  constructor
  · intro begins
    cases begins with
    | unexpected _ unmatched =>
      obtain ⟨pattern, accepted⟩ := munch.exists_accepts
      exact absurd accepted (unmatched length munch.nonempty munch.within pattern)
    | outOfRange munch' writes outside =>
      obtain ⟨rfl, rfl⟩ := munch.unique munch'
      exact ⟨munch.lexeme.isOutOfRange_iff.mpr ⟨_, writes, outside⟩, rfl⟩
  · rintro ⟨outOfRange, rfl⟩
    obtain ⟨number, writes, outside⟩ := munch.lexeme.isOutOfRange_iff.mp outOfRange
    exact .outOfRange munch writes outside

theorem not_isFirstFault_nil : ¬ IsFirstFault [] offset fault := by
  rintro ⟨-, begins, -⟩
  rw [List.drop_nil] at begins
  cases begins with
  | unexpected remains => exact nomatch remains
  | outOfRange munch => exact absurd (Nat.le_trans munch.nonempty munch.within) (Nat.lt_irrefl 0)

end Faults

/-- An error at the start is right exactly if the text begins with its fault. -/
theorem error_eq_iff_of_begins {position : Position} {text : List Char} {atStart : LexicalFault}
    (begins : BeginsWithFault text atStart) {error : LexicalError} :
    LexicalError.mk atStart position = error ↔
      ∃ offset, IsFirstFault text offset error.fault
        ∧ error.position = position.advance (text.take offset) := by
  obtain ⟨fault, place⟩ := error
  simp only [isFirstFault_iff_of_begins begins]
  constructor
  · rintro ⟨⟩
    exact ⟨0, ⟨rfl, rfl⟩, rfl⟩
  · rintro ⟨_, ⟨rfl, rfl⟩, rfl⟩
    rfl

/-- Tokenizing fails with the first fault of the text, at its position, and with nothing
else. -/
theorem tokenizeFrom_eq_error_iff {position : Position} {text : List Char} {error : LexicalError} :
    tokenizeFrom position text = .error error ↔
      ∃ offset, IsFirstFault text offset error.fault
        ∧ error.position = position.advance (text.take offset) := by
  induction text using longestMatch_induction generalizing position with
  | nil =>
    rw [tokenizeFrom_nil]
    exact iff_of_false nofun fun ⟨_, isFirst, _⟩ => not_isFirstFault_nil isFirst
  | stuck first rest noMatch =>
    have begins := BeginsWithFault.unexpected rfl (longestMatch_eq_none_iff.mp noMatch)
    rw [tokenizeFrom_of_no_match noMatch, Except.error.injEq]
    exact error_eq_iff_of_begins begins
  | slice text lexeme length found inductionHypothesis =>
    have munch := isMaximalMunch_of_longestMatch found
    rw [tokenizeFrom_of_longestMatch found]
    split
    · next outOfRange =>
      have begins := (beginsWithFault_iff_of_munch munch).mpr ⟨outOfRange, rfl⟩
      rw [Except.error.injEq]
      exact error_eq_iff_of_begins begins
    · next inRange =>
      have faultless : ∀ fault, ¬ BeginsWithFault text fault := fun fault begins =>
        inRange ((beginsWithFault_iff_of_munch munch).mp begins).1
      have behind : (tokenizeFrom (position.advance (text.take length)) (text.drop length)).map
            (lexeme.consToken position) = .error error
          ↔ tokenizeFrom (position.advance (text.take length)) (text.drop length)
            = .error error := by
        cases tokenizeFrom (position.advance (text.take length)) (text.drop length) <;>
          simp [Except.map]
      rw [behind, inductionHypothesis]
      simp only [isFirstFault_iff_of_munch munch faultless]
      constructor
      · rintro ⟨later, isFirst, place⟩
        refine ⟨length + later, ⟨later, rfl, isFirst⟩, ?_⟩
        rw [place, List.take_add, Position.advance_append]
      · rintro ⟨_, ⟨later, rfl, isFirst⟩, place⟩
        refine ⟨later, isFirst, ?_⟩
        rw [place, List.take_add, Position.advance_append]

/-! ## Tokens of a text without faults -/

/-- The number that a token carries. -/
def TokenKind.number? : TokenKind → Option Int
  | integer value => some value
  | percentage value => some value
  | _ => none

theorem saturated_of_inIntegerRange {value : Int} (inRange : inIntegerRange value = true) :
    saturated value = value := if_pos inRange

/-- A token that is not out of range carries the number written, not the largest one. -/
theorem IsLexemeOf.writesNumber {text : List Char} {kind : TokenKind}
    (isToken : IsLexemeOf text (.token kind))
    (inRange : (Lexeme.token kind).isOutOfRange text = false) {number : Int}
    (carried : kind.number? = some number) : (Lexeme.token kind).WritesNumber text number := by
  cases kind with
  | integer value =>
    obtain rfl := Option.some.inj carried
    obtain ⟨cut, writes⟩ := isToken.of_integer
    rw [Lexeme.isOutOfRange, Bool.not_eq_false'] at inRange
    rw [saturated_of_inIntegerRange inRange] at cut
    rwa [← cut] at writes
  | percentage value =>
    obtain rfl := Option.some.inj carried
    obtain ⟨cut, writes⟩ := isToken.of_percentage
    rw [Lexeme.isOutOfRange, Bool.not_eq_false'] at inRange
    rw [saturated_of_inIntegerRange inRange] at cut
    rwa [← cut] at writes
  | _ => exact nomatch carried

/-- A token is the maximal munch at an offset of a text that starts at a position, and is no
number out of range. -/
structure Token.IsCutAt (position : Position) (text : List Char) (offset length : Nat)
    (token : Token) : Prop where
  reached : Reaches text offset
  munch : IsMaximalMunch (text.drop offset) (.token token.kind) length
  inRange : (Lexeme.token token.kind).isOutOfRange ((text.drop offset).take length) = false
  position : token.position = position.advance (text.take offset)

theorem Token.IsCutAt.behind {position : Position} {text : List Char} {lexeme : Lexeme}
    {first offset length : Nat} {token : Token} (munch : IsMaximalMunch text lexeme first)
    (cut : token.IsCutAt (position.advance (text.take first)) (text.drop first) offset length) :
    token.IsCutAt position text (first + offset) length := by
  obtain ⟨reached, next, inRange, place⟩ := cut
  rw [List.drop_drop] at next inRange
  rw [← Position.advance_append, ← List.take_add] at place
  exact ⟨reached.of_munch munch, next, inRange, place⟩

/-- Every token was cut at some offset. -/
theorem exists_isCutAt_of_mem {position : Position} {text : List Char} {tokens : List Token}
    (tokenized : tokenizeFrom position text = .ok tokens) {token : Token}
    (member : token ∈ tokens) : ∃ offset length, token.IsCutAt position text offset length := by
  induction text using longestMatch_induction generalizing position tokens with
  | nil =>
    rw [tokenizeFrom_nil] at tokenized
    obtain rfl := Except.ok.inj tokenized
    exact nomatch member
  | stuck first rest noMatch =>
    rw [tokenizeFrom_of_no_match noMatch] at tokenized
    exact nomatch tokenized
  | slice text lexeme first found inductionHypothesis =>
    have munch := isMaximalMunch_of_longestMatch found
    rw [tokenizeFrom_of_longestMatch found] at tokenized
    split at tokenized
    · exact nomatch tokenized
    · next inRange =>
      cases later : tokenizeFrom (position.advance (text.take first)) (text.drop first) with
      | error error =>
        rw [later] at tokenized
        exact nomatch tokenized
      | ok others =>
        rw [later] at tokenized
        obtain rfl := Except.ok.inj tokenized
        have behind : token ∈ others →
            ∃ offset length, token.IsCutAt position text offset length := by
          intro inOthers
          obtain ⟨offset, length, cut⟩ := inductionHypothesis later inOthers
          exact ⟨first + offset, length, cut.behind munch⟩
        rcases lexeme.isToken_or position others with ⟨kind, rfl, isFirst⟩ | ⟨_, dropped⟩
        · rw [isFirst] at member
          rcases List.mem_cons.mp member with rfl | inOthers
          · exact ⟨0, first, .start, munch, Bool.not_eq_true _ ▸ inRange, rfl⟩
          · exact behind inOthers
        · rw [dropped] at member
          exact behind member

/-- A percentage is written without a sign. -/
theorem Lexeme.WritesNumber.nonnegative {value number : Int} {text : List Char}
    (writes : (Lexeme.token (.percentage value)).WritesNumber text number) : 0 ≤ number := by
  cases writes with
  | percentage run => exact Int.natCast_nonneg _

/-- A token is exactly what stands at an offset of a text: it is the maximal munch there, at
its position, and it carries the number that is written there, if any. -/
structure Token.IsExact (text : List Char) (offset length : Nat) (token : Token) : Prop
    extends token.IsCutAt .start text offset length where
  number : ∀ number, token.kind.number? = some number →
    (Lexeme.token token.kind).WritesNumber ((text.drop offset).take length) number
  nonnegative : ∀ percentage, token.kind = .percentage percentage → 0 ≤ percentage

/-- Tokens are what the text has at their offsets. -/
theorem exists_isExact_of_mem {source : String} {tokens : List Token}
    (tokenized : tokenize source = .ok tokens) {token : Token} (member : token ∈ tokens) :
    ∃ offset length, token.IsExact source.toList offset length := by
  obtain ⟨offset, length, cut⟩ := exists_isCutAt_of_mem tokenized member
  have written : ∀ number, token.kind.number? = some number →
      (Lexeme.token token.kind).WritesNumber ((source.toList.drop offset).take length) number :=
    fun number carried => cut.munch.lexeme.writesNumber cut.inRange carried
  refine ⟨offset, length, cut, written, ?_⟩
  intro percentage isPercentage
  have writes := written percentage (by rw [isPercentage]; rfl)
  rw [isPercentage] at writes
  exact writes.nonnegative

/-! ## What fails in a compile -/

/-- Only a text that cannot be cut stops a compile, before anything is reported or used. -/
theorem runIn_compileInSession_eq_error_iff {source : String} {session after : Session}
    {error : CompileError} :
    (compileInSession source).runIn session = (.error error, after)
      ↔ (∃ fault, tokenize source = .error fault ∧ error = .lexical fault) ∧ after = session := by
  rw [runIn_compileInSession, compile, parse]
  cases lexed : tokenize source with
  | error fault =>
    constructor
    · rintro ⟨⟩
      exact ⟨⟨fault, rfl, rfl⟩, rfl⟩
    · rintro ⟨⟨_, ⟨⟩, rfl⟩, rfl⟩
      rfl
  | ok tokens =>
    constructor
    · rintro ⟨⟩
    · rintro ⟨⟨_, ⟨⟩, _⟩, _⟩

/-- Syntax errors are exact. Tokenizing fails exactly if cutting a text by maximal munches
reaches an offset where no lexeme begins or where the munch is a number that 64 bits cannot
hold, and it fails with the first of these faults, at its line and column. Otherwise every
token stands for what was cut at its offset and carries the very number written there, which
is not negative if it is a percentage. A compile fails exactly if tokenizing does, with the
same error, a syntax error, and then leaves the session as it was. -/
theorem syntax_errors_are_exact (source : String) :
    let text := source.toList
    ((∃ error, tokenize source = .error error)
        ↔ ∃ offset fault, Reaches text offset ∧ BeginsWithFault (text.drop offset) fault)
      ∧ (∀ error, tokenize source = .error error
        ↔ ∃ offset, IsFirstFault text offset error.fault
          ∧ error.position.IsBehind (text.take offset))
      ∧ (∀ tokens, tokenize source = .ok tokens →
        ∀ token ∈ tokens, ∃ offset length, token.IsExact text offset length)
      ∧ ∀ session error,
        (((compileInSession source).runIn session).1 = .error error
            ↔ ∃ fault, tokenize source = .error fault ∧ error = .lexical fault)
          ∧ (((compileInSession source).runIn session).1 = .error error →
            error.kind = "SyntaxError"
              ∧ ((compileInSession source).runIn session).2 = session) := by
  intro text
  have fails : ∀ error, tokenize source = .error error
      ↔ ∃ offset, IsFirstFault text offset error.fault
        ∧ error.position.IsBehind (text.take offset) := by
    intro error
    simp only [Position.isBehind_iff]
    exact tokenizeFrom_eq_error_iff
  refine ⟨⟨?_, ?_⟩, fails, fun tokens tokenized token => exists_isExact_of_mem tokenized, ?_⟩
  · rintro ⟨error, failed⟩
    obtain ⟨offset, isFirst, -⟩ := (fails error).mp failed
    exact ⟨offset, error.fault, isFirst.reached, isFirst.fault⟩
  · rintro ⟨offset, fault, reached, begins⟩
    obtain ⟨first, fault, isFirst⟩ := exists_isFirstFault reached begins
    refine ⟨⟨fault, Position.start.advance (text.take first)⟩, (fails _).mpr ⟨first, isFirst, ?_⟩⟩
    exact Position.isBehind_iff.mpr rfl
  · intro session error
    have stopped : ∀ {after}, (compileInSession source).runIn session = (.error error, after)
        ↔ (∃ fault, tokenize source = .error fault ∧ error = .lexical fault) ∧ after = session :=
      runIn_compileInSession_eq_error_iff
    refine ⟨⟨fun failed => (stopped.mp (Prod.ext failed rfl)).1, fun failed => ?_⟩,
      fun failed => ?_⟩
    · exact congrArg Prod.fst (stopped.mpr ⟨failed, rfl⟩)
    · obtain ⟨⟨fault, -, rfl⟩, unchanged⟩ := stopped.mp (Prod.ext failed rfl)
      exact ⟨rfl, unchanged⟩

/-- A run of digits that goes on as a word is no number, and the smallest number is in range;
the fault is the percentage on the second line, and nothing of the script is compiled. -/
theorem syntax_errors_are_exact_large_percentage :
    let session : Session := { config := {}, textures := fun _ => ⟨fun _ => none, fun _ _ => none⟩ }
    let source := "99999999999999999999abc -9223372036854775808\n007% 9223372036854775808%"
    let error : LexicalError := ⟨.numberOutOfRange "9223372036854775808%", ⟨2, 6⟩⟩
    tokenize source = .error error
      ∧ (∃ offset, IsFirstFault source.toList offset error.fault
        ∧ error.position.IsBehind (source.toList.take offset))
      ∧ ((compileInSession source).runIn session).2 = session := by
  intro session source error
  have failed : tokenize source = .error error := by decide +kernel
  obtain ⟨-, fails, -, compiles⟩ := syntax_errors_are_exact source
  obtain ⟨stops, leaves⟩ := compiles session (.lexical error)
  exact ⟨failed, (fails error).mp failed, (leaves (stops.mpr ⟨error, failed, rfl⟩)).2⟩

end RoomLayout

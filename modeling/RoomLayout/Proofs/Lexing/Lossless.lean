import Mathlib.Data.List.Forall2
import RoomLayout.Proofs.Lexing.Cut
import RoomLayout.Proofs.Lexing.Position

/-!
# Tokenizing loses nothing

A tokenized text is the concatenation of slices. Blank runs and comments are
dropped; every other slice is one token, which says what the slice is and where
it begins. What is dropped is told by the characters of a slice alone.
-/

namespace RoomLayout

/-- A run of spaces, tabs and carriage returns. -/
def IsBlankRun (text : List Char) : Prop := ∀ c ∈ text, c = ' ' ∨ c = '\t' ∨ c = '\r'

/-- A hash sign and what follows it on its line. -/
def IsCommentText (text : List Char) : Prop := text.head? = some '#' ∧ '\n' ∉ text

/-- A text that carries no token. -/
def IsTrivia (text : List Char) : Prop := IsBlankRun text ∨ IsCommentText text

instance (text : List Char) : Decidable (IsBlankRun text) := List.decidableBAll _ text

instance (text : List Char) : Decidable (IsCommentText text) := instDecidableAnd

instance (text : List Char) : Decidable (IsTrivia text) := instDecidableOr

theorem isBlankChar_iff {c : Char} : isBlankChar c = true ↔ c = ' ' ∨ c = '\t' ∨ c = '\r' := by
  simp [isBlankChar, or_assoc]

theorem fit_blanks_iff {text : List Char} :
    Pattern.blanks.fit text = .whole ↔ text ≠ [] ∧ IsBlankRun text := by
  have allBlank : text.all isBlankChar = true ↔ IsBlankRun text := by
    rw [List.all_eq_true]
    exact forall₂_congr fun c _ => isBlankChar_iff
  rw [Pattern.fit, Fitting.run, ← allBlank]
  cases text <;> simp

theorem fit_comment_iff {text : List Char} :
    Pattern.comment.fit text = .whole ↔ IsCommentText text := by
  rw [Pattern.fit, IsCommentText]
  simp

theorem fit_lineFeed_iff {text : List Char} :
    Pattern.lineFeed.fit text = .whole ↔ text = ['\n'] := by
  have spelling : "\n".toList = ['\n'] := rfl
  rw [Pattern.fit, Fitting.literal, spelling]
  split
  · next same => simp [same]
  · next other => split <;> simp [other]

/-- A lexeme is what some pattern that fits the text as a whole makes of it. -/
theorem exists_pattern_of_scan {text : List Char} {lexeme : Lexeme}
    (whole : (scan text).whole? = some lexeme) :
    ∃ pattern : Pattern, pattern.fit text = .whole ∧ pattern.lexeme text = lexeme := by
  obtain ⟨pattern, found, rfl⟩ := Option.map_eq_some_iff.mp whole
  have fits := List.find?_some found
  exact ⟨pattern, eq_of_beq fits, rfl⟩

/-- A text is the lexeme of the first pattern that it fits as a whole. -/
theorem scan_of_first_pattern {text : List Char} {later : List Pattern} {pattern : Pattern}
    (earlier : List Pattern) (order : Pattern.all = earlier ++ pattern :: later)
    (fits : pattern.fit text = .whole) (isFirst : ∀ other ∈ earlier, other.fit text ≠ .whole) :
    (scan text).whole? = some (pattern.lexeme text) := by
  apply Option.map_eq_some_iff.mpr
  refine ⟨pattern, List.find?_eq_some_iff_append.mpr ⟨?_, earlier, later, order, ?_⟩, rfl⟩
  · exact beq_iff_eq.mpr fits
  · intro other member
    simpa using isFirst other member

/-- Blank runs and comments, and no other text, are lexemes without a token. -/
theorem isTrivia_iff_of_scan {text : List Char} {lexeme : Lexeme} (nonempty : text ≠ [])
    (whole : (scan text).whole? = some lexeme) :
    IsTrivia text ↔ ∀ kind, lexeme ≠ .token kind := by
  constructor
  · intro trivia kind isToken
    rw [isToken] at whole
    rcases trivia with blank | comment
    · have isBlank := scan_of_first_pattern [] rfl
        (fit_blanks_iff.mpr ⟨nonempty, blank⟩) (by simp)
      exact Lexeme.noConfusion (Option.some.inj (isBlank.symm.trans whole))
    · -- A hash sign is neither blank nor a line feed, so the comment pattern comes first.
      have isComment := scan_of_first_pattern [.blanks, .lineFeed] rfl
        (fit_comment_iff.mpr comment) (by
          intro other member fits
          rcases List.mem_pair.mp member with rfl | rfl
          · have isBlank := (fit_blanks_iff.mp fits).2 '#' (List.mem_of_mem_head? comment.1)
            exact absurd isBlank (by decide)
          · rw [fit_lineFeed_iff.mp fits] at comment
            exact comment.2 (List.mem_singleton_self _))
      exact Lexeme.noConfusion (Option.some.inj (isComment.symm.trans whole))
  · intro noToken
    obtain ⟨pattern, fits, rfl⟩ := exists_pattern_of_scan whole
    cases pattern with
    | blanks => exact Or.inl (fit_blanks_iff.mp fits).2
    | comment => exact Or.inr (fit_comment_iff.mp fits)
    | _ => exact absurd rfl (noToken _)

/-- The pieces of a text, each with the text before it. -/
def withTextBefore (before : List Char) : List (List Char) → List (List Char × List Char)
  | [] => []
  | piece :: pieces => (before, piece) :: withTextBefore (before ++ piece) pieces

/-- The token that a piece of a text is: its kind is what the patterns make of the
piece, its line counts the line feeds before the piece, and its column the
characters between the last of them, or the beginning, and the piece. -/
structure IsTokenOf (before piece : List Char) (token : Token) : Prop where
  kind : (scan piece).whole? = some (.token token.kind)
  line : token.position.line = 1 + before.count '\n'
  column : token.position.column = 1 + (before.reverse.takeWhile fun c => c ≠ '\n').length

/-- The tokens of slices are those of the slices that are not trivia, one by one
and in order. -/
theorem forall₂_tokensFrom {slices : List Slice} (nonempty : ∀ slice ∈ slices, slice.text ≠ [])
    (whole : ∀ slice ∈ slices, (scan slice.text).whole? = some slice.lexeme) (before : List Char) :
    List.Forall₂ (fun placed token => IsTokenOf placed.1 placed.2 token)
      ((withTextBefore before (slices.map Slice.text)).filter fun placed => ¬ IsTrivia placed.2)
      (tokensFrom (Position.start.advance before) slices) := by
  induction slices generalizing before with
  | nil => exact .nil
  | cons slice slices inductionHypothesis =>
    have first := whole slice List.mem_cons_self
    have trivia := isTrivia_iff_of_scan (nonempty slice List.mem_cons_self) first
    have later := inductionHypothesis
      (fun other member => nonempty other (List.mem_cons_of_mem _ member))
      (fun other member => whole other (List.mem_cons_of_mem _ member)) (before ++ slice.text)
    rw [Position.advance_append] at later
    rw [List.map_cons, withTextBefore, tokensFrom]
    rcases slice.lexeme.isToken_or (Position.start.advance before)
        (tokensFrom ((Position.start.advance before).advance slice.text) slices) with
      ⟨kind, isKind, tokensEq⟩ | ⟨noToken, tokensEq⟩
    · have kept : ¬ IsTrivia slice.text := fun isTrivia => trivia.mp isTrivia kind isKind
      have isToken : IsTokenOf before slice.text ⟨kind, Position.start.advance before⟩ :=
        ⟨by rw [first, isKind], Position.line_advance_start before,
          Position.column_advance_start before⟩
      rw [List.filter_cons_of_pos (by simpa using kept), tokensEq]
      exact .cons isToken later
    · have dropped : IsTrivia slice.text := trivia.mpr noToken
      rw [List.filter_cons_of_neg (by simpa using dropped), tokensEq]
      exact later

/-- No token of slices stands before the first slice. -/
theorem not_isBefore_of_mem_tokensFrom {slices : List Slice}
    (nonempty : ∀ slice ∈ slices, slice.text ≠ []) (position : Position) :
    ∀ token ∈ tokensFrom position slices, ¬ token.position.IsBefore position := by
  induction slices generalizing position with
  | nil => exact fun token member => absurd member List.not_mem_nil
  | cons slice slices inductionHypothesis =>
    have forward := position.isBefore_advance (nonempty slice List.mem_cons_self)
    have later : ∀ token ∈ tokensFrom (position.advance slice.text) slices,
        ¬ token.position.IsBefore position := by
      intro token member
      have notEarlier := inductionHypothesis
        (fun other inLater => nonempty other (List.mem_cons_of_mem _ inLater)) _ token member
      exact (forward.of_not_isBefore notEarlier).asymm
    intro token member
    rw [tokensFrom] at member
    rcases slice.lexeme.isToken_or position (tokensFrom (position.advance slice.text) slices) with
      ⟨kind, _, tokensEq⟩ | ⟨_, tokensEq⟩
    · rw [tokensEq] at member
      rcases List.mem_cons.mp member with rfl | inLater
      · exact fun before => before.asymm before
      · exact later token inLater
    · rw [tokensEq] at member
      exact later token member

/-- The tokens of slices stand one after the other. -/
theorem pairwise_tokensFrom {slices : List Slice} (nonempty : ∀ slice ∈ slices, slice.text ≠ [])
    (position : Position) :
    (tokensFrom position slices).Pairwise fun a b => a.position.IsBefore b.position := by
  induction slices generalizing position with
  | nil => exact .nil
  | cons slice slices inductionHypothesis =>
    have laterNonempty : ∀ other ∈ slices, other.text ≠ [] :=
      fun other member => nonempty other (List.mem_cons_of_mem _ member)
    have forward := position.isBefore_advance (nonempty slice List.mem_cons_self)
    have later := inductionHypothesis laterNonempty (position.advance slice.text)
    rw [tokensFrom]
    rcases slice.lexeme.isToken_or position (tokensFrom (position.advance slice.text) slices) with
      ⟨kind, _, tokensEq⟩ | ⟨_, tokensEq⟩
    · rw [tokensEq]
      refine .cons (fun token member => ?_) later
      exact forward.of_not_isBefore (not_isBefore_of_mem_tokensFrom laterNonempty _ token member)
    · rw [tokensEq]
      exact later

/-- A text and its tokens without loss: the text is cut into nonempty pieces, the
pieces that are not trivia are the tokens one by one and in order, and tokens
stand one after the other. -/
structure IsLosslessCut (text : List Char) (pieces : List (List Char)) (tokens : List Token) :
    Prop where
  complete : pieces.flatten = text
  nonempty : ∀ piece ∈ pieces, piece ≠ []
  one_by_one : List.Forall₂ (fun placed token => IsTokenOf placed.1 placed.2 token)
    ((withTextBefore [] pieces).filter fun placed => ¬ IsTrivia placed.2) tokens
  ascending : tokens.Pairwise fun a b => a.position.IsBefore b.position

/-- The tokens of a script leave out blank runs and comments, and nothing else:
no character is lost or counted twice, and every position is exact. -/
theorem tokenize_lossless {source : String} {tokens : List Token}
    (tokenized : tokenize source = .ok tokens) :
    ∃ pieces, IsLosslessCut source.toList pieces tokens := by
  obtain ⟨slices, cut, _, rfl⟩ := tokenizeFrom_eq_ok_iff.mp tokenized
  refine ⟨slices.map Slice.text, ?_, ?_, forall₂_tokensFrom cut.text_ne_nil cut.scan_text [],
    pairwise_tokensFrom cut.text_ne_nil _⟩
  · rw [← cut.flatten_append, List.append_nil]
  · intro piece member
    obtain ⟨slice, inSlices, rfl⟩ := List.mem_map.mp member
    exact cut.text_ne_nil slice inSlices

/-- Two lines with a keyword, an alignment that runs into a comment, and numbers. -/
theorem tokenize_lossless_two_lines :
    tokenize "wall  x+# y\n-7 8%" = .ok
        [⟨.keyword .wall, ⟨1, 1⟩⟩, ⟨.alignment "x+", ⟨1, 7⟩⟩, ⟨.newline, ⟨1, 12⟩⟩,
          ⟨.integer (-7), ⟨2, 1⟩⟩, ⟨.percentage 8, ⟨2, 4⟩⟩]
      ∧ ∃ pieces, IsLosslessCut "wall  x+# y\n-7 8%".toList pieces
        [⟨.keyword .wall, ⟨1, 1⟩⟩, ⟨.alignment "x+", ⟨1, 7⟩⟩, ⟨.newline, ⟨1, 12⟩⟩,
          ⟨.integer (-7), ⟨2, 1⟩⟩, ⟨.percentage 8, ⟨2, 4⟩⟩] := by
  have tokenized : tokenize "wall  x+# y\n-7 8%" = .ok
      [⟨.keyword .wall, ⟨1, 1⟩⟩, ⟨.alignment "x+", ⟨1, 7⟩⟩, ⟨.newline, ⟨1, 12⟩⟩,
        ⟨.integer (-7), ⟨2, 1⟩⟩, ⟨.percentage 8, ⟨2, 4⟩⟩] := by
    decide +kernel
  exact ⟨tokenized, tokenize_lossless tokenized⟩

end RoomLayout

import RoomLayout.Proofs.Lexing.LineByLine

/-!
# Blanks and comments at the end of a line

What stands at the end of a line and carries no token may be added or left out:
the tokens of the text before it, their positions and its first fault stay what they
are. Trivia may merge with what is added, blanks with blanks and a comment with
anything; any other lexeme ends before it (`longestMatch_append_separator`).
-/

namespace RoomLayout

/-- What may follow the tokens of a line: blanks, and after them a comment or nothing. -/
def IsTrailing (text : List Char) : Prop :=
  ∃ blanks comment, text = blanks ++ comment ∧ IsBlankRun blanks
    ∧ (comment = [] ∨ IsCommentText comment)

theorem isBlankRun_nil : IsBlankRun [] := fun _ member => absurd member List.not_mem_nil

namespace IsTrailing

variable {text : List Char}

theorem nil : IsTrailing [] := ⟨[], [], rfl, isBlankRun_nil, .inl rfl⟩

theorem of_trivia (trivia : IsTrivia text) : IsTrailing text := by
  rcases trivia with blank | comment
  · exact ⟨text, [], (List.append_nil text).symm, blank, .inl rfl⟩
  · exact ⟨[], text, rfl, isBlankRun_nil, .inr comment⟩

theorem no_lineFeed (trailing : IsTrailing text) : '\n' ∉ text := by
  obtain ⟨blanks, comment, rfl, areBlank, noneOrComment⟩ := trailing
  have inBlanks : '\n' ∉ blanks := IsTrivia.no_lineFeed (.inl areBlank)
  have inComment : '\n' ∉ comment := by
    rcases noneOrComment with rfl | isComment
    · exact List.not_mem_nil
    · exact isComment.2
  exact fun feed => (List.mem_append.mp feed).elim inBlanks inComment

/-- What may follow a line may follow trivia, and then all of it may follow a line. -/
theorem of_trivia_append {trailing : List Char} (trivia : IsTrivia text)
    (follows : IsTrailing trailing) : IsTrailing (text ++ trailing) := by
  have noFeed := follows.no_lineFeed
  rcases trivia with areBlank | isComment
  · obtain ⟨blanks, comment, rfl, moreBlanks, noneOrComment⟩ := follows
    refine ⟨text ++ blanks, comment, (List.append_assoc _ _ _).symm, ?_, noneOrComment⟩
    exact List.forall_mem_append.mpr ⟨areBlank, moreBlanks⟩
  · refine ⟨[], text ++ trailing, rfl, isBlankRun_nil, .inr ⟨?_, ?_⟩⟩
    · rw [List.head?_append, isComment.1, Option.some_or]
    · exact fun feed => (List.mem_append.mp feed).elim isComment.2 noFeed

/-- What follows a line begins with a separator. -/
theorem head_mem_separators {c : Char} {rest : List Char} (trailing : IsTrailing (c :: rest)) :
    c ∈ separators := by
  obtain ⟨blanks, comment, split, areBlank, noneOrComment⟩ := trailing
  cases blanks with
  | nil =>
    obtain rfl : c :: rest = comment := split
    rcases noneOrComment with impossible | isComment
    · exact absurd impossible (List.cons_ne_nil c rest)
    · obtain rfl : c = '#' := Option.some.inj isComment.1
      decide
  | cons first others =>
    obtain ⟨rfl, _⟩ := List.cons.inj split
    rcases areBlank c List.mem_cons_self with rfl | rfl | rfl <;> decide

end IsTrailing

/-- Trivia is matched as a whole, as no token. -/
theorem longestMatch_of_isTrivia {text : List Char} (nonempty : text ≠ [])
    (trivia : IsTrivia text) :
    ∃ lexeme, longestMatch text = some (lexeme, text.length) ∧ ∀ kind, lexeme ≠ .token kind := by
  have accepted : ∃ pattern : Pattern, pattern.Accepts text := by
    rcases trivia with areBlank | isComment
    · exact ⟨.blanks, nonempty, areBlank⟩
    · exact ⟨.comment, isComment⟩
  obtain ⟨pattern, accepts⟩ := accepted
  obtain ⟨lexeme, whole⟩ := exists_scan_of_accepts accepts
  exact ⟨lexeme, longestMatch_of_scan nonempty whole,
    (isTrivia_iff_of_scan nonempty whole).mp trivia⟩

/-- Blanks are matched up to the first character that is none. -/
theorem longestMatch_blanks_append {blanks rest : List Char} (areBlank : IsBlankRun blanks)
    (nonempty : blanks ≠ []) (ends : ∀ c ∈ rest.head?, ¬ IsBlankRun [c]) :
    longestMatch (blanks ++ rest) = longestMatch blanks := by
  apply longestMatch_append
  intro more isMore inRest pattern accepted
  obtain ⟨first, others, rfl⟩ := List.exists_cons_of_ne_nil nonempty
  obtain ⟨next, later, rfl⟩ := List.exists_cons_of_ne_nil isMore
  obtain ⟨behind, rfl⟩ := inRest
  have firstBlank := areBlank first List.mem_cons_self
  have separator : first ∈ separators := by
    rcases firstBlank with rfl | rfl | rfl <;> decide
  rcases Pattern.isTrivia_or_lineFeed_of_accepts accepted List.mem_cons_self separator with
    (allBlank | isComment) | feed
  · have nextBlank := allBlank next (List.mem_append_right _ List.mem_cons_self)
    exact ends next rfl (List.forall_mem_singleton.mpr nextBlank)
  · obtain rfl : first = '#' := Option.some.inj isComment.1
    exact absurd firstBlank (by decide)
  · have lengths := congrArg List.length feed
    rw [List.length_append, List.length_cons, List.length_cons, List.length_singleton] at lengths
    omega

/-- A match that is no token is skipped. -/
theorem tokenizeFrom_of_no_token {position : Position} {text : List Char} {lexeme : Lexeme}
    {length : Nat} (found : longestMatch text = some (lexeme, length))
    (noToken : ∀ kind, lexeme ≠ .token kind) :
    tokenizeFrom position text =
      tokenizeFrom (position.advance (text.take length)) (text.drop length) := by
  have inRange : lexeme.isOutOfRange (text.take length) = false := by
    cases lexeme with
    | token kind => exact absurd rfl (noToken kind)
    | _ => rfl
  have skipped : lexeme.consToken position = id := by
    cases lexeme with
    | token kind => exact absurd rfl (noToken kind)
    | _ => rfl
  rw [tokenizeFrom_of_longestMatch found, inRange, skipped]
  cases tokenizeFrom (position.advance (text.take length)) (text.drop length) <;> rfl

/-- Trivia has no tokens. -/
theorem tokenizeFrom_trivia (position : Position) {text : List Char} (trivia : IsTrivia text) :
    tokenizeFrom position text = .ok [] := by
  by_cases isEmpty : text = []
  · subst isEmpty
    exact tokenizeFrom_nil position
  · obtain ⟨lexeme, found, noToken⟩ := longestMatch_of_isTrivia isEmpty trivia
    rw [tokenizeFrom_of_no_token found noToken, List.drop_length, tokenizeFrom_nil]

/-- Blanks and a comment after them have no tokens. -/
theorem tokenizeFrom_trailing (position : Position) {text : List Char}
    (trailing : IsTrailing text) : tokenizeFrom position text = .ok [] := by
  obtain ⟨blanks, comment, rfl, areBlank, noneOrComment⟩ := trailing
  rcases noneOrComment with rfl | isComment
  · rw [List.append_nil]
    exact tokenizeFrom_trivia position (.inl areBlank)
  · cases blanks with
    | nil => exact tokenizeFrom_trivia position (.inr isComment)
    | cons first others =>
      obtain ⟨lexeme, found, noToken⟩ :=
        longestMatch_of_isTrivia (List.cons_ne_nil first others) (.inl areBlank)
      have sameMatch :
          longestMatch ((first :: others) ++ comment) = longestMatch (first :: others) := by
        refine longestMatch_blanks_append areBlank (List.cons_ne_nil first others) fun c head => ?_
        obtain rfl : c = '#' := Option.some.inj (head.symm.trans isComment.1)
        decide
      rw [tokenizeFrom_of_no_token (sameMatch.trans found) noToken, List.drop_left,
        tokenizeFrom_trivia _ (.inr isComment)]

/-- What may follow a line does not change what other text than trivia begins with. -/
theorem longestMatch_append_trailing {text trailing : List Char} (noTrivia : ¬ IsTrivia text)
    (follows : IsTrailing trailing) : longestMatch (text ++ trailing) = longestMatch text := by
  cases trailing with
  | nil => rw [List.append_nil]
  | cons c rest => exact longestMatch_append_separator noTrivia follows.head_mem_separators rest

/-- What may follow a line changes neither the tokens before it nor the first fault. -/
theorem tokenizeFrom_append_trailing (position : Position) (text : List Char)
    {trailing : List Char} (follows : IsTrailing trailing) :
    tokenizeFrom position (text ++ trailing) = tokenizeFrom position text := by
  induction text using longestMatch_induction generalizing position with
  | nil => rw [List.nil_append, tokenizeFrom_trailing position follows, tokenizeFrom_nil]
  | stuck first rest noMatch =>
    have noTrivia : ¬ IsTrivia (first :: rest) := by
      intro trivia
      obtain ⟨_, found, _⟩ := longestMatch_of_isTrivia (List.cons_ne_nil first rest) trivia
      exact absurd (noMatch.symm.trans found) (by simp)
    rw [tokenizeFrom_of_no_match noMatch]
    exact tokenizeFrom_of_no_match ((longestMatch_append_trailing noTrivia follows).trans noMatch)
  | slice text lexeme length found inductionHypothesis =>
    by_cases trivia : IsTrivia text
    · rw [tokenizeFrom_trailing position (follows.of_trivia_append trivia),
        tokenizeFrom_trivia position trivia]
    · have sameMatch := longestMatch_append_trailing trivia follows
      have within := (longestMatch_eq_some found).2.1
      rw [tokenizeFrom_of_longestMatch (sameMatch.trans found), tokenizeFrom_of_longestMatch found,
        List.take_append_of_le_length within, List.drop_append_of_le_length within,
        inductionHypothesis]

end RoomLayout

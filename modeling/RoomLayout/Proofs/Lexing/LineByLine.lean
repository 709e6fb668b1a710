import RoomLayout.Proofs.Lexing.Boundary

/-!
# Tokenizing line by line

No lexeme reaches over a line feed and nothing that is known about a position but
its line reaches into the next one. So a text is tokenized line by line: what stands
before a line feed and what stands after it are tokenized apart, and later lines only
differ in their numbers. Renumbering is a function on line numbers; it commutes with
tokenizing where it counts on by one from line to line (`CountsOn`).
-/

namespace RoomLayout

/-- The same position on another line. -/
def Position.mapLine (f : Nat → Nat) (position : Position) : Position :=
  { position with line := f position.line }

/-- The same token on another line. -/
def Token.mapLine (f : Nat → Nat) (token : Token) : Token :=
  { token with position := token.position.mapLine f }

/-- The same error, at the same column of another line. -/
def LexicalError.mapLine (f : Nat → Nat) (error : LexicalError) : LexicalError :=
  { error with position := error.position.mapLine f }

/-- What reading a text comes to when its lines have other numbers. -/
def renumbered {β : Type} (f : Nat → Nat) (onValue : β → β) :
    Except LexicalError β → Except LexicalError β
  | .error error => .error (error.mapLine f)
  | .ok value => .ok (onValue value)

/-- A renumbering that gives neighbouring lines neighbouring numbers, from a line on
for as many lines as are told. -/
def CountsOn (f : Nat → Nat) (line lines : Nat) : Prop :=
  ∀ n, line ≤ n → n < line + lines → f (n + 1) = f n + 1

namespace CountsOn

variable {f : Nat → Nat} {line : Nat}

/-- A part of the lines is counted on as the whole is. -/
theorem earlier {lines fewer : Nat} (counts : CountsOn f line lines) (isFewer : fewer ≤ lines) :
    CountsOn f line fewer :=
  fun n isLater inRange => counts n isLater (by omega)

/-- The lines after the first ones are counted on as the whole is. -/
theorem later {first others : Nat} (counts : CountsOn f line (first + others)) :
    CountsOn f (line + first) others :=
  fun n isLater inRange => counts n (by omega) (by omega)

/-- Lines that are all moved by the same distance are counted on. -/
theorem add (distance : Nat) (line lines : Nat) : CountsOn (· + distance) line lines :=
  fun n _ _ => Nat.add_right_comm n 1 distance

/-- A renumbered position leads to the renumbered one. -/
theorem advance_mapLine {position : Position} {text : List Char}
    (counts : CountsOn f position.line (text.count '\n')) :
    (position.mapLine f).advance text = (position.advance text).mapLine f := by
  induction text generalizing position with
  | nil => rfl
  | cons c rest inductionHypothesis =>
    have step : (position.mapLine f).after c = (position.after c).mapLine f := by
      unfold Position.after
      split
      · next isFeed =>
        subst isFeed
        rw [List.count_cons_self] at counts
        have next := counts position.line (Nat.le_refl _) (by omega)
        simp only [Position.mapLine, next]
      · rfl
    have rest_counts : CountsOn f (position.after c).line (rest.count '\n') := by
      have line := position.line_advance [c]
      rw [Position.advance_singleton] at line
      rw [line]
      refine later (counts.earlier ?_)
      rw [← List.count_append]
      rfl
    rw [Position.advance_cons, Position.advance_cons, step, inductionHypothesis rest_counts]

end CountsOn

/-- A lexeme leaves or drops a token whatever the numbers of the lines. -/
theorem Lexeme.consToken_mapLine (lexeme : Lexeme) (f : Nat → Nat) (position : Position)
    (tokens : List Token) :
    lexeme.consToken (position.mapLine f) (tokens.map (Token.mapLine f)) =
      (lexeme.consToken position tokens).map (Token.mapLine f) := by
  cases lexeme <;> rfl

/-- The tokens of a lexeme come before whatever is appended. -/
theorem Lexeme.consToken_append (lexeme : Lexeme) (position : Position)
    (tokens later : List Token) :
    lexeme.consToken position (tokens ++ later) = lexeme.consToken position tokens ++ later := by
  cases lexeme <;> rfl

/-- Tokenizing a text whose lines have other numbers renumbers the outcome. -/
theorem tokenizeFrom_mapLine {f : Nat → Nat} {position : Position} {text : List Char}
    (counts : CountsOn f position.line (text.count '\n')) :
    tokenizeFrom (position.mapLine f) text =
      renumbered f (List.map (Token.mapLine f)) (tokenizeFrom position text) := by
  induction text using longestMatch_induction generalizing position with
  | nil =>
    rw [tokenizeFrom_nil, tokenizeFrom_nil]
    rfl
  | stuck first rest noMatch =>
    rw [tokenizeFrom_of_no_match noMatch, tokenizeFrom_of_no_match noMatch]
    rfl
  | slice text lexeme length found inductionHypothesis =>
    have lineFeeds : (text.take length).count '\n' + (text.drop length).count '\n'
        = text.count '\n' := by
      rw [← List.count_append, List.take_append_drop]
    rw [← lineFeeds] at counts
    have step := (counts.earlier (Nat.le_add_right _ _)).advance_mapLine
    have rest := counts.later
    rw [← Position.line_advance] at rest
    rw [tokenizeFrom_of_longestMatch found, tokenizeFrom_of_longestMatch found, step,
      inductionHypothesis rest]
    split
    · rfl
    · cases tokenizeFrom (position.advance (text.take length)) (text.drop length) with
      | error error => rfl
      | ok tokens => exact congrArg Except.ok (lexeme.consToken_mapLine f position tokens)

/-- The longest match at a line feed is the line feed. -/
theorem longestMatch_lineFeed (rest : List Char) :
    longestMatch ('\n' :: rest) = some (.token .newline, 1) := by
  have alone : longestMatch ['\n'] = some (.token .newline, 1) := by decide +kernel
  cases rest with
  | nil => exact alone
  | cons next rest =>
    rw [← alone]
    change longestMatch (['\n'] ++ next :: rest) = longestMatch ['\n']
    apply longestMatch_append
    intro more isMore _ pattern accepted
    rcases Pattern.isTrivia_or_lineFeed_of_accepts accepted List.mem_cons_self (by decide) with
      trivia | feed
    · exact trivia.no_lineFeed List.mem_cons_self
    · exact isMore (List.cons.inj feed).2

/-- A text with a line feed in it is tokenized in two parts. The first fault counts;
the line feed is a token at the end of the first part. -/
theorem tokenizeFrom_append_lineFeed (position : Position) (before after : List Char) :
    tokenizeFrom position (before ++ '\n' :: after) =
      (tokenizeFrom position before).bind fun earlier =>
        (tokenizeFrom ((position.advance before).after '\n') after).map fun later =>
          earlier ++ ⟨.newline, position.advance before⟩ :: later := by
  induction before using longestMatch_induction generalizing position with
  | nil =>
    rw [List.nil_append, tokenizeFrom_of_longestMatch (longestMatch_lineFeed after),
      tokenizeFrom_nil]
    rfl
  | stuck first rest noMatch =>
    have sameMatch := longestMatch_append_lineFeed (List.cons_ne_nil first rest) after
    rw [tokenizeFrom_of_no_match noMatch]
    exact tokenizeFrom_of_no_match (sameMatch.trans noMatch)
  | slice before lexeme length found inductionHypothesis =>
    obtain ⟨positive, within, _⟩ := longestMatch_eq_some found
    have nonempty : before ≠ [] := List.ne_nil_of_length_pos (Nat.lt_of_lt_of_le positive within)
    have sameMatch := longestMatch_append_lineFeed nonempty after
    have later := inductionHypothesis (position.advance (before.take length))
    rw [← Position.advance_append, List.take_append_drop] at later
    rw [tokenizeFrom_of_longestMatch (sameMatch.trans found), tokenizeFrom_of_longestMatch found,
      List.take_append_of_le_length within, List.drop_append_of_le_length within, later]
    split
    · rfl
    · cases tokenizeFrom (position.advance (before.take length)) (before.drop length) with
      | error error => rfl
      | ok earlier =>
        cases tokenizeFrom ((position.advance before).after '\n') after with
        | error error => rfl
        | ok later => exact congrArg Except.ok (lexeme.consToken_append position _ _)

/-- After the line feed at the end of a text the next line begins. -/
theorem Position.after_lineFeed (position : Position) (text : List Char) :
    (position.advance text).after '\n' = ⟨position.line + text.count '\n' + 1, 1⟩ := by
  rw [after, if_pos rfl, line_advance]

/-- Tokenizing goes line by line. A text, a line feed and another text have the first
text's fault; or else the second one's fault, on a line that counts the lines before
it; or else the tokens of the first, a newline where it ends, and the tokens of the
second, on lines that count the lines before them. -/
theorem tokenize_append_lineFeed (before after : String) :
    tokenize (before ++ "\n" ++ after) =
      let lineFeeds := before.toList.count '\n' + 1
      match tokenize before, tokenize after with
      | .error error, _ => .error error
      | .ok _, .error error => .error (error.mapLine (· + lineFeeds))
      | .ok earlier, .ok later =>
        .ok (earlier ++ ⟨.newline, Position.start.advance before.toList⟩
          :: later.map (Token.mapLine (· + lineFeeds))) := by
  have characters : (before ++ "\n" ++ after).toList = before.toList ++ '\n' :: after.toList := by
    simp
  have start : (Position.start.advance before.toList).after '\n' =
      Position.start.mapLine (· + (before.toList.count '\n' + 1)) := by
    rw [Position.after_lineFeed, Position.mapLine, Nat.add_assoc]
    rfl
  have second : tokenizeFrom (Position.start.mapLine (· + (before.toList.count '\n' + 1)))
      after.toList = _ := tokenizeFrom_mapLine (CountsOn.add _ _ _)
  rw [tokenize, characters, tokenizeFrom_append_lineFeed, start, second, tokenize, tokenize]
  cases tokenizeFrom .start before.toList with
  | error error => rfl
  | ok earlier =>
    cases tokenizeFrom .start after.toList with
    | error error => rfl
    | ok later => rfl

end RoomLayout

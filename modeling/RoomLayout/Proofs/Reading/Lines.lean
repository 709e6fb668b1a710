import RoomLayout.Script.Line

/-!
# Cutting tokens into lines

What the logical lines of a script are: newlines end them and are dropped, empty
ones disappear, and no other token is lost.
-/

namespace RoomLayout.Line

/-- The tokens of a line. -/
def tokens (line : Line) : List Token := line.head :: line.tail

/-- Tokens without a newline are all on the first line. -/
theorem cut_of_no_newline {tokens : List Token}
    (noNewline : ∀ token ∈ tokens, token.kind ≠ .newline) :
    cut tokens = (tokens, []) := by
  induction tokens with
  | nil => rfl
  | cons token rest inductionHypothesis =>
    obtain ⟨here, later⟩ := List.forall_mem_cons.mp noNewline
    rw [cut, inductionHypothesis later]
    exact if_neg here

/-- Tokens without a newline are one line. -/
theorem ofTokens_of_no_newline {head : Token} {tail : List Token}
    (noNewline : ∀ token ∈ head :: tail, token.kind ≠ .newline) :
    ofTokens (head :: tail) = [⟨head, tail⟩] := by
  rw [ofTokens, cut_of_no_newline noNewline]
  rfl

/-- A newline ends a line: what stands before it and what stands after it are cut
apart. -/
theorem cut_append_newline {newline : Token} (isNewline : newline.kind = .newline)
    (earlier later : List Token) :
    cut (earlier ++ newline :: later) =
      ((cut earlier).1, (cut earlier).2 ++ (cut later).1 :: (cut later).2) := by
  induction earlier with
  | nil => exact if_pos isNewline
  | cons token rest inductionHypothesis =>
    rw [List.cons_append, cut, cut, inductionHypothesis]
    dsimp only
    split <;> rfl

/-- The logical lines before and after a newline are those of the whole. -/
theorem ofTokens_append_newline {newline : Token} (isNewline : newline.kind = .newline)
    (earlier later : List Token) :
    ofTokens (earlier ++ newline :: later) = ofTokens earlier ++ ofTokens later := by
  rw [ofTokens, cut_append_newline isNewline, ofTokens, ofTokens, ← List.filterMap_append]
  rfl

/-- Cutting drops the newlines and nothing else. -/
theorem flatten_cut (tokens : List Token) :
    ((cut tokens).1 :: (cut tokens).2).flatten
      = tokens.filter fun token => token.kind ≠ .newline := by
  induction tokens with
  | nil => rfl
  | cons token rest inductionHypothesis =>
    rw [cut]
    dsimp only
    split
    · next isNewline =>
      rw [List.filter_cons_of_neg (by simpa using isNewline), ← inductionHypothesis]
      rfl
    · next other =>
      rw [List.filter_cons_of_pos (by simpa using other), ← inductionHypothesis]
      rfl

/-- The lines that are left after dropping the empty ones have the same tokens. -/
theorem flatMap_tokens_filterMap (pieces : List (List Token)) :
    (pieces.filterMap ofTokens?).flatMap Line.tokens = pieces.flatten := by
  induction pieces with
  | nil => rfl
  | cons piece pieces inductionHypothesis =>
    cases piece with
    | nil => exact inductionHypothesis
    | cons head tail =>
      have first : ofTokens? (head :: tail) = some ⟨head, tail⟩ := rfl
      rw [List.filterMap_cons_some first, List.flatMap_cons, inductionHypothesis]
      rfl

/-- The logical lines of a script hold all its tokens but the newlines, in order. -/
theorem flatMap_tokens_ofTokens (tokens : List Token) :
    (ofTokens tokens).flatMap Line.tokens = tokens.filter fun token => token.kind ≠ .newline := by
  rw [ofTokens, flatMap_tokens_filterMap, flatten_cut]

/-- The tokens of a line are tokens of the script. -/
theorem exists_token_of_mem_kinds {tokens : List Token} {line : Line}
    (inScript : line ∈ ofTokens tokens) {kind : TokenKind} (member : kind ∈ line.kinds) :
    ∃ token ∈ tokens, token.kind = kind := by
  obtain ⟨token, inLine, rfl⟩ : ∃ token ∈ line.tokens, token.kind = kind :=
    List.mem_map.mp (member : kind ∈ line.tokens.map Token.kind)
  have inLines : token ∈ (ofTokens tokens).flatMap Line.tokens :=
    List.mem_flatMap.mpr ⟨line, inScript, inLine⟩
  rw [flatMap_tokens_ofTokens] at inLines
  exact ⟨token, (List.mem_filter.mp inLines).1, rfl⟩

end RoomLayout.Line

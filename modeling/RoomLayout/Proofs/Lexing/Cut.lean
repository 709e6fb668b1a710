import RoomLayout.Script.Tokenization

/-!
# Cutting a text into slices

The relation `Cut` says how a text is read: from the front, each time the longest
match, until a rest is left. It knows nothing of positions and tokens.
`tokenizeFrom_eq_ok_iff` says that tokenizing is cutting up to the end of the
text and reading the slices off one by one.
-/

namespace RoomLayout

/-- A piece of a text and the lexeme that it is. -/
structure Slice where
  text : List Char
  lexeme : Lexeme

/-- Slices cut off the front of a text one after the other, and the uncut rest. -/
inductive Cut : List Char → List Slice → List Char → Prop where
  | done (text : List Char) : Cut text [] text
  | slice {text lexeme length slices rest} (found : longestMatch text = some (lexeme, length))
      (later : Cut (text.drop length) slices rest) :
      Cut text (⟨text.take length, lexeme⟩ :: slices) rest

namespace Cut

variable {text rest : List Char} {slices : List Slice}

/-- Nothing is lost and nothing comes twice: the slices and the rest are the text. -/
theorem flatten_append (cut : Cut text slices rest) :
    (slices.map Slice.text).flatten ++ rest = text := by
  induction cut with
  | done => rfl
  | @slice text lexeme length _ _ _ _ inductionHypothesis =>
    rw [List.map_cons, List.flatten_cons, List.append_assoc, inductionHypothesis,
      List.take_append_drop]

/-- Slices are not empty. -/
theorem text_ne_nil (cut : Cut text slices rest) : ∀ slice ∈ slices, slice.text ≠ [] := by
  induction cut with
  | done => exact fun slice member => absurd member List.not_mem_nil
  | @slice text lexeme length _ _ found _ inductionHypothesis =>
    intro slice member
    rcases List.mem_cons.mp member with rfl | inLater
    · obtain ⟨positive, inText, _⟩ := longestMatch_eq_some found
      apply List.ne_nil_of_length_pos
      rw [List.length_take]
      omega
    · exact inductionHypothesis slice inLater

/-- Every slice, held against the patterns by itself, is its lexeme. -/
theorem scan_text (cut : Cut text slices rest) :
    ∀ slice ∈ slices, (scan slice.text).whole? = some slice.lexeme := by
  induction cut with
  | done => exact fun slice member => absurd member List.not_mem_nil
  | slice found _ inductionHypothesis =>
    intro slice member
    rcases List.mem_cons.mp member with rfl | inLater
    · exact (longestMatch_eq_some found).2.2
    · exact inductionHypothesis slice inLater

end Cut

/-- The tokens of slices that begin at `position`. -/
def tokensFrom (position : Position) : List Slice → List Token
  | [] => []
  | slice :: slices =>
    slice.lexeme.consToken position (tokensFrom (position.advance slice.text) slices)

/-- A text that begins with a match is cut by cutting off that match first. -/
theorem tokenizeFrom_of_longestMatch {position : Position} {text : List Char} {lexeme : Lexeme}
    {length : Nat} (found : longestMatch text = some (lexeme, length)) :
    tokenizeFrom position text =
      if lexeme.isOutOfRange (text.take length) then
        .error ⟨.numberOutOfRange (String.ofList (text.take length)), position⟩
      else
        (tokenizeFrom (position.advance (text.take length)) (text.drop length)).map
          (lexeme.consToken position) := by
  cases text with
  | nil => exact absurd found (by simp [longestMatch, growMatch])
  | cons first rest =>
    rw [tokenizeFrom]
    split
    · next none_found => exact absurd (none_found.symm.trans found) (by simp)
    · next lexeme' length' found' =>
      obtain ⟨rfl, rfl⟩ := Prod.mk.inj (Option.some.inj (found'.symm.trans found))
      dsimp only
      split
      · rfl
      · cases tokenizeFrom (position.advance ((first :: rest).take length'))
          ((first :: rest).drop length') <;> rfl

/-- A text that begins with no lexeme is not cut. -/
theorem tokenizeFrom_of_no_match {position : Position} {first : Char} {rest : List Char}
    (noMatch : longestMatch (first :: rest) = none) :
    tokenizeFrom position (first :: rest) = .error ⟨.unexpectedCharacter first, position⟩ := by
  rw [tokenizeFrom]
  split
  · rfl
  · next found => exact absurd (noMatch.symm.trans found) (by simp)

/-- A text is empty, or begins with no lexeme, or begins with a longest match and goes
on after it. -/
@[elab_as_elim] theorem longestMatch_induction {motive : List Char → Prop} (nil : motive [])
    (stuck : ∀ first rest, longestMatch (first :: rest) = none → motive (first :: rest))
    (slice : ∀ text lexeme length, longestMatch text = some (lexeme, length) →
      motive (text.drop length) → motive text) (text : List Char) : motive text := by
  induction length : text.length using Nat.strongRecOn generalizing text with
  | ind _ inductionHypothesis =>
    subst length
    cases found : longestMatch text with
    | none =>
      cases text with
      | nil => exact nil
      | cons first rest => exact stuck first rest found
    | some munch =>
      obtain ⟨lexeme, length⟩ := munch
      obtain ⟨positive, within, _⟩ := longestMatch_eq_some found
      refine slice text lexeme length found (inductionHypothesis _ ?_ _ rfl)
      rw [List.length_drop]
      omega

theorem tokenizeFrom_nil (position : Position) : tokenizeFrom position [] = .ok [] := by
  rw [tokenizeFrom]

/-- If tokenizing succeeds, the text is cut up to its end. -/
theorem exists_cut_of_tokenizeFrom {position : Position} {text : List Char} {tokens : List Token}
    (tokenized : tokenizeFrom position text = .ok tokens) :
    ∃ slices, Cut text slices []
      ∧ (∀ slice ∈ slices, slice.lexeme.isOutOfRange slice.text = false)
      ∧ tokensFrom position slices = tokens := by
  induction text using longestMatch_induction generalizing position tokens with
  | nil =>
    rw [tokenizeFrom_nil] at tokenized
    exact ⟨[], .done [], by simp, Except.ok.inj tokenized⟩
  | stuck first rest noMatch =>
    rw [tokenizeFrom_of_no_match noMatch] at tokenized
    exact absurd tokenized (by simp)
  | slice text lexeme length found inductionHypothesis =>
    rw [tokenizeFrom_of_longestMatch found] at tokenized
    split at tokenized
    · exact absurd tokenized (by simp)
    · next inRange =>
      cases later : tokenizeFrom (position.advance (text.take length)) (text.drop length) with
      | error error =>
        rw [later] at tokenized
        exact absurd tokenized (by simp [Except.map])
      | ok laterTokens =>
        rw [later] at tokenized
        obtain ⟨slices, cut, allInRange, tokensEq⟩ := inductionHypothesis later
        refine ⟨⟨text.take length, lexeme⟩ :: slices, .slice found cut, ?_, ?_⟩
        · intro slice member
          rcases List.mem_cons.mp member with rfl | inLater
          · exact Bool.not_eq_true _ ▸ inRange
          · exact allInRange slice inLater
        · rw [tokensFrom, tokensEq]
          exact Except.ok.inj tokenized

/-- A text that is cut up to its end, with no number out of range among the
slices, is tokenized into the tokens of the slices. -/
theorem Cut.tokenizeFrom_eq {position : Position} {text : List Char} {slices : List Slice}
    (cut : Cut text slices [])
    (allInRange : ∀ slice ∈ slices, slice.lexeme.isOutOfRange slice.text = false) :
    tokenizeFrom position text = .ok (tokensFrom position slices) := by
  generalize atEnd : ([] : List Char) = rest at cut
  induction cut generalizing position with
  | done =>
    subst atEnd
    rw [tokenizeFrom, tokensFrom]
  | @slice text lexeme length slices _ found _ inductionHypothesis =>
    have inRange := allInRange _ List.mem_cons_self
    have later := @inductionHypothesis (position.advance (text.take length))
      (fun slice member => allInRange slice (List.mem_cons_of_mem _ member)) atEnd
    rw [tokenizeFrom_of_longestMatch found, later, if_neg (by simp [inRange])]
    rfl

/-- Tokenizing succeeds exactly when the text is cut up to its end and no slice
is a number out of range; the tokens are those of the slices. -/
theorem tokenizeFrom_eq_ok_iff {position : Position} {text : List Char} {tokens : List Token} :
    tokenizeFrom position text = .ok tokens ↔
      ∃ slices, Cut text slices []
        ∧ (∀ slice ∈ slices, slice.lexeme.isOutOfRange slice.text = false)
        ∧ tokensFrom position slices = tokens := by
  constructor
  · exact exists_cut_of_tokenizeFrom
  · rintro ⟨slices, cut, allInRange, rfl⟩
    exact cut.tokenizeFrom_eq allInRange

end RoomLayout

import RoomLayout.Proofs.Lexing.Lexemes

/-!
# The longest match is the longest

A scan grows its buffer only while some pattern still fits it, and so never looks
at what lies behind the first buffer that fits none. `growMatch_reaches` says that
nothing is missed there: every accepted beginning of the text is reached, because
all shorter buffers are beginnings of it and fit the same pattern.
-/

namespace RoomLayout

/-- The lexeme and the length of the longest nonempty beginning of a text that some
pattern accepts. -/
structure IsMaximalMunch (text : List Char) (lexeme : Lexeme) (length : Nat) : Prop where
  nonempty : 0 < length
  within : length ≤ text.length
  lexeme : IsLexemeOf (text.take length) lexeme
  longest : ∀ longer, length < longer → longer ≤ text.length →
    ∀ pattern : Pattern, ¬ pattern.Accepts (text.take longer)

/-- A nonempty beginning of an accepted text is viable. -/
theorem isViable_of_accepts_append {pattern : Pattern} {text more : List Char}
    (nonempty : text ≠ []) (accepted : pattern.Accepts (text ++ more)) :
    (scan text).isViable = true := by
  refine List.any_eq_true.mpr ⟨pattern, pattern.mem_all, ?_⟩
  simpa using Pattern.fit_ne_mismatch_of_accepts_append nonempty accepted

/-- A scan gives up a match only for a longer one. -/
theorem growMatch_of_best {buffer : List Char} (lexeme : Lexeme) {length : Nat}
    (inBuffer : length ≤ buffer.length) (rest : List Char) :
    ∃ lexeme' length', growMatch buffer (some (lexeme, length)) rest = some (lexeme', length')
      ∧ length ≤ length' := by
  induction rest generalizing buffer lexeme length with
  | nil => exact ⟨lexeme, length, rfl, Nat.le_refl _⟩
  | cons next rest inductionHypothesis =>
    have grownLength : (buffer ++ [next]).length = buffer.length + 1 := List.length_append
    -- The best match after one more character is the grown buffer or the old one.
    have updated : ∃ lexeme' length',
        ((scan (buffer ++ [next])).whole?.map fun grown => (grown, (buffer ++ [next]).length)).or
          (some (lexeme, length)) = some (lexeme', length')
        ∧ length ≤ length' ∧ length' ≤ (buffer ++ [next]).length := by
      cases (scan (buffer ++ [next])).whole? with
      | none => exact ⟨lexeme, length, rfl, Nat.le_refl _, by omega⟩
      | some grown => exact ⟨grown, _, rfl, by omega, Nat.le_refl _⟩
    obtain ⟨lexeme', length', best, longer, inGrown⟩ := updated
    rw [growMatch_cons]
    dsimp only
    rw [best]
    split
    · obtain ⟨lexeme'', length'', found, longer'⟩ := inductionHypothesis lexeme' inGrown
      exact ⟨lexeme'', length'', found, by omega⟩
    · exact ⟨lexeme', length', rfl, longer⟩

/-- A scan ends in a match at least as long as any accepted text it could grow its
buffer to. -/
theorem growMatch_reaches {pattern : Pattern} {buffer rest : List Char}
    {best : Option (Lexeme × Nat)} {count : Nat} (positive : 0 < count)
    (inRest : count ≤ rest.length) (accepted : pattern.Accepts (buffer ++ rest.take count)) :
    ∃ lexeme length, growMatch buffer best rest = some (lexeme, length)
      ∧ buffer.length + count ≤ length := by
  induction rest generalizing buffer best count with
  | nil => exact absurd inRest (Nat.not_le_of_gt positive)
  | cons next rest inductionHypothesis =>
    obtain ⟨more, rfl⟩ := Nat.exists_eq_add_of_le' positive
    have grownLength : (buffer ++ [next]).length = buffer.length + 1 := List.length_append
    have grownAccepted : pattern.Accepts ((buffer ++ [next]) ++ rest.take more) := by
      simpa using accepted
    have viable : (scan (buffer ++ [next])).isViable = true :=
      isViable_of_accepts_append (by simp) grownAccepted
    rw [growMatch_cons]
    simp only [viable, if_true]
    by_cases atOnce : more = 0
    · -- The grown buffer is the accepted text, so it becomes the best match.
      subst atOnce
      rw [List.take_zero, List.append_nil] at grownAccepted
      obtain ⟨lexeme, whole⟩ := exists_scan_of_accepts grownAccepted
      rw [whole, Option.map_some, Option.some_or]
      obtain ⟨lexeme', length', found, longer⟩ :=
        growMatch_of_best lexeme (Nat.le_refl (buffer ++ [next]).length) rest
      exact ⟨lexeme', length', found, by omega⟩
    · obtain ⟨lexeme, length, found, longer⟩ :=
        inductionHypothesis (Nat.pos_of_ne_zero atOnce) (by simpa using inRest) grownAccepted
      exact ⟨lexeme, length, found, by omega⟩

/-- No accepted beginning of a text is longer than its longest match. -/
theorem longestMatch_reaches {pattern : Pattern} {text : List Char} {length : Nat}
    (positive : 0 < length) (within : length ≤ text.length)
    (accepted : pattern.Accepts (text.take length)) :
    ∃ lexeme longest, longestMatch text = some (lexeme, longest) ∧ length ≤ longest := by
  have reached : ∃ lexeme longest, growMatch [] none text = some (lexeme, longest)
      ∧ ([] : List Char).length + length ≤ longest :=
    growMatch_reaches positive within accepted
  simpa [longestMatch] using reached

/-- A longest match is a maximal munch. -/
theorem isMaximalMunch_of_longestMatch {text : List Char} {lexeme : Lexeme} {length : Nat}
    (found : longestMatch text = some (lexeme, length)) : IsMaximalMunch text lexeme length := by
  obtain ⟨positive, within, whole⟩ := longestMatch_eq_some found
  refine ⟨positive, within, scan_eq_some_iff.mp whole, ?_⟩
  intro longer isLonger withinToo pattern accepted
  obtain ⟨_, longest, found', reaches⟩ :=
    longestMatch_reaches (Nat.zero_lt_of_lt isLonger) withinToo accepted
  obtain ⟨rfl, rfl⟩ := Prod.mk.inj (Option.some.inj (found.symm.trans found'))
  omega

/-- A text has one maximal munch at most. -/
theorem IsMaximalMunch.unique {text : List Char} {lexeme lexeme' : Lexeme} {length length' : Nat}
    (munch : IsMaximalMunch text lexeme length) (munch' : IsMaximalMunch text lexeme' length') :
    lexeme = lexeme' ∧ length = length' := by
  have sameLength : length = length' := by
    obtain ⟨pattern, accepted, -⟩ := munch.lexeme.exists_pattern
    obtain ⟨pattern', accepted', -⟩ := munch'.lexeme.exists_pattern
    have notShorter : ¬ length < length' := fun shorter =>
      munch.longest length' shorter munch'.within pattern' accepted'
    have notLonger : ¬ length' < length := fun longer =>
      munch'.longest length longer munch.within pattern accepted
    omega
  subst sameLength
  exact ⟨munch.lexeme.unique munch'.lexeme, rfl⟩

/-- A scan finds the maximal munch. -/
theorem longestMatch_eq_some_iff {text : List Char} {lexeme : Lexeme} {length : Nat} :
    longestMatch text = some (lexeme, length) ↔ IsMaximalMunch text lexeme length := by
  refine ⟨isMaximalMunch_of_longestMatch, fun munch => ?_⟩
  obtain ⟨pattern, accepted, -⟩ := munch.lexeme.exists_pattern
  obtain ⟨lexeme', length', found, _⟩ := longestMatch_reaches munch.nonempty munch.within accepted
  obtain ⟨rfl, rfl⟩ := munch.unique (isMaximalMunch_of_longestMatch found)
  exact found

/-- A scan finds nothing where no nonempty beginning is accepted. -/
theorem longestMatch_eq_none_iff {text : List Char} :
    longestMatch text = none ↔
      ∀ length, 0 < length → length ≤ text.length →
        ∀ pattern : Pattern, ¬ pattern.Accepts (text.take length) := by
  constructor
  · intro nothing length positive within pattern accepted
    obtain ⟨_, _, found, _⟩ := longestMatch_reaches positive within accepted
    exact absurd (nothing.symm.trans found) (by simp)
  · intro noneAccepted
    cases found : longestMatch text with
    | none => rfl
    | some munch =>
      obtain ⟨lexeme, length⟩ := munch
      have isMunch := isMaximalMunch_of_longestMatch found
      obtain ⟨pattern, accepted, -⟩ := isMunch.lexeme.exists_pattern
      exact absurd accepted (noneAccepted length isMunch.nonempty isMunch.within pattern)

/-- A text that is a lexeme as a whole is its own longest match. -/
theorem longestMatch_of_scan {text : List Char} {lexeme : Lexeme} (nonempty : text ≠ [])
    (whole : (scan text).whole? = some lexeme) :
    longestMatch text = some (lexeme, text.length) := by
  refine longestMatch_eq_some_iff.mpr ⟨List.length_pos_of_ne_nil nonempty, Nat.le_refl _, ?_, ?_⟩
  · rw [List.take_length]
    exact scan_eq_some_iff.mp whole
  · intro longer isLonger within
    exact absurd within (Nat.not_le_of_gt isLonger)

/-- Scanning until no pattern fits finds the longest beginning of the text that any
pattern accepts, named by the first pattern that accepts it, and finds nothing
exactly when no nonempty beginning is accepted. -/
theorem longestMatch_maximal (text : List Char) :
    (∀ lexeme length,
      longestMatch text = some (lexeme, length) ↔ IsMaximalMunch text lexeme length)
      ∧ (longestMatch text = none ↔
          ∀ length, 0 < length → length ≤ text.length →
            ∀ pattern : Pattern, ¬ pattern.Accepts (text.take length)) :=
  ⟨fun _ _ => longestMatch_eq_some_iff, longestMatch_eq_none_iff⟩

end RoomLayout

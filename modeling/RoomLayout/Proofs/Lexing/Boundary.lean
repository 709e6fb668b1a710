import RoomLayout.Proofs.Lexing.LongestMatch

/-!
# Where a lexeme has to stop

Blank characters, hash signs and line feeds stand in blank runs, comments and line
feeds only, so no other lexeme reaches over one of them. `longestMatch_append` says
what that is worth to the scanner: a text is matched as if nothing followed it, as
long as no pattern accepts it together with what follows.
-/

namespace RoomLayout

/-- The characters that no token but the line feed holds. -/
def separators : List Char := [' ', '\t', '\r', '\n', '#']

/-- A text that is checked character by character holds no separator. -/
theorem not_mem_separators_of_all {text : List Char}
    (checked : (text.all fun c => !separators.contains c) = true) : ∀ c ∈ text, c ∉ separators := by
  intro c member separator
  have outside := List.all_eq_true.mp checked c member
  rw [List.contains_iff_mem.mpr separator] at outside
  exact Bool.noConfusion outside

/-- A test that every separator fails. -/
theorem fails_of_all_separators {test : Char → Bool}
    (checked : (separators.all fun c => !test c) = true) : ∀ c ∈ separators, test c = false :=
  fun c separator => (Bool.not_eq_true' _).mp (List.all_eq_true.mp checked c separator)

/-- A run of characters none of which is a separator holds no separator. -/
theorem IsRunOf.not_mem_separators {test : Char → Bool} {text : List Char} (run : IsRunOf test text)
    (excluded : ∀ c ∈ separators, test c = false) : ∀ c ∈ text, c ∉ separators := by
  intro c member separator
  have passes := run.2 c member
  rw [excluded c separator] at passes
  exact Bool.noConfusion passes

theorem Keyword.not_mem_separators (k : Keyword) : ∀ c ∈ k.text.toList, c ∉ separators := by
  cases k <;> exact not_mem_separators_of_all (by decide +kernel)

theorem Mark.not_mem_separators (m : Mark) : ∀ c ∈ m.text.toList, c ∉ separators := by
  cases m <;> exact not_mem_separators_of_all (by decide +kernel)

namespace Pattern

/-- A lexeme that holds a separator is trivia or a line feed. -/
theorem isTrivia_or_lineFeed_of_accepts {pattern : Pattern} {text : List Char} {c : Char}
    (accepted : pattern.Accepts text) (member : c ∈ text) (separator : c ∈ separators) :
    IsTrivia text ∨ text = ['\n'] := by
  -- Every other pattern keeps to characters that are no separators.
  have of_no_separator : (∀ c ∈ text, c ∉ separators) → IsTrivia text ∨ text = ['\n'] :=
    fun none_inside => absurd separator (none_inside c member)
  have noDigit : ∀ c ∈ separators, c.isDigit = false := fails_of_all_separators (by decide)
  cases pattern with
  | blanks => exact .inl (.inl accepted.2)
  | lineFeed => exact .inr accepted
  | comment => exact .inl (.inr accepted)
  | keyword k =>
    obtain rfl : text = k.text.toList := accepted
    exact of_no_separator k.not_mem_separators
  | mark m =>
    obtain rfl : text = m.text.toList := accepted
    exact of_no_separator m.not_mem_separators
  | alignment =>
    obtain ⟨axis, suffix, rfl, isAxis, isSuffix⟩ := accepted
    have axes : ∀ axis ∈ ['x', 'y', 'z'], axis ∉ separators :=
      not_mem_separators_of_all (by decide)
    have suffixes : ∀ suffix ∈ alignmentSuffixes,
        (suffix.all fun c => !separators.contains c) = true := by decide
    exact of_no_separator (List.forall_mem_cons.mpr
      ⟨axes axis isAxis, not_mem_separators_of_all (suffixes suffix isSuffix)⟩)
  | variableName =>
    obtain ⟨first, rest, rfl, isStart, areNameChars⟩ := accepted
    have noStart : ∀ c ∈ separators, isNameStart c = false := fails_of_all_separators (by decide)
    have noNameChar : ∀ c ∈ separators, isNameChar c = false := fails_of_all_separators (by decide)
    have startOutside : first ∉ separators := fun inside => by
      rw [noStart first inside] at isStart
      exact Bool.noConfusion isStart
    have restOutside : ∀ c ∈ rest, c ∉ separators := fun c member inside => by
      have passes := areNameChars c member
      rw [noNameChar c inside] at passes
      exact Bool.noConfusion passes
    exact of_no_separator (List.forall_mem_cons.mpr
      ⟨by decide, List.forall_mem_cons.mpr ⟨startOutside, restOutside⟩⟩)
  | integer =>
    obtain ⟨digits, run, rfl | rfl⟩ := accepted
    · exact of_no_separator (run.not_mem_separators noDigit)
    · exact of_no_separator
        (List.forall_mem_cons.mpr ⟨by decide, run.not_mem_separators noDigit⟩)
  | percentage =>
    obtain ⟨digits, run, rfl⟩ := accepted
    exact of_no_separator (List.forall_mem_append.mpr
      ⟨run.not_mem_separators noDigit, List.forall_mem_singleton.mpr (by decide)⟩)
  | word =>
    exact of_no_separator
      (IsRunOf.not_mem_separators accepted (fails_of_all_separators (by decide +kernel)))

end Pattern

/-- What a text begins with is trivia if the text is. -/
theorem IsTrivia.of_append {text more : List Char} (trivia : IsTrivia (text ++ more)) :
    IsTrivia text := by
  rcases trivia with blank | comment
  · exact .inl fun c member => blank c (List.mem_append_left more member)
  · by_cases isEmpty : text = []
    · subst isEmpty
      exact .inl fun c member => absurd member List.not_mem_nil
    · refine .inr ⟨?_, fun feed => comment.2 (List.mem_append_left more feed)⟩
      rw [← comment.1, List.head?_append_of_ne_nil _ isEmpty]

/-- Trivia holds no line feed. -/
theorem IsTrivia.no_lineFeed {text : List Char} (trivia : IsTrivia text) : '\n' ∉ text := by
  rcases trivia with blank | comment
  · intro feed
    exact absurd (blank '\n' feed) (by decide)
  · exact comment.2

/-- A text is matched as if nothing followed it, if no pattern accepts it together
with a part of what follows. -/
theorem longestMatch_append {text rest : List Char}
    (stops : ∀ more, more ≠ [] → more <+: rest → ∀ pattern : Pattern,
      ¬ pattern.Accepts (text ++ more)) :
    longestMatch (text ++ rest) = longestMatch text := by
  -- A part of the whole that is accepted is a part of the text.
  have inText : ∀ {pattern : Pattern} {length}, length ≤ (text ++ rest).length →
      pattern.Accepts ((text ++ rest).take length) →
      length ≤ text.length ∧ (text ++ rest).take length = text.take length := by
    intro pattern length within accepted
    rcases Nat.lt_or_ge text.length length with beyond | inside
    · obtain ⟨count, rfl⟩ := Nat.exists_eq_add_of_le beyond.le
      have inRest : 0 < count ∧ count ≤ rest.length := by
        rw [List.length_append] at within
        omega
      rw [List.take_length_add_append] at accepted
      refine absurd accepted (stops _ ?_ (List.take_prefix count rest) pattern)
      apply List.ne_nil_of_length_pos
      rw [List.length_take]
      omega
    · exact ⟨inside, List.take_append_of_le_length inside⟩
  cases found : longestMatch text with
  | none =>
    cases foundInAll : longestMatch (text ++ rest) with
    | none => rfl
    | some munch =>
      have isMunch := isMaximalMunch_of_longestMatch foundInAll
      obtain ⟨pattern, accepted, -⟩ := isMunch.lexeme.exists_pattern
      obtain ⟨within, same⟩ := inText isMunch.within accepted
      rw [same] at accepted
      obtain ⟨_, _, found', _⟩ := longestMatch_reaches isMunch.nonempty within accepted
      exact absurd (found.symm.trans found') (by simp)
  | some munch =>
    obtain ⟨lexeme, length⟩ := munch
    have isMunch := isMaximalMunch_of_longestMatch found
    refine longestMatch_eq_some_iff.mpr ⟨isMunch.nonempty, ?_, ?_, ?_⟩
    · have inside := isMunch.within
      rw [List.length_append]
      omega
    · rw [List.take_append_of_le_length isMunch.within]
      exact isMunch.lexeme
    · intro longer isLonger within pattern accepted
      obtain ⟨withinText, same⟩ := inText within accepted
      rw [same] at accepted
      exact isMunch.longest longer isLonger withinText pattern accepted

/-- A line feed ends every match before it. -/
theorem longestMatch_append_lineFeed {text : List Char} (nonempty : text ≠ [])
    (rest : List Char) : longestMatch (text ++ '\n' :: rest) = longestMatch text := by
  apply longestMatch_append
  intro more isMore inRest pattern accepted
  obtain ⟨first, others, rfl⟩ := List.exists_cons_of_ne_nil isMore
  obtain ⟨rfl, _⟩ := List.cons_prefix_cons.mp inRest
  have inside : '\n' ∈ text ++ '\n' :: others := by simp
  rcases Pattern.isTrivia_or_lineFeed_of_accepts accepted inside (by decide) with trivia | feed
  · exact trivia.no_lineFeed inside
  · have short := congrArg List.length feed
    have long := List.length_pos_of_ne_nil nonempty
    rw [List.length_append, List.length_cons, List.length_singleton] at short
    omega

/-- A separator ends every match before it, except in trivia. -/
theorem longestMatch_append_separator {text : List Char} (noTrivia : ¬ IsTrivia text) {c : Char}
    (separator : c ∈ separators) (rest : List Char) :
    longestMatch (text ++ c :: rest) = longestMatch text := by
  apply longestMatch_append
  intro more isMore inRest pattern accepted
  obtain ⟨first, others, rfl⟩ := List.exists_cons_of_ne_nil isMore
  obtain ⟨rfl, _⟩ := List.cons_prefix_cons.mp inRest
  have inside : first ∈ text ++ first :: others := by simp
  rcases Pattern.isTrivia_or_lineFeed_of_accepts accepted inside separator with trivia | feed
  · exact noTrivia trivia.of_append
  · have isEmpty : text = [] := by
      have short := congrArg List.length feed
      rw [List.length_append, List.length_cons, List.length_singleton] at short
      exact List.eq_nil_of_length_eq_zero (by omega)
    subst isEmpty
    exact noTrivia (.inl fun c member => absurd member List.not_mem_nil)

end RoomLayout

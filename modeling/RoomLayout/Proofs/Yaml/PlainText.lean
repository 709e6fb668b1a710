import RoomLayout.Yaml.Style
import RoomLayout.Proofs.Yaml.Seeking

/-!
# Text without quotes

A text that fits without quotes is read back from between the place where it starts and
the end of its line: no part of it means anything of its own, and the next token lies too
far to the left to belong to it.
-/

namespace RoomLayout.Yaml

/-- A printable character that is no line break is no tab: its only blank is the space. -/
theorem eq_space_of_isBlank {c : Char} (blank : isBlank c = true)
    (printable : isPrintable c = true) : c = ' ' := by
  rcases Bool.or_eq_true_iff.mp blank with space | tab
  · exact of_decide_eq_true space
  · obtain rfl : c = '\t' := of_decide_eq_true tab
    exact absurd printable (by decide)

/-- The characters of a range are printable if its ends are. -/
theorem isPrintable_of_range {c : Char} {first last : UInt32}
    (range : (c.val ≥ first && c.val ≤ last) = true) (ends : 32 ≤ first.toNat ∧ last.toNat ≤ 126) :
    isPrintable c = true := by
  obtain ⟨low, high⟩ := Bool.and_eq_true_iff.mp range
  have low : ' ' ≤ c := Nat.le_trans ends.1 (of_decide_eq_true low)
  have high : c ≤ '~' := Nat.le_trans (of_decide_eq_true high) ends.2
  simp [isPrintable, low, high]

/-- What is left of a text without quotes behind some blanks. -/
structure PlainRest (blanks remaining : List Char) : Prop where
  printable : ∀ c ∈ remaining, isPrintable c = true
  noBreak : ∀ c ∈ remaining, isBreak c = false
  noKeyMark : holdsKeyMark remaining = false
  noComment : holdsComment remaining = false
  noCommentHere : blanks ≠ [] → remaining.head? ≠ some '#'
  noBlankAtEnd : remaining.getLast? ≠ some ' '
  noBlankLeft : remaining = [] → blanks = []

namespace PlainRest

variable {blanks rest : List Char} {c : Char}

/-- Behind one more space. -/
theorem space (whole : PlainRest blanks (' ' :: rest)) : PlainRest (' ' :: blanks) rest where
  printable d member := whole.printable d (List.mem_cons_of_mem _ member)
  noBreak d member := whole.noBreak d (List.mem_cons_of_mem _ member)
  noKeyMark := (Bool.or_eq_false_iff.mp whole.noKeyMark).2
  noComment := by
    cases rest with
    | nil => rfl
    | cons d rest => exact (Bool.or_eq_false_iff.mp whole.noComment).2
  noCommentHere _ comment := by
    cases rest with
    | nil => exact nomatch comment
    | cons d rest =>
      obtain rfl : d = '#' := Option.some.inj comment
      exact absurd whole.noComment (by simp [holdsComment, hasNeighbours, isSpacing, isBlank])
  noBlankAtEnd := by
    intro blank
    cases rest with
    | nil => exact nomatch blank
    | cons d rest => exact whole.noBlankAtEnd (by rwa [List.getLast?_cons_cons])
  noBlankLeft := by
    rintro rfl
    exact absurd rfl whole.noBlankAtEnd

/-- Behind a character of a word. -/
theorem word (whole : PlainRest blanks (c :: rest)) : PlainRest [] rest where
  printable d member := whole.printable d (List.mem_cons_of_mem _ member)
  noBreak d member := whole.noBreak d (List.mem_cons_of_mem _ member)
  noKeyMark := (Bool.or_eq_false_iff.mp whole.noKeyMark).2
  noComment := by
    cases rest with
    | nil => rfl
    | cons d rest => exact (Bool.or_eq_false_iff.mp whole.noComment).2
  noCommentHere nonempty := absurd rfl nonempty
  noBlankAtEnd := by
    intro blank
    cases rest with
    | nil => exact nomatch blank
    | cons d rest => exact whole.noBlankAtEnd (by rwa [List.getLast?_cons_cons])
  noBlankLeft _ := rfl

/-- A word goes on with a character that neither ends a text nor starts a comment. -/
theorem goesOn (whole : PlainRest blanks (c :: rest)) (behind : List Char) :
    endsPlain false (c :: (rest ++ behind)) = false
      ∧ (!(Spacing.blanks blanks).isEmpty && c = '#') = false := by
  constructor
  · have noColon := (Bool.or_eq_false_iff.mp whole.noKeyMark).1
    cases rest with
    | nil =>
      have noColon : c ≠ ':' := by simpa [startsWithSpacing] using noColon
      simp [endsPlain, noColon]
    | cons d rest => simpa [endsPlain, startsWithSpacing] using noColon
  · cases blanks with
    | nil => rfl
    | cons blank blanks =>
      have noComment : c ≠ '#' := fun comment =>
        whole.noCommentHere (List.cons_ne_nil _ _) (congrArg some comment)
      simp [noComment]

end PlainRest

/-- A text that fits without quotes is all there is to read. -/
theorem plainRest_of_fitsPlain {text : List Char} (fits : fitsPlain text = true) :
    PlainRest [] text := by
  simp only [fitsPlain, isWritable, Bool.and_eq_true, Bool.not_eq_true', bne_iff_ne, ne_eq,
    List.all_eq_true, List.any_eq_false] at fits
  obtain ⟨⟨⟨⟨⟨⟨⟨⟨_, printable⟩, noBreak⟩, _⟩, noBlankAtEnd⟩, _⟩, _⟩, noKeyMark⟩, noComment⟩ := fits
  exact {
    printable := printable
    noBreak := fun c member => Bool.eq_false_iff.mpr (noBreak c member)
    noKeyMark := noKeyMark
    noComment := noComment
    noCommentHere := fun nonempty => absurd rfl nonempty
    noBlankAtEnd := noBlankAtEnd
    noBlankLeft := fun _ => rfl }

theorem ne_nil_of_fitsPlain {text : List Char} (fits : fitsPlain text = true) : text ≠ [] := by
  rintro rfl
  exact absurd fits (by decide)

/-- A text that fits without quotes can start without quotes, whatever comes behind it. -/
theorem startsPlain_of_fitsPlain {text : List Char} (fits : fitsPlain text = true)
    (behind : List Char) : startsPlain false (text ++ behind) = true := by
  have whole := plainRest_of_fitsPlain fits
  simp only [fitsPlain, Bool.and_eq_true, Bool.not_eq_true', bne_iff_ne, ne_eq] at fits
  obtain ⟨⟨⟨⟨⟨⟨⟨⟨nonempty, _⟩, _⟩, noSpace⟩, _⟩, _⟩, noIndicator⟩, _⟩, _⟩ := fits
  obtain - | ⟨c, rest⟩ := text
  · exact absurd nonempty (by decide)
  obtain ⟨noReserved, noMark⟩ := Bool.or_eq_false_iff.mp noIndicator
  have noSpacing : isSpacing c = false := by
    refine Bool.or_eq_false_iff.mpr ⟨?_, whole.noBreak c List.mem_cons_self⟩
    refine Bool.eq_false_iff.mpr fun blank => noSpace ?_
    rw [eq_space_of_isBlank blank (whole.printable c List.mem_cons_self)]
    rfl
  -- A question mark, a colon or a dash has a character of its word right behind it.
  have goesOn (mark : c = '?' ∨ c = ':' ∨ c = '-') :
      startsWithSpacing (rest ++ behind) = false := by
    have noBlankBehind : startsWithSpacing rest = false := by
      rcases mark with rfl | rfl | rfl <;> simpa using noMark
    cases rest with
    | nil => exact absurd noBlankBehind (by decide)
    | cons d rest => exact noBlankBehind
  rw [List.cons_append, startsPlain, noSpacing, noReserved, if_neg (by simp)]
  split
  · next dash => simp [goesOn (.inr (.inr dash))]
  · split
    · next mark =>
      have mark : c = '?' ∨ c = ':' := by simpa using mark
      simp [goesOn (mark.imp_right .inl)]
    · rfl

section Reading

variable {margin : Nat} {dashes : Bool} {suffix : List Char}

/-- The margin of a further line is passed over. -/
theorem readPlain_spaces (text : List Char) (first : Option Char) (later : List Char)
    (line column count : Nat) (more : List Char) :
    readPlain false margin text (.breaks first later) line column (spaces count ++ more)
      = readPlain false margin text (.breaks first later) line (column + count) more := by
  induction count generalizing column with
  | zero => rfl
  | succ count inductionHypothesis =>
    rw [spaces_succ, List.cons_append, readPlain, if_pos (by decide), if_neg (by simp),
      Spacing.addBlank, inductionHypothesis, Nat.add_assoc, Nat.add_comm 1]

/-- What is left of a text is read up to what stands behind it. -/
theorem readPlain_rest {blanks remaining : List Char} (whole : PlainRest blanks remaining)
    (text : List Char) (line column : Nat) (behind : List Char)
    (noMarker : column = 0 → startsWithMarker (remaining ++ behind) = false) :
    readPlain false margin text (.blanks blanks) line column (remaining ++ behind)
      = readPlain false margin (remaining.reverse ++ (blanks ++ text)) (.blanks []) line
          (column + remaining.length) behind := by
  induction remaining generalizing blanks text column with
  | nil =>
    rw [whole.noBlankLeft rfl]
    rfl
  | cons c rest inductionHypothesis =>
    have noBreak := whole.noBreak c List.mem_cons_self
    have further : column + 1 = 0 → startsWithMarker (rest ++ behind) = false :=
      fun first => absurd first (Nat.succ_ne_zero column)
    rw [List.length_cons, Nat.add_comm rest.length, ← Nat.add_assoc, List.cons_append]
    cases blank : isBlank c with
    | true =>
      obtain rfl := eq_space_of_isBlank blank (whole.printable c List.mem_cons_self)
      rw [readPlain, if_pos blank, if_neg (by simp), Spacing.addBlank,
        inductionHypothesis whole.space text _ further]
      simp
    | false =>
      obtain ⟨noEnd, noComment⟩ := whole.goesOn behind
      rw [readPlain, blank, noBreak, if_neg (by simp), if_neg (by simp), if_neg, if_neg (by simp),
        noEnd, if_neg (by simp), Spacing.none, inductionHypothesis whole.word _ _ further]
      · simp [Spacing.foldedReversed]
      · rw [noComment]
        simpa [Spacing.hasBreak] using noMarker

/-- A text ends with its line, since the next token lies outside. -/
theorem readPlain_lineEnd (follows : Follows margin dashes suffix) (text : List Char)
    (line column : Nat) :
    ∃ after : Place, readPlain false margin text (.blanks []) line column ('\n' :: suffix)
        = some (String.ofList text.reverse, after) ∧ after.Leaves suffix := by
  rw [readPlain, if_neg (by decide), if_pos (by decide), Spacing.addBreak]
  cases follows with
  | nothing => exact ⟨_, rfl, line + 1, rfl⟩
  | @token tokenColumn c rest outside start noColon noDash =>
    refine ⟨⟨c :: rest, line + 1, tokenColumn, true⟩, ?_, Place.leaves_token _ _ start _⟩
    rw [readPlain_spaces, Nat.zero_add, readPlain, start.noBlank, start.noBreak,
      if_neg (by simp), if_neg (by simp), if_pos (by simp [Spacing.hasBreak, outside])]
    rfl

/-- A text that fits without quotes and ends with its line is read back. -/
theorem Place.plain?_line (follows : Follows margin dashes suffix) {text : String}
    (fits : fitsPlain text.toList = true) (line : Nat) {column : Nat} (notFirst : 0 < column)
    (keyAllowed : Bool) :
    ∃ after : Place,
      (Place.mk (text.toList ++ '\n' :: suffix) line column keyAllowed).plain? false margin
        = some ({ style := .plain, text }, after)
      ∧ after.Leaves suffix := by
  obtain ⟨after, read, leaves⟩ := readPlain_lineEnd follows text.toList.reverse line
    (column + text.toList.length)
  refine ⟨after, ?_, leaves⟩
  rw [Place.plain?, if_pos (startsPlain_of_fitsPlain fits _), Spacing.none,
    readPlain_rest (plainRest_of_fitsPlain fits) _ _ _ _
      (fun first => absurd first (Nat.ne_of_gt notFirst)), List.nil_append, List.append_nil, read]
  simp

theorem startsWithMarker_cons {c : Char} (noDash : c ≠ '-') (noDot : c ≠ '.')
    (behind : List Char) : startsWithMarker (c :: behind) = false := by
  simp [startsWithMarker, noDash, noDot]

/-- A text that fits without quotes is no mark between documents, also with more behind it. -/
theorem not_startsWithMarker_of_fitsPlain {text : List Char} (fits : fitsPlain text = true)
    (c : Char) (noDash : c ≠ '-') (noDot : c ≠ '.') (behind : List Char) :
    startsWithMarker (text ++ c :: behind) = false := by
  simp only [fitsPlain, Bool.and_eq_true, Bool.not_eq_true'] at fits
  have noMarker : startsLikeDocument text = false := fits.1.1.1.2
  match text with
  | [] => exact startsWithMarker_cons noDash noDot behind
  | [first] => simp [startsWithMarker, noDash, noDot]
  | [first, second] => simp [startsWithMarker, noDash, noDot]
  | first :: second :: third :: rest =>
    simp only [List.cons_append]
    unfold startsWithMarker
    split
    · next heq => simp_all [startsLikeDocument]
    · next heq => simp_all [startsLikeDocument]
    · rfl

/-- A text that fits without quotes is read back up to the colon that makes a key of it. -/
theorem Place.plain?_key {text : String} (fits : fitsPlain text.toList = true) {behind : List Char}
    (spaced : startsWithSpacing behind = true) (margin line column : Nat) (keyAllowed : Bool) :
    (Place.mk (text.toList ++ ':' :: behind) line column keyAllowed).plain? false margin
      = some ({ style := .plain, text },
          ⟨':' :: behind, line, column + text.toList.length, false⟩) := by
  rw [Place.plain?, if_pos (startsPlain_of_fitsPlain fits _), Spacing.none,
    readPlain_rest (plainRest_of_fitsPlain fits) _ _ _ _ fun _ =>
      not_startsWithMarker_of_fitsPlain fits ':' (by decide) (by decide) behind,
    readPlain, if_neg (by decide), if_neg (by decide), if_neg, if_neg (by simp), if_pos]
  · simp [Spacing.hasBreak]
  · simpa [endsPlain] using spaced
  · simp [Spacing.hasBreak, Spacing.isEmpty, startsWithMarker]

end Reading

end RoomLayout.Yaml

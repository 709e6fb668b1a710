import RoomLayout.Proofs.Yaml.PlainText

/-!
# Text in single quotes

A text that fits in single quotes is read back from them. Its lines are folded, which loses
nothing of a text in which breaks and spaces are apart and no break is a line feed.
-/

namespace RoomLayout.Yaml

/-- What is left of a text in single quotes behind some spacing. -/
structure QuotedRest (spacing : Spacing) (remaining : List Char) : Prop where
  printable : ∀ c ∈ remaining, isPrintable c = true
  noLineFeed : '\n' ∉ remaining
  noSpacedBreak : hasSpacedBreak remaining = false
  /-- Blanks are not followed by a break. -/
  noBreakHere : ∀ reversed, spacing = .blanks reversed → reversed ≠ [] →
    ∀ c rest, remaining = c :: rest → isBreak c = false
  /-- A break that is kept is not followed by a space. -/
  noSpaceHere : ∀ first later, spacing = .breaks first later →
    remaining.head? ≠ some ' ' ∧ ∃ c, first = some c ∧ c ≠ '\n'

namespace QuotedRest

variable {spacing : Spacing} {rest : List Char} {c : Char}

theorem tail_noSpacedBreak (whole : QuotedRest spacing (c :: rest)) :
    hasSpacedBreak rest = false := by
  cases rest with
  | nil => rfl
  | cons d rest => exact (Bool.or_eq_false_iff.mp whole.noSpacedBreak).2

/-- Behind a space, which no break comes before. -/
theorem space {blanks : List Char} (whole : QuotedRest (.blanks blanks) (' ' :: rest)) :
    QuotedRest (.blanks (' ' :: blanks)) rest where
  printable d member := whole.printable d (List.mem_cons_of_mem _ member)
  noLineFeed member := whole.noLineFeed (List.mem_cons_of_mem _ member)
  noSpacedBreak := whole.tail_noSpacedBreak
  noBreakHere _ _ _ d rest same := by
    subst same
    have apart := (Bool.or_eq_false_iff.mp whole.noSpacedBreak).1
    simpa [isBreak] using apart
  noSpaceHere _ _ same := nomatch same

/-- Behind a break, which no blank comes before. -/
theorem lineBreak (whole : QuotedRest spacing (c :: rest)) (isEnd : isBreak c = true) :
    QuotedRest (spacing.addBreak c) rest where
  printable d member := whole.printable d (List.mem_cons_of_mem _ member)
  noLineFeed member := whole.noLineFeed (List.mem_cons_of_mem _ member)
  noSpacedBreak := whole.tail_noSpacedBreak
  noBreakHere _ same := by cases spacing <;> exact nomatch same
  noSpaceHere first later same := by
    constructor
    · intro space
      cases rest with
      | nil => exact nomatch space
      | cons d rest =>
        obtain rfl : d = ' ' := Option.some.inj space
        have apart := (Bool.or_eq_false_iff.mp whole.noSpacedBreak).1
        simp [isEnd] at apart
    · cases spacing with
      | blanks blanks =>
        obtain ⟨rfl, -⟩ := Spacing.breaks.inj same
        exact ⟨c, rfl, fun lineFeed => whole.noLineFeed (lineFeed ▸ List.mem_cons_self)⟩
      | breaks first' later' =>
        obtain ⟨rfl, -⟩ := Spacing.breaks.inj same
        exact (whole.noSpaceHere _ _ rfl).2

/-- Behind a character of a word. -/
theorem word (whole : QuotedRest spacing (c :: rest)) : QuotedRest (.blanks []) rest where
  printable d member := whole.printable d (List.mem_cons_of_mem _ member)
  noLineFeed member := whole.noLineFeed (List.mem_cons_of_mem _ member)
  noSpacedBreak := whole.tail_noSpacedBreak
  noBreakHere _ same nonempty := absurd (Spacing.blanks.inj same).symm nonempty
  noSpaceHere _ _ same := nomatch same

/-- No break is lost where lines are folded. -/
theorem foldedReversed_addBreak (whole : QuotedRest spacing (c :: rest))
    (isEnd : isBreak c = true) :
    (spacing.addBreak c).foldedReversed = c :: spacing.foldedReversed := by
  have noLineFeed : c ≠ '\n' := fun lineFeed => whole.noLineFeed (lineFeed ▸ List.mem_cons_self)
  cases spacing with
  | blanks blanks =>
    cases blanks with
    | nil => simp [Spacing.addBreak, Spacing.foldedReversed, noLineFeed]
    | cons blank blanks =>
      have := whole.noBreakHere _ rfl (List.cons_ne_nil _ _) c rest rfl
      exact absurd isEnd (Bool.eq_false_iff.mp this)
  | breaks first later =>
    obtain ⟨-, d, rfl, noLineFeedBefore⟩ := whole.noSpaceHere _ _ rfl
    simp [Spacing.addBreak, Spacing.foldedReversed, noLineFeedBefore]

end QuotedRest

/-- The margin behind a break is passed over. -/
theorem readQuoted_spaces (text : List Char) (first : Option Char) (later : List Char)
    (line column margin : Nat) (behind : List Char) :
    readQuoted false 0 text (.breaks first later) line column (spaces margin ++ behind)
      = readQuoted false 0 text (.breaks first later) line (column + margin) behind := by
  induction margin generalizing column with
  | zero => rfl
  | succ margin inductionHypothesis =>
    rw [spaces_succ, List.cons_append, readQuoted, if_neg (by simp [startsWithMarker]),
      if_pos (by decide), Spacing.addBlank, inductionHypothesis, Nat.add_assoc, Nat.add_comm 1]

/-- The margin that a line needs, if one was begun. -/
theorem readQuoted_margin {indent : Nat} (positive : 0 < indent) (text : List Char)
    (spacing : Spacing) (line column : Nat) (notFirst : spacing.hasBreak = false → 0 < column)
    (behind : List Char) :
    ∃ column', 0 < column' ∧
      readQuoted false 0 text spacing line column
          ((if spacing.hasBreak then spaces indent else []) ++ behind)
        = readQuoted false 0 text spacing line column' behind := by
  cases spacing with
  | blanks blanks => exact ⟨column, notFirst rfl, rfl⟩
  | breaks first later => exact ⟨column + indent, by omega, readQuoted_spaces _ _ _ _ _ _ _⟩

/-- A character other than a break is read back; what comes before it is folded. A space
counts among the blanks. -/
theorem readQuoted_character {spacing : Spacing} {c : Char} {rest : List Char}
    (whole : QuotedRest spacing (c :: rest)) (noBreak : isBreak c = false) (text : List Char)
    (line : Nat) {column : Nat} (notFirst : 0 < column) (behind : List Char) :
    ∃ spacing' text' column', 0 < column' ∧ spacing'.hasBreak = false ∧ QuotedRest spacing' rest
      ∧ spacing'.foldedReversed ++ text' = c :: (spacing.foldedReversed ++ text)
      ∧ readQuoted false 0 text spacing line column
            ((if c = '\x27' then ['\x27', '\x27'] else [c]) ++ behind)
          = readQuoted false 0 text' spacing' line column' behind := by
  have noMarker (more : List Char) : ¬((column = 0 && startsWithMarker more) = true) := by
    simp [Nat.ne_of_gt notFirst]
  cases blank : isBlank c with
  | true =>
    obtain rfl := eq_space_of_isBlank blank (whole.printable c List.mem_cons_self)
    cases spacing with
    | breaks first later => exact absurd rfl (whole.noSpaceHere _ _ rfl).1
    | blanks blanks =>
      refine ⟨.blanks (' ' :: blanks), text, column + 1, Nat.succ_pos _, rfl, whole.space, rfl, ?_⟩
      rw [if_neg (by decide), List.singleton_append, readQuoted, if_neg (noMarker _), if_pos blank,
        Spacing.addBlank]
  | false =>
    by_cases quote : c = '\x27'
    · subst quote
      refine ⟨.none, '\x27' :: (spacing.foldedReversed ++ text), column + 1 + 1, Nat.succ_pos _,
        rfl, whole.word, rfl, ?_⟩
      rw [if_pos rfl, List.cons_append, List.singleton_append, readQuoted, if_neg (noMarker _),
        if_neg (by decide), if_neg (by decide)]
      simp only [Bool.not_false, Bool.and_true, decide_true, if_true, List.head?_cons]
      rw [readQuoted]
    · refine ⟨.none, c :: (spacing.foldedReversed ++ text), column + 1, Nat.succ_pos _, rfl,
        whole.word, rfl, ?_⟩
      rw [if_neg quote, List.singleton_append, readQuoted, if_neg (noMarker _), blank, noBreak]
      simp only [Bool.false_eq_true, quote, decide_false, Bool.false_and, Bool.and_false, if_false]

/-- A break is read back. -/
theorem readQuoted_break {c : Char} (printable : isPrintable c = true) (isEnd : isBreak c = true)
    (text : List Char) (spacing : Spacing) (line column : Nat) (behind : List Char) :
    readQuoted false 0 text spacing line column (c :: behind)
      = readQuoted false 0 text (spacing.addBreak c) (line + 1) 0 behind := by
  have noMarker : startsWithMarker (c :: behind) = false :=
    startsWithMarker_cons (by rintro rfl; exact absurd isEnd (by decide))
      (by rintro rfl; exact absurd isEnd (by decide)) behind
  have noBlank : isBlank c = false := by
    refine Bool.eq_false_iff.mpr fun blank => absurd isEnd ?_
    rw [eq_space_of_isBlank blank printable]
    decide
  rw [readQuoted, if_neg (by simp [noMarker]), noBlank, if_neg (by simp), if_pos isEnd]

/-- What is left of a text in single quotes is read back. -/
theorem readQuoted_singleQuotedBody {indent : Nat} (positive : 0 < indent) {spacing : Spacing}
    {remaining : List Char} (whole : QuotedRest spacing remaining) (text : List Char)
    (line column : Nat) (notFirst : spacing.hasBreak = false → 0 < column)
    {behind : List Char} (closed : behind.head? ≠ some '\x27') :
    ∃ line' column', readQuoted false 0 text spacing line column
        (singleQuotedBody indent spacing.hasBreak remaining ++ '\x27' :: behind)
      = some (String.ofList ((spacing.foldedReversed ++ text).reverse ++ remaining),
          ⟨behind, line', column', false⟩) := by
  induction remaining generalizing spacing text line column with
  | nil =>
    obtain ⟨column', notFirst', read⟩ := readQuoted_margin positive text spacing line column
      notFirst ('\x27' :: behind)
    refine ⟨line, column' + 1, ?_⟩
    rw [singleQuotedBody, read, readQuoted, if_neg (by simp [Nat.ne_of_gt notFirst']),
      if_neg (by decide), if_neg (by decide)]
    simp [closed]
  | cons c rest inductionHypothesis =>
    cases isEnd : isBreak c with
    | true =>
      obtain ⟨line', column', read⟩ := inductionHypothesis (whole.lineBreak isEnd) text (line + 1) 0
        (by cases spacing <;> exact nofun)
      have begun : (spacing.addBreak c).hasBreak = true := by cases spacing <;> rfl
      refine ⟨line', column', ?_⟩
      rw [singleQuotedBody, if_pos isEnd, List.cons_append,
        readQuoted_break (whole.printable c List.mem_cons_self) isEnd, ← begun, read,
        whole.foldedReversed_addBreak isEnd]
      simp
    | false =>
      rw [singleQuotedBody, isEnd, if_neg (by simp), List.append_assoc, List.append_assoc]
      obtain ⟨textColumn, notFirst', readMargin⟩ := readQuoted_margin positive text spacing line
        column notFirst ((if c = '\x27' then ['\x27', '\x27'] else [c])
          ++ (singleQuotedBody indent false rest ++ '\x27' :: behind))
      obtain ⟨spacing', text', restColumn, notFirst', noBreak, whole', same, read⟩ :=
        readQuoted_character whole isEnd text line notFirst'
          (singleQuotedBody indent false rest ++ '\x27' :: behind)
      obtain ⟨line', column', readRest⟩ := inductionHypothesis whole' text' line restColumn
        fun _ => notFirst'
      rw [noBreak] at readRest
      refine ⟨line', column', ?_⟩
      rw [readMargin, read, readRest, same]
      simp

/-- A text that fits in single quotes, without line feeds, is read back. -/
theorem Place.quoted?_single {indent : Nat} (positive : 0 < indent) {text : String}
    (fits : fitsSingleQuotes text.toList = true) (noLineFeed : '\n' ∉ text.toList)
    (line column : Nat) (keyAllowed : Bool) (behind : List Char)
    (closed : behind.head? ≠ some '\x27') :
    ∃ line' column',
      (Place.mk ('\x27' :: singleQuotedBody indent false text.toList ++ '\x27' :: behind) line
          column keyAllowed).quoted?
        = some ({ style := .singleQuoted, text }, ⟨behind, line', column', false⟩) := by
  obtain ⟨printable, apart⟩ := Bool.and_eq_true_iff.mp fits
  have whole : QuotedRest .none text.toList := {
    printable := List.all_eq_true.mp printable
    noLineFeed := noLineFeed
    noSpacedBreak := by simpa using apart
    noBreakHere := fun _ same nonempty => absurd (Spacing.blanks.inj same).symm nonempty
    noSpaceHere := fun _ _ same => nomatch same }
  obtain ⟨line', column', read⟩ := readQuoted_singleQuotedBody positive whole [] line (column + 1)
    (fun _ => Nat.succ_pos column) closed
  refine ⟨line', column', ?_⟩
  have read : readQuoted false 0 [] .none line (column + 1)
      (singleQuotedBody indent false text.toList ++ '\x27' :: behind)
    = some (text, ⟨behind, line', column', false⟩) := by
    refine read.trans ?_
    simp [Spacing.none, Spacing.foldedReversed]
  simp [Place.quoted?, read]

end RoomLayout.Yaml

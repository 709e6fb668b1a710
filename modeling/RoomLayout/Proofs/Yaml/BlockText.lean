import RoomLayout.Proofs.Yaml.PlainText

/-!
# Text in literal blocks

A text that is written as a literal block is read back. While the lines are read, the text
so far lies in three parts (`BlockText.wholeReversed`), since only the end of the block
says which breaks count. The header says how many: what is dropped or kept at the end is
what the writer added or the text ends with.
-/

namespace RoomLayout.Yaml

/-! ## Headers -/

/-- What becomes of the breaks at the end of a literal block that is written for a text. -/
def literalChomping (text : List Char) : Chomping :=
  match text.reverse with
  | [] => .strip
  | [last] => if isBreak last then .keep else .strip
  | last :: previous :: _ =>
    if !isBreak last then .strip else if isBreak previous then .keep else .clip

/-- The width of the margin that is written for a text, if its first line hides it. -/
def literalWidth (text : List Char) : Option Nat :=
  match text with
  | [] => none
  | c :: _ => if c = ' ' || isBreak c then some 2 else none

/-- The header of a literal block is read back. -/
theorem read_literalHeader (text behind : List Char) :
    ∃ rest, literalHeader text = '|' :: rest
      ∧ BlockHeader.read {} (rest ++ '\n' :: behind)
          = some (⟨literalChomping text, literalWidth text⟩, '\n' :: behind) := by
  refine ⟨_, rfl, ?_⟩
  -- The sign is chosen by the last two characters, the digit by the first one.
  have sign (header : BlockHeader) (clip : header.chomping = .clip) :
      BlockHeader.read header ((match text.reverse with
        | [] => ['-']
        | [last] => if isBreak last then ['+'] else ['-']
        | last :: previous :: _ =>
          if !isBreak last then ['-'] else if isBreak previous then ['+'] else [])
            ++ '\n' :: behind)
        = some ({ header with chomping := literalChomping text }, '\n' :: behind) := by
    obtain ⟨chomping, width⟩ := header
    obtain rfl : chomping = .clip := clip
    have unset : (Chomping.clip != Chomping.clip) = false := by decide
    unfold literalChomping
    split
    · simp [BlockHeader.read, unset]
    · split <;> simp [BlockHeader.read, unset]
    · split
      · simp [BlockHeader.read, unset]
      · split <;> simp [BlockHeader.read, unset]
  rw [List.append_eq, List.append_assoc]
  cases text with
  | nil => exact sign {} rfl
  | cons c rest =>
    cases hidden : (c = ' ' || isBreak c : Bool) with
    | true =>
      simp only [literalWidth, hidden, if_true]
      rw [List.singleton_append, BlockHeader.read, if_neg (by decide), if_pos (by decide),
        if_neg (by decide)]
      exact sign { width := some 2 } rfl
    | false =>
      simp only [literalWidth, hidden]
      exact sign {} rfl

/-! ## Lines -/

namespace BlockText

/-- All that has been read of a block, with its last character first. -/
def wholeReversed (block : BlockText) : List Char :=
  block.emptyReversed ++ block.lead.toList ++ block.textReversed

/-- Inside a line no break is held back. -/
structure InLine (block : BlockText) : Prop where
  lead : block.lead = none
  emptyReversed : block.emptyReversed = []

/-- Between two lines only breaks are held back, and none that ends a line before there
was one. -/
structure BetweenLines (block : BlockText) : Prop where
  breaks : ∀ c ∈ block.emptyReversed ++ block.lead.toList, isBreak c = true
  started : block.lead = none → block.textReversed = []

/-- Before its first line a block holds nothing. -/
theorem betweenLines_empty : BetweenLines {} where
  breaks c member := by simp at member
  started _ := rfl

end BlockText

/-- What is written behind a text to end its last line. -/
def lastLineEnd (afterBreak : Bool) : List Char → List Char
  | [] => if afterBreak then [] else ['\n']
  | c :: rest => lastLineEnd (isBreak c) rest

theorem lastLineEnd_append_singleton (afterBreak : Bool) (text : List Char) (last : Char) :
    lastLineEnd afterBreak (text ++ [last]) = if isBreak last then [] else ['\n'] := by
  induction text generalizing afterBreak with
  | nil => rfl
  | cons c rest inductionHypothesis => exact inductionHypothesis (isBreak c)

section Reading

variable {margin indent line column : Nat} {suffix : List Char}

/-- The margin of a line is passed over. -/
theorem readBlock_spaces (block : BlockText) (line : Nat) (column count : Nat)
    (inside : column + count ≤ margin) (behind : List Char) :
    readBlock false margin block false line column (spaces count ++ behind)
      = readBlock false margin block false line (column + count) behind := by
  induction count generalizing column with
  | zero => rfl
  | succ count inductionHypothesis =>
    rw [spaces_succ, List.cons_append, readBlock, if_neg (by decide), if_neg (by simp),
      if_pos (by omega), if_pos rfl, inductionHypothesis (column + 1) (by omega), Nat.add_assoc,
      Nat.add_comm 1]

/-- A block ends before a token to the left of its margin. -/
theorem readBlock_suffix {dashes : Bool} (follows : Follows margin dashes suffix)
    (block : BlockText) (line : Nat) :
    ∃ after : Place, readBlock false margin block false line 0 suffix = some (block, after)
      ∧ after.Leaves suffix := by
  cases follows with
  | nothing => exact ⟨_, rfl, line, rfl⟩
  | @token tokenColumn c rest outside start noColon noDash =>
    refine ⟨⟨c :: rest, line, tokenColumn, true⟩, ?_, Place.leaves_token _ _ start _⟩
    rw [readBlock_spaces block line 0 tokenColumn (by omega), Nat.zero_add, readBlock,
      start.noBreak, if_neg (by simp), if_neg (by simp), if_pos outside, if_neg start.ne_space,
      if_neg start.ne_tab]

/-- What is left of a text is read, inside a line or from the beginning of a line on. -/
theorem readBlock_literalBody {dashes : Bool} (follows : Follows indent dashes suffix)
    (remaining : List Char) (block : BlockText) (inText : Bool) (line column : Nat)
    (inLine : inText = true → block.InLine)
    (between : inText = false → column = 0 ∧ block.BetweenLines) :
    ∃ whole after, readBlock false indent block inText line column
          (literalBody indent (!inText) remaining ++ suffix) = some (whole, after)
      ∧ after.Leaves suffix ∧ whole.BetweenLines
      ∧ whole.wholeReversed
          = (remaining ++ lastLineEnd (!inText) remaining).reverse ++ block.wholeReversed := by
  induction remaining generalizing block inText line column with
  | nil =>
    cases inText with
    | false =>
      obtain ⟨rfl, betweenLines⟩ := between rfl
      obtain ⟨after, read, leaves⟩ := readBlock_suffix follows block line
      exact ⟨block, after, read, leaves, betweenLines, rfl⟩
    | true =>
      obtain ⟨noLead, noEmpty⟩ := inLine rfl
      obtain ⟨after, read, leaves⟩ := readBlock_suffix follows
        { block with lead := some '\n', emptyReversed := [] } (line + 1)
      refine ⟨_, after, read, leaves, ⟨?_, fun noLead => nomatch noLead⟩, ?_⟩
      · simp [isBreak]
      · simp [BlockText.wholeReversed, lastLineEnd, noLead, noEmpty]
  | cons c rest inductionHypothesis =>
    cases isEnd : isBreak c with
    | true =>
      cases inText with
      | true =>
        obtain ⟨noLead, noEmpty⟩ := inLine rfl
        obtain ⟨whole, after, read, leaves, betweenLines, same⟩ := inductionHypothesis
          { block with lead := some c, emptyReversed := [] } false (line + 1) 0
          nofun fun _ => ⟨rfl, by simp [isEnd], nofun⟩
        refine ⟨whole, after, ?_, leaves, betweenLines, ?_⟩
        · rw [literalBody, if_pos isEnd, List.cons_append, readBlock, if_pos isEnd]
          exact read
        · rw [same, lastLineEnd, isEnd]
          simp [BlockText.wholeReversed, noLead, noEmpty]
      | false =>
        obtain ⟨rfl, betweenLines⟩ := between rfl
        obtain ⟨whole, after, read, leaves, betweenLines, same⟩ := inductionHypothesis
          { block with emptyReversed := c :: block.emptyReversed } false (line + 1) 0
          nofun fun _ => ⟨rfl, by simpa [isEnd] using betweenLines.breaks, betweenLines.started⟩
        refine ⟨whole, after, ?_, leaves, betweenLines, ?_⟩
        · rw [literalBody, if_pos isEnd, List.cons_append, readBlock, if_pos isEnd]
          exact read
        · rw [same, lastLineEnd, isEnd]
          simp [BlockText.wholeReversed]
    | false =>
      cases inText with
      | true =>
        obtain ⟨noLead, noEmpty⟩ := inLine rfl
        obtain ⟨whole, after, read, leaves, betweenLines, same⟩ := inductionHypothesis
          { block with textReversed := c :: block.textReversed } true line (column + 1)
          (fun _ => ⟨noLead, noEmpty⟩) nofun
        refine ⟨whole, after, ?_, leaves, betweenLines, ?_⟩
        · rw [literalBody, isEnd, if_neg (by simp), Bool.not_true, if_neg (by simp),
            List.nil_append, List.cons_append, readBlock, isEnd, if_neg (by simp), if_pos rfl]
          exact read
        · rw [same, lastLineEnd, isEnd]
          simp [BlockText.wholeReversed, noLead, noEmpty]
      | false =>
        obtain ⟨rfl, betweenLines⟩ := between rfl
        obtain ⟨whole, after, read, leaves, betweenLines, same⟩ := inductionHypothesis
          { textReversed := c :: block.wholeReversed, afterBlank := isBlank c }
          true line (indent + 1) (fun _ => ⟨rfl, rfl⟩) nofun
        refine ⟨whole, after, ?_, leaves, betweenLines, ?_⟩
        · rw [literalBody, isEnd, if_neg (by simp), Bool.not_false, if_pos rfl, List.append_assoc,
            readBlock_spaces _ _ _ _ (by omega), Nat.zero_add, List.cons_append, readBlock, isEnd,
            if_neg (by simp), if_neg (by simp), if_neg (Nat.lt_irrefl indent), if_pos rfl]
          exact read
        · rw [same, lastLineEnd, isEnd]
          simp [BlockText.wholeReversed]

end Reading

/-! ## Blocks -/

/-- A break with a character of a line before it is the end of that line. -/
theorem BlockText.BetweenLines.lead_eq {block : BlockText} (between : block.BetweenLines)
    {b c : Char} {rest : List Char} (same : block.wholeReversed = b :: c :: rest)
    (noBreak : isBreak c = false) :
    block.emptyReversed = [] ∧ block.lead = some b ∧ block.textReversed = c :: rest := by
  obtain ⟨textReversed, lead, emptyReversed, afterBlank⟩ := block
  obtain ⟨breaks, started⟩ := between
  simp only [BlockText.wholeReversed] at same breaks started ⊢
  cases emptyReversed with
  | nil =>
    cases lead with
    | none =>
      rw [started rfl] at same
      exact nomatch same
    | some d =>
      obtain ⟨rfl, rfl⟩ := List.cons.inj same
      exact ⟨rfl, rfl, rfl⟩
  | cons e empties =>
    obtain ⟨-, later⟩ := List.cons.inj same
    -- The character before the last break would be held back as a break too.
    have isEnd : isBreak c = true := by
      cases empties with
      | cons d empties =>
        obtain ⟨rfl, -⟩ := List.cons.inj later
        exact breaks d (by simp)
      | nil =>
        cases lead with
        | none =>
          rw [started rfl] at later
          exact nomatch later
        | some d =>
          obtain ⟨rfl, -⟩ := List.cons.inj later
          exact breaks d (by simp)
    exact absurd isEnd (by simp [noBreak])

/-- At its end a block holds the text for which it was written. -/
theorem BlockText.BetweenLines.finish_eq {block : BlockText} (between : block.BetweenLines)
    {text : List Char}
    (same : block.wholeReversed = (text ++ lastLineEnd true text).reverse) :
    block.finish (literalChomping text) = String.ofList text := by
  generalize backwards : text.reverse = reversed
  obtain rfl : text = reversed.reverse := by rw [← backwards, List.reverse_reverse]
  cases reversed with
  | nil =>
    have empty : block.textReversed = [] := by
      simpa [BlockText.wholeReversed, lastLineEnd] using (List.append_eq_nil_iff.mp same).2
    simp [literalChomping, BlockText.finish, empty]
  | cons last front =>
    rw [List.reverse_cons, lastLineEnd_append_singleton] at same
    cases isEnd : isBreak last with
    | false =>
      have same : block.wholeReversed = '\n' :: last :: front := by simpa [isEnd] using same
      obtain ⟨-, -, text⟩ := between.lead_eq same isEnd
      have strip : literalChomping (last :: front).reverse = .strip := by
        cases front <;> simp [literalChomping, isEnd]
      rw [strip]
      exact congrArg (fun kept => String.ofList kept.reverse) text
    | true =>
      have same : block.wholeReversed = last :: front := by simpa [isEnd] using same
      cases front with
      | nil =>
        have keep : literalChomping [last].reverse = .keep := by simp [literalChomping, isEnd]
        rw [keep]
        exact congrArg (fun kept => String.ofList kept.reverse) same
      | cons previous front =>
        cases earlier : isBreak previous with
        | true =>
          have keep : literalChomping (last :: previous :: front).reverse = .keep := by
            simp [literalChomping, isEnd, earlier]
          rw [keep]
          exact congrArg (fun kept => String.ofList kept.reverse) same
        | false =>
          have clip : literalChomping (last :: previous :: front).reverse = .clip := by
            simp [literalChomping, isEnd, earlier]
          obtain ⟨-, lead, text⟩ := between.lead_eq same earlier
          rw [clip]
          change String.ofList (block.lead.toList ++ block.textReversed).reverse = _
          rw [lead, text]
          rfl

/-- The first line that is not empty shows the margin. -/
theorem widestMargin_spaces (count column : Nat) {c : Char} (start : isSpacing c = false)
    (behind : List Char) :
    widestMargin column 0 (spaces count ++ c :: behind) = some (column + count) := by
  obtain ⟨noBlank, noBreak⟩ := Bool.or_eq_false_iff.mp start
  obtain ⟨noSpace, noTab⟩ := Bool.or_eq_false_iff.mp noBlank
  induction count generalizing column with
  | zero => simp_all [spaces, widestMargin]
  | succ count inductionHypothesis =>
    rw [spaces_succ, List.cons_append, widestMargin, if_pos rfl, inductionHypothesis,
      Nat.add_assoc, Nat.add_comm 1]

/-- The margin of a literal block is found: in its header, or before its first character. -/
theorem literalMargin {margin : Nat} (positive : 0 < margin) {text : List Char}
    (nonempty : text ≠ []) (printable : ∀ c ∈ text, isPrintable c = true) (suffix : List Char) :
    (∃ width, literalWidth text = some width ∧ margin - 1 + width = margin + 1)
      ∨ literalWidth text = none
        ∧ widestMargin 0 0 (literalBody (margin + 1) true text ++ suffix) = some (margin + 1) := by
  obtain ⟨c, body, rfl⟩ := List.exists_cons_of_ne_nil nonempty
  cases hidden : (c = ' ' || isBreak c : Bool) with
  | true =>
    exact .inl ⟨2, by simp only [literalWidth, hidden, if_true], by omega⟩
  | false =>
    obtain ⟨noSpace, noBreak⟩ := Bool.or_eq_false_iff.mp hidden
    have noSpacing : isSpacing c = false := by
      refine Bool.or_eq_false_iff.mpr ⟨Bool.eq_false_iff.mpr fun blank => ?_, noBreak⟩
      exact of_decide_eq_false noSpace
        (eq_space_of_isBlank blank (printable c List.mem_cons_self))
    refine .inr ⟨by simp only [literalWidth, hidden, Bool.false_eq_true, if_false], ?_⟩
    rw [literalBody, noBreak, if_neg (by simp), if_pos rfl, List.append_assoc, List.cons_append,
      widestMargin_spaces _ _ noSpacing, Nat.zero_add]

/-- A text that is written as a literal block is read back. -/
theorem Place.block?_literal {margin : Nat} {dashes : Bool} {suffix : List Char}
    (follows : Follows (margin + 1) dashes suffix) (positive : 0 < margin) {text : String}
    (fits : fitsLiteral text.toList = true) (nonempty : text.toList ≠ []) (line column : Nat)
    (keyAllowed : Bool) :
    ∃ after : Place,
      (Place.mk (literalHeader text.toList ++ '\n' :: (literalBody (margin + 1) true text.toList
            ++ suffix)) line column keyAllowed).block? margin
        = some ({ style := .literal, text }, after)
      ∧ after.Leaves suffix := by
  have printable : ∀ c ∈ text.toList, isPrintable c = true := by
    simp only [fitsLiteral, isWritable, Bool.and_eq_true, List.all_eq_true] at fits
    exact fits.1.1
  obtain ⟨rest, header, readHeader⟩ := read_literalHeader text.toList
    (literalBody (margin + 1) true text.toList ++ suffix)
  obtain ⟨whole, after, read, leaves, between, same⟩ := readBlock_literalBody
    follows text.toList {} false (line + 1) 0 (by simp)
    fun _ => ⟨rfl, BlockText.betweenLines_empty⟩
  refine ⟨after, ?_, leaves⟩
  have finished : whole.finish (literalChomping text.toList) = text := by
    rw [between.finish_eq (same.trans (List.append_nil _)), String.ofList_toList]
  have noFold : ∀ behind, (Place.mk ('|' :: behind) line column keyAllowed).isAt '>' = false :=
    fun _ => rfl
  have skipped : skipHeaderLine false
      ('\n' :: (literalBody (margin + 1) true text.toList ++ suffix))
        = some (literalBody (margin + 1) true text.toList ++ suffix) := rfl
  rw [Bool.not_false] at read
  rw [header, List.cons_append]
  simp only [Place.block?, noFold, List.tail_cons, readHeader, skipped, Option.bind_eq_bind,
    Option.bind_some]
  rcases literalMargin positive nonempty printable suffix with ⟨width, wide, same⟩ | ⟨wide, widest⟩
  · simp only [wide, same]
    simp [read, finished]
  · have same : max (max (margin + 1) margin) 1 = margin + 1 := by omega
    simp only [wide, widest, Option.map_some, Option.bind_some, same]
    simp [read, finished]

end RoomLayout.Yaml

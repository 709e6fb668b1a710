import RoomLayout.Proofs.Reading.SilentLines
import RoomLayout.Script.Tokenization

/-!
# Headers of blocks

A header is a name and a brace, and the brace may stand alone on the next line. What else
stands on a header is reported, unless the brace is on the next line: then the tokens
after the name are ignored without a word.
-/

namespace RoomLayout

/-- What a header itself is reported for, apart from the lines of its block. -/
def BlockHeader.complaints (header : BlockHeader) (number : Nat) : List Diagnostic :=
  header.warnings.map (LineWarning.onLine · number)
    ++ if header.name.isNone then [LineError.defineWithoutName.onLine number] else []

theorem BlockHeader.complaints_eq_nil_iff {header : BlockHeader} {number : Nat} :
    header.complaints number = [] ↔ header.warnings = [] ∧ header.name.isSome = true := by
  unfold complaints
  cases header.name with
  | none => simp
  | some name => simp

theorem BlockHeader.line_of_mem_complaints {header : BlockHeader} {number : Nat}
    {diagnostic : Diagnostic} (member : diagnostic ∈ header.complaints number) :
    diagnostic.line = number := by
  rcases List.mem_append.mp member with isWarning | isError
  · obtain ⟨warning, -, rfl⟩ := List.mem_map.mp isWarning
    rfl
  · split at isError
    · rw [List.mem_singleton.mp isError]
      rfl
    · exact absurd isError List.not_mem_nil

/-- Everything a header is reported for is among the diagnostics of its block. -/
theorem Program.complaints_subset_consBlock (number : Nat) (header : BlockHeader)
    (body : BlockBody) (rest : Program) :
    header.complaints number ⊆ (consBlock number header body rest).diagnostics := by
  intro diagnostic member
  unfold consBlock
  rcases List.mem_append.mp member with isWarning | isError
  · cases header.name with
    | none => exact List.mem_append_left _ (List.mem_append_left _ isWarning)
    | some name => exact List.mem_append_left _ (List.mem_append_left _ isWarning)
  · cases named : header.name with
    | none =>
      rw [named, Option.isNone_none, if_pos rfl] at isError
      exact List.mem_append_right _ (List.mem_cons.mpr (.inl (List.mem_singleton.mp isError)))
    | some name =>
      rw [named, Option.isNone_some, if_neg Bool.false_ne_true] at isError
      exact absurd isError List.not_mem_nil

/-- Where the brace of a silent header stands, by the line that follows it, and what is
ignored between the name and the brace. -/
inductive OpensBlock (next : Option Line) : List TokenKind → List TokenKind → Prop where
  | onHeader : OpensBlock next [] [.mark .leftBrace]
  | closedOnHeader : OpensBlock next [] [.mark .leftBrace, .mark .rightBrace]
  | onNextLine {ignored : List TokenKind} (opened : next.map Line.kinds = some [.mark .leftBrace])
    (noBrace : ignored.head? ≠ some (.mark .leftBrace)) : OpensBlock next ignored []

/-- After a brace on the header nothing but the other brace is silent. -/
theorem OpensBlock.tail_of_leftBrace {next : Option Line} {ignored braces tail : List TokenKind}
    (opens : OpensBlock next ignored braces)
    (split : .mark .leftBrace :: tail = ignored ++ braces) :
    tail = [] ∨ tail = [.mark .rightBrace] := by
  cases opens with
  | onHeader => exact .inl (List.cons.inj split).2
  | closedOnHeader => exact .inr (List.cons.inj split).2
  | onNextLine opened noBrace =>
    rw [List.append_nil] at split
    exact absurd (congrArg List.head? split).symm noBrace

theorem any_isOpeningBrace_iff {next : Option Line} :
    next.any Line.isOpeningBrace = true ↔ next.map Line.kinds = some [.mark .leftBrace] := by
  cases next with
  | none => simp
  | some line => simp [Line.isOpeningBrace]

/-- A header is not warned about if nothing but braces follow its name, or if the brace is
on the next line. -/
theorem warnings_readHeader_eq_nil_iff {arguments : List TokenKind} {following : List Line} :
    (readHeader arguments following).warnings = []
      ↔ ∃ ignored braces, (splitHeader arguments).2 = ignored ++ braces
        ∧ OpensBlock following.head? ignored braces := by
  unfold readHeader
  generalize splitHeader arguments = parts
  obtain ⟨name, rest⟩ := parts
  dsimp only
  split
  · exact iff_of_true rfl ⟨[], _, rfl, .closedOnHeader⟩
  · next tail notClosed =>
    refine iff_of_false (List.cons_ne_nil _ _) ?_
    rintro ⟨ignored, braces, split, opens⟩
    rcases opens.tail_of_leftBrace split with none | closed
    · exact List.cons_ne_nil _ _ none
    · exact notClosed (List.cons.inj closed).2
  · exact iff_of_true rfl ⟨[], _, rfl, .onHeader⟩
  · next tail notClosed _ notAlone =>
    refine iff_of_false (List.cons_ne_nil _ _) ?_
    rintro ⟨ignored, braces, split, opens⟩
    rcases opens.tail_of_leftBrace split with none | closed
    · exact notAlone none
    · exact notClosed closed
  · next noBrace =>
    have headNoBrace : rest.head? ≠ some (.mark .leftBrace) := by
      intro brace
      obtain ⟨tail, split⟩ := List.head?_eq_some_iff.mp brace
      exact noBrace tail split
    by_cases opened : following.head?.any Line.isOpeningBrace = true
    · rw [if_pos opened]
      exact iff_of_true rfl ⟨rest, [], (List.append_nil _).symm,
        .onNextLine (any_isOpeningBrace_iff.mp opened) headNoBrace⟩
    · rw [if_neg opened]
      refine iff_of_false (List.cons_ne_nil _ _) ?_
      rintro ⟨ignored, braces, rfl, opens⟩
      cases opens with
      | onHeader => exact headNoBrace rfl
      | closedOnHeader => exact headNoBrace rfl
      | onNextLine isOpened _ => exact opened (any_isOpeningBrace_iff.mpr isOpened)

/-- A header whose brace is on the next line is read from its name alone. -/
theorem readHeader_of_onNextLine {kind : TokenKind} {ignored : List TokenKind}
    {following : List Line} (isWord : kind.asWord?.isSome = true)
    (opened : following.head?.map Line.kinds = some [.mark .leftBrace])
    (noBrace : ignored.head? ≠ some (.mark .leftBrace)) :
    readHeader (kind :: ignored) following = ⟨kind.asWord?, .onNextLine, []⟩ := by
  obtain ⟨name, isName⟩ := Option.isSome_iff_exists.mp isWord
  have parts : splitHeader (kind :: ignored) = (some name, ignored) :=
    splitHeader_eq_iff.mpr ⟨kind, rfl, isName⟩
  rw [readHeader, parts, isName]
  dsimp only
  split
  · exact absurd rfl noBrace
  · exact absurd rfl noBrace
  · exact absurd rfl noBrace
  · exact absurd rfl noBrace
  · rw [if_pos (any_isOpeningBrace_iff.mpr opened)]

/-- Tokens that a silent header ignores make no difference. -/
theorem OpensBlock.readHeader_eq {kind : TokenKind} {ignored braces : List TokenKind}
    {following : List Line} (isWord : kind.asWord?.isSome = true)
    (opens : OpensBlock following.head? ignored braces) :
    readHeader (kind :: (ignored ++ braces)) following = readHeader (kind :: braces) following := by
  cases opens with
  | onHeader => rfl
  | closedOnHeader => rfl
  | onNextLine opened noBrace =>
    rw [List.append_nil, readHeader_of_onNextLine isWord opened noBrace,
      readHeader_of_onNextLine isWord opened (by simp)]

/-! ### Headers of a script -/

namespace TopLevelLine

/-- The line is `define <name> {`, `define <name> { }`, or `define <name>` with the brace
alone on the next line; between the name and the braces stand tokens that are ignored. -/
structure IsHeader (top : TopLevelLine) (name : Token) (ignored braces : List Token) : Prop where
  tokens : top.head.tail = name :: (ignored ++ braces)
  isWord : name.kind.asWord?.isSome = true
  opens : OpensBlock top.block.head? (ignored.map Token.kind) (braces.map Token.kind)

theorem IsHeader.arguments_eq {top : TopLevelLine} {name : Token} {ignored braces : List Token}
    (header : top.IsHeader name ignored braces) :
    top.head.arguments = name.kind :: (ignored.map Token.kind ++ braces.map Token.kind) := by
  rw [Line.arguments, header.tokens, List.map_cons, List.map_append]

/-- A header is not reported exactly if it is in one of its shapes. -/
theorem complaints_eq_nil_iff (top : TopLevelLine) :
    (readHeader top.head.arguments top.block).complaints top.head.number = []
      ↔ ∃ name ignored braces, top.IsHeader name ignored braces := by
  rw [BlockHeader.complaints_eq_nil_iff, warnings_readHeader_eq_nil_iff, name_readHeader]
  constructor
  · rintro ⟨⟨ignored, braces, split, opens⟩, named⟩
    obtain ⟨word, named⟩ := Option.isSome_iff_exists.mp named
    obtain ⟨kind, arguments, isWord⟩ := splitHeader_eq_iff.mp (Prod.ext named split)
    obtain ⟨name, rest, tail, rfl, rest⟩ := List.map_eq_cons_iff.mp arguments
    obtain ⟨ignored, braces, rfl, rfl, rfl⟩ := List.map_eq_append_iff.mp rest
    exact ⟨name, ignored, braces, tail, by rw [isWord]; rfl, opens⟩
  · rintro ⟨name, ignored, braces, header⟩
    obtain ⟨word, isName⟩ := Option.isSome_iff_exists.mp header.isWord
    have parts : splitHeader top.head.arguments
        = (some word, ignored.map Token.kind ++ braces.map Token.kind) :=
      splitHeader_eq_iff.mpr ⟨name.kind, header.arguments_eq, isName⟩
    rw [parts]
    exact ⟨⟨_, _, rfl, header.opens⟩, rfl⟩

/-- What a header is reported for is reported when the script is read. -/
theorem complaints_subset {lines : List Line} {top : TopLevelLine}
    (member : top ∈ topLevelLines lines) (isHeader : top.head.head.kind = .keyword .define) :
    (readHeader top.head.arguments top.block).complaints top.head.number
      ⊆ (Program.ofLines lines).diagnostics := by
  intro diagnostic complaint
  rw [Program.ofLines_eq_flatMap]
  refine List.mem_flatMap.mpr ⟨top, member, ?_⟩
  rw [program, TopLevelLine.lines, Program.ofLines_cons_of_define isHeader]
  exact List.mem_append_left _ (Program.complaints_subset_consBlock _ _ _ _ complaint)

/-- A header is read as if the tokens it ignores were not there. -/
theorem IsHeader.program_eq {top : TopLevelLine} {name : Token} {ignored braces : List Token}
    (isHeader : top.head.head.kind = .keyword .define) (header : top.IsHeader name ignored braces) :
    top.program = program ⟨⟨top.head.head, name :: braces⟩, top.block⟩ := by
  have shorter : (Line.mk top.head.head (name :: braces)).head.kind = .keyword .define := isHeader
  rw [program, lines, Program.ofLines_cons_of_define isHeader, header.arguments_eq,
    header.opens.readHeader_eq header.isWord, program, lines,
    Program.ofLines_cons_of_define shorter]
  rfl

/-- How a header is checked. -/
structure HeaderIsChecked (top : TopLevelLine) (script : Program) : Prop where
  /-- Without a diagnostic for its line a header is in one of its shapes. -/
  shaped : (∀ diagnostic ∈ script.diagnostics, diagnostic.line ≠ top.head.number) →
    ∃ name ignored braces, top.IsHeader name ignored braces
  /-- A header in one of its shapes is not reported, and what it ignores makes no difference. -/
  unreported : ∀ name ignored braces, top.IsHeader name ignored braces →
    (readHeader top.head.arguments top.block).complaints top.head.number = []
      ∧ top.program = program ⟨⟨top.head.head, name :: braces⟩, top.block⟩

end TopLevelLine

/-- Everything that stands on a header is part of its shape or reported, but for tokens between
its name and a brace on the next line. -/
theorem headers_are_checked {tokens : List Token} {top : TopLevelLine}
    (member : top ∈ topLevelLines (Line.ofTokens tokens))
    (isHeader : top.head.head.kind = .keyword .define) :
    top.HeaderIsChecked (Program.ofTokens tokens) where
  shaped := by
    intro silent
    refine top.complaints_eq_nil_iff.mp (List.eq_nil_iff_forall_not_mem.mpr ?_)
    intro diagnostic complaint
    exact silent diagnostic (TopLevelLine.complaints_subset member isHeader complaint)
      (BlockHeader.line_of_mem_complaints complaint)
  unreported := by
    intro name ignored braces header
    exact ⟨top.complaints_eq_nil_iff.mpr ⟨name, ignored, braces, header⟩,
      header.program_eq isHeader⟩

/-- A script whose header has a token too many, the brace of its block being on the next line. -/
def wideHall : List Token :=
  [⟨.keyword .define, ⟨1, 1⟩⟩, ⟨.word "hall", ⟨1, 8⟩⟩, ⟨.word "wide", ⟨1, 13⟩⟩, ⟨.newline, ⟨1, 17⟩⟩,
    ⟨.mark .leftBrace, ⟨2, 1⟩⟩, ⟨.newline, ⟨2, 2⟩⟩, ⟨.mark .rightBrace, ⟨3, 1⟩⟩, ⟨.newline, ⟨3, 2⟩⟩]

/-- The header of that script with its block. -/
def wideHallHeader : TopLevelLine :=
  ⟨⟨⟨.keyword .define, ⟨1, 1⟩⟩, [⟨.word "hall", ⟨1, 8⟩⟩, ⟨.word "wide", ⟨1, 13⟩⟩]⟩,
    [⟨⟨.mark .leftBrace, ⟨2, 1⟩⟩, []⟩, ⟨⟨.mark .rightBrace, ⟨3, 1⟩⟩, []⟩]⟩

theorem topLevelLines_wideHall : topLevelLines (Line.ofTokens wideHall) = [wideHallHeader] := by
  have lines : Line.ofTokens wideHall = wideHallHeader.lines := by decide +kernel
  have block : wideHallHeader.head.block wideHallHeader.block = wideHallHeader.block := by
    decide +kernel
  rw [lines, TopLevelLine.lines, topLevelLines_cons, block, List.drop_length, topLevelLines]

/-- The script is read as if the token were not there. -/
theorem headers_are_checked_wide_hall :
    wideHallHeader ∈ topLevelLines (Line.ofTokens wideHall)
      ∧ wideHallHeader.IsHeader ⟨.word "hall", ⟨1, 8⟩⟩ [⟨.word "wide", ⟨1, 13⟩⟩] []
      ∧ wideHallHeader.program
        = TopLevelLine.program
          ⟨⟨⟨.keyword .define, ⟨1, 1⟩⟩, [⟨.word "hall", ⟨1, 8⟩⟩]⟩, wideHallHeader.block⟩ := by
  have member : wideHallHeader ∈ topLevelLines (Line.ofTokens wideHall) := by
    rw [topLevelLines_wideHall]
    exact List.mem_singleton_self _
  have header : wideHallHeader.IsHeader ⟨.word "hall", ⟨1, 8⟩⟩ [⟨.word "wide", ⟨1, 13⟩⟩] [] :=
    ⟨rfl, rfl, .onNextLine rfl (by decide)⟩
  exact ⟨member, header, ((headers_are_checked member rfl).unreported _ _ _ header).2⟩

/-- A header with a token that belongs to none of its shapes, and no diagnostic for its line. -/
theorem brace_on_next_line_hides_token :
    tokenize "define hall wide\n\x7b\n\x7d\n" = .ok wideHall
      ∧ wideHallHeader ∈ topLevelLines (Line.ofTokens wideHall)
      ∧ wideHallHeader.head.head.kind = .keyword .define
      ∧ Program.ofTokens wideHall = ⟨[⟨1, .define "hall" []⟩], []⟩
      ∧ ∀ name braces, ¬ wideHallHeader.IsHeader name [] braces := by
  refine ⟨by decide +kernel, ?_, rfl, by decide +kernel, ?_⟩
  · rw [topLevelLines_wideHall]
    exact List.mem_singleton_self _
  · rintro name braces ⟨tokens, -, opens⟩
    obtain ⟨-, rfl⟩ := List.cons.inj tokens
    cases opens

end RoomLayout

import Mathlib.Data.List.TakeWhile
import RoomLayout.Proofs.Reading.Accounting
import RoomLayout.Proofs.Reading.Headers
import RoomLayout.Proofs.Reading.SilentRules

/-!
# The bounds of blocks

A header takes the lines of its block, and these are rules or nothing: none is ever read as a
statement. Which lines it takes, and what each of them comes to, is said here without reading
them: a block ends with its header, or with the first line that begins with a closing brace, or
with the script (`TakesBlock`), and each line in between gives a rule by itself (`GivesRule`).
Every script is read so (`Program.readsAs_iff`).
-/

namespace RoomLayout

/-! ### Lines of a block -/

/-- The fit that tokens give: each axis takes the modes that name it, and other tokens do not
count. -/
structure GivesFit (kinds : List TokenKind) (fit : Fit) : Prop where
  x : fit.x = true ↔ .keyword .fitX ∈ kinds ∨ .keyword .stretch ∈ kinds
  y : fit.y = true ↔ .keyword .fitY ∈ kinds ∨ .keyword .stretch ∈ kinds

/-- The source of a covering that the tokens after a face give, whatever else they are. -/
inductive GivesSource : List TokenKind → FaceSource → Prop where
  | off (ignored : List TokenKind) : GivesSource (.keyword .off :: ignored) .off
  | builtin {kind : TokenKind} {name : String} {modes : List TokenKind} {fit : Fit}
      (isWord : kind.asWord? = some name) (fitted : GivesFit modes fit) :
      GivesSource (.keyword .arx :: kind :: modes) (.builtin name fit)
  | custom {first second : TokenKind} {folder filename : String} {modes : List TokenKind}
      {fit : Fit} (isFolder : first.asWord? = some folder)
      (isFilename : second.asWord? = some filename) (fitted : GivesFit modes fit) :
      GivesSource (.keyword .custom :: first :: second :: modes) (.custom folder filename fit)

/-- The rule that the tokens of a well-formed line give. -/
def GivesRule (kinds : List TokenKind) (target : FaceTarget) (source : FaceSource) : Prop :=
  ∃ face rest, kinds = face :: rest ∧ DenotesTarget face target ∧ GivesSource rest source

theorem readFit_givesFit (tokens : List Token) :
    GivesFit (tokens.map Token.kind) (readFit {} tokens).1 :=
  have flags := readFit_fst_eq_iff.mp rfl
  ⟨flags.1, flags.2⟩

theorem GivesFit.eq_readFit {tokens : List Token} {fit : Fit}
    (gives : GivesFit (tokens.map Token.kind) fit) : (readFit {} tokens).1 = fit :=
  readFit_fst_eq_iff.mpr ⟨gives.x, gives.y⟩

/-- The tokens after a face are read as the source that they give, or not at all. -/
theorem exists_readFaceSource_iff (number : Nat) {tokens : List Token} {source : FaceSource} :
    (∃ diagnostics, readFaceSource number tokens = .ok (source, diagnostics))
      ↔ GivesSource (tokens.map Token.kind) source := by
  simp only [readFaceSource_eq_ok_iff_reads]
  constructor
  · rintro ⟨diagnostics, reads⟩
    cases reads with
    | off isOff ignored =>
      rw [List.map_cons, isOff]
      exact .off _
    | builtin isArx isWord modes =>
      rw [List.map_cons, isArx]
      exact .builtin isWord (readFit_givesFit modes)
    | custom isCustom isFolder isFilename modes =>
      rw [List.map_cons, isCustom]
      exact .custom isFolder isFilename (readFit_givesFit modes)
  · intro gives
    generalize kinds : tokens.map Token.kind = line at gives
    cases gives with
    | off ignored =>
      obtain ⟨mode, rest, rfl, isOff, -⟩ := List.map_eq_cons_iff.mp kinds
      exact ⟨_, .off isOff rest⟩
    | builtin isWord fitted =>
      obtain ⟨mode, rest, rfl, isArx, restKinds⟩ := List.map_eq_cons_iff.mp kinds
      obtain ⟨first, modes, rfl, rfl, rfl⟩ := List.map_eq_cons_iff.mp restKinds
      obtain rfl := fitted.eq_readFit
      exact ⟨_, .builtin isArx isWord modes⟩
    | custom isFolder isFilename fitted =>
      obtain ⟨mode, rest, rfl, isCustom, restKinds⟩ := List.map_eq_cons_iff.mp kinds
      obtain ⟨first, others, rfl, rfl, otherKinds⟩ := List.map_eq_cons_iff.mp restKinds
      obtain ⟨second, modes, rfl, rfl, rfl⟩ := List.map_eq_cons_iff.mp otherKinds
      obtain rfl := fitted.eq_readFit
      exact ⟨_, .custom isCustom isFolder isFilename modes⟩

/-- A line of a block is read as the rule that its tokens give, or as none. -/
theorem rule_readFaceRule_iff {line : Line} {rule : FaceRule} :
    (readFaceRule line).1 = some rule
      ↔ rule.line = line.number ∧ GivesRule line.kinds rule.target rule.source := by
  constructor
  · intro read
    unfold readFaceRule at read
    split at read
    · exact nomatch read
    · next target isTarget =>
      split at read
      · exact nomatch read
      · next source diagnostics readsSource =>
        obtain rfl := Option.some.inj read
        exact ⟨rfl, _, _, rfl, faceTarget?_eq_some_iff.mp isTarget,
          (exists_readFaceSource_iff line.number).mp ⟨diagnostics, readsSource⟩⟩
  · obtain ⟨number, target, source⟩ := rule
    rintro ⟨rfl, face, rest, kinds, isTarget, isSource⟩
    obtain ⟨rfl, rfl⟩ := List.cons.inj kinds
    obtain ⟨diagnostics, readsSource⟩ := (exists_readFaceSource_iff line.number).mpr isSource
    simp only [readFaceRule, faceTarget?_eq_some_iff.mpr isTarget, readsSource]

/-- A line that is read as no rule costs one warning. -/
theorem exists_warning_of_no_rule {line : Line} (none : (readFaceRule line).1 = none) :
    ∃ warning : LineWarning, (readFaceRule line).2 = [warning.onLine line.number] := by
  unfold readFaceRule at none ⊢
  split
  · exact ⟨_, rfl⟩
  · next target isTarget =>
    rw [isTarget] at none
    split
    · exact ⟨_, rfl⟩
    · next read =>
      simp only [read] at none
      exact nomatch none

/-- How a line of a block is read: by itself, and not as a statement. -/
structure IsReadAlone (line : Line) : Prop where
  /-- It comes to the rule that its tokens give, if it is well-formed; -/
  rule : ∀ {rule}, (readFaceRule line).1 = some rule
    ↔ rule.line = line.number ∧ GivesRule line.kinds rule.target rule.source
  /-- if it is not, it costs one warning that is its own. -/
  malformed : (∀ target source, ¬ GivesRule line.kinds target source) →
    ∃ message, readFaceRule line = (none, [.warning line.number message])
  /-- Nothing else than a warning is ever reported. -/
  warnings : AllWarnings (readFaceRule line).2

theorem isReadAlone (line : Line) : IsReadAlone line where
  rule := rule_readFaceRule_iff
  warnings := allWarnings_readFaceRule line
  malformed malformed := by
    have none : (readFaceRule line).1 = none := by
      rw [Option.eq_none_iff_forall_ne_some]
      exact fun rule read => malformed _ _ (rule_readFaceRule_iff.mp read).2
    obtain ⟨warning, reported⟩ := exists_warning_of_no_rule none
    exact ⟨warning.message, Prod.ext none reported⟩

/-! ### The lines that a block takes -/

/-- The name in a header: its first token, if that is a word. -/
def headerName (arguments : List TokenKind) : Option String :=
  arguments.head?.bind TokenKind.asWord?

/-- The tokens of a header from the place of its opening brace on: those after the name or, if
the brace stands in the place of the name, all of them. -/
def bracePlace : List TokenKind → List TokenKind
  | .mark .leftBrace :: rest => .mark .leftBrace :: rest
  | kinds => kinds.tail

/-- Both braces stand on a header. -/
def ClosesOnHeader (arguments : List TokenKind) : Prop :=
  [.mark .leftBrace, .mark .rightBrace] <+: bracePlace arguments

/-- The opening brace stands on a header. -/
def OpensOnHeader (arguments : List TokenKind) : Prop :=
  (bracePlace arguments).head? = some (.mark .leftBrace)

/-- The line of the opening brace, if the header has one to itself, and the lines after it. -/
inductive OpensWith (arguments : List TokenKind) : List Line → Option Line → List Line → Prop where
  | onHeader {after : List Line} (opens : OpensOnHeader arguments) :
      OpensWith arguments after none after
  | onNextLine {brace : Line} {after : List Line} (opensNot : ¬ OpensOnHeader arguments)
      (alone : brace.kinds = [.mark .leftBrace]) :
      OpensWith arguments (brace :: after) (some brace) after
  | absent {after : List Line} (opensNot : ¬ OpensOnHeader arguments)
      (noBrace : after.head?.map Line.kinds ≠ some [.mark .leftBrace]) :
      OpensWith arguments after none after

/-- How a block ends: with its header, with a line, or not at all. -/
inductive BlockEnd where
  | onHeader
  | closed (closing : Line)
  | never

/-- The line that a block ends with. -/
def BlockEnd.lines : BlockEnd → List Line
  | .closed closing => [closing]
  | .onHeader | .never => []

/-- The lines up to the first that begins with a closing brace, or all of them, how that ends a
block, and the lines after it. -/
inductive EndsWith : List Line → List Line → BlockEnd → List Line → Prop where
  | closed {inner : List Line} {closing : Line} {rest : List Line}
      (goesOn : ∀ line ∈ inner, line.head.kind ≠ .mark .rightBrace)
      (closes : closing.head.kind = .mark .rightBrace) :
      EndsWith (inner ++ closing :: rest) inner (.closed closing) rest
  | never {inner : List Line} (goesOn : ∀ line ∈ inner, line.head.kind ≠ .mark .rightBrace) :
      EndsWith inner inner .never []

/-- The lines of a block: that of its opening brace, those inside, and that of its end. -/
structure BlockLines where
  opening : Option Line
  inner : List Line
  ending : BlockEnd

/-- All lines of a block, in order. -/
def BlockLines.lines (block : BlockLines) : List Line :=
  block.opening.toList ++ block.inner ++ block.ending.lines

/-- The block that a header takes from the lines that follow it, and the lines that it leaves. -/
inductive TakesBlock (arguments : List TokenKind) (following : List Line) :
    BlockLines → List Line → Prop where
  | onHeader (closed : ClosesOnHeader arguments) :
      TakesBlock arguments following ⟨none, [], .onHeader⟩ following
  | lines {opening : Option Line} {after inner rest : List Line} {ending : BlockEnd}
      (goesOn : ¬ ClosesOnHeader arguments) (opens : OpensWith arguments following opening after)
      (ends : EndsWith after inner ending rest) :
      TakesBlock arguments following ⟨opening, inner, ending⟩ rest

/-- A block takes lines from the front. -/
theorem TakesBlock.lines_append {arguments : List TokenKind} {following rest : List Line}
    {block : BlockLines} (takes : TakesBlock arguments following block rest) :
    block.lines ++ rest = following := by
  cases takes with
  | onHeader => rfl
  | lines _ opens ends =>
    cases opens <;> cases ends <;> simp [BlockLines.lines, BlockEnd.lines]

theorem exists_endsWith (lines : List Line) :
    ∃ inner ending rest, EndsWith lines inner ending rest := by
  induction lines with
  | nil => exact ⟨[], .never, [], .never (List.forall_mem_nil _)⟩
  | cons line rest inductionHypothesis =>
    by_cases closes : line.head.kind = .mark .rightBrace
    · exact ⟨[], .closed line, rest, EndsWith.closed (List.forall_mem_nil _) closes⟩
    · obtain ⟨inner, ending, after, ends⟩ := inductionHypothesis
      refine ⟨line :: inner, ending, after, ?_⟩
      cases ends with
      | closed goesOn isClosing =>
        exact .closed (List.forall_mem_cons.mpr ⟨closes, goesOn⟩) isClosing
      | never goesOn => exact .never (List.forall_mem_cons.mpr ⟨closes, goesOn⟩)

theorem exists_opensWith (arguments : List TokenKind) (following : List Line) :
    ∃ opening after, OpensWith arguments following opening after := by
  by_cases opens : OpensOnHeader arguments
  · exact ⟨none, following, .onHeader opens⟩
  · by_cases brace : following.head?.map Line.kinds = some [.mark .leftBrace]
    · obtain ⟨line, isNext, alone⟩ := Option.map_eq_some_iff.mp brace
      obtain ⟨after, rfl⟩ := List.head?_eq_some_iff.mp isNext
      exact ⟨some line, after, .onNextLine opens alone⟩
    · exact ⟨none, following, .absent opens brace⟩

/-- Every header takes a block. -/
theorem exists_takesBlock (arguments : List TokenKind) (following : List Line) :
    ∃ block rest, TakesBlock arguments following block rest := by
  by_cases closed : ClosesOnHeader arguments
  · exact ⟨_, following, .onHeader closed⟩
  · obtain ⟨opening, after, opens⟩ := exists_opensWith arguments following
    obtain ⟨inner, ending, rest, ends⟩ := exists_endsWith after
    exact ⟨_, rest, .lines closed opens ends⟩

/-- Up to the end of a block stand the lines that do not close it. -/
theorem EndsWith.split {lines inner rest : List Line} {ending : BlockEnd}
    (ends : EndsWith lines inner ending rest) :
    lines.takeWhile (fun line => !line.closesBlock) = inner
      ∧ lines.dropWhile (fun line => !line.closesBlock) = ending.lines ++ rest := by
  have stays (goesOn : ∀ line ∈ inner, line.head.kind ≠ .mark .rightBrace) :
      ∀ line ∈ inner, (!line.closesBlock) = true := fun line member => by
    simpa [Line.closesBlock] using goesOn line member
  cases ends with
  | @closed _ closing _ goesOn closes =>
    have isClosing : (!closing.closesBlock) = false := by simpa [Line.closesBlock] using closes
    rw [List.takeWhile_append_of_pos (stays goesOn), List.dropWhile_append_of_pos (stays goesOn)]
    simp [isClosing, BlockEnd.lines]
  | never goesOn =>
    exact ⟨List.takeWhile_eq_self_iff.mpr (stays goesOn),
      List.dropWhile_eq_nil_iff.mpr (stays goesOn)⟩

theorem EndsWith.unique {lines inner rest other left : List Line} {ending otherEnding : BlockEnd}
    (ends : EndsWith lines inner ending rest) (otherEnds : EndsWith lines other otherEnding left) :
    inner = other ∧ ending = otherEnding ∧ rest = left := by
  have sameInner := ends.split.1.symm.trans otherEnds.split.1
  have sameRest := ends.split.2.symm.trans otherEnds.split.2
  refine ⟨sameInner, ?_⟩
  generalize lines = lines' at otherEnds
  cases ends with
  | closed =>
    cases otherEnds with
    | closed =>
      obtain ⟨rfl, rfl⟩ := List.cons.inj sameRest
      exact ⟨rfl, rfl⟩
    | never => exact nomatch sameRest
  | never =>
    cases otherEnds with
    | closed => exact nomatch sameRest
    | never => exact ⟨rfl, rfl⟩

theorem OpensWith.unique {arguments : List TokenKind} {following after left : List Line}
    {opening other : Option Line} (opens : OpensWith arguments following opening after)
    (otherOpens : OpensWith arguments following other left) : opening = other ∧ after = left := by
  generalize same : following = following' at otherOpens
  cases opens with
  | onHeader isOpen =>
    cases otherOpens with
    | onHeader => exact ⟨rfl, same⟩
    | onNextLine opensNot _ => exact absurd isOpen opensNot
    | absent opensNot _ => exact absurd isOpen opensNot
  | onNextLine opensNot alone =>
    cases otherOpens with
    | onHeader isOpen => exact absurd isOpen opensNot
    | onNextLine _ _ =>
      obtain ⟨rfl, rfl⟩ := List.cons.inj same
      exact ⟨rfl, rfl⟩
    | absent _ noBrace => exact absurd (by rw [← same]; exact congrArg some alone) noBrace
  | absent opensNot noBrace =>
    cases otherOpens with
    | onHeader isOpen => exact absurd isOpen opensNot
    | onNextLine _ alone => exact absurd (by rw [same]; exact congrArg some alone) noBrace
    | absent _ _ => exact ⟨rfl, same⟩

/-- A header takes no other block than one. -/
theorem TakesBlock.unique {arguments : List TokenKind} {following rest left : List Line}
    {block other : BlockLines} (takes : TakesBlock arguments following block rest)
    (otherTakes : TakesBlock arguments following other left) : other = block ∧ left = rest := by
  cases takes with
  | onHeader closed =>
    cases otherTakes with
    | onHeader => exact ⟨rfl, rfl⟩
    | lines goesOn _ _ => exact absurd closed goesOn
  | lines goesOn opens ends =>
    cases otherTakes with
    | onHeader closed => exact absurd closed goesOn
    | lines _ otherOpens otherEnds =>
      obtain ⟨rfl, rfl⟩ := opens.unique otherOpens
      obtain ⟨rfl, rfl, rfl⟩ := ends.unique otherEnds
      exact ⟨rfl, rfl⟩

/-! ### What a block comes to -/

/-- What a header is warned about, by the line of the opening brace if it has one to itself. -/
def headerWarnings (arguments : List TokenKind) (opening : Option Line) : List LineWarning :=
  match bracePlace arguments, opening with
  | [.mark .leftBrace], _ => []
  | [.mark .leftBrace, .mark .rightBrace], _ => []
  | .mark .leftBrace :: _, _ => [.tokensAfterOpeningBrace]
  | _, some _ => []
  | _, none => [.openingBraceMissing]

/-- What is reported about the end of a block whose header has number `header`. -/
def BlockEnd.warnings (header : Nat) : BlockEnd → List Diagnostic
  | .onHeader => []
  | .closed closing =>
    if closing.tail.isEmpty then [] else [LineWarning.tokensAfterClosingBrace.onLine closing.number]
  | .never => [LineWarning.blockNeverClosed.onLine header]

/-- What a block comes to: with a name, a definition by those lines inside that are rules. What
is reported of header, lines and end comes in this order, and a missing name last. -/
def BlockLines.program (block : BlockLines) (header : Line) : Program where
  statements := ((headerName header.arguments).map fun name =>
    (⟨header.number, .define name (block.inner.filterMap fun line => (readFaceRule line).1)⟩ :
      Statement)).toList
  diagnostics :=
    (headerWarnings header.arguments block.opening).map (LineWarning.onLine · header.number)
      ++ block.inner.flatMap (fun line => (readFaceRule line).2)
      ++ block.ending.warnings header.number
      ++ if (headerName header.arguments).isNone then
          [LineError.defineWithoutName.onLine header.number]
        else []

/-- What lines come to, read from the front: a header takes its block and comes to what the
block does, and any other line stands alone. -/
inductive Program.ReadsAs : List Line → Program → Prop where
  | nil : ReadsAs [] ⟨[], []⟩
  | line {line : Line} {rest : List Line} {later : Program}
      (noHeader : line.head.kind ≠ .keyword .define) (reads : ReadsAs rest later) :
      ReadsAs (line :: rest) (consOutcome line.number (readLine line) ⟨[], []⟩ ++ later)
  | block {header : Line} {following rest : List Line} {block : BlockLines} {later : Program}
      (isHeader : header.head.kind = .keyword .define)
      (takes : TakesBlock header.arguments following block rest) (reads : ReadsAs rest later) :
      ReadsAs (header :: following) (block.program header ++ later)

/-! ### Reading blocks -/

theorem splitHeader_eq (arguments : List TokenKind) :
    splitHeader arguments = (headerName arguments, bracePlace arguments) := by
  unfold splitHeader
  split
  · rfl
  · rfl
  · next kind rest noBrace =>
    refine Prod.ext rfl ?_
    unfold bracePlace
    split
    · next same => exact absurd (List.cons.inj same).1 noBrace
    · rfl

theorem readHeader_of_closesOnHeader {arguments : List TokenKind}
    (closed : ClosesOnHeader arguments) (following : List Line) :
    readHeader arguments following
      = ⟨headerName arguments, .closedOnHeader, headerWarnings arguments none⟩ := by
  obtain ⟨more, place⟩ := closed
  unfold readHeader headerWarnings
  rw [splitHeader_eq, ← place]
  cases more <;> rfl

/-- Where the brace is on the header and is not closed there, nothing else is looked at. -/
theorem readHeader_of_opensOnHeader {arguments : List TokenKind}
    (opens : OpensOnHeader arguments) (goesOn : ¬ ClosesOnHeader arguments)
    (following : List Line) :
    readHeader arguments following
      = ⟨headerName arguments, .onHeader, headerWarnings arguments none⟩ := by
  obtain ⟨more, place⟩ := List.head?_eq_some_iff.mp opens
  rw [ClosesOnHeader, place] at goesOn
  unfold readHeader headerWarnings
  rw [splitHeader_eq, place]
  rcases more with _ | ⟨next, more⟩
  · rfl
  · have notClosing : next ≠ .mark .rightBrace := by
      rintro rfl
      exact goesOn ⟨more, rfl⟩
    simp [notClosing]

/-- Without a brace in its place only the next line matters. -/
theorem readHeader_of_not_opensOnHeader {arguments : List TokenKind}
    (opensNot : ¬ OpensOnHeader arguments) (following : List Line) :
    readHeader arguments following
      = if following.head?.any Line.isOpeningBrace then ⟨headerName arguments, .onNextLine, []⟩
        else ⟨headerName arguments, .absent, [.openingBraceMissing]⟩ := by
  rw [OpensOnHeader] at opensNot
  unfold readHeader
  rw [splitHeader_eq]
  generalize bracePlace arguments = place at opensNot
  dsimp only
  split
  · exact absurd rfl opensNot
  · exact absurd rfl opensNot
  · exact absurd rfl opensNot
  · exact absurd rfl opensNot
  · rfl

theorem headerWarnings_of_not_opensOnHeader {arguments : List TokenKind}
    (opensNot : ¬ OpensOnHeader arguments) (opening : Option Line) :
    headerWarnings arguments opening = if opening.isSome then [] else [.openingBraceMissing] := by
  rw [OpensOnHeader] at opensNot
  unfold headerWarnings
  generalize bracePlace arguments = place at opensNot
  split
  · exact absurd rfl opensNot
  · exact absurd rfl opensNot
  · exact absurd rfl opensNot
  · rfl
  · rfl

/-- Lines that do not close a block are read one by one. -/
theorem readBody_append (header : Nat) {inner : List Line}
    (goesOn : ∀ line ∈ inner, line.head.kind ≠ .mark .rightBrace) (later : List Line) :
    readBody header (inner ++ later)
      = ⟨inner.filterMap (fun line => (readFaceRule line).1) ++ (readBody header later).rules,
        inner.flatMap (fun line => (readFaceRule line).2) ++ (readBody header later).diagnostics,
        (readBody header later).after⟩ := by
  induction inner with
  | nil => rfl
  | cons line rest inductionHypothesis =>
    obtain ⟨here, others⟩ := List.forall_mem_cons.mp goesOn
    have isBody : ¬ line.closesBlock = true := fun closes => here (of_decide_eq_true closes)
    rw [List.cons_append, readBody, if_neg isBody, inductionHypothesis others, List.filterMap_cons,
      List.flatMap_cons]
    cases read : (readFaceRule line).1 <;> simp [read]

/-- A body is read up to its end. -/
theorem EndsWith.readBody_eq {lines inner rest : List Line} {ending : BlockEnd}
    (ends : EndsWith lines inner ending rest) (header : Nat) :
    readBody header lines
      = ⟨inner.filterMap (fun line => (readFaceRule line).1),
        inner.flatMap (fun line => (readFaceRule line).2) ++ ending.warnings header, rest⟩ := by
  cases ends with
  | @closed _ closing _ goesOn closes =>
    have isClosing : closing.closesBlock = true := decide_eq_true closes
    rw [readBody_append header goesOn, readBody, if_pos isClosing, List.append_nil]
    rfl
  | never goesOn =>
    have read := readBody_append header goesOn []
    rw [List.append_nil] at read
    rw [read, readBody, List.append_nil]
    rfl

/-- What a header reads is what its block comes to. -/
theorem TakesBlock.readHeader_eq {arguments : List TokenKind} {following rest : List Line}
    {block : BlockLines} (takes : TakesBlock arguments following block rest) :
    ∃ opening, readHeader arguments following
        = ⟨headerName arguments, opening, headerWarnings arguments block.opening⟩
      ∧ ∀ number, (readHeader arguments following).body number following
        = ⟨block.inner.filterMap (fun line => (readFaceRule line).1),
          block.inner.flatMap (fun line => (readFaceRule line).2) ++ block.ending.warnings number,
          rest⟩ := by
  cases takes with
  | onHeader closed =>
    rw [readHeader_of_closesOnHeader closed]
    exact ⟨_, rfl, fun _ => rfl⟩
  | @lines _ after _ _ _ goesOn opens ends =>
    cases opens with
    | onHeader opensHere =>
      rw [readHeader_of_opensOnHeader opensHere goesOn]
      exact ⟨_, rfl, ends.readBody_eq⟩
    | @onNextLine brace _ opensNot alone =>
      have opened : (brace :: after).head?.any Line.isOpeningBrace = true :=
        any_isOpeningBrace_iff.mpr (congrArg some alone)
      rw [readHeader_of_not_opensOnHeader opensNot, if_pos opened,
        headerWarnings_of_not_opensOnHeader opensNot]
      exact ⟨_, rfl, ends.readBody_eq⟩
    | absent opensNot noBrace =>
      rw [readHeader_of_not_opensOnHeader opensNot,
        if_neg (mt any_isOpeningBrace_iff.mp noBrace),
        headerWarnings_of_not_opensOnHeader opensNot]
      exact ⟨_, rfl, ends.readBody_eq⟩

namespace Program

/-- A header takes its block, comes to what the block does, and leaves the lines after it. -/
theorem ofLines_cons_of_takesBlock {header : Line} {following rest : List Line}
    {block : BlockLines} (isHeader : header.head.kind = .keyword .define)
    (takes : TakesBlock header.arguments following block rest) :
    ofLines (header :: following) = block.program header ++ ofLines rest := by
  obtain ⟨opening, read, body⟩ := takes.readHeader_eq
  rw [ofLines_cons_of_define isHeader]
  dsimp only
  rw [body, read, consBlock, BlockLines.program]
  cases headerName header.arguments <;> simp [append_eq]

theorem readsAs_ofLines (lines : List Line) : ReadsAs lines (ofLines lines) := by
  induction lines using topLevelLines.induct with
  | case1 =>
    rw [ofLines_nil]
    exact .nil
  | case2 line following inductionHypothesis =>
    by_cases isHeader : line.head.kind = .keyword .define
    · obtain ⟨block, rest, takes⟩ := exists_takesBlock line.arguments following
      have left : following.drop (line.block following).length = rest := by
        obtain ⟨_, -, body⟩ := takes.readHeader_eq
        rw [line.block_of_define isHeader, ← BlockHeader.after_body _ line.number, body]
      rw [left] at inductionHypothesis
      rw [ofLines_cons_of_takesBlock isHeader takes]
      exact .block isHeader takes inductionHypothesis
    · rw [line.block_of_not_define isHeader] at inductionHypothesis
      rw [ofLines_cons_of_not_define isHeader]
      exact .line isHeader inductionHypothesis

/-- Lines come to exactly one program, the one that is read. -/
theorem readsAs_iff {lines : List Line} {program : Program} :
    ReadsAs lines program ↔ program = ofLines lines := by
  constructor
  · intro reads
    induction reads with
    | nil => exact ofLines_nil.symm
    | line noHeader _ inductionHypothesis =>
      rw [ofLines_cons_of_not_define noHeader, inductionHypothesis]
    | block isHeader takes _ inductionHypothesis =>
      rw [ofLines_cons_of_takesBlock isHeader takes, inductionHypothesis]
  · rintro rfl
    exact readsAs_ofLines lines

/-- How the blocks of a script are read. -/
structure HasExactBlocks (tokens : List Token) : Prop where
  /-- A header takes exactly one block, from the front of the lines that follow it, -/
  taken : ∀ arguments following, ∃ block rest, TakesBlock arguments following block rest
    ∧ block.lines ++ rest = following
    ∧ ∀ other left, TakesBlock arguments following other left → other = block ∧ left = rest
  /-- and reading goes on behind it. -/
  after : ∀ {header : Line} {following block rest},
    TakesBlock header.arguments following block rest →
    ((readHeader header.arguments following).body header.number following).after = rest
  /-- So the script comes to what its blocks and its other lines come to. -/
  reads : ∀ program, ReadsAs (Line.ofTokens tokens) program ↔ program = ofTokens tokens
  /-- The lines of a block are read each by itself. -/
  alone : ∀ line ∈ Line.ofTokens tokens, IsReadAlone line

/-- A block has exact bounds, and its lines are independent. For every script, a header with both
braces in their place takes no other line; any other takes an opening brace alone on the next
line, if it has none itself, and then the lines up to the first that begins with a closing brace,
or all of them for a warning, whatever its name is. The rules of the block are those that its
lines give, each by itself, and no line of it is read as a statement. -/
theorem blocks_have_exact_bounds (tokens : List Token) : HasExactBlocks tokens where
  taken arguments following := by
    obtain ⟨block, rest, takes⟩ := exists_takesBlock arguments following
    exact ⟨block, rest, takes, takes.lines_append, fun _ _ => takes.unique⟩
  after {header _ _ _} takes := by
    obtain ⟨_, -, body⟩ := takes.readHeader_eq
    rw [body header.number]
  reads _ := readsAs_iff
  alone line _ := isReadAlone line

/-- A block without a name, opened on the next line and never closed. A header and a room inside
come to no statement, only to a warning each. -/
theorem blocks_have_exact_bounds_nameless :
    let token (line : Nat) (kind : TokenKind) : Token := ⟨kind, ⟨line, 1⟩⟩
    let tokens : List Token :=
      [token 1 (.keyword .define), token 1 .newline, token 2 (.mark .leftBrace), token 2 .newline,
        token 3 (.keyword .floor), token 3 (.keyword .arx), token 3 (.word "stone"),
        token 3 (.word "tiles"), token 3 (.keyword .fitX), token 3 .newline,
        token 4 (.keyword .define), token 4 (.word "cave"), token 4 .newline,
        token 5 (.keyword .room), token 5 (.keyword .add), token 5 (.integer 1), token 5 .newline]
    ReadsAs (Line.ofTokens tokens) ⟨[],
      [LineWarning.onLine (.unknownFitMode "tiles") 3, LineWarning.onLine (.unknownFace "define") 4,
        LineWarning.onLine (.unknownFace "room") 5, LineWarning.blockNeverClosed.onLine 1,
        LineError.defineWithoutName.onLine 1]⟩ := by
  intro token tokens
  exact ((blocks_have_exact_bounds tokens).reads _).mpr (by decide +kernel)

end Program

end RoomLayout

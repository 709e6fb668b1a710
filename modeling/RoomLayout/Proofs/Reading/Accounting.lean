import RoomLayout.Proofs.Reading.Lines
import RoomLayout.Proofs.Reading.TopLevel

/-!
# No line is lost silently

Every line at the top level of a script is accounted for: it is one statement, or
it is dropped and one error says so. Warnings, however many, drop nothing.
-/

namespace RoomLayout

/-- The errors among diagnostics. -/
def Diagnostic.errors (diagnostics : List Diagnostic) : List Diagnostic :=
  diagnostics.filter fun diagnostic => diagnostic.severity = .error

/-- Diagnostics none of which drops a statement. -/
def AllWarnings (diagnostics : List Diagnostic) : Prop :=
  ∀ diagnostic ∈ diagnostics, diagnostic.severity = .warning

/-- A program of one line: a statement on the line and no error, or no statement
and one error on the line. -/
def Program.IsOneOutcome (number : Nat) (program : Program) : Prop :=
  (∃ action, program.statements = [⟨number, action⟩]
      ∧ Diagnostic.errors program.diagnostics = [])
    ∨ program.statements = []
      ∧ ∃ message, Diagnostic.errors program.diagnostics = [.error number message]

namespace AllWarnings

theorem nil : AllWarnings [] := fun _ member => absurd member List.not_mem_nil

theorem cons {diagnostic : Diagnostic} {diagnostics : List Diagnostic}
    (first : diagnostic.severity = .warning) (rest : AllWarnings diagnostics) :
    AllWarnings (diagnostic :: diagnostics) :=
  List.forall_mem_cons.mpr ⟨first, rest⟩

theorem append {first second : List Diagnostic} (inFirst : AllWarnings first)
    (inSecond : AllWarnings second) : AllWarnings (first ++ second) :=
  List.forall_mem_append.mpr ⟨inFirst, inSecond⟩

/-- Warnings of a line are warnings. -/
theorem map_onLine (warnings : List LineWarning) (number : Nat) :
    AllWarnings (warnings.map (LineWarning.onLine · number)) := by
  intro diagnostic member
  obtain ⟨warning, _, rfl⟩ := List.mem_map.mp member
  rfl

/-- There is no error among warnings. -/
theorem errors_eq_nil {diagnostics : List Diagnostic} (warnings : AllWarnings diagnostics) :
    Diagnostic.errors diagnostics = [] := by
  refine List.filter_eq_nil_iff.mpr fun diagnostic member => ?_
  rw [warnings diagnostic member]
  decide

end AllWarnings

theorem errors_append (first second : List Diagnostic) :
    Diagnostic.errors (first ++ second) = Diagnostic.errors first ++ Diagnostic.errors second :=
  List.filter_append first second

/-! ### The lines of a block only warn -/

theorem allWarnings_readFit (fit : Fit) (tokens : List Token) :
    AllWarnings (readFit fit tokens).2 := by
  induction tokens generalizing fit with
  | nil => exact .nil
  | cons token rest inductionHypothesis =>
    unfold readFit
    split
    · exact inductionHypothesis _
    · exact inductionHypothesis _
    · exact inductionHypothesis _
    · exact .cons rfl (inductionHypothesis fit)

/-- The tokens after a face that are read as a source, and what is reported of them. -/
inductive ReadsSource (number : Nat) : List Token → FaceSource → List Diagnostic → Prop where
  | off {mode : Token} (isOff : mode.kind = .keyword .off) (ignored : List Token) :
      ReadsSource number (mode :: ignored) .off
        (if ignored.isEmpty then [] else [LineWarning.tokensAfterOff.onLine number])
  | builtin {mode first : Token} {name : String} (isArx : mode.kind = .keyword .arx)
      (isWord : first.kind.asWord? = some name) (modes : List Token) :
      ReadsSource number (mode :: first :: modes) (.builtin name (readFit {} modes).1)
        (readFit {} modes).2
  | custom {mode first second : Token} {folder filename : String}
      (isCustom : mode.kind = .keyword .custom) (isFolder : first.kind.asWord? = some folder)
      (isFilename : second.kind.asWord? = some filename) (modes : List Token) :
      ReadsSource number (mode :: first :: second :: modes)
        (.custom folder filename (readFit {} modes).1) (readFit {} modes).2

theorem readFaceSource_eq_ok_iff_reads {number : Nat} {tokens : List Token}
    {source : FaceSource} {diagnostics : List Diagnostic} :
    readFaceSource number tokens = .ok (source, diagnostics)
      ↔ ReadsSource number tokens source diagnostics := by
  constructor
  · intro read
    unfold readFaceSource at read
    split at read
    · exact nomatch read
    · next mode rest =>
      split at read
      · next isOff =>
        obtain ⟨rfl, rfl⟩ := Prod.mk.inj (Except.ok.inj read)
        exact .off isOff rest
      · next isArx =>
        split at read
        · next name isWord =>
          obtain ⟨rfl, rfl⟩ := Prod.mk.inj (Except.ok.inj read)
          rcases rest with _ | ⟨first, modes⟩
          · exact nomatch isWord
          · exact .builtin isArx isWord modes
        · exact nomatch read
      · next isCustom =>
        split at read
        · next folder filename isFolder isFilename =>
          obtain ⟨rfl, rfl⟩ := Prod.mk.inj (Except.ok.inj read)
          rcases rest with _ | ⟨first, _ | ⟨second, modes⟩⟩
          · exact nomatch isFolder
          · exact nomatch isFilename
          · exact .custom isCustom isFolder isFilename modes
        · exact nomatch read
      · exact nomatch read
  · intro reads
    cases reads with
    | off isOff ignored => simp only [readFaceSource, isOff]
    | builtin isArx isWord modes => simp [readFaceSource, isArx, wordOf?, isWord]
    | custom isCustom isFolder isFilename modes =>
      simp [readFaceSource, isCustom, wordOf?, isFolder, isFilename]

theorem allWarnings_readFaceSource {number : Nat} {tokens : List Token} {source : FaceSource}
    {diagnostics : List Diagnostic}
    (read : readFaceSource number tokens = .ok (source, diagnostics)) :
    AllWarnings diagnostics := by
  cases readFaceSource_eq_ok_iff_reads.mp read with
  | off isOff ignored =>
    split
    · exact .nil
    · exact .cons rfl .nil
  | builtin | custom => exact allWarnings_readFit {} _

/-- A line of a block costs warnings only. -/
theorem allWarnings_readFaceRule (line : Line) : AllWarnings (readFaceRule line).2 := by
  unfold readFaceRule
  split
  · exact .cons rfl .nil
  · split
    · exact .cons rfl .nil
    · next read => exact allWarnings_readFaceSource read

/-- So does a body. -/
theorem allWarnings_readBody (header : Nat) (lines : List Line) :
    AllWarnings (readBody header lines).diagnostics := by
  induction lines with
  | nil => exact .cons rfl .nil
  | cons line rest inductionHypothesis =>
    unfold readBody
    split
    · dsimp only
      split
      · exact .nil
      · exact .cons rfl .nil
    · exact (allWarnings_readFaceRule line).append inductionHypothesis

theorem BlockHeader.allWarnings_body (header : BlockHeader) (number : Nat)
    (following : List Line) : AllWarnings (header.body number following).diagnostics := by
  unfold BlockHeader.body
  split
  · exact .nil
  · exact allWarnings_readBody number following.tail
  · exact allWarnings_readBody number following
  · exact allWarnings_readBody number following

/-! ### Every line has one outcome -/

/-- A line that is not a header has one outcome. -/
theorem isOneOutcome_consOutcome (number : Nat) (outcome : LineOutcome) :
    (Program.consOutcome number outcome ⟨[], []⟩).IsOneOutcome number := by
  rcases outcome with error | ⟨action, warnings⟩
  · exact Or.inr ⟨rfl, error.message, rfl⟩
  · refine Or.inl ⟨action, rfl, ?_⟩
    exact ((AllWarnings.map_onLine warnings number).append .nil).errors_eq_nil

/-- A block whose body only warns has one outcome: the missing name is the only
error. -/
theorem isOneOutcome_consBlock (number : Nat) (header : BlockHeader) {body : BlockBody}
    (bodyWarns : AllWarnings body.diagnostics) :
    (Program.consBlock number header body ⟨[], []⟩).IsOneOutcome number := by
  have warnings := (AllWarnings.map_onLine header.warnings number).append bodyWarns
  unfold Program.consBlock
  cases header.name with
  | some name => exact Or.inl ⟨_, rfl, (warnings.append .nil).errors_eq_nil⟩
  | none =>
    refine Or.inr ⟨rfl, LineError.defineWithoutName.message, ?_⟩
    rw [errors_append, warnings.errors_eq_nil]
    rfl

/-- Every line at the top level has one outcome. -/
theorem isOneOutcome_of_mem_topLevelLines {lines : List Line} {top : TopLevelLine}
    (member : top ∈ topLevelLines lines) : top.program.IsOneOutcome top.head.number := by
  induction lines using topLevelLines.induct with
  | case1 =>
    rw [topLevelLines] at member
    exact absurd member List.not_mem_nil
  | case2 line following inductionHypothesis =>
    rw [topLevelLines_cons] at member
    rcases List.mem_cons.mp member with rfl | inLater
    · change (Program.ofLines (line :: line.block following)).IsOneOutcome line.number
      by_cases isHeader : line.head.kind = .keyword .define
      · rw [Program.ofLines_block_of_define isHeader]
        exact isOneOutcome_consBlock _ _ (BlockHeader.allWarnings_body _ _ _)
      · rw [Program.ofLines_block_of_not_define isHeader]
        exact isOneOutcome_consOutcome _ _
    · exact inductionHypothesis inLater

/-- A statement or an error, and never both. -/
theorem Program.IsOneOutcome.count {number : Nat} {program : Program}
    (outcome : program.IsOneOutcome number) :
    program.statements.length + (Diagnostic.errors program.diagnostics).length = 1 := by
  rcases outcome with ⟨action, statements, noErrors⟩ | ⟨noStatements, message, errors⟩
  · rw [statements, noErrors]
    rfl
  · rw [noStatements, errors]
    rfl

/-- Lines with one outcome each are as many as their statements and errors. -/
theorem length_eq_statements_add_errors {tops : List TopLevelLine}
    (outcomes : ∀ top ∈ tops, top.program.IsOneOutcome top.head.number) :
    tops.length = (tops.flatMap fun top => top.program.statements).length
      + (Diagnostic.errors (tops.flatMap fun top => top.program.diagnostics)).length := by
  induction tops with
  | nil => rfl
  | cons top tops inductionHypothesis =>
    obtain ⟨here, later⟩ := List.forall_mem_cons.mp outcomes
    have one := here.count
    have rest := inductionHypothesis later
    rw [List.flatMap_cons, List.flatMap_cons, errors_append, List.length_append,
      List.length_append, List.length_cons]
    omega

/-- What a script comes to, accounted for line by line at its top level. -/
structure AccountsFor (tops : List TopLevelLine) (tokens : List Token) (program : Program) :
    Prop where
  /-- The lines are the logical lines of the script. -/
  lines : tops.flatMap TopLevelLine.lines = Line.ofTokens tokens
  /-- They hold all tokens but the newlines. -/
  tokens : (tops.flatMap TopLevelLine.lines).flatMap Line.tokens
    = tokens.filter fun token => token.kind ≠ .newline
  /-- Only a header of a block counts together with later lines. -/
  single : ∀ top ∈ tops, top.head.head.kind ≠ .keyword .define → top.block = []
  /-- The statements are those of the lines, -/
  statements : program.statements = tops.flatMap fun top => top.program.statements
  /-- and so are the diagnostics. -/
  diagnostics : program.diagnostics = tops.flatMap fun top => top.program.diagnostics
  /-- Every line is one statement without an error, or one error without a
  statement, under the number of its first token. -/
  outcome : ∀ top ∈ tops, top.program.IsOneOutcome top.head.number
  count : tops.length
    = program.statements.length + (Diagnostic.errors program.diagnostics).length

/-- Every line at the top level of a script is accounted for, so there are as many
of them as statements and errors together. -/
theorem ofTokens_accounts_for_every_line (tokens : List Token) :
    AccountsFor (topLevelLines (Line.ofTokens tokens)) tokens (Program.ofTokens tokens) := by
  have read := Program.ofLines_eq_flatMap (Line.ofTokens tokens)
  have lines := flatMap_lines_topLevelLines (Line.ofTokens tokens)
  refine ⟨lines, ?_, fun _ => block_eq_nil_of_mem_topLevelLines, congrArg Program.statements read,
    congrArg Program.diagnostics read, fun _ => isOneOutcome_of_mem_topLevelLines, ?_⟩
  · rw [lines, Line.flatMap_tokens_ofTokens]
  · rw [Program.ofTokens, read]
    exact length_eq_statements_add_errors fun _ => isOneOutcome_of_mem_topLevelLines

end RoomLayout

import RoomLayout.Proofs.Lexing.LineByLine
import RoomLayout.Proofs.Reading.TopLevel

/-!
# Line numbers decide nothing

Reading looks at kinds of tokens and at their order. The number of a line is only
copied, to statements, to the rules of a block and to diagnostics. So reading commutes
with every renumbering of the lines, whatever it is; `Program.ofLines_mapLine` is the
law, and there is one lemma for each reader below it.
-/

namespace RoomLayout

/-- The same line under another number. -/
def Line.mapLine (f : Nat → Nat) (line : Line) : Line :=
  ⟨line.head.mapLine f, line.tail.map (Token.mapLine f)⟩

/-- The same diagnostic for another line. -/
def Diagnostic.mapLine (f : Nat → Nat) (diagnostic : Diagnostic) : Diagnostic :=
  { diagnostic with line := f diagnostic.line }

/-- The same rule on another line. -/
def FaceRule.mapLine (f : Nat → Nat) (rule : FaceRule) : FaceRule :=
  { rule with line := f rule.line }

/-- The same action with the lines of its rules renumbered. -/
def Action.mapLines (f : Nat → Nat) : Action → Action
  | .define name rules => .define name (rules.map (FaceRule.mapLine f))
  | action => action

/-- The same statement with all its lines renumbered. -/
def Statement.mapLines (f : Nat → Nat) (statement : Statement) : Statement :=
  ⟨f statement.line, statement.action.mapLines f⟩

/-- The same program with all its lines renumbered. -/
def Program.mapLines (f : Nat → Nat) (program : Program) : Program :=
  ⟨program.statements.map (Statement.mapLines f),
    program.diagnostics.map (Diagnostic.mapLine f)⟩

/-- The same body with all its lines renumbered. -/
def BlockBody.mapLines (f : Nat → Nat) (body : BlockBody) : BlockBody :=
  ⟨body.rules.map (FaceRule.mapLine f), body.diagnostics.map (Diagnostic.mapLine f),
    body.after.map (Line.mapLine f)⟩

variable (f : Nat → Nat)

@[simp] theorem Token.kind_mapLine (token : Token) : (token.mapLine f).kind = token.kind := rfl

@[simp] theorem Token.line_mapLine (token : Token) : (token.mapLine f).line = f token.line := rfl

theorem LineWarning.mapLine_onLine (warning : LineWarning) (number : Nat) :
    (warning.onLine number).mapLine f = warning.onLine (f number) := rfl

theorem LineError.mapLine_onLine (error : LineError) (number : Nat) :
    (error.onLine number).mapLine f = error.onLine (f number) := rfl

namespace Line

@[simp] theorem number_mapLine (line : Line) : (line.mapLine f).number = f line.number := rfl

@[simp] theorem kind_head_mapLine (line : Line) :
    (line.mapLine f).head.kind = line.head.kind := rfl

@[simp] theorem tail_mapLine (line : Line) :
    (line.mapLine f).tail = line.tail.map (Token.mapLine f) := rfl

@[simp] theorem arguments_mapLine (line : Line) : (line.mapLine f).arguments = line.arguments := by
  rw [arguments, arguments, tail_mapLine, List.map_map]
  rfl

@[simp] theorem closesBlock_mapLine (line : Line) :
    (line.mapLine f).closesBlock = line.closesBlock := rfl

@[simp] theorem isOpeningBrace_mapLine (line : Line) :
    (line.mapLine f).isOpeningBrace = line.isOpeningBrace := by
  rw [isOpeningBrace, isOpeningBrace, kinds, kinds, arguments_mapLine, kind_head_mapLine]

end Line

/-- Tokens on other lines are cut at the same places. -/
theorem Line.ofTokens_mapLine (tokens : List Token) :
    ofTokens (tokens.map (Token.mapLine f)) = (ofTokens tokens).map (mapLine f) := by
  have sameCut : cut (tokens.map (Token.mapLine f)) =
      ((cut tokens).1.map (Token.mapLine f),
        (cut tokens).2.map (List.map (Token.mapLine f))) := by
    induction tokens with
    | nil => rfl
    | cons token rest inductionHypothesis =>
      simp only [List.map_cons, cut, inductionHypothesis, Token.kind_mapLine]
      split <;> rfl
  have samePiece : ∀ piece : List Token,
      ofTokens? (piece.map (Token.mapLine f)) = (ofTokens? piece).map (mapLine f) := by
    intro piece
    cases piece <;> rfl
  rw [ofTokens, sameCut, ofTokens]
  dsimp only
  rw [← List.map_cons, List.filterMap_map, List.map_filterMap]
  exact congrArg (List.filterMap · _) (funext samePiece)

/-! ### The lines of a block -/

theorem readFit_mapLine (fit : Fit) (tokens : List Token) :
    readFit fit (tokens.map (Token.mapLine f)) =
      ((readFit fit tokens).1, (readFit fit tokens).2.map (Diagnostic.mapLine f)) := by
  induction tokens generalizing fit with
  | nil => rfl
  | cons token rest inductionHypothesis =>
    simp only [List.map_cons, readFit, Token.kind_mapLine]
    split
    · exact inductionHypothesis _
    · exact inductionHypothesis _
    · exact inductionHypothesis _
    · rw [inductionHypothesis]
      rfl

theorem wordOf?_mapLine (token : Option Token) :
    wordOf? (token.map (Token.mapLine f)) = wordOf? token := by
  cases token <;> rfl

theorem readFaceSource_mapLine (number : Nat) (tokens : List Token) :
    readFaceSource (f number) (tokens.map (Token.mapLine f)) =
      (readFaceSource number tokens).map fun read =>
        (read.1, read.2.map (Diagnostic.mapLine f)) := by
  cases tokens with
  | nil => rfl
  | cons mode rest =>
    simp only [List.map_cons, readFaceSource, Token.kind_mapLine, List.getElem?_map,
      wordOf?_mapLine, ← List.map_drop, readFit_mapLine]
    split
    · cases rest <;> rfl
    · split <;> rfl
    · split <;> rfl
    · rfl

/-- A line of a block is the same rule or the same complaint. -/
theorem readFaceRule_mapLine (line : Line) :
    readFaceRule (line.mapLine f) =
      ((readFaceRule line).1.map (FaceRule.mapLine f),
        (readFaceRule line).2.map (Diagnostic.mapLine f)) := by
  simp only [readFaceRule, Line.kind_head_mapLine, Line.number_mapLine, Line.tail_mapLine,
    readFaceSource_mapLine]
  cases faceTarget? line.head.kind with
  | none => rfl
  | some target => cases readFaceSource line.number line.tail <;> rfl

/-- A body ends at the same line, with the same rules. -/
theorem readBody_mapLine (header : Nat) (lines : List Line) :
    readBody (f header) (lines.map (Line.mapLine f)) = (readBody header lines).mapLines f := by
  induction lines with
  | nil => rfl
  | cons line rest inductionHypothesis =>
    simp only [List.map_cons, readBody, Line.closesBlock_mapLine, Line.tail_mapLine,
      Line.number_mapLine, List.isEmpty_map, readFaceRule_mapLine, inductionHypothesis]
    split
    · split <;> rfl
    · simp only [BlockBody.mapLines, List.map_append]
      cases (readFaceRule line).1 <;> rfl

theorem readHeader_mapLine (arguments : List TokenKind) (following : List Line) :
    readHeader arguments (following.map (Line.mapLine f)) = readHeader arguments following := by
  have sameBrace : ((following.map (Line.mapLine f)).head?.any Line.isOpeningBrace) =
      following.head?.any Line.isOpeningBrace := by
    cases following with
    | nil => rfl
    | cons line rest => exact Line.isOpeningBrace_mapLine f line
  unfold readHeader
  rw [sameBrace]

theorem BlockHeader.body_mapLine (header : BlockHeader) (number : Nat) (following : List Line) :
    header.body (f number) (following.map (Line.mapLine f)) =
      (header.body number following).mapLines f := by
  unfold BlockHeader.body
  cases header.opening with
  | closedOnHeader => rfl
  | onNextLine => rw [← List.map_tail, readBody_mapLine]
  | onHeader => exact readBody_mapLine f number following
  | absent => exact readBody_mapLine f number following

/-! ### Single lines -/

/-- What a line comes to, with the lines of its action renumbered. -/
def LineOutcome.mapLines (outcome : LineOutcome) : LineOutcome :=
  outcome.map (Prod.map (Action.mapLines f) id)

theorem mapLines_readRoom (arguments : List TokenKind) :
    LineOutcome.mapLines f (readRoom arguments) = readRoom arguments := by
  unfold readRoom
  split
  · next sizes =>
    cases readSize .x sizes[0]? with
    | error error => rfl
    | ok x =>
      cases readSize .y sizes[1]? with
      | error error => rfl
      | ok y => cases readSize .z sizes[2]? <;> rfl
  · rfl

theorem mapLines_readLight (arguments : List TokenKind) :
    LineOutcome.mapLines f (readLight arguments) = readLight arguments := by
  unfold readLight
  split <;> rfl

theorem mapLines_readCursor (arguments : List TokenKind) :
    LineOutcome.mapLines f (readCursor arguments) = readCursor arguments := by
  have ofSnapshot : ∀ action : String → Action, (∀ name, (action name).mapLines f = action name) →
      ∀ rest, LineOutcome.mapLines f (readSnapshot action rest) = readSnapshot action rest := by
    intro action unchanged rest
    cases rest with
    | nil => rfl
    | cons kind rest =>
      simp only [readSnapshot]
      cases kind.asWord? with
      | none => rfl
      | some name => exact congrArg (fun action => Except.ok (action, _)) (unchanged name)
  unfold readCursor
  split
  · exact ofSnapshot .saveCursor (fun _ => rfl) _
  · exact ofSnapshot .restoreCursor (fun _ => rfl) _
  · rfl

theorem mapLines_readAssignment (name : String) (arguments : List TokenKind) :
    LineOutcome.mapLines f (readAssignment name arguments) = readAssignment name arguments := by
  unfold readAssignment
  split
  · next kind rest => cases readValue name kind <;> rfl
  · rfl
  · rfl

/-- A line that stands for itself is the same action or the same error. -/
theorem readLine_mapLine (line : Line) :
    readLine (line.mapLine f) = LineOutcome.mapLines f (readLine line) := by
  simp only [readLine, Line.kind_head_mapLine, Line.arguments_mapLine]
  split
  · exact (mapLines_readRoom f _).symm
  · exact (mapLines_readLight f _).symm
  · exact (mapLines_readCursor f _).symm
  · exact (mapLines_readAssignment f _ _).symm
  · rfl
  · rfl

/-! ### Whole scripts -/

namespace Program

theorem consOutcome_mapLines (number : Nat) (outcome : LineOutcome) (rest : Program) :
    consOutcome (f number) (LineOutcome.mapLines f outcome) (rest.mapLines f) =
      (consOutcome number outcome rest).mapLines f := by
  rcases outcome with error | ⟨action, warnings⟩
  · rfl
  · simp only [LineOutcome.mapLines, Except.map, Prod.map, id, consOutcome, mapLines,
      List.map_cons, List.map_append, List.map_map]
    rfl

theorem consBlock_mapLines (number : Nat) (header : BlockHeader) (body : BlockBody)
    (rest : Program) :
    consBlock (f number) header (body.mapLines f) (rest.mapLines f) =
      (consBlock number header body rest).mapLines f := by
  unfold consBlock
  cases header.name with
  | none =>
    simp only [mapLines, BlockBody.mapLines, List.map_cons, List.map_append, List.map_map]
    rfl
  | some name =>
    simp only [mapLines, BlockBody.mapLines, List.map_cons, List.map_append, List.map_map]
    rfl

/-- A script with other line numbers is read as the same program with those numbers. -/
theorem ofLines_mapLine (lines : List Line) :
    ofLines (lines.map (Line.mapLine f)) = (ofLines lines).mapLines f := by
  induction lines using ofLines.induct with
  | case1 =>
    rw [List.map_nil, ofLines_nil]
    rfl
  | case2 line following isHeader header body inductionHypothesis =>
    have sameBody : header.body (f line.number) (following.map (Line.mapLine f)) =
        body.mapLines f := header.body_mapLine f line.number following
    have later : ofLines (body.mapLines f).after = (ofLines body.after).mapLines f :=
      inductionHypothesis
    rw [List.map_cons, ofLines, ofLines, if_pos isHeader, if_pos (by exact isHeader)]
    dsimp only
    rw [Line.arguments_mapLine, readHeader_mapLine, Line.number_mapLine, sameBody, later,
      consBlock_mapLines]
  | case3 line following noHeader inductionHypothesis =>
    rw [List.map_cons, ofLines, ofLines, if_neg noHeader, if_neg (by exact noHeader),
      readLine_mapLine, Line.number_mapLine, inductionHypothesis, consOutcome_mapLines]

end Program

end RoomLayout

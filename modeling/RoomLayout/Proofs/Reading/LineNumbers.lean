import RoomLayout.Proofs.Lexing.Faults
import RoomLayout.Proofs.Reading.Layout

/-!
# Line numbers of a script

A logical line stands on one line of the text, and its number is the number of that line.
Reading keeps the numbers in order: a statement carries the number of the line that it begins
on, and a rule that of its own line in the block. Diagnostics may come out of order, but their
numbers too are numbers of logical lines: reading commutes with renumbering, so it cannot make
up a number (`Program.line_of_mem_diagnostics`).
-/

namespace RoomLayout

/-! ### Lines of the text -/

/-- Only a line feed is a newline. -/
theorem IsLexemeOf.of_newline {text : List Char}
    (isNewline : IsLexemeOf text (.token .newline)) : text = ['\n'] := by
  obtain ⟨pattern, accepted, named⟩ := isNewline.exists_pattern
  cases pattern with
  | lineFeed => exact accepted
  | _ => exact nomatch named

/-- The tokens of a text without a line feed are all on its line, and none is a newline. -/
theorem line_of_mem_of_no_lineFeed {position : Position} {text : List Char}
    (noFeed : '\n' ∉ text) {tokens : List Token}
    (tokenized : tokenizeFrom position text = .ok tokens) {token : Token}
    (member : token ∈ tokens) : token.line = position.line ∧ token.kind ≠ .newline := by
  obtain ⟨offset, length, cut⟩ := exists_isCutAt_of_mem tokenized member
  constructor
  · have noFeedBefore : (text.take offset).count '\n' = 0 :=
      List.count_eq_zero.mpr fun feed => noFeed (List.mem_of_mem_take feed)
    rw [Token.line, cut.position, Position.line_advance, noFeedBefore, Nat.add_zero]
  · intro isNewline
    have lexeme := cut.munch.lexeme
    rw [isNewline] at lexeme
    have feed : '\n' ∈ (text.drop offset).take length :=
      lexeme.of_newline ▸ List.mem_singleton_self _
    exact noFeed (List.mem_of_mem_drop (List.mem_of_mem_take feed))

/-- Whether a token stands on the line with the given number of a text whose first line has the
number `first`. -/
def HoldsToken (first : Nat) (text : List Char) (number : Nat) : Prop :=
  first ≤ number ∧ ∃ line token rest, (text.splitOn '\n')[number - first]? = some line
    ∧ tokenizeFrom ⟨number, 1⟩ line = .ok (token :: rest)

/-- A text without a line feed is its first line. -/
theorem HoldsToken.eq_first {first : Nat} {text : List Char} (noFeed : '\n' ∉ text) {number : Nat}
    (holds : HoldsToken first text number) : number = first := by
  obtain ⟨isLater, line, _, _, found, _⟩ := holds
  rw [List.splitOn_eq_singleton noFeed] at found
  obtain ⟨inRange, -⟩ := List.getElem?_eq_some_iff.mp found
  rw [List.length_singleton] at inRange
  omega

/-- The lines above a text count on. -/
theorem HoldsToken.below {first : Nat} {line rest : List Char} (noFeed : '\n' ∉ line)
    {number : Nat} (holds : HoldsToken (first + 1) rest number) :
    HoldsToken first (line ++ '\n' :: rest) number := by
  obtain ⟨isLater, found⟩ := holds
  refine ⟨by omega, ?_⟩
  have further : number - first = number - (first + 1) + 1 := by omega
  rwa [List.splitOn_append_cons_self_of_not_mem noFeed, further, List.getElem?_cons_succ]

/-- A token on the first line stays there whatever follows. -/
theorem HoldsToken.above {first : Nat} {line : List Char} (noFeed : '\n' ∉ line) {number : Nat}
    (holds : HoldsToken first line number) (rest : List Char) :
    HoldsToken first (line ++ '\n' :: rest) number := by
  obtain rfl := holds.eq_first noFeed
  obtain ⟨isLater, found⟩ := holds
  refine ⟨isLater, ?_⟩
  rw [List.splitOn_eq_singleton noFeed] at found
  rw [List.splitOn_append_cons_self_of_not_mem noFeed]
  rwa [Nat.sub_self] at found ⊢

/-- The logical lines of a text with a line feed are those before it and those after it. -/
theorem exists_of_linesFrom_append_lineFeed {position : Position} {before after : List Char}
    {lines : List Line} (read : linesFrom position (before ++ '\n' :: after) = .ok lines) :
    ∃ earlier later, linesFrom position before = .ok earlier
      ∧ linesFrom ⟨position.line + before.count '\n' + 1, 1⟩ after = .ok later
      ∧ lines = earlier ++ later := by
  rw [linesFrom_append_lineFeed] at read
  cases above : linesFrom position before with
  | error error =>
    rw [above] at read
    exact nomatch read
  | ok earlier =>
    rw [above] at read
    change Except.map (earlier ++ ·) _ = _ at read
    cases below : linesFrom ⟨position.line + before.count '\n' + 1, 1⟩ after with
    | error error =>
      rw [below] at read
      exact nomatch read
    | ok later =>
      rw [below] at read
      exact ⟨earlier, later, rfl, rfl, (Except.ok.inj read).symm⟩

/-- Logical lines that are numbered as the text they are read from. -/
structure AreNumbered (first : Nat) (text : List Char) (lines : List Line) : Prop where
  shared : ∀ line ∈ lines, ∀ token ∈ line.tokens, token.line = line.number
  ascending : (lines.map Line.number).Pairwise (· < ·)
  held : ∀ line ∈ lines, HoldsToken first text line.number

namespace AreNumbered

variable {first : Nat}

/-- One line of the text is one logical line or none. -/
theorem of_no_lineFeed {text : List Char} (noFeed : '\n' ∉ text) {lines : List Line}
    (read : linesFrom ⟨first, 1⟩ text = .ok lines) : AreNumbered first text lines := by
  rw [linesFrom] at read
  cases tokenized : tokenizeFrom ⟨first, 1⟩ text with
  | error error =>
    rw [tokenized] at read
    cases read
  | ok tokens =>
    rw [tokenized] at read
    obtain rfl := Except.ok.inj read
    have onLine : ∀ token ∈ tokens, token.line = first ∧ token.kind ≠ .newline :=
      fun token member => line_of_mem_of_no_lineFeed noFeed tokenized member
    cases tokens with
    | nil => exact ⟨List.forall_mem_nil _, .nil, List.forall_mem_nil _⟩
    | cons head tail =>
      have number : head.line = first := (onLine head List.mem_cons_self).1
      rw [Line.ofTokens_of_no_newline fun token member => (onLine token member).2]
      constructor
      case shared =>
        intro line member token inLine
        obtain rfl := List.mem_singleton.mp member
        exact (onLine token inLine).1.trans number.symm
      case ascending => exact List.pairwise_singleton _ _
      case held =>
        intro line member
        obtain rfl := List.mem_singleton.mp member
        rw [Line.number, number]
        refine ⟨Nat.le_refl _, text, head, tail, ?_, tokenized⟩
        rw [List.splitOn_eq_singleton noFeed, Nat.sub_self]
        rfl

/-- The first line of a text and the lines after it. -/
theorem append_lineFeed {line rest : List Char} (noFeed : '\n' ∉ line) {earlier later : List Line}
    (here : AreNumbered first line earlier) (below : AreNumbered (first + 1) rest later) :
    AreNumbered first (line ++ '\n' :: rest) (earlier ++ later) where
  shared := List.forall_mem_append.mpr ⟨here.shared, below.shared⟩
  ascending := by
    rw [List.map_append, List.pairwise_append]
    refine ⟨here.ascending, below.ascending, ?_⟩
    intro number inEarlier number' inLater
    obtain ⟨one, isEarlier, rfl⟩ := List.mem_map.mp inEarlier
    obtain ⟨other, isLater, rfl⟩ := List.mem_map.mp inLater
    have isFirst := (here.held one isEarlier).eq_first noFeed
    have isBelow := (below.held other isLater).1
    omega
  held := by
    refine List.forall_mem_append.mpr ⟨?_, ?_⟩
    · exact fun one isEarlier => (here.held one isEarlier).above noFeed rest
    · exact fun other isLater => (below.held other isLater).below noFeed

/-- Logical lines are numbered as the text they are read from. -/
theorem of_linesFrom {text : List Char} {lines : List Line}
    (read : linesFrom ⟨first, 1⟩ text = .ok lines) : AreNumbered first text lines := by
  induction text using line_induction generalizing first lines with
  | last line noFeed => exact of_no_lineFeed noFeed read
  | line line rest noFeed inductionHypothesis =>
    obtain ⟨earlier, later, above, below, rfl⟩ := exists_of_linesFrom_append_lineFeed read
    rw [List.count_eq_zero.mpr noFeed] at below
    exact (of_no_lineFeed noFeed above).append_lineFeed noFeed (inductionHypothesis below)

/-- The logical lines of a script. -/
theorem of_tokenize {source : String} {tokens : List Token}
    (tokenized : tokenize source = .ok tokens) :
    AreNumbered 1 source.toList (Line.ofTokens tokens) := by
  refine of_linesFrom ?_
  rw [linesFrom]
  exact congrArg (Except.map Line.ofTokens) tokenized

end AreNumbered

/-! ### Statements and rules -/

/-- The numbers of the rules of an action. -/
def Action.ruleLines : Action → List Nat
  | .define _ rules => rules.map FaceRule.line
  | _ => []

/-- The numbers that a statement carries: its own, and those of its rules. -/
def Statement.lineNumbers (statement : Statement) : List Nat :=
  statement.line :: statement.action.ruleLines

theorem Statement.lines_sublist_lineNumbers (statements : List Statement) :
    (statements.map line).Sublist (statements.flatMap lineNumbers) := by
  induction statements with
  | nil => exact List.nil_sublist _
  | cons statement rest inductionHypothesis =>
    rw [List.map_cons, List.flatMap_cons, lineNumbers, List.cons_append]
    exact (inductionHypothesis.trans (List.sublist_append_right _ _)).cons_cons _

/-- A line that stands for itself has no rules. -/
theorem ruleLines_readLine {line : Line} {action : Action} {warnings : List LineWarning}
    (read : readLine line = .ok (action, warnings)) : action.ruleLines = [] := by
  have same : readLine (line.mapLine (· + 1)) = readLine line := by
    simp only [readLine, Line.kind_head_mapLine, Line.arguments_mapLine]
  rw [readLine_mapLine, read] at same
  have moved : action.mapLines (· + 1) = action := (Prod.mk.inj (Except.ok.inj same)).1
  cases action with
  | define name rules =>
    cases rules with
    | nil => rfl
    | cons rule rest =>
      obtain ⟨-, sameRules⟩ := Action.define.inj moved
      have sameLine : rule.line + 1 = rule.line :=
        congrArg FaceRule.line (List.cons.inj sameRules).1
      exact absurd sameLine (Nat.succ_ne_self _)
  | _ => rfl

/-- A rule stands on its line. -/
theorem line_of_readFaceRule {line : Line} {rule : FaceRule}
    (read : (readFaceRule line).1 = some rule) : rule.line = line.number := by
  unfold readFaceRule at read
  split at read
  · exact nomatch read
  · split at read
    · exact nomatch read
    · obtain rfl := Option.some.inj read
      rfl

/-- The rules of a body stand on its lines, in order. -/
theorem ruleLines_readBody (header : Nat) (lines : List Line) :
    ((readBody header lines).rules.map FaceRule.line).Sublist
      ((bodyLines lines).map Line.number) := by
  induction lines with
  | nil => exact List.nil_sublist _
  | cons line rest inductionHypothesis =>
    rw [readBody, bodyLines]
    split
    · exact List.nil_sublist _
    · dsimp only
      rw [List.map_append, List.map_cons, ← List.singleton_append]
      refine List.Sublist.append ?_ inductionHypothesis
      cases read : (readFaceRule line).1 with
      | none => exact List.nil_sublist _
      | some rule => rw [Option.toList_some, List.map_singleton, line_of_readFaceRule read]

theorem BlockHeader.ruleLines_body (header : BlockHeader) (number : Nat) (following : List Line) :
    ((header.body number following).rules.map FaceRule.line).Sublist
      ((header.opening.blockLines following).map Line.number) := by
  unfold body
  cases header.opening with
  | closedOnHeader => exact List.nil_sublist _
  | onNextLine =>
    have inBody := ruleLines_readBody number following.tail
    exact inBody.trans ((List.sublist_append_right _ _).map Line.number)
  | onHeader => exact ruleLines_readBody number following
  | absent => exact ruleLines_readBody number following

namespace Program

/-- A line with its block carries the numbers of these lines, in order. -/
theorem lineNumbers_block (line : Line) (following : List Line) :
    ((ofLines (line :: line.block following)).statements.flatMap Statement.lineNumbers).Sublist
      ((line :: line.block following).map Line.number) := by
  by_cases isHeader : line.head.kind = .keyword .define
  · rw [ofLines_block_of_define isHeader, line.block_of_define isHeader]
    dsimp only
    rw [statements_consBlock, List.append_nil, List.map_cons]
    have inBody := (readHeader line.arguments following).ruleLines_body line.number following
    cases (readHeader line.arguments following).name with
    | none => exact List.nil_sublist _
    | some name =>
      rw [Option.map_some, Option.toList_some, List.flatMap_singleton]
      exact inBody.cons_cons _
  · rw [ofLines_block_of_not_define isHeader, line.block_of_not_define isHeader]
    cases read : readLine line with
    | error error => exact List.nil_sublist _
    | ok outcome =>
      obtain ⟨action, warnings⟩ := outcome
      have none := ruleLines_readLine read
      rw [consOutcome, List.flatMap_singleton, Statement.lineNumbers, none]
      exact List.Sublist.refl _

/-- Statements and rules carry numbers of the lines, each at most once and in order. -/
theorem lineNumbers_sublist (lines : List Line) :
    ((ofLines lines).statements.flatMap Statement.lineNumbers).Sublist
      (lines.map Line.number) := by
  induction lines using topLevelLines.induct with
  | case1 =>
    rw [ofLines_nil]
    exact List.nil_sublist _
  | case2 line following inductionHypothesis =>
    have whole : line :: following = (line :: line.block following)
        ++ following.drop (line.block following).length := by
      rw [List.cons_append, line.block_append_drop]
    rw [ofLines_cons, append_eq, List.flatMap_append]
    conv => rhs; rw [whole, List.map_append]
    exact (lineNumbers_block line following).append inductionHypothesis

/-! ### Diagnostics -/

/-- A diagnostic stands on a line of some token. Were the other numbers all raised by one, the
script would be the same, and so the diagnostics would have to be. -/
theorem line_of_mem_diagnostics {lines : List Line}
    (shared : ∀ line ∈ lines, ∀ token ∈ line.tokens, token.line = line.number)
    {diagnostic : Diagnostic} (member : diagnostic ∈ (ofLines lines).diagnostics) :
    diagnostic.line ∈ lines.map Line.number := by
  let raised (number : Nat) : Nat :=
    if number ∈ lines.map Line.number then number else number + 1
  have keepsToken : ∀ line ∈ lines, ∀ token ∈ line.tokens, token.mapLine raised = token := by
    intro line inLines token inLine
    have known : token.line ∈ lines.map Line.number :=
      shared line inLines token inLine ▸ List.mem_map_of_mem inLines
    have same : raised token.position.line = token.position.line := if_pos known
    rw [Token.mapLine, Position.mapLine, same]
  have keepsLines : lines.map (Line.mapLine raised) = lines := by
    refine (List.map_congr_left fun line inLines => ?_).trans (List.map_id _)
    have head := keepsToken line inLines line.head List.mem_cons_self
    have tail : line.tail.map (Token.mapLine raised) = line.tail :=
      (List.map_congr_left fun token inTail =>
        keepsToken line inLines token (List.mem_cons_of_mem _ inTail)).trans (List.map_id _)
    rw [Line.mapLine, head, tail]
    rfl
  have same := ofLines_mapLine raised lines
  rw [keepsLines] at same
  have keepsDiagnostic : diagnostic.mapLine raised = diagnostic := by
    have sameDiagnostics : (ofLines lines).diagnostics.map (Diagnostic.mapLine raised)
        = (ofLines lines).diagnostics.map id :=
      (congrArg Program.diagnostics same).symm.trans (List.map_id _).symm
    exact List.map_inj_left.mp sameDiagnostics diagnostic member
  by_contra unknown
  have sameLine : raised diagnostic.line = diagnostic.line :=
    congrArg Diagnostic.line keepsDiagnostic
  rw [show raised diagnostic.line = diagnostic.line + 1 from if_neg unknown] at sameLine
  exact Nat.succ_ne_self _ sameLine

end Program

end RoomLayout

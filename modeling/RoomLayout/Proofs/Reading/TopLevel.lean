import RoomLayout.Script.Program

/-!
# Lines at the top level

A script is a sequence of lines at the top level. A header of a block counts as
one together with the lines that the block takes. `Program.ofLines_eq_flatMap` says
that reading a script is reading these lines one by one, each as if it stood alone,
and joining what they come to.
-/

namespace RoomLayout

/-- The lines that a body takes: up to the first that closes the block, or all. -/
def bodyLines : List Line → List Line
  | [] => []
  | line :: rest => if line.closesBlock then [line] else line :: bodyLines rest

/-- The lines that a block takes after its header. -/
def Opening.blockLines (following : List Line) : Opening → List Line
  | .closedOnHeader => []
  | .onNextLine => following.take 1 ++ bodyLines following.tail
  | .onHeader | .absent => bodyLines following

/-- The lines that a line takes with it: those of its block, if it is a header. -/
def Line.block (line : Line) (following : List Line) : List Line :=
  if line.head.kind = .keyword .define then
    (readHeader line.arguments following).opening.blockLines following
  else []

theorem Line.block_of_define {line : Line} (isHeader : line.head.kind = .keyword .define)
    (following : List Line) :
    line.block following = (readHeader line.arguments following).opening.blockLines following :=
  if_pos isHeader

theorem Line.block_of_not_define {line : Line} (noHeader : line.head.kind ≠ .keyword .define)
    (following : List Line) : line.block following = [] :=
  if_neg noHeader

/-- A line at the top level, with the lines of its block if it is a header. -/
structure TopLevelLine where
  head : Line
  block : List Line

/-- All lines of a line at the top level. -/
def TopLevelLine.lines (line : TopLevelLine) : List Line := line.head :: line.block

/-- The lines of a script at its top level. -/
def topLevelLines : List Line → List TopLevelLine
  | [] => []
  | line :: following =>
    ⟨line, line.block following⟩ :: topLevelLines (following.drop (line.block following).length)
termination_by lines => lines.length
decreasing_by
  rw [List.length_drop, List.length_cons]
  omega

theorem topLevelLines_cons (line : Line) (following : List Line) :
    topLevelLines (line :: following) =
      ⟨line, line.block following⟩
        :: topLevelLines (following.drop (line.block following).length) := by
  rw [topLevelLines]

/-! ### What a block takes -/

/-- A body takes lines from the front. -/
theorem bodyLines_isPrefix (lines : List Line) : bodyLines lines <+: lines := by
  induction lines with
  | nil => exact List.prefix_rfl
  | cons line rest inductionHypothesis =>
    rw [bodyLines]
    split
    · exact (List.prefix_cons_inj line).mpr List.nil_prefix
    · exact (List.prefix_cons_inj line).mpr inductionHypothesis

/-- A body begins with the first line, if there is one. -/
theorem head?_bodyLines (lines : List Line) : (bodyLines lines).head? = lines.head? := by
  cases lines with
  | nil => rfl
  | cons line rest =>
    rw [bodyLines]
    split <;> rfl

/-- A block takes lines from the front. -/
theorem Opening.blockLines_isPrefix (opening : Opening) (following : List Line) :
    opening.blockLines following <+: following := by
  cases opening with
  | closedOnHeader => exact List.nil_prefix
  | onNextLine =>
    cases following with
    | nil => exact List.prefix_rfl
    | cons brace rest => exact (List.prefix_cons_inj brace).mpr (bodyLines_isPrefix rest)
  | onHeader => exact bodyLines_isPrefix following
  | absent => exact bodyLines_isPrefix following

/-- The lines a line takes with it are those that directly follow it. -/
theorem Line.block_append_drop (line : Line) (following : List Line) :
    line.block following ++ following.drop (line.block following).length = following := by
  have isPrefix : line.block following <+: following := by
    unfold block
    split
    · exact Opening.blockLines_isPrefix _ following
    · exact List.nil_prefix
  exact List.prefix_iff_eq_append.mp isPrefix

/-- The lines of a script are those of its top level, in order. -/
theorem flatMap_lines_topLevelLines (lines : List Line) :
    (topLevelLines lines).flatMap TopLevelLine.lines = lines := by
  induction lines using topLevelLines.induct with
  | case1 => rw [topLevelLines]; rfl
  | case2 line following inductionHypothesis =>
    rw [topLevelLines_cons, List.flatMap_cons, inductionHypothesis]
    exact congrArg (line :: ·) (line.block_append_drop following)

/-- Only headers take lines with them. -/
theorem block_eq_nil_of_mem_topLevelLines {lines : List Line} {top : TopLevelLine}
    (member : top ∈ topLevelLines lines) (noHeader : top.head.head.kind ≠ .keyword .define) :
    top.block = [] := by
  induction lines using topLevelLines.induct with
  | case1 =>
    rw [topLevelLines] at member
    exact absurd member List.not_mem_nil
  | case2 line following inductionHypothesis =>
    rw [topLevelLines_cons] at member
    rcases List.mem_cons.mp member with rfl | inLater
    · exact line.block_of_not_define noHeader following
    · exact inductionHypothesis inLater

/-! ### Reading a block alone -/

/-- A body read alone has the same rules and the same diagnostics. -/
theorem readBody_bodyLines (header : Nat) (lines : List Line) :
    readBody header (bodyLines lines)
      = ⟨(readBody header lines).rules, (readBody header lines).diagnostics, []⟩ := by
  induction lines with
  | nil => rfl
  | cons line rest inductionHypothesis =>
    by_cases closes : line.closesBlock
    · simp [bodyLines, readBody, closes]
    · simp [bodyLines, readBody, closes, inductionHypothesis]

/-- After a body come the lines that it does not take. -/
theorem after_readBody (header : Nat) (lines : List Line) :
    (readBody header lines).after = lines.drop (bodyLines lines).length := by
  induction lines with
  | nil => rfl
  | cons line rest inductionHypothesis =>
    by_cases closes : line.closesBlock
    · simp [bodyLines, readBody, closes]
    · simp [bodyLines, readBody, closes, inductionHypothesis]

/-- The lines that a block takes, read alone, have the same rules and diagnostics. -/
theorem BlockHeader.body_blockLines (header : BlockHeader) (number : Nat) (following : List Line) :
    header.body number (header.opening.blockLines following)
      = ⟨(header.body number following).rules, (header.body number following).diagnostics, []⟩ := by
  unfold BlockHeader.body
  cases header.opening with
  | closedOnHeader => rfl
  | onNextLine =>
    cases following with
    | nil => rfl
    | cons brace rest => exact readBody_bodyLines number rest
  | onHeader => exact readBody_bodyLines number following
  | absent => exact readBody_bodyLines number following

/-- After a block come the lines that it does not take. -/
theorem BlockHeader.after_body (header : BlockHeader) (number : Nat) (following : List Line) :
    (header.body number following).after
      = following.drop (header.opening.blockLines following).length := by
  unfold BlockHeader.body
  cases header.opening with
  | closedOnHeader => rfl
  | onNextLine =>
    cases following with
    | nil => rfl
    | cons brace rest => exact after_readBody number rest
  | onHeader => exact after_readBody number following
  | absent => exact after_readBody number following

/-- A header looks at nothing but the first line after it. -/
theorem readHeader_congr (arguments : List TokenKind) {following others : List Line}
    (sameFirst : following.head? = others.head?) :
    readHeader arguments following = readHeader arguments others := by
  unfold readHeader
  rw [sameFirst]

/-- A header that closes its block does not look at other lines. -/
theorem readHeader_of_closedOnHeader {arguments : List TokenKind} {following : List Line}
    (closed : (readHeader arguments following).opening = .closedOnHeader) (others : List Line) :
    readHeader arguments others = readHeader arguments following := by
  revert closed
  unfold readHeader
  generalize splitHeader arguments = parts
  dsimp only
  split
  · exact fun _ => rfl
  · exact fun _ => rfl
  · exact fun _ => rfl
  · exact fun _ => rfl
  · split <;> exact fun impossible => Opening.noConfusion impossible

/-- A header means the same when only the lines of its block follow. -/
theorem readHeader_blockLines (arguments : List TokenKind) (following : List Line) :
    readHeader arguments ((readHeader arguments following).opening.blockLines following)
      = readHeader arguments following := by
  cases opening : (readHeader arguments following).opening with
  | closedOnHeader => exact readHeader_of_closedOnHeader opening _
  | onNextLine =>
    refine readHeader_congr arguments ?_
    cases following <;> rfl
  | onHeader => exact readHeader_congr arguments (head?_bodyLines following)
  | absent => exact readHeader_congr arguments (head?_bodyLines following)

namespace Program

/-- Two programs, one after the other. -/
def append (first second : Program) : Program :=
  ⟨first.statements ++ second.statements, first.diagnostics ++ second.diagnostics⟩

instance : Append Program := ⟨append⟩

theorem append_eq (first second : Program) : first ++ second =
    ⟨first.statements ++ second.statements, first.diagnostics ++ second.diagnostics⟩ := rfl

theorem append_empty (program : Program) : program ++ (⟨[], []⟩ : Program) = program := by
  simp [append_eq]

/-- The outcome of a line comes before the rest. -/
theorem consOutcome_eq_append (number : Nat) (outcome : LineOutcome) (rest : Program) :
    consOutcome number outcome rest = consOutcome number outcome ⟨[], []⟩ ++ rest := by
  rcases outcome with error | ⟨action, warnings⟩
  · rfl
  · simp [consOutcome, append_eq]

/-- What a block comes to comes before the rest. -/
theorem consBlock_eq_append (number : Nat) (header : BlockHeader) (body : BlockBody)
    (rest : Program) :
    consBlock number header body rest = consBlock number header body ⟨[], []⟩ ++ rest := by
  unfold consBlock
  cases header.name with
  | none => simp [append_eq]
  | some name => simp [append_eq]

/-- A block comes to a definition if its header has a name. -/
theorem statements_consBlock (number : Nat) (header : BlockHeader) (body : BlockBody)
    (rest : Program) :
    (consBlock number header body rest).statements
      = (header.name.map fun name => (⟨number, .define name body.rules⟩ : Statement)).toList
        ++ rest.statements := by
  unfold consBlock
  cases header.name <;> rfl

theorem ofLines_nil : ofLines [] = ⟨[], []⟩ := by
  rw [ofLines]

theorem ofLines_cons_of_define {line : Line} (isHeader : line.head.kind = .keyword .define)
    (following : List Line) :
    ofLines (line :: following) =
      let header := readHeader line.arguments following
      let body := header.body line.number following
      consBlock line.number header body ⟨[], []⟩ ++ ofLines body.after := by
  rw [ofLines, if_pos isHeader]
  exact consBlock_eq_append _ _ _ _

theorem ofLines_cons_of_not_define {line : Line} (noHeader : line.head.kind ≠ .keyword .define)
    (following : List Line) :
    ofLines (line :: following) =
      consOutcome line.number (readLine line) ⟨[], []⟩ ++ ofLines following := by
  rw [ofLines, if_neg noHeader]
  exact consOutcome_eq_append _ _ _

/-- A header followed by its block alone comes to one block. -/
theorem ofLines_block_of_define {line : Line} (isHeader : line.head.kind = .keyword .define)
    (following : List Line) :
    ofLines (line :: line.block following) =
      let header := readHeader line.arguments following
      consBlock line.number header (header.body line.number following) ⟨[], []⟩ := by
  rw [ofLines_cons_of_define isHeader, line.block_of_define isHeader]
  dsimp only
  rw [readHeader_blockLines, BlockHeader.body_blockLines, ofLines_nil, append_empty]
  rfl

/-- Any other line, alone, comes to its outcome. -/
theorem ofLines_block_of_not_define {line : Line} (noHeader : line.head.kind ≠ .keyword .define)
    (following : List Line) :
    ofLines (line :: line.block following) = consOutcome line.number (readLine line) ⟨[], []⟩ := by
  rw [ofLines_cons_of_not_define noHeader, line.block_of_not_define noHeader, ofLines_nil,
    append_empty]

/-- A line is read as if only its block followed it, and what comes after its block
is read as if it were a script of its own. -/
theorem ofLines_cons (line : Line) (following : List Line) :
    ofLines (line :: following) =
      ofLines (line :: line.block following)
        ++ ofLines (following.drop (line.block following).length) := by
  by_cases isHeader : line.head.kind = .keyword .define
  · rw [ofLines_block_of_define isHeader, ofLines_cons_of_define isHeader]
    dsimp only
    rw [BlockHeader.after_body, line.block_of_define isHeader]
  · rw [ofLines_block_of_not_define isHeader, ofLines_cons_of_not_define isHeader,
      line.block_of_not_define isHeader]
    rfl

end Program

/-- What a line at the top level comes to, read alone. -/
def TopLevelLine.program (line : TopLevelLine) : Program := .ofLines line.lines

/-- Reading a script is reading the lines of its top level one by one. -/
theorem Program.ofLines_eq_flatMap (lines : List Line) :
    ofLines lines =
      ⟨(topLevelLines lines).flatMap fun line => line.program.statements,
        (topLevelLines lines).flatMap fun line => line.program.diagnostics⟩ := by
  induction lines using topLevelLines.induct with
  | case1 => rw [topLevelLines, ofLines_nil]; rfl
  | case2 line following inductionHypothesis =>
    rw [topLevelLines_cons, ofLines_cons, inductionHypothesis]
    rfl

end RoomLayout

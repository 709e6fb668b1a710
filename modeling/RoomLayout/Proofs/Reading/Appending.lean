import RoomLayout.Proofs.Reading.Lines
import RoomLayout.Proofs.Reading.TopLevel

/-!
# Scripts, one after the other

Only the header of a block reads on over the end of its line. So a script means what its
two parts mean, one after the other, unless the first part ends inside a block. Whether
it does is what its diagnostics tell: a block that is never closed is reported, and no
other line takes what follows it, however malformed it may be.
-/

namespace RoomLayout

/-- Whether some line closes a block. -/
def ClosesBlock (lines : List Line) : Prop := ∃ line ∈ lines, line.closesBlock = true

/-- No block of a program is reported as never closed. -/
def Program.LeavesNoBlockOpen (program : Program) : Prop :=
  ∀ number, LineWarning.blockNeverClosed.onLine number ∉ program.diagnostics

/-- A body without a closing line is reported. -/
theorem closesBlock_of_not_reported {header : Nat} {lines : List Line}
    (silent : LineWarning.blockNeverClosed.onLine header ∉ (readBody header lines).diagnostics) :
    ClosesBlock lines := by
  induction lines with
  | nil => exact absurd List.mem_cons_self silent
  | cons line rest inductionHypothesis =>
    by_cases closes : line.closesBlock = true
    · exact ⟨line, List.mem_cons_self, closes⟩
    · rw [readBody, if_neg closes] at silent
      obtain ⟨closing, member, closesLater⟩ :=
        inductionHypothesis fun reported => silent (List.mem_append_right _ reported)
      exact ⟨closing, List.mem_cons_of_mem line member, closesLater⟩

/-- A body that is closed takes nothing of what comes later. -/
theorem bodyLines_append {lines : List Line} (closed : ClosesBlock lines) (later : List Line) :
    bodyLines (lines ++ later) = bodyLines lines := by
  induction lines with
  | nil =>
    obtain ⟨line, member, _⟩ := closed
    exact absurd member List.not_mem_nil
  | cons line rest inductionHypothesis =>
    rw [List.cons_append, bodyLines, bodyLines]
    split
    · rfl
    · next goesOn =>
      obtain ⟨closing, member, closes⟩ := closed
      rcases List.mem_cons.mp member with rfl | inRest
      · exact absurd closes goesOn
      · rw [inductionHypothesis ⟨closing, inRest, closes⟩]

/-- A header followed by some line does not look at what comes later. -/
theorem readHeader_append (arguments : List TokenKind) {following : List Line}
    (nonempty : following ≠ []) (later : List Line) :
    readHeader arguments (following ++ later) = readHeader arguments following := by
  refine readHeader_congr arguments ?_
  cases following with
  | nil => exact absurd rfl nonempty
  | cons line rest => rfl

/-- A block that is closed takes nothing of what comes later. -/
theorem Line.block_append {line : Line} {following : List Line}
    (closed : (Program.ofLines (line :: line.block following)).LeavesNoBlockOpen)
    (later : List Line) : line.block (following ++ later) = line.block following := by
  by_cases isHeader : line.head.kind = .keyword .define
  · rw [Program.ofLines_block_of_define isHeader] at closed
    dsimp only at closed
    generalize found : readHeader line.arguments following = header at closed
    have silent : LineWarning.blockNeverClosed.onLine line.number
        ∉ (header.body line.number following).diagnostics := by
      refine fun reported => closed line.number ?_
      unfold Program.consBlock
      split <;> simp [reported]
    rw [line.block_of_define isHeader, line.block_of_define isHeader]
    cases opening : header.opening with
    | closedOnHeader =>
      rw [readHeader_of_closedOnHeader (found ▸ opening) (following ++ later), found, opening]
      rfl
    | onNextLine =>
      simp only [BlockHeader.body, opening] at silent
      have closes := closesBlock_of_not_reported silent
      cases following with
      | nil =>
        obtain ⟨_, member, _⟩ := closes
        exact absurd member List.not_mem_nil
      | cons brace rest =>
        rw [readHeader_append _ (List.cons_ne_nil brace rest), found, opening]
        exact congrArg (brace :: ·) (bodyLines_append closes later)
    | onHeader | absent =>
      simp only [BlockHeader.body, opening] at silent
      have closes := closesBlock_of_not_reported silent
      have nonempty : following ≠ [] := by
        rintro rfl
        obtain ⟨_, member, _⟩ := closes
        exact absurd member List.not_mem_nil
      rw [readHeader_append _ nonempty, found, opening]
      exact bodyLines_append closes later
  · rw [line.block_of_not_define isHeader, line.block_of_not_define isHeader]

namespace Program

theorem append_assoc (first second third : Program) :
    first ++ second ++ third = first ++ (second ++ third) := by
  simp only [append_eq, List.append_assoc]

/-- What is open in neither of two programs is open in none of them. -/
theorem LeavesNoBlockOpen.of_append {first second : Program}
    (closed : (first ++ second).LeavesNoBlockOpen) :
    first.LeavesNoBlockOpen ∧ second.LeavesNoBlockOpen :=
  ⟨fun number reported => closed number (List.mem_append_left _ reported),
    fun number reported => closed number (List.mem_append_right _ reported)⟩

/-- Lines that leave no block open are read as if nothing came later. -/
theorem ofLines_append {earlier : List Line} (closed : (ofLines earlier).LeavesNoBlockOpen)
    (later : List Line) : ofLines (earlier ++ later) = ofLines earlier ++ ofLines later := by
  -- Line by line at the top level: each takes its own block with it and no more.
  induction earlier using topLevelLines.induct with
  | case1 => rw [ofLines_nil]; rfl
  | case2 line following inductionHypothesis =>
    rw [ofLines_cons] at closed
    obtain ⟨closedHere, closedLater⟩ := closed.of_append
    have inRange : (line.block following).length ≤ following.length := by
      have lengths := congrArg List.length (line.block_append_drop following)
      rw [List.length_append] at lengths
      omega
    rw [List.cons_append, ofLines_cons line (following ++ later), Line.block_append closedHere,
      List.drop_append_of_le_length inRange, inductionHypothesis closedLater, ← append_assoc,
      ← ofLines_cons]

/-- A script is read in parts. Cut it at a newline: if no block is open there, its
statements are those of the first part and then those of the second, and so are its
diagnostics. -/
theorem ofTokens_in_parts {newline : Token} (isNewline : newline.kind = .newline)
    (earlier later : List Token) (closed : (ofTokens earlier).LeavesNoBlockOpen) :
    (ofTokens (earlier ++ newline :: later)).statements
        = (ofTokens earlier).statements ++ (ofTokens later).statements
      ∧ (ofTokens (earlier ++ newline :: later)).diagnostics
        = (ofTokens earlier).diagnostics ++ (ofTokens later).diagnostics := by
  have joined : ofTokens (earlier ++ newline :: later) = ofTokens earlier ++ ofTokens later := by
    rw [ofTokens, Line.ofTokens_append_newline isNewline, ofLines_append closed]
    rfl
  rw [joined]
  exact ⟨rfl, rfl⟩

/-- The first part has a block without a name and a line that is no command, the second
one closes a block that is not open. -/
theorem ofTokens_in_parts_nameless_block :
    let token (line : Nat) (kind : TokenKind) : Token := ⟨kind, ⟨line, 1⟩⟩
    let earlier : List Token :=
      [token 1 (.keyword .define), token 1 (.mark .leftBrace), token 1 .newline,
        token 2 (.word "sky"), token 2 .newline, token 3 (.mark .rightBrace), token 3 .newline,
        token 4 (.word "teleport")]
    let later : List Token :=
      [token 5 (.mark .rightBrace), token 5 .newline, token 6 (.keyword .cursor),
        token 6 (.keyword .save), token 6 (.word "hub")]
    (ofTokens earlier).LeavesNoBlockOpen
      ∧ (ofTokens later).diagnostics.map Diagnostic.line = [5]
      ∧ (ofTokens (earlier ++ token 4 .newline :: later)).statements = [⟨6, .saveCursor "hub"⟩]
      ∧ (ofTokens (earlier ++ token 4 .newline :: later)).diagnostics.map Diagnostic.line
        = [2, 1, 4, 5] := by
  intro token earlier later
  have first : ofTokens earlier = ⟨[],
      [(LineWarning.unknownFace "sky").onLine 2, LineError.defineWithoutName.onLine 1,
        (LineError.unrecognizedCommand "teleport").onLine 4]⟩ := by decide +kernel
  have second : ofTokens later = ⟨[⟨6, .saveCursor "hub"⟩],
      [LineError.braceOutsideBlock.onLine 5]⟩ := by decide +kernel
  have closed : (ofTokens earlier).LeavesNoBlockOpen := by
    rw [first]
    intro number reported
    have message := List.mem_map_of_mem (f := Diagnostic.message) reported
    exact absurd message (by decide +kernel : LineWarning.blockNeverClosed.message ∉ _)
  have isNewline : (token 4 .newline).kind = .newline := rfl
  obtain ⟨statements, diagnostics⟩ := ofTokens_in_parts isNewline earlier later closed
  rw [statements, diagnostics, first, second]
  exact ⟨first ▸ closed, rfl, rfl, rfl⟩

end Program

end RoomLayout

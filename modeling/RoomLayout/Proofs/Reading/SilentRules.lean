import RoomLayout.Proofs.Reading.Accounting
import RoomLayout.Proofs.Reading.SilentLines

/-!
# Rules that are read in silence

A line of a block comes to a rule and to no diagnostic exactly when the grammar
derives it, and then to the rule that it denotes. Together with the lines at the top
level this says that the reader is silent on its grammar and on nothing else.
-/

namespace RoomLayout

theorem faceTarget?_eq_some_iff {kind : TokenKind} {target : FaceTarget} :
    faceTarget? kind = some target ↔ DenotesTarget kind target := by
  constructor
  · intro read
    unfold faceTarget? at read
    split at read
    · exact Option.some.inj read ▸ .floor
    · exact Option.some.inj read ▸ .ceiling
    · exact Option.some.inj read ▸ .walls
    · exact Option.some.inj read ▸ .wallNorth
    · exact Option.some.inj read ▸ .wallEast
    · exact Option.some.inj read ▸ .wallSouth
    · exact Option.some.inj read ▸ .wallWest
    · exact absurd read (by simp)
  · intro denoted
    cases denoted <;> rfl

/-- Each axis is fitted if it was before, or if a mode among the tokens names it. -/
theorem readFit_fst (before : Fit) (tokens : List Token) :
    ((readFit before tokens).1.x = true ↔ before.x = true
        ∨ .keyword .fitX ∈ tokens.map Token.kind ∨ .keyword .stretch ∈ tokens.map Token.kind)
      ∧ ((readFit before tokens).1.y = true ↔ before.y = true
        ∨ .keyword .fitY ∈ tokens.map Token.kind ∨ .keyword .stretch ∈ tokens.map Token.kind) := by
  induction tokens generalizing before with
  | nil => simp [readFit]
  | cons token rest inductionHypothesis =>
    unfold readFit
    split
    · next mode => simp [inductionHypothesis, mode]
    · next mode => simp [inductionHypothesis, mode]
    · next mode => simp [inductionHypothesis, mode]
    · next notX notY notStretch =>
      simp [inductionHypothesis, Ne.symm notX, Ne.symm notY, Ne.symm notStretch]

/-- Fit modes are read in silence when they are all of them fit modes. -/
theorem readFit_snd_eq_nil_iff (before : Fit) (tokens : List Token) :
    (readFit before tokens).2 = [] ↔ ∀ mode ∈ tokens.map Token.kind, IsFitMode mode := by
  induction tokens generalizing before with
  | nil => simp [readFit]
  | cons token rest inductionHypothesis =>
    rw [List.map_cons, List.forall_mem_cons]
    unfold readFit
    split
    · next mode => simp [inductionHypothesis, IsFitMode, mode]
    · next mode => simp [inductionHypothesis, IsFitMode, mode]
    · next mode => simp [inductionHypothesis, IsFitMode, mode]
    · next notX notY notStretch =>
      have noMode : ¬ IsFitMode token.kind := by
        rintro (isX | isY | isStretch)
        · exact notX isX
        · exact notY isY
        · exact notStretch isStretch
      simp [noMode]

theorem readFit_fst_eq_iff {tokens : List Token} {fit : Fit} :
    (readFit {} tokens).1 = fit ↔
      (fit.x = true ↔ .keyword .fitX ∈ tokens.map Token.kind
        ∨ .keyword .stretch ∈ tokens.map Token.kind)
      ∧ (fit.y = true ↔ .keyword .fitY ∈ tokens.map Token.kind
        ∨ .keyword .stretch ∈ tokens.map Token.kind) := by
  obtain ⟨flagX, flagY⟩ := readFit_fst {} tokens
  simp only [Bool.false_eq_true, false_or] at flagX flagY
  constructor
  · rintro rfl
    exact ⟨flagX, flagY⟩
  · rintro ⟨x, y⟩
    have sameX : (readFit {} tokens).1.x = fit.x := Bool.eq_iff_iff.mpr (flagX.trans x.symm)
    have sameY : (readFit {} tokens).1.y = fit.y := Bool.eq_iff_iff.mpr (flagY.trans y.symm)
    generalize (readFit {} tokens).1 = found at sameX sameY
    exact congrArg₂ Fit.mk sameX sameY

theorem readFit_eq_iff {tokens : List Token} {fit : Fit} :
    readFit {} tokens = (fit, []) ↔ DenotesFit (tokens.map Token.kind) fit := by
  rw [Prod.ext_iff, readFit_fst_eq_iff, readFit_snd_eq_nil_iff]
  constructor
  · rintro ⟨⟨x, y⟩, allModes⟩
    exact ⟨allModes, x, y⟩
  · rintro ⟨allModes, x, y⟩
    exact ⟨⟨x, y⟩, allModes⟩

theorem readFaceSource_eq_ok_iff {number : Nat} {tokens : List Token} {source : FaceSource} :
    readFaceSource number tokens = .ok (source, [])
      ↔ DenotesSource (tokens.map Token.kind) source := by
  rw [readFaceSource_eq_ok_iff_reads]
  constructor
  · intro reads
    generalize silent : ([] : List Diagnostic) = diagnostics at reads
    cases reads with
    | off isOff ignored =>
      cases ignored with
      | nil =>
        rw [List.map_cons, isOff]
        exact .off
      | cons _ _ => exact nomatch silent
    | builtin isArx isWord modes =>
      rw [List.map_cons, isArx]
      exact .builtin isWord (readFit_eq_iff.mp (Prod.ext rfl silent.symm))
    | custom isCustom isFolder isFilename modes =>
      rw [List.map_cons, isCustom]
      exact .custom isFolder isFilename (readFit_eq_iff.mp (Prod.ext rfl silent.symm))
  · intro denoted
    generalize kinds : tokens.map Token.kind = line at denoted
    cases denoted with
    | off =>
      obtain ⟨mode, rest, rfl, isOff, noMore⟩ := List.map_eq_cons_iff.mp kinds
      obtain rfl := List.map_eq_nil_iff.mp noMore
      exact .off isOff []
    | builtin isWord fitted =>
      obtain ⟨mode, rest, rfl, isArx, restKinds⟩ := List.map_eq_cons_iff.mp kinds
      obtain ⟨first, modes, rfl, rfl, rfl⟩ := List.map_eq_cons_iff.mp restKinds
      have reads : ReadsSource number _ _ _ := .builtin isArx isWord modes
      rwa [readFit_eq_iff.mpr fitted] at reads
    | custom isFolder isFilename fitted =>
      obtain ⟨mode, rest, rfl, isCustom, restKinds⟩ := List.map_eq_cons_iff.mp kinds
      obtain ⟨first, others, rfl, rfl, otherKinds⟩ := List.map_eq_cons_iff.mp restKinds
      obtain ⟨second, modes, rfl, rfl, rfl⟩ := List.map_eq_cons_iff.mp otherKinds
      have reads : ReadsSource number _ _ _ := .custom isCustom isFolder isFilename modes
      rwa [readFit_eq_iff.mpr fitted] at reads

/-- A line of a block is a rule without a warning exactly when the grammar derives it. -/
theorem readFaceRule_eq_iff {line : Line} {rule : FaceRule} :
    readFaceRule line = (some rule, [])
      ↔ rule.line = line.number ∧ DenotesRule line.kinds rule.target rule.source := by
  constructor
  · intro read
    unfold readFaceRule at read
    split at read
    · exact absurd read (by simp)
    · next target isTarget =>
      split at read
      · exact absurd read (by simp)
      · next source diagnostics readsSource =>
        simp only [Prod.mk.injEq, Option.some.injEq] at read
        obtain ⟨rfl, rfl⟩ := read
        exact ⟨rfl, _, _, rfl, faceTarget?_eq_some_iff.mp isTarget,
          readFaceSource_eq_ok_iff.mp readsSource⟩
  · rintro ⟨sameLine, face, rest, kinds, isTarget, isSource⟩
    obtain ⟨rfl, rfl⟩ := List.cons.inj kinds
    obtain ⟨number, target, source⟩ := rule
    obtain rfl : number = line.number := sameLine
    have readsTarget : faceTarget? line.head.kind = some target :=
      faceTarget?_eq_some_iff.mpr isTarget
    have readsSource : readFaceSource line.number line.tail = .ok (source, []) :=
      readFaceSource_eq_ok_iff.mpr isSource
    simp only [readFaceRule, readsTarget, readsSource]

/-- Inside a block a line adds one rule and no warning to what the later lines come to
exactly when the grammar derives it. -/
theorem readBody_cons_eq_iff {header : Nat} {line : Line} {rest : List Line} {rule : FaceRule}
    (isBody : line.closesBlock = false) :
    readBody header (line :: rest) =
        ⟨rule :: (readBody header rest).rules, (readBody header rest).diagnostics,
          (readBody header rest).after⟩
      ↔ rule.line = line.number ∧ DenotesRule line.kinds rule.target rule.source := by
  rw [← readFaceRule_eq_iff]
  rcases read : readFaceRule line with ⟨found, warnings⟩
  have unfolded : readBody header (line :: rest) =
      ⟨found.toList ++ (readBody header rest).rules,
        warnings ++ (readBody header rest).diagnostics, (readBody header rest).after⟩ := by
    rw [readBody, isBody, read]
    rfl
  -- What the later lines come to cancels, so what is left speaks of this line alone.
  rw [unfolded, BlockBody.mk.injEq, Prod.mk.injEq]
  cases found with
  | none => simp
  | some first => simp

/-- The reader is silent on the grammar of lines and on nothing else. A script of one
line comes to a statement and to no diagnostic exactly when the grammar derives the
line, and the statement is the one that the line denotes. In a block, a line that does
not close it adds a rule and no diagnostic to what the later lines come to exactly when
the grammar derives it, and the rule is the one that it denotes. -/
theorem ofTokens_silent_iff_denotes (head : Token) (tail : List Token)
    (noNewline : ∀ token ∈ head :: tail, token.kind ≠ .newline) :
    (∀ statement, Program.ofTokens (head :: tail) = ⟨[statement], []⟩
        ↔ statement.line = head.line
          ∧ DenotesLine ((head :: tail).map Token.kind) statement.action)
      ∧ (head.kind ≠ .mark .rightBrace → ∀ (header : Nat) (rest : List Line) (rule : FaceRule),
        readBody header (⟨head, tail⟩ :: rest) =
            ⟨rule :: (readBody header rest).rules, (readBody header rest).diagnostics,
              (readBody header rest).after⟩
          ↔ rule.line = head.line
            ∧ DenotesRule ((head :: tail).map Token.kind) rule.target rule.source) := by
  constructor
  · intro statement
    rw [Program.ofTokens, Line.ofTokens_of_no_newline noNewline]
    exact Program.ofLines_singleton_eq_iff
  · intro notClosing header rest rule
    have isBody : (Line.mk head tail).closesBlock = false := decide_eq_false notClosing
    exact readBody_cons_eq_iff isBody

/-- A room line in silence, and a face line whose fit modes fit both axes. -/
theorem ofTokens_silent_room_and_floor :
    Program.ofTokens
        [⟨.keyword .room, ⟨2, 1⟩⟩, ⟨.keyword .add, ⟨2, 6⟩⟩, ⟨.integer 5, ⟨2, 10⟩⟩,
          ⟨.variableName "w", ⟨2, 12⟩⟩, ⟨.integer (-7), ⟨2, 15⟩⟩, ⟨.word "hall", ⟨2, 18⟩⟩,
          ⟨.alignment "x++", ⟨2, 23⟩⟩, ⟨.alignment "z", ⟨2, 27⟩⟩]
        = ⟨[⟨2, .addRoom ⟨.literal 5, .named "w", .literal (-7)⟩ "hall"
            [⟨.x, .plusPlus⟩, ⟨.z, .center⟩]⟩], []⟩
      ∧ ∀ header, readBody header
          [⟨⟨.keyword .floor, ⟨3, 1⟩⟩, [⟨.keyword .arx, ⟨3, 7⟩⟩, ⟨.word "stone", ⟨3, 11⟩⟩,
            ⟨.keyword .fitX, ⟨3, 17⟩⟩, ⟨.keyword .fitY, ⟨3, 23⟩⟩]⟩]
        = ⟨[⟨3, .single .floor, .builtin "stone" ⟨true, true⟩⟩],
            [LineWarning.blockNeverClosed.onLine header], []⟩ := by
  constructor
  · apply ((ofTokens_silent_iff_denotes _ _ (by decide)).1 _).mpr
    refine ⟨rfl, .addRoom (.literal 5) (.named "w") (.literal (-7)) rfl (by simp) ?_⟩
    exact ⟨.cons ⟨_, rfl, rfl⟩ (.cons ⟨_, rfl, rfl⟩ .nil), by decide⟩
  · intro header
    apply ((ofTokens_silent_iff_denotes _ _ (by decide)).2 (by decide) header [] _).mpr
    refine ⟨rfl, _, _, rfl, .floor, .builtin rfl ⟨?_, ?_, ?_⟩⟩
    · simp [IsFitMode]
    · simp
    · simp

end RoomLayout

import Mathlib.Data.List.Nodup
import RoomLayout.Proofs.Geometry.Axes
import RoomLayout.Proofs.Reading.Grammar
import RoomLayout.Proofs.Reading.TopLevel

/-!
# Lines that are read in silence

A line comes to a statement and to no diagnostic exactly when the grammar derives
it, and then to the statement that it denotes. Each reading function has its own
equivalence; the main one, `ofLines_singleton_eq_iff`, is put together from them by
the first token of the line.
-/

namespace RoomLayout

/-! ### The parts of a room line -/

theorem readSize_eq_ok_iff {axis : Axis} {kind : TokenKind} {number : Number} :
    readSize axis (some kind) = .ok number ↔ DenotesSize kind number := by
  constructor
  · intro read
    cases kind with
    | integer value => exact Except.ok.inj read ▸ .literal value
    | variableName name => exact Except.ok.inj read ▸ .named name
    | _ => exact absurd read (by simp [readSize])
  · rintro (value | name)
    · rfl
    · rfl

theorem readDefinitionName_eq_iff {kinds rest : List TokenKind} {name : String} :
    readDefinitionName kinds = (name, [], rest) ↔
      ∃ kind, kinds = kind :: rest ∧ kind.asWord? = some name ∧ ∀ code, kind ≠ .alignment code := by
  constructor
  · intro read
    unfold readDefinitionName at read
    split at read
    · exact absurd read (by simp)
    · exact absurd read (by simp)
    · next kind others notAlignment =>
      split at read
      · next word isWord =>
        simp only [Prod.mk.injEq, true_and] at read
        obtain ⟨rfl, rfl⟩ := read
        exact ⟨kind, rfl, isWord, fun code same => notAlignment code same⟩
      · exact absurd read (by simp)
  · rintro ⟨kind, rfl, isWord, notAlignment⟩
    cases kind with
    | alignment code => exact absurd rfl (notAlignment code)
    | _ => simp_all [readDefinitionName]

/-- Whether an axis was aligned before. -/
theorem any_axis_eq_false_iff {earlier : List Alignment} {axis : Axis} :
    (earlier.any fun other => other.axis == axis) = false
      ↔ axis ∉ earlier.map Alignment.axis := by
  rw [← Bool.not_eq_true, List.any_eq_true, List.mem_map]
  simp only [Axis.beq_iff_eq]

theorem readAlignments_of_code {code : String} {alignment : Alignment}
    (isCode : Alignment.ofCode code = .ok alignment) (earlier : List Alignment)
    (rest : List TokenKind) :
    readAlignments earlier (.alignment code :: rest) =
      let later := readAlignments (earlier ++ [alignment]) rest
      let repeated := if earlier.any fun other => other.axis == alignment.axis then
          [LineWarning.axisRepeated alignment.axis code]
        else []
      (alignment :: later.1, repeated ++ later.2) := by
  rw [readAlignments, isCode]

/-- A token that is no alignment is reported. -/
theorem readAlignments_of_no_code {kind : TokenKind}
    (noCode : ∀ code alignment, kind = .alignment code → Alignment.ofCode code ≠ .ok alignment)
    (earlier : List Alignment) (rest : List TokenKind) :
    (readAlignments earlier (kind :: rest)).2 ≠ [] := by
  unfold readAlignments
  split
  · next heq => exact absurd heq (by simp)
  · next code others same =>
    obtain ⟨rfl, rfl⟩ := List.cons.inj same
    split
    · next alignment isCode => exact absurd isCode (noCode code alignment rfl)
    · simp
  · simp

/-- The axes of earlier alignments and one more. -/
theorem not_mem_axes_append_singleton {earlier : List Alignment} {alignment : Alignment}
    {axis : Axis} :
    axis ∉ (earlier ++ [alignment]).map Alignment.axis
      ↔ axis ∉ earlier.map Alignment.axis ∧ axis ≠ alignment.axis := by
  rw [List.map_append, List.mem_append, not_or]
  exact and_congr_right' (not_congr List.mem_singleton)

/-- The first of several alignments, apart from the later ones. -/
theorem DenotesAlignments.cons_iff {kind : TokenKind} {rest : List TokenKind}
    {alignments : List Alignment} :
    DenotesAlignments (kind :: rest) alignments ↔
      ∃ alignment later, alignments = alignment :: later
        ∧ (∃ code, kind = .alignment code ∧ Alignment.ofCode code = .ok alignment)
        ∧ DenotesAlignments rest later ∧ ∀ other ∈ later, other.axis ≠ alignment.axis := by
  constructor
  · rintro ⟨codes, distinct⟩
    cases codes with
    | @cons _ alignment _ later first codes =>
      obtain ⟨notLater, laterDistinct⟩ := List.nodup_cons.mp distinct
      refine ⟨alignment, later, rfl, first, ⟨codes, laterDistinct⟩, fun other member same => ?_⟩
      exact notLater (List.mem_map.mpr ⟨other, member, same⟩)
  · rintro ⟨alignment, later, rfl, first, ⟨codes, laterDistinct⟩, others⟩
    refine ⟨.cons first codes, List.nodup_cons.mpr ⟨fun member => ?_, laterDistinct⟩⟩
    obtain ⟨other, inLater, same⟩ := List.mem_map.mp member
    exact others other inLater same

/-- Alignments are read in silence when every token is a code and no code repeats an
axis, neither one of this line nor one of those read before. -/
theorem readAlignments_eq_iff {earlier alignments : List Alignment} {kinds : List TokenKind} :
    readAlignments earlier kinds = (alignments, []) ↔
      DenotesAlignments kinds alignments
        ∧ ∀ alignment ∈ alignments, alignment.axis ∉ earlier.map Alignment.axis := by
  induction kinds generalizing earlier alignments with
  | nil =>
    constructor
    · intro read
      obtain ⟨rfl, _⟩ := Prod.mk.inj read
      exact ⟨⟨.nil, List.nodup_nil⟩, fun _ member => absurd member List.not_mem_nil⟩
    · rintro ⟨⟨codes, _⟩, _⟩
      cases codes
      rfl
  | cons kind rest inductionHypothesis =>
    rw [DenotesAlignments.cons_iff]
    by_cases aligned : ∃ code alignment, kind = .alignment code
        ∧ Alignment.ofCode code = .ok alignment
    · obtain ⟨code, alignment, rfl, isCode⟩ := aligned
      rw [readAlignments_of_code isCode]
      dsimp only
      constructor
      · intro read
        obtain ⟨rfl, silent⟩ := Prod.mk.inj read
        obtain ⟨notRepeated, laterSilent⟩ := List.append_eq_nil_iff.mp silent
        obtain ⟨denoted, fresh⟩ := inductionHypothesis.mp (Prod.ext rfl laterSilent)
        simp only [not_mem_axes_append_singleton] at fresh
        have isFresh : alignment.axis ∉ earlier.map Alignment.axis := by
          rw [← any_axis_eq_false_iff, ← Bool.not_eq_true]
          exact fun repeats => absurd notRepeated (by rw [if_pos repeats]; simp)
        exact ⟨⟨_, _, rfl, ⟨code, rfl, isCode⟩, denoted, fun other member =>
            (fresh other member).2⟩,
          List.forall_mem_cons.mpr ⟨isFresh, fun other member => (fresh other member).1⟩⟩
      · rintro ⟨⟨alignment', later, rfl, ⟨code', same, isCode'⟩, denoted, others⟩, fresh⟩
        cases same
        obtain rfl : alignment' = alignment := Except.ok.inj (isCode'.symm.trans isCode)
        obtain ⟨isFresh, laterFresh⟩ := List.forall_mem_cons.mp fresh
        have laterSilent : readAlignments (earlier ++ [alignment']) rest = (later, []) :=
          inductionHypothesis.mpr ⟨denoted, fun other member =>
            not_mem_axes_append_singleton.mpr ⟨laterFresh other member, others other member⟩⟩
        rw [laterSilent, any_axis_eq_false_iff.mpr isFresh]
        rfl
    · have reported : (readAlignments earlier (kind :: rest)).2 ≠ [] :=
        readAlignments_of_no_code
          (fun code alignment same isCode => aligned ⟨code, alignment, same, isCode⟩) earlier rest
      constructor
      · intro read
        rw [read] at reported
        exact absurd rfl reported
      · rintro ⟨⟨alignment, _, _, ⟨code, same, isCode⟩, _⟩, _⟩
        exact absurd ⟨code, alignment, same, isCode⟩ aligned

/-! ### Lines by their first token -/

/-- A computation that may fail comes to a value through a value of its first step. -/
theorem bind_eq_ok_iff {ε β γ : Type} {first : Except ε β} {next : β → Except ε γ} {value : γ} :
    (first >>= next) = .ok value ↔ ∃ middle, first = .ok middle ∧ next middle = .ok value := by
  cases first with
  | error error => exact ⟨fun failed => absurd failed (by simp [bind, Except.bind]), by simp⟩
  | ok middle => exact ⟨fun read => ⟨middle, rfl, read⟩, by rintro ⟨_, ⟨rfl⟩, read⟩; exact read⟩

/-- What follows the extents of a room: its definition, its alignments and the warnings. -/
def readPlacement (kinds : List TokenKind) : String × List Alignment × List LineWarning :=
  let (definition, definitionWarnings, codes) := readDefinitionName kinds
  let (alignments, alignmentWarnings) := readAlignments [] codes
  (definition, alignments, definitionWarnings ++ alignmentWarnings)

theorem readPlacement_of_name {kinds rest : List TokenKind} {name : String}
    {warnings : List LineWarning} (named : readDefinitionName kinds = (name, warnings, rest)) :
    readPlacement kinds
      = (name, (readAlignments [] rest).1, warnings ++ (readAlignments [] rest).2) := by
  rw [readPlacement, named]

/-- A room line is read when its extents are numbers. -/
theorem readRoom_eq_ok_iff_sizes {kinds : List TokenKind} {action : Action}
    {warnings : List LineWarning} :
    readRoom kinds = .ok (action, warnings) ↔
      ∃ x y z rest, ∃ size : Vec3 Number, kinds = .keyword .add :: x :: y :: z :: rest
        ∧ DenotesSize x size.x ∧ DenotesSize y size.y ∧ DenotesSize z size.z
        ∧ (action, warnings) = (.addRoom size (readPlacement rest).1 (readPlacement rest).2.1,
          (readPlacement rest).2.2) := by
  constructor
  · intro read
    unfold readRoom at read
    split at read
    · next sizes =>
      obtain ⟨nx, readX, read⟩ := bind_eq_ok_iff.mp read
      obtain ⟨ny, readY, read⟩ := bind_eq_ok_iff.mp read
      obtain ⟨nz, readZ, read⟩ := bind_eq_ok_iff.mp read
      rcases sizes with _ | ⟨x, _ | ⟨y, _ | ⟨z, rest⟩⟩⟩
      · exact absurd readX (by simp [readSize])
      · exact absurd readY (by simp [readSize])
      · exact absurd readZ (by simp [readSize])
      · exact ⟨x, y, z, rest, ⟨nx, ny, nz⟩, rfl, readSize_eq_ok_iff.mp readX,
          readSize_eq_ok_iff.mp readY, readSize_eq_ok_iff.mp readZ, (Except.ok.inj read).symm⟩
    · exact absurd read (by simp)
  · rintro ⟨x, y, z, rest, size, rfl, sizeX, sizeY, sizeZ, placed⟩
    have readX : readSize .x (some x) = .ok size.x := readSize_eq_ok_iff.mpr sizeX
    have readY : readSize .y (some y) = .ok size.y := readSize_eq_ok_iff.mpr sizeY
    have readZ : readSize .z (some z) = .ok size.z := readSize_eq_ok_iff.mpr sizeZ
    rw [placed]
    simp [readRoom, readPlacement, readX, readY, readZ, bind, Except.bind, pure, Except.pure]

/-- A room line is silent when its parts are. -/
theorem readRoom_eq_ok_iff {arguments : List TokenKind} {action : Action} :
    readRoom arguments = .ok (action, []) ↔ DenotesLine (.keyword .room :: arguments) action := by
  rw [readRoom_eq_ok_iff_sizes]
  constructor
  · rintro ⟨x, y, z, rest, size, rfl, sizeX, sizeY, sizeZ, placed⟩
    obtain ⟨⟨definition, definitionWarnings, codes⟩, named⟩ :
        ∃ parts, readDefinitionName rest = parts := ⟨_, rfl⟩
    rw [readPlacement_of_name named] at placed
    obtain ⟨rfl, silent⟩ := Prod.mk.inj placed
    obtain ⟨rfl, alignmentsSilent⟩ := List.append_eq_nil_iff.mp silent.symm
    obtain ⟨kind, rfl, isWord, notAlignment⟩ := readDefinitionName_eq_iff.mp named
    obtain ⟨aligned, _⟩ := readAlignments_eq_iff.mp (Prod.ext rfl alignmentsSilent)
    exact .addRoom sizeX sizeY sizeZ isWord notAlignment aligned
  · intro denoted
    cases denoted with
    | @addRoom x y z definition codes size name alignments sizeX sizeY sizeZ isWord notAlignment
        aligned =>
      have named : readDefinitionName (definition :: codes) = (name, [], codes) :=
        readDefinitionName_eq_iff.mpr ⟨definition, rfl, isWord, notAlignment⟩
      have silent : readAlignments [] codes = (alignments, []) :=
        readAlignments_eq_iff.mpr ⟨aligned, fun _ _ => List.not_mem_nil⟩
      refine ⟨x, y, z, definition :: codes, size, rfl, sizeX, sizeY, sizeZ, ?_⟩
      rw [readPlacement_of_name named, silent]
      rfl

/-- A warning about what is left over is silent when nothing is. -/
theorem ifAny_eq_nil_iff {β : Type} {warning : LineWarning} {rest : List β} :
    warning.ifAny rest = [] ↔ rest = [] := by
  cases rest <;> simp [LineWarning.ifAny]

/-- A modifier is silent when it is one and nothing follows it. -/
theorem readLightArgument_eq_iff {rest : List TokenKind} {argument : LightArgument} :
    (readLightArgument rest.head?).1 = argument ∧ (readLightArgument rest.head?).2 = []
        ∧ rest.tail = []
      ↔ DenotesModifier rest argument := by
  constructor
  · rintro ⟨rfl, silent, alone⟩
    rcases rest with _ | ⟨kind, _ | ⟨_, _⟩⟩
    · exact .full
    · revert silent
      simp only [List.head?_cons]
      unfold readLightArgument
      split
      · next absent => exact absurd absent (by simp)
      · next same => exact Option.some.inj same ▸ fun _ => .dim
      · next value same => exact Option.some.inj same ▸ fun _ => .percentage value
      · next name same => exact Option.some.inj same ▸ fun _ => .named name
      · exact fun reported => absurd reported (by simp)
    · exact absurd alone (by simp)
  · rintro (_ | _ | value | name) <;> exact ⟨rfl, rfl, rfl⟩

theorem readLight_eq_ok_iff {arguments : List TokenKind} {action : Action} :
    readLight arguments = .ok (action, [])
      ↔ DenotesLine (.keyword .withClause :: arguments) action := by
  constructor
  · intro read
    unfold readLight at read
    split at read
    · next rest =>
      obtain ⟨rfl, silent⟩ := Prod.mk.inj (Except.ok.inj read)
      obtain ⟨modifierSilent, alone⟩ := List.append_eq_nil_iff.mp silent
      exact .addLight (readLightArgument_eq_iff.mp
        ⟨rfl, modifierSilent, ifAny_eq_nil_iff.mp alone⟩)
    · exact absurd read (by simp)
  · intro denoted
    cases denoted with
    | @addLight modifier argument modified =>
      obtain ⟨read, silent, alone⟩ := readLightArgument_eq_iff.mpr modified
      simp [readLight, read, silent, alone, LineWarning.ifAny]

theorem readSnapshot_eq_ok_iff {snapshot : String → Action} {arguments : List TokenKind}
    {action : Action} :
    readSnapshot snapshot arguments = .ok (action, [])
      ↔ ∃ kind name, arguments = [kind] ∧ kind.asWord? = some name ∧ action = snapshot name := by
  constructor
  · intro read
    unfold readSnapshot at read
    split at read
    · exact absurd read (by simp)
    · next kind rest =>
      split at read
      · next name isWord =>
        obtain ⟨rfl, silent⟩ := Prod.mk.inj (Except.ok.inj read)
        obtain rfl := ifAny_eq_nil_iff.mp silent
        exact ⟨kind, name, rfl, isWord, rfl⟩
      · exact absurd read (by simp)
  · rintro ⟨kind, name, rfl, isWord, rfl⟩
    simp [readSnapshot, isWord, LineWarning.ifAny]

theorem readCursor_eq_ok_iff {arguments : List TokenKind} {action : Action} :
    readCursor arguments = .ok (action, [])
      ↔ DenotesLine (.keyword .cursor :: arguments) action := by
  constructor
  · intro read
    unfold readCursor at read
    split at read
    · obtain ⟨kind, name, rfl, isWord, rfl⟩ := readSnapshot_eq_ok_iff.mp read
      exact .saveCursor isWord
    · obtain ⟨kind, name, rfl, isWord, rfl⟩ := readSnapshot_eq_ok_iff.mp read
      exact .restoreCursor isWord
    · exact absurd read (by simp)
  · intro denoted
    cases denoted with
    | saveCursor isWord => exact readSnapshot_eq_ok_iff.mpr ⟨_, _, rfl, isWord, rfl⟩
    | restoreCursor isWord => exact readSnapshot_eq_ok_iff.mpr ⟨_, _, rfl, isWord, rfl⟩

theorem readValue_eq_ok_iff {name : String} {kind : TokenKind} {value : Value} :
    readValue name kind = .ok value ↔ DenotesValue kind value := by
  constructor
  · intro read
    unfold readValue at read
    split at read
    · exact Except.ok.inj read ▸ .integer _
    · exact Except.ok.inj read ▸ .percentage _
    · next notInteger _ =>
      split at read
      · next text isWord => exact Except.ok.inj read ▸ .text isWord notInteger
      · exact absurd read (by simp)
  · intro denoted
    cases denoted with
    | integer value => rfl
    | percentage value => rfl
    | text isWord notInteger =>
      cases kind with
      | integer value => exact absurd rfl (notInteger value)
      | percentage value => exact absurd isWord (by simp [TokenKind.asWord?])
      | _ => simp only [readValue, isWord]

theorem readAssignment_eq_ok_iff {name : String} {arguments : List TokenKind} {action : Action} :
    readAssignment name arguments = .ok (action, [])
      ↔ DenotesLine (.variableName name :: arguments) action := by
  constructor
  · intro read
    unfold readAssignment at read
    split at read
    · next kind rest =>
      obtain ⟨value, readsValue, read⟩ := bind_eq_ok_iff.mp read
      obtain ⟨rfl, silent⟩ := Prod.mk.inj (Except.ok.inj read)
      obtain rfl := ifAny_eq_nil_iff.mp silent
      exact .assign name (readValue_eq_ok_iff.mp readsValue)
    · exact absurd read (by simp)
    · exact absurd read (by simp)
  · intro denoted
    cases denoted with
    | @assign _ kind value valued =>
      have readsValue : readValue name kind = .ok value := readValue_eq_ok_iff.mpr valued
      simp [readAssignment, readsValue, bind, Except.bind, pure, Except.pure, LineWarning.ifAny]

/-- The first tokens of the grammar. -/
theorem DenotesLine.first_cases {kind : TokenKind} {arguments : List TokenKind} {action : Action}
    (denoted : DenotesLine (kind :: arguments) action) :
    kind = .keyword .room ∨ kind = .keyword .withClause ∨ kind = .keyword .cursor
      ∨ (∃ name, kind = .variableName name) ∨ kind = .keyword .define := by
  cases denoted with
  | addRoom => exact Or.inl rfl
  | addLight => exact Or.inr (Or.inl rfl)
  | saveCursor => exact Or.inr (Or.inr (Or.inl rfl))
  | restoreCursor => exact Or.inr (Or.inr (Or.inl rfl))
  | assign name => exact Or.inr (Or.inr (Or.inr (Or.inl ⟨name, rfl⟩)))
  | define => exact Or.inr (Or.inr (Or.inr (Or.inr rfl)))

/-- A line that opens no block is silent exactly when the grammar derives it. -/
theorem readLine_eq_ok_iff {line : Line} {action : Action}
    (noHeader : line.head.kind ≠ .keyword .define) :
    readLine line = .ok (action, []) ↔ DenotesLine line.kinds action := by
  unfold readLine Line.kinds
  split
  · next first => rw [first]; exact readRoom_eq_ok_iff
  · next first => rw [first]; exact readLight_eq_ok_iff
  · next first => rw [first]; exact readCursor_eq_ok_iff
  · next name first => rw [first]; exact readAssignment_eq_ok_iff
  · next first =>
    rw [first]
    refine ⟨fun read => absurd read (by simp), fun denoted => ?_⟩
    have := denoted.first_cases
    simp at this
  · next notRoom notLight notCursor notVariable _ =>
    refine ⟨fun read => absurd read (by simp), fun denoted => ?_⟩
    rcases denoted.first_cases with first | first | first | ⟨name, first⟩ | first
    · exact absurd first notRoom
    · exact absurd first notLight
    · exact absurd first notCursor
    · exact absurd first (notVariable name)
    · exact absurd first noHeader

/-! ### Headers -/

/-- The name of a header and the tokens after it. -/
theorem splitHeader_eq_iff {arguments rest : List TokenKind} {name : String} :
    splitHeader arguments = (some name, rest)
      ↔ ∃ kind, arguments = kind :: rest ∧ kind.asWord? = some name := by
  constructor
  · intro parts
    unfold splitHeader at parts
    split at parts
    · exact absurd parts (by simp)
    · exact absurd parts (by simp)
    · next kind rest _ =>
      obtain ⟨isWord, rfl⟩ := Prod.mk.inj parts
      exact ⟨kind, rfl, isWord⟩
  · rintro ⟨kind, rfl, isWord⟩
    cases kind with
    | mark m => exact absurd isWord (by simp [TokenKind.asWord?])
    | _ => simp only [splitHeader, isWord]

theorem name_readHeader (arguments : List TokenKind) (following : List Line) :
    (readHeader arguments following).name = (splitHeader arguments).1 := by
  unfold readHeader
  dsimp only
  split
  · rfl
  · rfl
  · rfl
  · rfl
  · split <;> rfl

/-- A header that ends the script is silent when both braces stand on it and nothing
follows them: any other block is never closed, or has tokens left over. -/
theorem readHeader_silent_iff {arguments : List TokenKind} {number : Nat} :
    (readHeader arguments []).warnings = []
        ∧ ((readHeader arguments []).body number []).diagnostics = []
      ↔ (splitHeader arguments).2 = [.mark .leftBrace, .mark .rightBrace] := by
  unfold readHeader
  dsimp only
  split
  · next closed => exact ⟨fun _ => closed, fun _ => ⟨rfl, rfl⟩⟩
  · next more notAlone braces =>
    rw [braces]
    refine ⟨fun silent => absurd silent.1 (by simp), fun closed => ?_⟩
    exact absurd (List.cons.inj (List.cons.inj closed).2).2 notAlone
  · next opened =>
    rw [opened]
    exact ⟨fun silent => absurd silent.2 (by simp [BlockHeader.body, readBody]),
      fun closed => absurd closed (by simp)⟩
  · next more notClosed _ opened =>
    rw [opened]
    refine ⟨fun silent => absurd silent.1 (by simp), fun closed => ?_⟩
    exact absurd closed (by simp_all)
  · next notOpened =>
    refine ⟨fun silent => absurd silent.1 (by simp), fun closed => ?_⟩
    exact absurd closed (notOpened _)

theorem BlockHeader.rules_body_nil (header : BlockHeader) (number : Nat) :
    (header.body number []).rules = [] := by
  unfold body
  split <;> rfl

namespace Program

theorem consOutcome_eq_singleton_iff {number : Nat} {outcome : LineOutcome}
    {statement : Statement} :
    consOutcome number outcome ⟨[], []⟩ = ⟨[statement], []⟩
      ↔ statement.line = number ∧ outcome = .ok (statement.action, []) := by
  rcases outcome with error | ⟨action, warnings⟩
  · simp [consOutcome]
  · obtain ⟨line, action'⟩ := statement
    simp only [consOutcome, mk.injEq, List.append_nil, List.map_eq_nil_iff, List.cons.injEq,
      Statement.mk.injEq, and_true, Except.ok.injEq, Prod.mk.injEq]
    constructor
    · rintro ⟨⟨rfl, rfl⟩, silent⟩
      exact ⟨rfl, rfl, silent⟩
    · rintro ⟨rfl, rfl, silent⟩
      exact ⟨⟨rfl, rfl⟩, silent⟩

theorem consBlock_eq_singleton_iff {number : Nat} {header : BlockHeader} {body : BlockBody}
    {statement : Statement} :
    consBlock number header body ⟨[], []⟩ = ⟨[statement], []⟩
      ↔ statement.line = number ∧ (header.warnings = [] ∧ body.diagnostics = [])
        ∧ ∃ name, header.name = some name ∧ statement.action = .define name body.rules := by
  unfold consBlock
  cases header.name with
  | none => simp
  | some name =>
    obtain ⟨line, action⟩ := statement
    simp only [mk.injEq, List.append_nil, List.append_eq_nil_iff, List.map_eq_nil_iff,
      List.cons.injEq, Statement.mk.injEq, and_true, Option.some.injEq, exists_eq_left']
    constructor
    · rintro ⟨⟨rfl, rfl⟩, silent⟩
      exact ⟨rfl, silent, rfl⟩
    · rintro ⟨rfl, silent, rfl⟩
      exact ⟨⟨rfl, rfl⟩, silent⟩

/-- A header with nothing after it is silent exactly when the grammar derives it. -/
theorem consBlock_readHeader_eq_iff {arguments : List TokenKind} {number : Nat}
    {statement : Statement} :
    consBlock number (readHeader arguments []) ((readHeader arguments []).body number []) ⟨[], []⟩
        = ⟨[statement], []⟩
      ↔ statement.line = number
        ∧ DenotesLine (.keyword .define :: arguments) statement.action := by
  rw [consBlock_eq_singleton_iff, readHeader_silent_iff, name_readHeader,
    BlockHeader.rules_body_nil]
  refine and_congr_right fun _ => ?_
  constructor
  · rintro ⟨braces, name, named, isDefinition⟩
    obtain ⟨kind, rfl, isWord⟩ := splitHeader_eq_iff.mp (Prod.ext named braces)
    rw [isDefinition]
    exact .define isWord
  · intro denoted
    generalize statement.action = action at denoted ⊢
    cases denoted with
    | @define kind name isWord =>
      have parts : splitHeader [kind, .mark .leftBrace, .mark .rightBrace]
          = (some name, [.mark .leftBrace, .mark .rightBrace]) :=
        splitHeader_eq_iff.mpr ⟨kind, rfl, isWord⟩
      exact ⟨congrArg Prod.snd parts, name, congrArg Prod.fst parts, rfl⟩

/-- A script of one line comes to a statement and to no diagnostic exactly when the
grammar derives the line. -/
theorem ofLines_singleton_eq_iff {line : Line} {statement : Statement} :
    ofLines [line] = ⟨[statement], []⟩
      ↔ statement.line = line.number ∧ DenotesLine line.kinds statement.action := by
  have noBlock : line.block [] = [] :=
    (List.append_eq_nil_iff.mp (line.block_append_drop [])).1
  by_cases isHeader : line.head.kind = .keyword .define
  · have read := ofLines_block_of_define isHeader []
    rw [noBlock] at read
    rw [read, Line.kinds, isHeader]
    exact consBlock_readHeader_eq_iff
  · have read := ofLines_block_of_not_define isHeader []
    rw [noBlock] at read
    rw [read, consOutcome_eq_singleton_iff, readLine_eq_ok_iff isHeader]

end Program

end RoomLayout

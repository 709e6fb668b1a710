import RoomLayout.Proofs.Construction.Effects
import RoomLayout.Proofs.Reading.Appending
import RoomLayout.Proofs.Reading.SilentLines
import RoomLayout.Script.Tokenization

/-!
# Rooms of defined names

A definition may have any word as its name, and a room can be given the definition by that
word, unless the word is an alignment code. A room line may leave out the name, so a code in
its place aligns the room.
-/

namespace RoomLayout

/-! ### The two lines -/

namespace Program

theorem append_right_inj {first second second' : Program} :
    first ++ second = first ++ second' ↔ second = second' := by
  obtain ⟨statements, diagnostics⟩ := second
  obtain ⟨statements', diagnostics'⟩ := second'
  simp [append_eq]

theorem append_left_inj {first first' second : Program} :
    first ++ second = first' ++ second ↔ first = first' := by
  obtain ⟨statements, diagnostics⟩ := first
  obtain ⟨statements', diagnostics'⟩ := first'
  simp [append_eq]

/-- A definition with both braces on its header is the header alone, whatever follows it. -/
theorem ofLines_define {header : Line} {name : TokenKind} {word : String}
    (kinds : header.kinds = [.keyword .define, name, .mark .leftBrace, .mark .rightBrace])
    (isWord : name.asWord? = some word) (following : List Line) :
    ofLines (header :: following)
      = ⟨[⟨header.number, .define word []⟩], []⟩ ++ ofLines following := by
  obtain ⟨isHeader, arguments⟩ := List.cons.inj kinds
  have parts : splitHeader header.arguments = (some word, [.mark .leftBrace, .mark .rightBrace]) :=
    splitHeader_eq_iff.mpr ⟨name, arguments, isWord⟩
  have read : readHeader header.arguments following = ⟨some word, .closedOnHeader, []⟩ := by
    rw [readHeader, parts]
  rw [ofLines_cons_of_define isHeader, read]
  rfl

/-- A line that is no header is read on its own. -/
theorem ofLines_cons_singleton {line : Line} (noHeader : line.head.kind ≠ .keyword .define)
    (following : List Line) :
    ofLines (line :: following) = ofLines [line] ++ ofLines following := by
  rw [ofLines_cons_of_not_define noHeader, ofLines_cons_of_not_define noHeader, ofLines_nil,
    append_empty]

/-- A room line with a word in the place of the name is silent, unless the word is an alignment
code. -/
theorem ofLines_room_eq_iff {room : Line} {name : TokenKind} {word : String} {x y z : Int}
    {codes : List TokenKind} {alignments : List Alignment}
    (kinds : room.kinds = .keyword .room :: .keyword .add :: .integer x :: .integer y ::
      .integer z :: name :: codes)
    (isWord : name.asWord? = some word) (aligned : DenotesAlignments codes alignments) :
    ofLines [room] = ⟨[⟨room.number,
        .addRoom ⟨.literal x, .literal y, .literal z⟩ word alignments⟩], []⟩
      ↔ ∀ code, name ≠ .alignment code := by
  rw [ofLines_singleton_eq_iff, kinds]
  constructor
  · rintro ⟨-, denoted⟩
    cases denoted with
    | addRoom _ _ _ _ notAlignment _ => exact notAlignment
  · intro notAlignment
    exact ⟨rfl, .addRoom (.literal x) (.literal y) (.literal z) isWord notAlignment aligned⟩

end Program

/-! ### The room -/

/-- A definition without rules that is made and used right away. -/
structure BuildsDefined (state : Construction) (line : Nat) (size : Vec3 Number) (name : String)
    (alignments : List Alignment) (after : Construction) : Prop where
  defined : (state.define name []).definitions.get? name = some {}
  built : ∀ extent, state.resolveSize size = .ok extent →
    after = (state.define name []).placeRoom extent {} alignments
  rejected : ∀ error, state.resolveSize size = .error error →
    after = (state.define name []).fail line error

theorem Construction.buildsDefined (state : Construction) (headerLine line : Nat)
    (size : Vec3 Number) (name : String) (alignments : List Alignment) :
    BuildsDefined state line size name alignments
      (state.performAll
        [⟨headerLine, .define name []⟩, ⟨line, .addRoom size name alignments⟩]) := by
  let defined := state.define name []
  have found : defined.definitions.get? name = some {} :=
    NameTable.get?_insert_self state.definitions.table name {}
  have sameSize : defined.resolveSize size = state.resolveSize size :=
    resolveSize_congr rfl rfl size
  refine ⟨found, ?built, ?rejected⟩
  case built =>
    intro extent accepted
    change defined.addRoom line size name alignments = _
    rw [addRoom, sameSize.trans accepted]
    simp only [surfacesNamed, found]
    rfl
  case rejected =>
    intro error refused
    exact addRoom_of_error line (sameSize.trans refused) name alignments

/-- A room can be given a definition by its name exactly if the name is no alignment code: then
a definition without rules and a room line with the name come to just these two statements,
and carrying them out builds the room with the definition that was made. -/
theorem room_of_defined_name {tokens : List Token} {header room : Line} {later : List Line}
    {name : TokenKind} {word : String} {x y z : Int} {codes : List TokenKind}
    {alignments : List Alignment} (lines : Line.ofTokens tokens = header :: room :: later)
    (headerKinds : header.kinds = [.keyword .define, name, .mark .leftBrace, .mark .rightBrace])
    (roomKinds : room.kinds = .keyword .room :: .keyword .add :: .integer x :: .integer y ::
      .integer z :: name :: codes)
    (isWord : name.asWord? = some word) (aligned : DenotesAlignments codes alignments) :
    let size : Vec3 Number := ⟨.literal x, .literal y, .literal z⟩
    let statements : List Statement :=
      [⟨header.number, .define word []⟩, ⟨room.number, .addRoom size word alignments⟩]
    (Program.ofTokens tokens = ⟨statements, []⟩ ++ Program.ofLines later
        ↔ ∀ code, name ≠ .alignment code)
      ∧ ∀ state, BuildsDefined state room.number size word alignments
        (state.performAll statements) := by
  intro size statements
  refine ⟨?_, fun state => state.buildsDefined _ _ size word alignments⟩
  have noHeader : room.head.kind ≠ .keyword .define := by
    rw [(List.cons.inj roomKinds).1]
    decide
  have split : (⟨statements, []⟩ : Program)
      = ⟨[⟨header.number, .define word []⟩], []⟩
        ++ ⟨[⟨room.number, .addRoom size word alignments⟩], []⟩ := rfl
  rw [Program.ofTokens, lines, Program.ofLines_define headerKinds isWord,
    Program.ofLines_cons_singleton noHeader, split, Program.append_assoc,
    Program.append_right_inj, Program.append_left_inj]
  exact Program.ofLines_room_eq_iff roomKinds isWord aligned

/-- A reserved word as the name of a definition, and a room that is given the definition. -/
theorem room_of_defined_name_keyword :
    let token (line : Nat) (kind : TokenKind) : Token := ⟨kind, ⟨line, 1⟩⟩
    let tokens : List Token :=
      [token 1 (.keyword .define), token 1 (.keyword .wallEast), token 1 (.mark .leftBrace),
        token 1 (.mark .rightBrace), token 1 .newline, token 2 (.keyword .room),
        token 2 (.keyword .add), token 2 (.integer 100), token 2 (.integer 200),
        token 2 (.integer 100), token 2 (.keyword .wallEast), token 2 (.alignment "x++")]
    let statements : List Statement := [⟨1, .define "wall-east" []⟩,
      ⟨2, .addRoom ⟨.literal 100, .literal 200, .literal 100⟩ "wall-east" [⟨.x, .plusPlus⟩]⟩]
    Program.ofTokens tokens = ⟨statements, []⟩
      ∧ ∀ state, BuildsDefined state 2 ⟨.literal 100, .literal 200, .literal 100⟩ "wall-east"
        [⟨.x, .plusPlus⟩] (state.performAll statements) := by
  intro token tokens statements
  let header : Line := ⟨token 1 (.keyword .define),
    [token 1 (.keyword .wallEast), token 1 (.mark .leftBrace), token 1 (.mark .rightBrace)]⟩
  let room : Line := ⟨token 2 (.keyword .room),
    [token 2 (.keyword .add), token 2 (.integer 100), token 2 (.integer 200),
      token 2 (.integer 100), token 2 (.keyword .wallEast), token 2 (.alignment "x++")]⟩
  have lines : Line.ofTokens tokens = [header, room] := by decide +kernel
  have aligned : DenotesAlignments [.alignment "x++"] [⟨.x, .plusPlus⟩] :=
    ⟨.cons ⟨_, rfl, rfl⟩ .nil, by decide⟩
  obtain ⟨silent, built⟩ := room_of_defined_name lines rfl rfl rfl aligned
  have read := silent.mpr fun code => nofun
  rw [Program.ofLines_nil, Program.append_empty] at read
  exact ⟨read, built⟩

/-- The word `x` can be defined, and a room line with it in the place of the name has none. -/
theorem alignment_code_names_no_room :
    (TokenKind.alignment "x").asWord? = some "x" ∧ DenotesAlignments [] []
      ∧ (tokenize "define x \x7b \x7d\nroom add 1 1 1 x\n").map Program.ofTokens
        = .ok ⟨[⟨1, .define "x" []⟩,
            ⟨2, .addRoom ⟨.literal 1, .literal 1, .literal 1⟩ Definitions.defaultName
              [⟨.x, .center⟩]⟩],
          [LineWarning.definitionMissing.onLine 2]⟩ :=
  ⟨rfl, ⟨.nil, .nil⟩, by decide +kernel⟩

end RoomLayout

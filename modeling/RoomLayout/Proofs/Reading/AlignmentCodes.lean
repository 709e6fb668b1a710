import RoomLayout.Proofs.Lexing.Faults
import RoomLayout.Proofs.Placement.Codes
import RoomLayout.Proofs.Reading.Lines
import RoomLayout.Proofs.Reading.OverriddenCodes

/-!
# Alignment codes from the text to the room

The reader of a room line can complain about an alignment code that it cannot read. It never
does: a token carries an alignment code only if the pattern of alignment codes accepts its text,
and what this pattern accepts the reader can read. So a room line keeps all its codes, in their
order (`alignment_grammars_agree`).
-/

namespace RoomLayout

namespace TokenKind

/-- The alignment code that a token carries, readable or not. -/
def alignmentCode? : TokenKind → Option String
  | .alignment code => some code
  | _ => none

/-- The alignment code that a token carries, if any, is one that can be read. -/
def HasReadableCode (kind : TokenKind) : Prop :=
  ∀ code, kind.alignmentCode? = some code → ∃ alignment, Alignment.ofCode code = .ok alignment

end TokenKind

variable {kind : TokenKind} {kinds : List TokenKind} {codes : List Alignment}
  {warnings : List LineWarning}

/-! ## Tokens of a text -/

/-- A token with an alignment code is cut from a text that the pattern of codes accepts. -/
theorem IsLexemeOf.of_alignment {text : List Char} {code : String}
    (isAlignment : IsLexemeOf text (.token (.alignment code))) :
    code.toList = text ∧ Pattern.alignment.Accepts text := by
  obtain ⟨pattern, accepted, named⟩ := isAlignment.exists_pattern
  cases pattern with
  | alignment =>
    obtain ⟨rfl⟩ := named
    exact ⟨String.toList_ofList, accepted⟩
  | _ => exact nomatch named

/-- The alignment codes among the tokens of a text can be read. -/
theorem hasReadableCode_of_mem {source : String} {tokens : List Token}
    (tokenized : tokenize source = .ok tokens) (member : kind ∈ tokens.map Token.kind) :
    kind.HasReadableCode := by
  intro code carried
  obtain ⟨token, inTokens, rfl⟩ := List.mem_map.mp member
  obtain ⟨offset, length, cut⟩ := exists_isCutAt_of_mem tokenized inTokens
  cases isKind : token.kind with
  | alignment written =>
    rw [isKind] at carried
    obtain rfl := Option.some.inj carried
    obtain ⟨spelled, accepted⟩ := (isKind ▸ cut.munch.lexeme).of_alignment
    obtain ⟨alignment, same⟩ := Pattern.accepts_alignment_iff.mp accepted
    exact ⟨alignment, Alignment.ofChars_eq_ok_iff.mpr (same.trans spelled.symm)⟩
  | _ =>
    rw [isKind] at carried
    exact nomatch carried

/-! ## Codes that are kept -/

/-- A code that can be read is that of the alignment it is read as. -/
theorem TokenKind.HasReadableCode.map_display (readable : kind.HasReadableCode) :
    kind.alignment?.map Alignment.display = kind.alignmentCode? := by
  cases kind with
  | alignment code =>
    obtain ⟨alignment, isCode⟩ := readable code rfl
    rw [alignment?, alignmentCode?, isCode]
    exact congrArg some (Alignment.ofCode_eq_ok_iff.mp isCode)
  | _ => rfl

/-- There is no complaint about a code that can be read. -/
theorem TokenKind.HasReadableCode.not_invalid (readable : kind.HasReadableCode)
    (error : AlignmentError) : kind.alignmentComplaint? ≠ some (.invalidAlignment error) := by
  cases kind with
  | alignment code =>
    obtain ⟨alignment, isCode⟩ := readable code rfl
    simp [alignmentComplaint?, isCode]
  | _ => simp [alignmentComplaint?]

/-- The alignments read from some tokens have the codes among them, all and in their order, and
no code is reported as unreadable. -/
structure KeepsAllCodes (kinds : List TokenKind) (codes : List Alignment)
    (warnings : List LineWarning) : Prop where
  display : codes.map Alignment.display = kinds.filterMap TokenKind.alignmentCode?
  readable : ∀ error, LineWarning.invalidAlignment error ∉ warnings

namespace KeepsAllCodes

/-- A token without a code may stand before the others. -/
theorem cons (kept : KeepsAllCodes kinds codes warnings) (noCode : kind.alignmentCode? = none) :
    KeepsAllCodes (kind :: kinds) codes warnings :=
  ⟨by rw [List.filterMap_cons_none noCode, kept.display], kept.readable⟩

/-- There may be other warnings. -/
theorem warn (kept : KeepsAllCodes kinds codes warnings) {others : List LineWarning}
    (unrelated : ∀ error, LineWarning.invalidAlignment error ∉ others) :
    KeepsAllCodes kinds codes (others ++ warnings) :=
  ⟨kept.display, fun error warned =>
    (List.mem_append.mp warned).elim (unrelated error) (kept.readable error)⟩

end KeepsAllCodes

theorem keepsAllCodes_readAlignments (readable : ∀ kind ∈ kinds, kind.HasReadableCode)
    (earlier : List Alignment) :
    KeepsAllCodes kinds (readAlignments earlier kinds).1 (readAlignments earlier kinds).2 where
  display := by
    rw [fst_readAlignments, List.map_filterMap]
    exact List.filterMap_congr fun kind member => (readable kind member).map_display
  readable error warned := by
    obtain ⟨kind, member, isComplaint⟩ := exists_complaint_of_mem_readAlignments rfl warned
    exact (readable kind member).not_invalid error isComplaint

/-- The warnings about a definition are about no code. -/
theorem invalidAlignment_not_mem_readDefinitionName (kinds : List TokenKind)
    (error : AlignmentError) :
    LineWarning.invalidAlignment error ∉ (readDefinitionName kinds).2.1 := by
  unfold readDefinitionName
  split
  · simp
  · simp
  · split <;> simp

theorem keepsAllCodes_readPlacement (readable : ∀ kind ∈ kinds, kind.HasReadableCode) :
    KeepsAllCodes kinds (readPlacement kinds).2.1 (readPlacement kinds).2.2 := by
  have unrelated := invalidAlignment_not_mem_readDefinitionName kinds
  rcases readDefinitionName_cases kinds with missing | ⟨kind, rest, _, _, rfl, noCode, -, -, named⟩
  · rw [missing] at unrelated
    rw [readPlacement_of_name missing]
    exact (keepsAllCodes_readAlignments readable []).warn unrelated
  · obtain ⟨first, later⟩ := List.forall_mem_cons.mp readable
    rw [named] at unrelated
    rw [readPlacement_of_name (named rest)]
    refine ((keepsAllCodes_readAlignments later []).warn unrelated).cons ?_
    rw [← first.map_display, noCode, Option.map_none]

/-- A room line keeps its codes, as nothing before its alignments is one. -/
theorem keepsAllCodes_readLine {line : Line} {size : Vec3 Number} {definition : String}
    (readable : ∀ kind ∈ line.kinds, kind.HasReadableCode)
    (read : readLine line = .ok (.addRoom size definition codes, warnings)) :
    KeepsAllCodes line.kinds codes warnings := by
  obtain ⟨isRoom, readsRoom⟩ := readLine_eq_addRoom_iff.mp read
  obtain ⟨x, y, z, rest, isArguments, sizeX, sizeY, sizeZ, placement⟩ :=
    readRoom_eq_addRoom_iff.mp readsRoom
  have noCode : ∀ {kind number}, DenotesSize kind number → kind.alignmentCode? = none := by
    rintro _ _ (_ | _) <;> rfl
  have isLine : line.kinds = .keyword .room :: .keyword .add :: x :: y :: z :: rest := by
    rw [Line.kinds, isRoom, isArguments]
  rw [isLine] at readable ⊢
  have kept := keepsAllCodes_readPlacement fun kind member =>
    readable kind (List.mem_append_right [.keyword .room, .keyword .add, x, y, z] member)
  rw [placement] at kept
  exact ((((kept.cons (noCode sizeZ)).cons (noCode sizeY)).cons (noCode sizeX)).cons rfl).cons rfl

/-- The pattern that cuts alignment codes from a text and the reader of codes describe the same
texts, and a code that is read is written as it was. So the reader keeps all codes among tokens
that come from a text, in their order, and reports none of them as unreadable: whatever tokens of
the text it is given as alignments, and in every room line of the text. -/
theorem alignment_grammars_agree :
    (∀ code : String,
      (Pattern.alignment.fit code.toList = .whole
          ↔ ∃ alignment, Alignment.ofCode code = .ok alignment)
        ∧ ∀ alignment, Alignment.ofCode code = .ok alignment → alignment.display = code)
      ∧ ∀ source tokens, tokenize source = .ok tokens →
        (∀ earlier kinds, kinds ⊆ tokens.map Token.kind →
          KeepsAllCodes kinds (readAlignments earlier kinds).1 (readAlignments earlier kinds).2)
        ∧ ∀ line ∈ Line.ofTokens tokens, ∀ size definition codes warnings,
          readLine line = .ok (.addRoom size definition codes, warnings) →
          KeepsAllCodes line.kinds codes warnings := by
  refine ⟨fun code => ⟨?sameTexts, fun _ => Alignment.ofCode_eq_ok_iff.mp⟩,
    fun source tokens tokenized => ⟨?anyTokens, ?roomLines⟩⟩
  case sameTexts =>
    simp only [Pattern.fit_eq_whole_iff, Pattern.accepts_alignment_iff, Alignment.ofCode_eq_ok_iff,
      String.toList_inj]
  case anyTokens =>
    exact fun earlier kinds fromText => keepsAllCodes_readAlignments
      (fun kind member => hasReadableCode_of_mem tokenized (fromText member)) earlier
  case roomLines =>
    intro line inText size definition codes warnings read
    refine keepsAllCodes_readLine (fun kind member => ?_) read
    obtain ⟨token, inTokens, rfl⟩ := Line.exists_token_of_mem_kinds inText member
    exact hasReadableCode_of_mem tokenized (List.mem_map_of_mem inTokens)

/-- A room line with a word among its codes and a repeated axis. -/
theorem alignment_grammars_agree_hall :
    let token (column : Nat) (kind : TokenKind) : Token := ⟨kind, ⟨1, column⟩⟩
    let line : Line := ⟨token 1 (.keyword .room), [token 6 (.keyword .add), token 10 (.integer 1),
      token 12 (.integer 2), token 14 (.integer 3), token 16 (.word "hall"),
      token 21 (.alignment "x++"), token 25 (.word "wide"), token 30 (.alignment "y"),
      token 32 (.alignment "x--")]⟩
    let size : Vec3 Number := ⟨.literal 1, .literal 2, .literal 3⟩
    let codes : List Alignment := [⟨.x, .plusPlus⟩, ⟨.y, .center⟩, ⟨.x, .minusMinus⟩]
    let warnings : List LineWarning := [.notAnAlignment "wide", .axisRepeated .x "x--"]
    tokenize "room add 1 2 3 hall x++ wide y x--" = .ok line.tokens
      ∧ readLine line = .ok (.addRoom size "hall" codes, warnings)
      ∧ KeepsAllCodes line.kinds codes warnings
      ∧ (readAlignments [] [.alignment "y", .alignment "x--"]).1.map Alignment.display = ["y", "x--"]
      ∧ Pattern.alignment.fit "x++".toList = .whole := by
  intro token line size codes warnings
  have tokenized : tokenize "room add 1 2 3 hall x++ wide y x--" = .ok line.tokens := by
    decide +kernel
  have onlyLine : Line.ofTokens line.tokens = [line] := rfl
  have read : readLine line = .ok (.addRoom size "hall" codes, warnings) := rfl
  obtain ⟨sameTexts, fromText⟩ := alignment_grammars_agree
  obtain ⟨anyTokens, roomLines⟩ := fromText _ _ tokenized
  have inText : line ∈ Line.ofTokens line.tokens := onlyLine ▸ List.mem_singleton_self line
  refine ⟨tokenized, read, roomLines line inText _ _ _ _ read, ?_,
    (sameTexts "x++").1.mpr ⟨⟨.x, .plusPlus⟩, rfl⟩⟩
  exact (anyTokens [] [.alignment "y", .alignment "x--"] (by decide)).display

end RoomLayout

import Mathlib.Data.List.Infix
import RoomLayout.Proofs.Construction.Effects
import RoomLayout.Proofs.Placement.Codes
import RoomLayout.Proofs.Placement.LastCode
import RoomLayout.Proofs.Reading.SilentLines
import RoomLayout.Proofs.Stitching.Settings

/-!
# Overridden codes of a room line

The reader keeps every alignment code of a room line and warns when one repeats an axis, saying
that it wins. It takes no part in the choice: the codes go to the cursor as they are, and the
cursor looks for the last one of each axis. That both mean the same is shown by deleting the
overridden codes from the line (`last_code_wins`).

One thing can change with the deletion. A code in the place of the definition stands for a
definition left out, so a line such as `room add 1 1 1 x++ hall x--` ignores `hall`, with a
warning; without its first code it names a definition. The room stands where it stood all the
same.
-/

namespace RoomLayout

/-! ## Alignments among tokens -/

namespace TokenKind

/-- The alignment that a token is the code of. -/
def alignment? : TokenKind → Option Alignment
  | .alignment code => (Alignment.ofCode code).toOption
  | _ => none

/-- The warning about a token that stands where an alignment is expected and is none. -/
def alignmentComplaint? : TokenKind → Option LineWarning
  | .alignment code =>
    match Alignment.ofCode code with
    | .ok _ => none
    | .error error => some (.invalidAlignment error)
  | kind => some (.notAnAlignment kind.describe)

end TokenKind

/-- The warning about a code that repeats an axis. -/
def LineWarning.repetition (alignment : Alignment) : LineWarning :=
  .axisRepeated alignment.axis alignment.display

/-- Whether a warning is about a code that repeats an axis. -/
def LineWarning.isRepetition : LineWarning → Bool
  | .axisRepeated _ _ => true
  | _ => false

variable {kind : TokenKind} {kinds rest : List TokenKind} {earlier codes : List Alignment}

/-- A token is the code of an alignment, or there is a complaint about it. -/
theorem TokenKind.alignment_cases (kind : TokenKind) :
    (∃ code alignment, kind = .alignment code ∧ Alignment.ofCode code = .ok alignment
        ∧ kind.alignment? = some alignment ∧ kind.alignmentComplaint? = none)
      ∨ ∃ warning, kind.alignment? = none ∧ kind.alignmentComplaint? = some warning
        ∧ warning.isRepetition = false ∧ warning ≠ .definitionMissing
        ∧ ∀ earlier rest, readAlignments earlier (kind :: rest)
          = ((readAlignments earlier rest).1, warning :: (readAlignments earlier rest).2) := by
  cases kind with
  | alignment code =>
    cases read : Alignment.ofCode code with
    | ok alignment =>
      exact .inl ⟨code, alignment, rfl, read, by rw [alignment?, read]; rfl,
        by rw [alignmentComplaint?, read]⟩
    | error error =>
      refine .inr ⟨.invalidAlignment error, by rw [alignment?, read]; rfl,
        by rw [alignmentComplaint?, read], rfl, by simp, fun earlier rest => ?_⟩
      rw [readAlignments, read]
  | _ => exact .inr ⟨_, rfl, rfl, rfl, by simp, fun earlier rest => rfl⟩

theorem TokenKind.alignmentComplaint?_of_code (isCode : kind.alignment? ≠ none) :
    kind.alignmentComplaint? = none := by
  rcases kind.alignment_cases with ⟨_, _, _, _, _, silent⟩ | ⟨_, noCode, _⟩
  · exact silent
  · exact absurd noCode isCode

/-- The codes after `earlier` whose axis occurred before them. -/
def repeatedAfter (earlier codes : List Alignment) : List Alignment :=
  (((codes.inits.map (earlier ++ ·)).zip codes).filter fun (before, code) =>
    before.any fun other => other.axis == code.axis).map Prod.snd

theorem repeatedAfter_cons (earlier : List Alignment) (code : Alignment) (codes : List Alignment) :
    repeatedAfter earlier (code :: codes) =
      (if earlier.any fun other => other.axis == code.axis then [code] else [])
        ++ repeatedAfter (earlier ++ [code]) codes := by
  have later : (codes.inits.map (code :: ·)).map (earlier ++ ·)
      = codes.inits.map (earlier ++ [code] ++ ·) := by
    simp only [List.map_map, Function.comp_def, List.append_assoc, List.singleton_append]
  simp only [repeatedAfter, List.inits_cons, List.map_cons, later, List.append_nil,
    List.zip_cons_cons, List.filter_cons]
  split <;> rfl

/-- No axis occurs again if all axes are distinct. -/
theorem repeatedAfter_of_nodup (distinct : (codes.map Alignment.axis).Nodup)
    (fresh : ∀ code ∈ codes, code.axis ∉ earlier.map Alignment.axis) :
    repeatedAfter earlier codes = [] := by
  induction codes generalizing earlier with
  | nil => rfl
  | cons code later inductionHypothesis =>
    obtain ⟨others, laterDistinct⟩ := List.nodup_cons.mp distinct
    obtain ⟨isFresh, laterFresh⟩ := List.forall_mem_cons.mp fresh
    rw [repeatedAfter_cons, any_axis_eq_false_iff.mpr isFresh, if_neg Bool.false_ne_true,
      List.nil_append]
    refine inductionHypothesis laterDistinct fun other inLater => ?_
    exact not_mem_axes_append_singleton.mpr ⟨laterFresh other inLater,
      fun sameAxis => others (sameAxis ▸ List.mem_map_of_mem inLater)⟩

/-- The alignments of a line are the codes among its tokens. -/
theorem fst_readAlignments (earlier : List Alignment) (kinds : List TokenKind) :
    (readAlignments earlier kinds).1 = kinds.filterMap TokenKind.alignment? := by
  induction kinds generalizing earlier with
  | nil => rfl
  | cons kind rest inductionHypothesis =>
    rcases kind.alignment_cases with
      ⟨code, alignment, rfl, isCode, isSome, -⟩ | ⟨warning, isNone, -, -, -, read⟩
    · rw [readAlignments_of_code isCode, List.filterMap_cons_some isSome]
      exact congrArg (alignment :: ·) (inductionHypothesis _)
    · rw [read, List.filterMap_cons_none isNone, inductionHypothesis]

/-- There is one warning for each code whose axis occurred before it. -/
theorem filter_isRepetition_readAlignments (earlier : List Alignment) (kinds : List TokenKind) :
    (readAlignments earlier kinds).2.filter LineWarning.isRepetition
      = (repeatedAfter earlier (kinds.filterMap TokenKind.alignment?)).map
        LineWarning.repetition := by
  induction kinds generalizing earlier with
  | nil => rfl
  | cons kind rest inductionHypothesis =>
    rcases kind.alignment_cases with
      ⟨code, alignment, rfl, isCode, isSome, -⟩ | ⟨warning, isNone, -, notRepetition, -, read⟩
    · rw [readAlignments_of_code isCode, List.filterMap_cons_some isSome, repeatedAfter_cons,
        List.map_append, List.filter_append, inductionHypothesis]
      congr 1
      split
      · rw [List.map_singleton, LineWarning.repetition, Alignment.ofCode_eq_ok_iff.mp isCode]
        rfl
      · rfl
    · rw [read, List.filterMap_cons_none isNone, List.filter_cons, notRepetition,
        if_neg Bool.false_ne_true, inductionHypothesis]

/-- The other warnings are about tokens that are no codes. -/
theorem filter_not_isRepetition_readAlignments (earlier : List Alignment)
    (kinds : List TokenKind) :
    (readAlignments earlier kinds).2.filter (fun warning => !warning.isRepetition)
      = kinds.filterMap TokenKind.alignmentComplaint? := by
  induction kinds generalizing earlier with
  | nil => rfl
  | cons kind rest inductionHypothesis =>
    rcases kind.alignment_cases with
      ⟨code, alignment, rfl, isCode, -, silent⟩ | ⟨warning, -, complaint, notRepetition, -, read⟩
    · rw [readAlignments_of_code isCode, List.filterMap_cons_none silent, List.filter_append,
        inductionHypothesis]
      split <;> rfl
    · rw [read, List.filterMap_cons_some complaint, List.filter_cons, notRepetition,
        Bool.not_false, if_pos rfl, inductionHypothesis]

theorem exists_complaint_of_mem_readAlignments {warning : LineWarning}
    (notRepetition : warning.isRepetition = false)
    (warned : warning ∈ (readAlignments earlier kinds).2) :
    ∃ kind ∈ kinds, kind.alignmentComplaint? = some warning := by
  rw [← List.mem_filterMap, ← filter_not_isRepetition_readAlignments earlier]
  exact List.mem_filter.mpr ⟨warned, by rw [notRepetition, Bool.not_false]⟩

theorem definitionMissing_not_mem_readAlignments (earlier : List Alignment)
    (kinds : List TokenKind) :
    LineWarning.definitionMissing ∉ (readAlignments earlier kinds).2 := by
  intro warned
  obtain ⟨kind, -, isComplaint⟩ := exists_complaint_of_mem_readAlignments rfl warned
  rcases kind.alignment_cases with ⟨_, _, _, _, _, silent⟩ | ⟨_, _, complaint, _, other, _⟩
  · exact absurd (silent.symm.trans isComplaint) (by simp)
  · exact other (Option.some.inj (complaint.symm.trans isComplaint))

/-! ## The parts of a room line -/

/-- The definition of a room is left out, with a warning, or it is given by a token that is no
alignment. -/
theorem readDefinitionName_cases (kinds : List TokenKind) :
    readDefinitionName kinds = (Definitions.defaultName, [.definitionMissing], kinds)
      ∨ ∃ kind codes name warnings, kinds = kind :: codes ∧ kind.alignment? = none
        ∧ warnings.filter LineWarning.isRepetition = []
        ∧ LineWarning.definitionMissing ∉ warnings
        ∧ ∀ codes, readDefinitionName (kind :: codes) = (name, warnings, codes) := by
  rcases kinds with _ | ⟨kind, codes⟩
  · exact .inl rfl
  · cases kind with
    | alignment code => exact .inl rfl
    | mark _ | variableName _ | percentage _ | newline =>
      exact .inr ⟨_, codes, Definitions.defaultName, [.invalidDefinitionName _], rfl, rfl, rfl,
        by simp, fun _ => rfl⟩
    | keyword _ | integer _ | word _ =>
      exact .inr ⟨_, codes, _, [], rfl, rfl, rfl, by simp, fun _ => rfl⟩

/-- A room line is read when its extents are numbers. -/
theorem readRoom_eq_addRoom_iff {size : Vec3 Number} {definition : String}
    {warnings : List LineWarning} :
    readRoom kinds = .ok (.addRoom size definition codes, warnings) ↔
      ∃ x y z rest, kinds = .keyword .add :: x :: y :: z :: rest
        ∧ DenotesSize x size.x ∧ DenotesSize y size.y ∧ DenotesSize z size.z
        ∧ readPlacement rest = (definition, codes, warnings) := by
  rw [readRoom_eq_ok_iff_sizes]
  constructor
  · rintro ⟨x, y, z, rest, _, rfl, sizeX, sizeY, sizeZ, placed⟩
    obtain ⟨same, rfl⟩ := Prod.mk.inj placed
    obtain ⟨rfl, rfl, rfl⟩ := Action.addRoom.inj same
    exact ⟨x, y, z, rest, rfl, sizeX, sizeY, sizeZ, rfl⟩
  · rintro ⟨x, y, z, rest, rfl, sizeX, sizeY, sizeZ, placement⟩
    exact ⟨x, y, z, rest, size, rfl, sizeX, sizeY, sizeZ, by rw [placement]⟩

theorem DenotesSize.no_code {number : Number} (isSize : DenotesSize kind number) :
    kind.alignment? = none := by
  cases isSize <;> rfl

/-! ## Lines without overridden codes -/

/-- A line without the codes that later ones override. -/
def Line.withoutOverridden (line : Line) : Line where
  head := line.head
  tail := RoomLayout.withoutOverridden (fun token => token.kind.alignment?) line.tail

theorem Line.arguments_withoutOverridden (line : Line) :
    line.withoutOverridden.arguments
      = RoomLayout.withoutOverridden TokenKind.alignment? line.arguments :=
  map_withoutOverridden TokenKind.alignment? Token.kind line.tail

/-- Where there is nothing of a kind, taking away that kind takes away nothing. -/
theorem filter_not_eq_self {β : Type} {test : β → Bool} {list : List β}
    (none : list.filter test = []) : list.filter (fun element => !test element) = list := by
  rw [List.filter_eq_self]
  intro element member
  rw [Bool.not_eq_true', ← Bool.not_eq_true]
  exact List.filter_eq_nil_iff.mp none element member

/-- Without the overridden codes the reader leaves out their alignments, and says nothing of a
repetition. -/
theorem readAlignments_withoutOverridden (kinds : List TokenKind) :
    readAlignments [] (withoutOverridden TokenKind.alignment? kinds)
      = (withoutOverridden some (readAlignments [] kinds).1,
        (readAlignments [] kinds).2.filter fun warning => !warning.isRepetition) := by
  refine Prod.ext ?alignments ?warnings
  case alignments =>
    rw [fst_readAlignments, fst_readAlignments, filterMap_withoutOverridden]
  case warnings =>
    have noRepetition : (readAlignments [] (withoutOverridden TokenKind.alignment? kinds)).2.filter
        LineWarning.isRepetition = [] := by
      rw [filter_isRepetition_readAlignments, filterMap_withoutOverridden,
        repeatedAfter_of_nodup (Alignment.nodup_axes_withoutOverridden _)
          (fun _ _ => List.not_mem_nil)]
      rfl
    rw [← filter_not_eq_self noRepetition, filter_not_isRepetition_readAlignments,
      filter_not_isRepetition_readAlignments]
    exact filterMap_withoutOverridden_of_no_code
      (fun _ => TokenKind.alignmentComplaint?_of_code) kinds

section Reading

variable {definition : String} {warnings : List LineWarning}

/-- The codes after the extents come to the alignments, with one warning for each that repeats
an axis. -/
theorem filter_isRepetition_readPlacement
    (read : readPlacement kinds = (definition, codes, warnings)) :
    warnings.filter LineWarning.isRepetition
      = (repeatedAfter [] codes).map LineWarning.repetition := by
  rcases readDefinitionName_cases kinds with
    missing | ⟨kind, rest, name, nameWarnings, rfl, -, notRepetitions, -, named⟩
  · rw [readPlacement_of_name missing] at read
    obtain ⟨-, rfl, rfl⟩ : _ ∧ _ ∧ _ := by simpa only [Prod.mk.injEq] using read
    rw [List.filter_append, filter_isRepetition_readAlignments, fst_readAlignments]
    rfl
  · rw [readPlacement_of_name (named rest)] at read
    obtain ⟨-, rfl, rfl⟩ : _ ∧ _ ∧ _ := by simpa only [Prod.mk.injEq] using read
    rw [List.filter_append, notRepetitions, filter_isRepetition_readAlignments,
      fst_readAlignments]
    rfl

/-- Without overridden codes the same alignments are left as when they are deleted from the
alignments. The rest is the same unless a definition comes to light. -/
theorem readPlacement_withoutOverridden
    (read : readPlacement kinds = (definition, codes, warnings)) :
    ∃ definition' warnings',
      readPlacement (withoutOverridden TokenKind.alignment? kinds)
          = (definition', withoutOverridden some codes, warnings')
        ∧ ((.definitionMissing ∈ warnings → .definitionMissing ∈ warnings') →
          definition' = definition
            ∧ warnings' = warnings.filter fun warning => !warning.isRepetition) := by
  rcases readDefinitionName_cases kinds with
    missing | ⟨kind, rest, name, nameWarnings, rfl, noCode, notRepetitions, -, named⟩
  · rw [readPlacement_of_name missing] at read
    obtain ⟨rfl, rfl, rfl⟩ : _ ∧ _ ∧ _ := by simpa only [Prod.mk.injEq] using read
    rcases readDefinitionName_cases (withoutOverridden TokenKind.alignment? kinds) with
      missing' | ⟨kind, rest, name, nameWarnings, left, noCode, -, given, named⟩
    · refine ⟨_, _, ?_, fun _ => ⟨rfl, rfl⟩⟩
      rw [readPlacement_of_name missing', readAlignments_withoutOverridden]
      rfl
    · -- The first code is gone, and what stood after it has become the definition.
      have sameCodes : (readAlignments [] rest).1
          = withoutOverridden some (readAlignments [] kinds).1 := by
        rw [fst_readAlignments, fst_readAlignments, ← filterMap_withoutOverridden, left,
          List.filterMap_cons_none noCode]
      refine ⟨name, nameWarnings ++ (readAlignments [] rest).2,
        by rw [left, readPlacement_of_name (named rest), ← sameCodes], fun stays => ?_⟩
      rcases List.mem_append.mp (stays List.mem_cons_self) with ofName | ofCodes
      · exact absurd ofName given
      · exact absurd ofCodes (definitionMissing_not_mem_readAlignments [] rest)
  · rw [readPlacement_of_name (named rest)] at read
    obtain ⟨rfl, rfl, rfl⟩ : _ ∧ _ ∧ _ := by simpa only [Prod.mk.injEq] using read
    refine ⟨name, _, ?_, fun _ => ⟨rfl, rfl⟩⟩
    rw [withoutOverridden_of_no_code noCode, readPlacement_of_name (named _),
      readAlignments_withoutOverridden, List.filter_append, filter_not_eq_self notRepetitions]

/-- A line that adds a room is a room line. -/
theorem readLine_eq_addRoom_iff {line : Line} {size : Vec3 Number} :
    readLine line = .ok (.addRoom size definition codes, warnings)
      ↔ line.head.kind = .keyword .room
        ∧ readRoom line.arguments = .ok (.addRoom size definition codes, warnings) := by
  constructor
  · intro read
    unfold readLine at read
    split at read
    · next isRoom => exact ⟨isRoom, read⟩
    · unfold readLight at read
      split at read <;> cases read
    · unfold readCursor readSnapshot at read
      split at read
      · split at read
        · cases read
        · split at read <;> cases read
      · split at read
        · cases read
        · split at read <;> cases read
      · cases read
    · unfold readAssignment at read
      split at read
      · obtain ⟨value, -, assigned⟩ := bind_eq_ok_iff.mp read
        cases assigned
      · cases read
      · cases read
    · cases read
    · cases read
  · rintro ⟨isRoom, read⟩
    rw [readLine, isRoom]
    exact read

/-- There is one warning for each code whose axis occurred before it. -/
theorem filter_isRepetition_readRoom {size : Vec3 Number}
    (read : readRoom kinds = .ok (.addRoom size definition codes, warnings)) :
    warnings.filter LineWarning.isRepetition
      = (repeatedAfter [] codes).map LineWarning.repetition := by
  obtain ⟨_, _, _, rest, -, -, -, -, placement⟩ := readRoom_eq_addRoom_iff.mp read
  exact filter_isRepetition_readPlacement placement

/-- Without overridden codes a room line is read as a room line. -/
theorem readRoom_withoutOverridden {size : Vec3 Number}
    (read : readRoom kinds = .ok (.addRoom size definition codes, warnings)) :
    ∃ definition' warnings',
      readRoom (withoutOverridden TokenKind.alignment? kinds)
          = .ok (.addRoom size definition' (withoutOverridden some codes), warnings')
        ∧ ((.definitionMissing ∈ warnings → .definitionMissing ∈ warnings') →
          definition' = definition
            ∧ warnings' = warnings.filter fun warning => !warning.isRepetition) := by
  obtain ⟨x, y, z, rest, rfl, sizeX, sizeY, sizeZ, placement⟩ := readRoom_eq_addRoom_iff.mp read
  obtain ⟨definition', warnings', placement', otherwise⟩ := readPlacement_withoutOverridden placement
  refine ⟨definition', warnings', readRoom_eq_addRoom_iff.mpr ?_, otherwise⟩
  refine ⟨x, y, z, _, ?_, sizeX, sizeY, sizeZ, placement'⟩
  rw [withoutOverridden_of_no_code rfl, withoutOverridden_of_no_code sizeX.no_code,
    withoutOverridden_of_no_code sizeY.no_code, withoutOverridden_of_no_code sizeZ.no_code]

end Reading

/-! ## Placing the room -/

/-- Lists of codes with the same last ones place a room alike, whatever covers its faces. -/
theorem Construction.samePlace_addRoom (state : Construction) (line : Nat) (size : Vec3 Number)
    (definition definition' : String) {codes codes' : List Alignment}
    (sameMove : ∀ cursor : Cursor Float, cursor.moveBy codes = cursor.moveBy codes') :
    let placed := state.addRoom line size definition codes
    let placed' := state.addRoom line size definition' codes'
    placed'.cursor = placed.cursor
      ∧ List.Forall₂ Room.SamePlace placed'.level placed.level
      ∧ (definition' = definition → placed' = placed) := by
  intro placed placed'
  have samePlace : List.Forall₂ Room.SamePlace state.level state.level :=
    List.forall₂_same.mpr fun room _ => ⟨rfl, rfl, rfl, rfl⟩
  have same : definition' = definition → placed' = placed := by
    rintro rfl
    simp only [placed, placed', addRoom, placeRoom, sameMove]
  cases resolved : state.resolveSize size with
  | error error =>
    have rejected : placed = state.fail line error :=
      addRoom_of_error line resolved definition codes
    have rejected' : placed' = state.fail line error :=
      addRoom_of_error line resolved definition' codes'
    rw [rejected'] at same ⊢
    rw [rejected] at same ⊢
    exact ⟨rfl, samePlace, same⟩
  | ok extent =>
    obtain ⟨diagnostics, built⟩ := addRoom_of_ok line resolved definition codes
    obtain ⟨diagnostics', built'⟩ := addRoom_of_ok line resolved definition' codes'
    refine ⟨?_, ?_, same⟩
    · simp only [placed, placed', built, built', placeRoom, reporting, sameMove]
    · simp only [placed, placed', built, built', placeRoom, reporting, sameMove]
      exact List.rel_append samePlace (.cons ⟨rfl, rfl, rfl, rfl⟩ .nil)

/-- The last code of an axis wins, for the cursor and for the reader. A cursor follows the last
code of each axis, whatever other codes there are. A room line that is read has one warning for
each code whose axis occurred before it. Without the overridden codes the line is read without
these warnings, and its room stands in the same place; all else is the same too, unless the line
leaves out its definition and the deletion puts a name in that place. -/
theorem last_code_wins {α : Type} [Coordinate α] :
    (∀ (cursor : Cursor α) codes, cursor.FollowsLastCodes codes)
      ∧ ∀ line size definition codes warnings,
        readLine line = .ok (.addRoom size definition codes, warnings) →
        warnings.filter LineWarning.isRepetition
            = (repeatedAfter [] codes).map LineWarning.repetition
          ∧ ∃ definition' warnings',
            readLine line.withoutOverridden
                = .ok (.addRoom size definition' (withoutOverridden some codes), warnings')
              ∧ warnings'.filter LineWarning.isRepetition = []
              ∧ ((.definitionMissing ∈ warnings → .definitionMissing ∈ warnings') →
                definition' = definition
                  ∧ warnings' = warnings.filter fun warning => !warning.isRepetition)
              ∧ ∀ state : Construction,
                let placed := state.perform ⟨line.number, .addRoom size definition codes⟩
                let placed' := state.perform ⟨line.withoutOverridden.number,
                  .addRoom size definition' (withoutOverridden some codes)⟩
                placed'.cursor = placed.cursor
                  ∧ List.Forall₂ Room.SamePlace placed'.level placed.level
                  ∧ (definition' = definition → placed' = placed) := by
  refine ⟨Cursor.followsLastCodes, fun line size definition codes warnings read => ?_⟩
  obtain ⟨isRoom, readsRoom⟩ := readLine_eq_addRoom_iff.mp read
  obtain ⟨definition', warnings', readsRoom', otherwise⟩ := readRoom_withoutOverridden readsRoom
  rw [← line.arguments_withoutOverridden] at readsRoom'
  have repetitions' := filter_isRepetition_readRoom readsRoom'
  rw [repeatedAfter_of_nodup (Alignment.nodup_axes_withoutOverridden codes)
    (fun _ _ => List.not_mem_nil)] at repetitions'
  exact ⟨filter_isRepetition_readRoom readsRoom, definition', warnings',
    readLine_eq_addRoom_iff.mpr ⟨isRoom, readsRoom'⟩, repetitions', otherwise,
    fun state => state.samePlace_addRoom line.number size definition definition'
      fun cursor => (cursor.moveBy_withoutOverridden codes).symm⟩

/-- A hall that is first put to one side of the room before it and then to the other. Its codes
can be reordered, and the first one deleted. -/
theorem last_code_wins_hall :
    let token (kind : TokenKind) : Token := ⟨kind, ⟨1, 1⟩⟩
    let extents : List Token := [token (.keyword .add), token (.integer 100),
      token (.integer 200), token (.integer 300)]
    let line : Line := ⟨token (.keyword .room), extents ++ [token (.word "hall"),
      token (.alignment "x++"), token (.alignment "y"), token (.alignment "x--")]⟩
    let shorter : Line := ⟨token (.keyword .room), extents ++ [token (.word "hall"),
      token (.alignment "y"), token (.alignment "x--")]⟩
    let size : Vec3 Number := ⟨.literal 100, .literal 200, .literal 300⟩
    let codes : List Alignment := [⟨.x, .plusPlus⟩, ⟨.y, .center⟩, ⟨.x, .minusMinus⟩]
    let left : List Alignment := [⟨.y, .center⟩, ⟨.x, .minusMinus⟩]
    let reordered : List Alignment := [⟨.x, .plusPlus⟩, ⟨.x, .minusMinus⟩, ⟨.y, .center⟩]
    (∀ cursor : Cursor Rat, cursor.moveBy left = cursor.moveBy codes
        ∧ cursor.moveBy reordered = cursor.moveBy codes)
      ∧ line.withoutOverridden = shorter
      ∧ readLine line = .ok (.addRoom size "hall" codes, [.axisRepeated .x "x--"])
      ∧ readLine shorter = .ok (.addRoom size "hall" left, [])
      ∧ ∀ state : Construction, state.perform ⟨1, .addRoom size "hall" left⟩
        = state.perform ⟨1, .addRoom size "hall" codes⟩ := by
  intro token extents line shorter size codes left reordered
  have sameLast : ∀ axis, Alignment.SameLast axis codes reordered := by
    simp only [Axis.forall_iff, Alignment.sameLast_iff]
    decide
  have read : readLine line = .ok (.addRoom size "hall" codes, [.axisRepeated .x "x--"]) := rfl
  have deleted : line.withoutOverridden = shorter := rfl
  obtain ⟨moves, reads⟩ := last_code_wins (α := Rat)
  obtain ⟨-, definition', warnings', read', -, otherwise, places⟩ := reads _ _ _ _ _ read
  obtain ⟨rfl, rfl⟩ := otherwise (by simp)
  exact ⟨fun cursor => ⟨(moves cursor codes).withoutOverridden,
    (moves cursor codes).sameLast reordered sameLast⟩, deleted, read, deleted ▸ read',
    fun state => (places state).2.2 rfl⟩

/-- Without its first code a line can gain a definition. -/
example :
    let token (kind : TokenKind) : Token := ⟨kind, ⟨1, 1⟩⟩
    let line : Line := ⟨token (.keyword .room), [token (.keyword .add), token (.integer 1),
      token (.integer 1), token (.integer 1), token (.alignment "x++"), token (.word "hall"),
      token (.alignment "x--")]⟩
    let size : Vec3 Number := ⟨.literal 1, .literal 1, .literal 1⟩
    readLine line = .ok (.addRoom size Definitions.defaultName
          [⟨.x, .plusPlus⟩, ⟨.x, .minusMinus⟩],
        [.definitionMissing, .notAnAlignment "hall", .axisRepeated .x "x--"])
      ∧ readLine line.withoutOverridden
        = .ok (.addRoom size "hall" [⟨.x, .minusMinus⟩], []) :=
  ⟨rfl, rfl⟩

end RoomLayout

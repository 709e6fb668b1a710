import RoomLayout.Proofs.Placement.AlignedBoxes

/-!
# The last code of an axis

A room line may align an axis more than once. The cursor looks for the last code of each axis,
so a code that a later one overrides can be deleted (`lastFor_withoutOverridden`), and more
generally any two lists with the same last codes move the cursor alike.

Deleting overridden codes makes sense for whatever carries codes: for codes themselves, and for
the tokens of a line, most of which are none. The definitions below are given the code of an
element, if it is one.
-/

namespace RoomLayout

section Deleting

variable {β γ : Type} (alignment? : β → Option Alignment)

/-- Whether an element is a code whose axis is aligned again by a later one. -/
def isOverridden (later : List β) (element : β) : Bool :=
  (alignment? element).any fun code =>
    later.any fun other => (alignment? other).any fun next => next.axis == code.axis

/-- Delete every code but the last one of each axis, and nothing else. -/
def withoutOverridden : List β → List β
  | [] => []
  | element :: later =>
    if isOverridden alignment? later element then withoutOverridden later
    else element :: withoutOverridden later

variable {alignment?} {element : β} {later : List β}

theorem withoutOverridden_of_overridden (overridden : isOverridden alignment? later element) :
    withoutOverridden alignment? (element :: later) = withoutOverridden alignment? later := by
  rw [withoutOverridden, if_pos overridden]

theorem withoutOverridden_of_counting (counts : isOverridden alignment? later element = false) :
    withoutOverridden alignment? (element :: later)
      = element :: withoutOverridden alignment? later := by
  rw [withoutOverridden, counts, if_neg Bool.false_ne_true]

/-- An element that is no code is kept. -/
theorem withoutOverridden_of_no_code (noCode : alignment? element = none) (later : List β) :
    withoutOverridden alignment? (element :: later)
      = element :: withoutOverridden alignment? later :=
  withoutOverridden_of_counting (by rw [isOverridden, noCode, Option.any_none])

variable (alignment?) in
/-- An element is overridden by the codes after it, whatever stands between them. -/
theorem isOverridden_filterMap {code : Alignment} (isCode : alignment? element = some code) :
    isOverridden alignment? later element
      = isOverridden some (later.filterMap alignment?) code := by
  simp only [isOverridden, isCode, Option.any_some, List.any_filterMap]
  rfl

/-- The codes that are left are those of the elements that are left. -/
theorem filterMap_withoutOverridden (list : List β) :
    (withoutOverridden alignment? list).filterMap alignment?
      = withoutOverridden some (list.filterMap alignment?) := by
  induction list with
  | nil => rfl
  | cons element later inductionHypothesis =>
    cases isCode : alignment? element with
    | none =>
      rw [withoutOverridden_of_no_code isCode, List.filterMap_cons_none isCode,
        List.filterMap_cons_none isCode, inductionHypothesis]
    | some code =>
      rw [List.filterMap_cons_some isCode, withoutOverridden, withoutOverridden,
        isOverridden_filterMap alignment? isCode]
      split
      · exact inductionHypothesis
      · rw [List.filterMap_cons_some isCode, inductionHypothesis]

/-- What is said of elements that are no codes is still said. -/
theorem filterMap_withoutOverridden_of_no_code {said? : β → Option γ}
    (ofNoCode : ∀ element, alignment? element ≠ none → said? element = none) (list : List β) :
    (withoutOverridden alignment? list).filterMap said? = list.filterMap said? := by
  induction list with
  | nil => rfl
  | cons element later inductionHypothesis =>
    cases isCode : alignment? element with
    | none =>
      rw [withoutOverridden_of_no_code isCode, List.filterMap_cons, List.filterMap_cons,
        inductionHypothesis]
    | some code =>
      have notSaid : said? element = none := ofNoCode element (by simp [isCode])
      rw [List.filterMap_cons_none notSaid, withoutOverridden]
      split
      · exact inductionHypothesis
      · rw [List.filterMap_cons_none notSaid, inductionHypothesis]

/-- Elements that stand for others are overridden as these are. -/
theorem map_withoutOverridden (alignment? : γ → Option Alignment) (project : β → γ)
    (list : List β) :
    (withoutOverridden (fun element => alignment? (project element)) list).map project
      = withoutOverridden alignment? (list.map project) := by
  induction list with
  | nil => rfl
  | cons element later inductionHypothesis =>
    have sameTest : isOverridden (fun element => alignment? (project element)) later element
        = isOverridden alignment? (later.map project) (project element) := by
      simp only [isOverridden, List.any_map, Function.comp_def]
    rw [List.map_cons, withoutOverridden, withoutOverridden, sameTest]
    split
    · exact inductionHypothesis
    · rw [List.map_cons, inductionHypothesis]

end Deleting

namespace Alignment

variable {axis : Axis} {codes codes' : List Alignment} {code : Alignment}

/-- The first code counts for its axis if no later one does. -/
theorem lastFor_cons (axis : Axis) (code : Alignment) (codes : List Alignment) :
    lastFor axis (code :: codes)
      = (lastFor axis codes).or (if code.axis = axis then some code.align else none) := by
  rw [lastFor, List.reverse_cons, List.find?_append, List.find?_singleton, lastFor, Option.map_or]
  congr 1
  by_cases same : code.axis = axis
  · rw [if_pos same, if_pos (Axis.beq_iff_eq.mpr same), Option.map_some]
  · rw [if_neg same, if_neg (mt Axis.beq_iff_eq.mp same), Option.map_none]

theorem isSome_lastFor : (lastFor axis codes).isSome = codes.any fun code => code.axis == axis := by
  rw [lastFor, Option.isSome_map, Bool.eq_iff_iff, List.find?_isSome, List.any_eq_true]
  simp only [List.mem_reverse]

/-- A code is overridden if a later code counts for its axis. -/
theorem isOverridden_eq_isSome_lastFor :
    isOverridden some codes code = (lastFor code.axis codes).isSome := by
  rw [isSome_lastFor]
  rfl

/-- Overridden codes do not count. -/
theorem lastFor_withoutOverridden (axis : Axis) (codes : List Alignment) :
    lastFor axis (withoutOverridden some codes) = lastFor axis codes := by
  induction codes with
  | nil => rfl
  | cons code later inductionHypothesis =>
    rw [lastFor_cons]
    cases overridden : isOverridden some later code with
    | true =>
      rw [withoutOverridden_of_overridden overridden, inductionHypothesis]
      rw [isOverridden_eq_isSome_lastFor, Option.isSome_iff_exists] at overridden
      obtain ⟨align, counts⟩ := overridden
      split
      · next same => rw [← same, counts, Option.some_or]
      · rw [Option.or_none]
    | false => rw [withoutOverridden_of_counting overridden, lastFor_cons, inductionHypothesis]

/-- A code that is left was there before. -/
theorem mem_of_mem_withoutOverridden (left : code ∈ withoutOverridden some codes) :
    code ∈ codes := by
  induction codes with
  | nil => exact left
  | cons first later inductionHypothesis =>
    rw [withoutOverridden] at left
    split at left
    · exact List.mem_cons_of_mem _ (inductionHypothesis left)
    · rcases List.mem_cons.mp left with rfl | inLater
      · exact List.mem_cons_self
      · exact List.mem_cons_of_mem _ (inductionHypothesis inLater)

/-- At most one code of each axis is left. -/
theorem nodup_axes_withoutOverridden (codes : List Alignment) :
    ((withoutOverridden some codes).map Alignment.axis).Nodup := by
  induction codes with
  | nil => exact List.nodup_nil
  | cons code later inductionHypothesis =>
    cases overridden : isOverridden some later code with
    | true => rwa [withoutOverridden_of_overridden overridden]
    | false =>
      rw [withoutOverridden_of_counting overridden, List.map_cons]
      refine List.nodup_cons.mpr ⟨fun again => ?_, inductionHypothesis⟩
      obtain ⟨other, left, sameAxis⟩ := List.mem_map.mp again
      rw [isOverridden_eq_isSome_lastFor, isSome_lastFor, List.any_eq_false] at overridden
      exact overridden other (mem_of_mem_withoutOverridden left) (Axis.beq_iff_eq.mpr sameAxis)

/-- Two lists of codes with the same last one on an axis, or without any. -/
def SameLast (axis : Axis) (codes codes' : List Alignment) : Prop :=
  ∀ code, (∃ earlier, IsLast (fun code => code.axis = axis) codes earlier code)
    ↔ ∃ earlier, IsLast (fun code => code.axis = axis) codes' earlier code

theorem exists_isLast_iff :
    (∃ earlier, IsLast (fun code => code.axis = axis) codes earlier code)
      ↔ code.axis = axis ∧ lastFor axis codes = some code.align := by
  constructor
  · rintro ⟨earlier, last⟩
    exact ⟨last.holds, lastFor_of_isLast last⟩
  · rintro ⟨ofAxis, counts⟩
    rcases exists_isLast_or_none (fun code => code.axis = axis) codes with
      ⟨earlier, other, last⟩ | none
    · have sameAlign : other.align = code.align :=
        Option.some.inj ((lastFor_of_isLast last).symm.trans counts)
      obtain ⟨_, _⟩ := code
      obtain ⟨_, _⟩ := other
      obtain rfl : _ = axis := last.holds
      cases ofAxis
      cases sameAlign
      exact ⟨earlier, last⟩
    · exact absurd ((lastFor_of_none none).symm.trans counts) (by simp)

/-- The cursor finds the same codes exactly where the last ones are the same. -/
theorem sameLast_iff : SameLast axis codes codes' ↔ lastFor axis codes = lastFor axis codes' := by
  simp only [SameLast, exists_isLast_iff]
  constructor
  · intro same
    refine Option.ext fun align => ?_
    simpa using same ⟨axis, align⟩
  · intro same code
    rw [same]

end Alignment

section Moving

variable {α : Type} [Coordinate α]

/-- A cursor goes where the last codes say. -/
theorem Cursor.moveBy_congr (cursor : Cursor α) {codes codes' : List Alignment}
    (same : ∀ axis, Alignment.lastFor axis codes = Alignment.lastFor axis codes') :
    cursor.moveBy codes = cursor.moveBy codes' := by
  rw [moveBy, moveBy, CursorState.moved, CursorState.moved, same .x, same .y, same .z]

/-- Overridden codes do not move a cursor. -/
theorem Cursor.moveBy_withoutOverridden (cursor : Cursor α) (codes : List Alignment) :
    cursor.moveBy (withoutOverridden some codes) = cursor.moveBy codes :=
  cursor.moveBy_congr fun axis => Alignment.lastFor_withoutOverridden axis codes

/-- Two cursor states that are the same on an axis. -/
structure CursorState.SameAlong (axis : Axis) (state state' : CursorState α) : Prop where
  position : state.position.along axis = state'.position.along axis
  oldSize : state.oldSize.along axis = state'.oldSize.along axis
  newSize : state.newSize.along axis = state'.newSize.along axis

/-- Where a cursor goes on an axis depends on nothing but that axis. -/
theorem CursorState.SameAlong.moved {axis : Axis} {state state' : CursorState α}
    (same : state.SameAlong axis state') {codes codes' : List Alignment}
    (sameLast : Alignment.lastFor axis codes = Alignment.lastFor axis codes') :
    (state.moved codes).along axis = (state'.moved codes').along axis := by
  obtain ⟨position, oldSize, newSize⟩ := same
  cases axis <;>
  · simp only [Vec3.along, CursorState.moved] at position oldSize newSize ⊢
    rw [position, oldSize, newSize, sameLast]

/-- How a cursor follows the last code of each axis. -/
structure Cursor.FollowsLastCodes (cursor : Cursor α) (codes : List Alignment) : Prop where
  /-- Codes that later ones override can be deleted. -/
  withoutOverridden :
    cursor.moveBy (RoomLayout.withoutOverridden some codes) = cursor.moveBy codes
  /-- Any other codes with the same last ones do the same, those in another order included. -/
  sameLast : ∀ codes', (∀ axis, Alignment.SameLast axis codes codes') →
    cursor.moveBy codes' = cursor.moveBy codes
  /-- Nothing but the position changes. -/
  onlyPosition : cursor.moveBy codes =
    { cursor with state.position := (cursor.moveBy codes).state.position }
  /-- Where the cursor goes on an axis depends on nothing but where it is on that axis, both
  extents there, and the last code of the axis. -/
  alongAxis : ∀ (cursor' : Cursor α) codes' axis, cursor.state.SameAlong axis cursor'.state →
    Alignment.SameLast axis codes codes' →
    (cursor'.moveBy codes').state.position.along axis
      = (cursor.moveBy codes).state.position.along axis

theorem Cursor.followsLastCodes (cursor : Cursor α) (codes : List Alignment) :
    cursor.FollowsLastCodes codes where
  withoutOverridden := cursor.moveBy_withoutOverridden codes
  sameLast _ same :=
    cursor.moveBy_congr fun axis => (Alignment.sameLast_iff.mp (same axis)).symm
  onlyPosition := rfl
  alongAxis _ _ _ sameAlong same := (sameAlong.moved (Alignment.sameLast_iff.mp same)).symm

end Moving

end RoomLayout

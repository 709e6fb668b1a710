import RoomLayout.Proofs.Construction.Effects
import RoomLayout.Proofs.Geometry.Axes

/-!
# Which rooms are rejected

The size of a room is judged axis by axis, and then its tiles are counted. The first fault
decides what is reported, and nothing but the report is left of the statement. What a fault
is, and which one is the first, is said here without the order in which things are computed
(`Construction.RejectedFor`).
-/

namespace RoomLayout

/-- The axes that are judged before an axis. -/
def Axis.earlier : Axis → List Axis
  | .x => []
  | .y => [.x]
  | .z => [.x, .y]

/-- The whole number that a number of a script stands for. -/
inductive Number.StandsFor (values : NameTable Value) : Number → Int → Prop where
  | literal (value : Int) : StandsFor values (.literal value) value
  | held {name : String} {value : Int} (holds : values.get? name = some (.integer value)) :
      StandsFor values (.named name) value

/-- Why a number stands for none: its variable is undefined, or holds something else. -/
inductive Number.StandsForNone (values : NameTable Value) : Number → ConstructionError → Prop where
  | undefined {name : String} (unknown : values.get? name = none) :
      StandsForNone values (.named name) (.sizeUndefined name)
  | notInteger {name : String} {value : Value} (holds : values.get? name = some value)
      (other : ∀ whole, value ≠ .integer whole) :
      StandsForNone values (.named name) (.sizeNotInteger name)

/-- Why a number cannot be an extent: it stands for no whole number, or for one that is not
positive. -/
inductive Number.Refused (values : NameTable Value) (number : Number) :
    ConstructionError → Prop where
  | none {error : ConstructionError} (none : number.StandsForNone values error) :
      Refused values number error
  | notPositive {value : Int} (stands : number.StandsFor values value) (small : value ≤ 0) :
      Refused values number (.sizeNotPositive value)

/-- The extent that a number stands for: a positive whole number. -/
def Number.HasExtent (values : NameTable Value) (number : Number) (extent : Float) : Prop :=
  ∃ value, number.StandsFor values value ∧ 0 < value ∧ extent = Float.ofInt value

namespace Construction

variable {values : NameTable Value} {number : Number}

theorem resolveNumber_eq_ok_iff {value : Int} :
    resolveNumber values number = .ok value ↔ number.StandsFor values value := by
  constructor
  · intro resolved
    cases number with
    | literal whole => exact Except.ok.inj resolved ▸ .literal whole
    | named name =>
      rw [resolveNumber] at resolved
      split at resolved
      · next holds => exact Except.ok.inj resolved ▸ .held holds
      · exact nomatch resolved
      · exact nomatch resolved
  · rintro (_ | holds)
    · rfl
    · rw [resolveNumber, holds]

theorem resolveNumber_eq_error_iff {error : ConstructionError} :
    resolveNumber values number = .error error ↔ number.StandsForNone values error := by
  constructor
  · intro unresolved
    cases number with
    | literal whole => exact nomatch unresolved
    | named name =>
      rw [resolveNumber] at unresolved
      split at unresolved
      · exact nomatch unresolved
      · next value notInteger holds =>
        obtain rfl := Except.error.inj unresolved
        exact .notInteger holds notInteger
      · next unknown =>
        obtain rfl := Except.error.inj unresolved
        exact .undefined unknown
  · rintro (unknown | ⟨holds, other⟩)
    · rw [resolveNumber, unknown]
    · rw [resolveNumber, holds]
      split
      · next whole same => exact absurd (Option.some.inj same) (other whole)
      · rfl
      · next none => exact nomatch none

/-- A number is judged by what it stands for, if it stands for anything. -/
theorem resolveExtent_of_standsFor {value : Int} (stands : number.StandsFor values value) :
    resolveExtent values number =
      if value ≤ 0 then .error (.sizeNotPositive value) else .ok (Float.ofInt value) := by
  rw [resolveExtent, resolveNumber_eq_ok_iff.mpr stands]
  rfl

theorem resolveExtent_eq_ok_iff {extent : Float} :
    resolveExtent values number = .ok extent ↔ number.HasExtent values extent := by
  constructor
  · intro accepted
    cases resolved : resolveNumber values number with
    | error error =>
      rw [resolveExtent, resolved] at accepted
      exact nomatch accepted
    | ok value =>
      have stands := resolveNumber_eq_ok_iff.mp resolved
      rw [resolveExtent_of_standsFor stands] at accepted
      split at accepted
      · exact nomatch accepted
      · next positive =>
        exact ⟨value, stands, Int.not_le.mp positive, (Except.ok.inj accepted).symm⟩
  · rintro ⟨value, stands, positive, rfl⟩
    rw [resolveExtent_of_standsFor stands, if_neg (Int.not_le.mpr positive)]

theorem resolveExtent_eq_error_iff {error : ConstructionError} :
    resolveExtent values number = .error error ↔ number.Refused values error := by
  constructor
  · intro refused
    cases resolved : resolveNumber values number with
    | error reason =>
      rw [resolveExtent, resolved] at refused
      obtain rfl : reason = error := Except.error.inj refused
      exact .none (resolveNumber_eq_error_iff.mp resolved)
    | ok value =>
      have stands := resolveNumber_eq_ok_iff.mp resolved
      rw [resolveExtent_of_standsFor stands] at refused
      split at refused
      · next small => exact Except.error.inj refused ▸ .notPositive stands small
      · exact nomatch refused
  · rintro (none | ⟨stands, small⟩)
    · rw [resolveExtent, resolveNumber_eq_error_iff.mpr none]
      rfl
    · rw [resolveExtent_of_standsFor stands, if_pos small]

/-- A number stands for an extent, or there is a reason why it does not. -/
theorem hasExtent_or_refused (values : NameTable Value) (number : Number) :
    (∃ extent, number.HasExtent values extent) ∨ ∃ error, number.Refused values error := by
  cases resolved : resolveExtent values number with
  | ok extent => exact .inl ⟨extent, resolveExtent_eq_ok_iff.mp resolved⟩
  | error error => exact .inr ⟨error, resolveExtent_eq_error_iff.mp resolved⟩

/-- A size stands for an extent on every axis. -/
def HasExtent (state : Construction) (size : Vec3 Number) (extent : Vec3 Float) : Prop :=
  ∀ axis, (size.along axis).HasExtent state.values (extent.along axis)

/-- On some axis a size is no extent, while it is one on the earlier axes. -/
def FirstRefused (state : Construction) (size : Vec3 Number) (error : ConstructionError) : Prop :=
  ∃ axis, (∀ before ∈ axis.earlier, ∃ extent, (size.along before).HasExtent state.values extent)
    ∧ (size.along axis).Refused state.values error

/-- The number of tiles along an axis of an extent. -/
def tilesAlong (state : Construction) (extent : Vec3 Float) (axis : Axis) : Nat :=
  tileCount state.session.config.tileSize (extent.along axis)

/-- On some axis an extent needs too many tiles, but on no earlier one. -/
def FirstTooMany (state : Construction) (extent : Vec3 Float) (error : ConstructionError) : Prop :=
  ∃ axis, (∀ before ∈ axis.earlier, state.tilesAlong extent before ≤ maxTilesPerAxis)
    ∧ maxTilesPerAxis < state.tilesAlong extent axis
    ∧ error = .tooManyTiles (state.tilesAlong extent axis) axis

/-- The first fault of a size: an axis on which it is no extent, or, if there is none, an axis
on which it needs too many tiles. -/
inductive RejectedFor (state : Construction) (size : Vec3 Number) (error : ConstructionError) :
    Prop where
  | extent (refused : state.FirstRefused size error)
  | tiles {extent : Vec3 Float} (extents : state.HasExtent size extent)
      (tooMany : state.FirstTooMany extent error)

section Size

variable {state : Construction} {size : Vec3 Number} {extent : Vec3 Float}
  {error : ConstructionError}

theorem checkTiles_eq_ok_iff {accepted : Vec3 Float} :
    checkTiles state.session.config.tileSize extent = .ok accepted
      ↔ accepted = extent ∧ ∀ axis, state.tilesAlong extent axis ≤ maxTilesPerAxis := by
  have counts : tileCounts state.session.config.tileSize extent
      = ⟨state.tilesAlong extent .x, state.tilesAlong extent .y, state.tilesAlong extent .z⟩ := rfl
  simp only [checkTiles, counts]
  constructor
  · intro checked
    split at checked
    · exact nomatch checked
    · next fewX =>
      split at checked
      · exact nomatch checked
      · next fewY =>
        split at checked
        · exact nomatch checked
        · next fewZ =>
          refine ⟨(Except.ok.inj checked).symm, fun axis => ?_⟩
          cases axis with
          | x => exact Nat.not_lt.mp fewX
          | y => exact Nat.not_lt.mp fewY
          | z => exact Nat.not_lt.mp fewZ
  · rintro ⟨rfl, few⟩
    rw [if_neg (Nat.not_lt.mpr (few .x)), if_neg (Nat.not_lt.mpr (few .y)),
      if_neg (Nat.not_lt.mpr (few .z))]

theorem checkTiles_eq_error_iff :
    checkTiles state.session.config.tileSize extent = .error error
      ↔ state.FirstTooMany extent error := by
  have counts : tileCounts state.session.config.tileSize extent
      = ⟨state.tilesAlong extent .x, state.tilesAlong extent .y, state.tilesAlong extent .z⟩ := rfl
  simp only [checkTiles, counts]
  constructor
  · intro rejected
    split at rejected
    · next tooMany => exact ⟨.x, nofun, tooMany, (Except.error.inj rejected).symm⟩
    · next fewX =>
      split at rejected
      · next tooMany =>
        exact ⟨.y, by simpa [Axis.earlier] using fewX, tooMany, (Except.error.inj rejected).symm⟩
      · next fewY =>
        split at rejected
        · next tooMany =>
          refine ⟨.z, ?_, tooMany, (Except.error.inj rejected).symm⟩
          simpa [Axis.earlier] using And.intro fewX fewY
        · exact nomatch rejected
  · rintro ⟨axis, few, tooMany, rfl⟩
    cases axis with
    | x => rw [if_pos tooMany]
    | y =>
      have fewX := few .x (by simp [Axis.earlier])
      rw [if_neg (Nat.not_lt.mpr fewX), if_pos tooMany]
    | z =>
      have fewX := few .x (by simp [Axis.earlier])
      have fewY := few .y (by simp [Axis.earlier])
      rw [if_neg (Nat.not_lt.mpr fewX), if_neg (Nat.not_lt.mpr fewY), if_pos tooMany]

/-- Once a size has an extent, its tiles decide. -/
theorem resolveSize_of_hasExtent (extents : state.HasExtent size extent) :
    state.resolveSize size = checkTiles state.session.config.tileSize extent := by
  have x := resolveExtent_eq_ok_iff.mpr (extents .x)
  have y := resolveExtent_eq_ok_iff.mpr (extents .y)
  have z := resolveExtent_eq_ok_iff.mpr (extents .z)
  simp only [Vec3.along] at x y z
  rw [resolveSize, x, y, z]
  rfl

/-- The first axis on which a size is no extent decides, however the later ones are. -/
theorem resolveSize_of_firstRefused (refused : state.FirstRefused size error) :
    state.resolveSize size = .error error := by
  obtain ⟨axis, earlier, refused⟩ := refused
  have fault := resolveExtent_eq_error_iff.mpr refused
  cases axis with
  | x =>
    simp only [Vec3.along] at fault
    rw [resolveSize, fault]
    rfl
  | y =>
    obtain ⟨width, isWidth⟩ := earlier .x (by simp [Axis.earlier])
    have x := resolveExtent_eq_ok_iff.mpr isWidth
    simp only [Vec3.along] at fault x
    rw [resolveSize, x, fault]
    rfl
  | z =>
    obtain ⟨width, isWidth⟩ := earlier .x (by simp [Axis.earlier])
    obtain ⟨height, isHeight⟩ := earlier .y (by simp [Axis.earlier])
    have x := resolveExtent_eq_ok_iff.mpr isWidth
    have y := resolveExtent_eq_ok_iff.mpr isHeight
    simp only [Vec3.along] at fault x y
    rw [resolveSize, x, y, fault]
    rfl

/-- A size stands for an extent on every axis, or there is a first axis on which it does
not. -/
theorem exists_hasExtent_or_firstRefused (state : Construction) (size : Vec3 Number) :
    (∃ extent, state.HasExtent size extent) ∨ ∃ error, state.FirstRefused size error := by
  rcases hasExtent_or_refused state.values size.x with ⟨width, isWidth⟩ | ⟨error, refused⟩
  · rcases hasExtent_or_refused state.values size.y with ⟨height, isHeight⟩ | ⟨error, refused⟩
    · rcases hasExtent_or_refused state.values size.z with ⟨depth, isDepth⟩ | ⟨error, refused⟩
      · refine .inl ⟨⟨width, height, depth⟩, fun axis => ?_⟩
        cases axis with
        | x => exact isWidth
        | y => exact isHeight
        | z => exact isDepth
      · refine .inr ⟨error, .z, ?_, refused⟩
        simpa [Axis.earlier] using And.intro ⟨width, isWidth⟩ ⟨height, isHeight⟩
    · refine .inr ⟨error, .y, ?_, refused⟩
      simpa [Axis.earlier] using ⟨width, isWidth⟩
  · exact .inr ⟨error, .x, nofun, refused⟩

theorem resolveSize_eq_ok_iff :
    state.resolveSize size = .ok extent
      ↔ state.HasExtent size extent ∧ ∀ axis, state.tilesAlong extent axis ≤ maxTilesPerAxis := by
  constructor
  · intro accepted
    rcases exists_hasExtent_or_firstRefused state size with ⟨found, extents⟩ | ⟨error, refused⟩
    · rw [resolveSize_of_hasExtent extents, checkTiles_eq_ok_iff] at accepted
      obtain ⟨rfl, few⟩ := accepted
      exact ⟨extents, few⟩
    · rw [resolveSize_of_firstRefused refused] at accepted
      exact nomatch accepted
  · rintro ⟨extents, few⟩
    rw [resolveSize_of_hasExtent extents]
    exact checkTiles_eq_ok_iff.mpr ⟨rfl, few⟩

theorem resolveSize_eq_error_iff :
    state.resolveSize size = .error error ↔ state.RejectedFor size error := by
  constructor
  · intro rejected
    rcases exists_hasExtent_or_firstRefused state size with ⟨found, extents⟩ | ⟨reason, refused⟩
    · rw [resolveSize_of_hasExtent extents, checkTiles_eq_error_iff] at rejected
      exact .tiles extents rejected
    · rw [resolveSize_of_firstRefused refused] at rejected
      exact .extent (Except.error.inj rejected ▸ refused)
  · rintro (refused | ⟨extents, tooMany⟩)
    · exact resolveSize_of_firstRefused refused
    · rw [resolveSize_of_hasExtent extents]
      exact checkTiles_eq_error_iff.mpr tooMany

end Size

/-- A room whose size stands for an extent is placed, and the only thing that may be
reported is that its definition is unknown. -/
theorem addRoom_of_accepted {state : Construction} {size : Vec3 Number} {extent : Vec3 Float}
    (line : Nat) (accepted : state.resolveSize size = .ok extent) (definition : String)
    (alignments : List Alignment) :
    ∃ room warnings, (state.addRoom line size definition alignments).level = state.level ++ [room]
      ∧ (state.addRoom line size definition alignments).session.log
        = state.session.log ++ warnings
      ∧ Diagnostic.hasErrors warnings = false := by
  rw [addRoom, accepted]
  simp only [surfacesNamed]
  cases state.definitions.get? definition with
  | some surfaces => exact ⟨_, [], rfl, (List.append_nil _).symm, rfl⟩
  | none => exact ⟨_, [_], rfl, rfl, rfl⟩

/-- The addition of a room happens as a whole or not at all, whatever came before. It is
rejected exactly when its size has a first fault. Then everything is as it was, names, the
cursor, its snapshots, the rooms and the textures in use, but for one error in the log, that
fault at the line of the statement. Otherwise one room stands behind the earlier ones,
which are as they were, and no error is reported. -/
theorem addRoom_all_or_nothing (state : Construction) (line : Nat) (size : Vec3 Number)
    (definition : String) (alignments : List Alignment) :
    let next := state.perform ⟨line, .addRoom size definition alignments⟩
    (next.level = state.level ↔ ∃ error, state.RejectedFor size error)
      ∧ (∀ error, state.RejectedFor size error →
        (∀ other, state.RejectedFor size other → other = error)
          ∧ next = { state with session := { state.session with
              log := state.session.log ++ [⟨line, .error, error.message⟩] } })
      ∧ ((∀ error, ¬ state.RejectedFor size error) →
        ∃ room warnings, next.level = state.level ++ [room]
          ∧ next.session.log = state.session.log ++ warnings
          ∧ Diagnostic.hasErrors warnings = false) := by
  intro next
  cases resolved : state.resolveSize size with
  | error error =>
    have rejected := resolveSize_eq_error_iff.mp resolved
    have nextEq : next = state.fail line error :=
      addRoom_of_error line resolved definition alignments
    refine ⟨iff_of_true (by rw [nextEq]; rfl) ⟨error, rejected⟩, ?_,
      fun accepted => absurd rejected (accepted error)⟩
    have only : ∀ other, state.RejectedFor size other → other = error := fun other rejectedToo =>
      Except.error.inj ((resolveSize_eq_error_iff.mpr rejectedToo).symm.trans resolved)
    intro reason rejectedToo
    obtain rfl := only reason rejectedToo
    exact ⟨only, nextEq⟩
  | ok extent =>
    have accepted : ∀ error, ¬ state.RejectedFor size error := fun error rejected =>
      nomatch (resolveSize_eq_error_iff.mpr rejected).symm.trans resolved
    obtain ⟨room, warnings, placed, reported, harmless⟩ :=
      addRoom_of_accepted line resolved definition alignments
    refine ⟨iff_of_false ?_ fun ⟨error, rejected⟩ => accepted error rejected,
      fun error rejected => absurd rejected (accepted error),
      fun _ => ⟨room, warnings, placed, reported, harmless⟩⟩
    intro same
    have longer : state.level ++ [room] = state.level := placed.symm.trans same
    exact absurd (List.append_right_eq_self.mp longer) (List.cons_ne_nil _ _)

/-- Of an undefined width, a negative height and a depth of too many tiles, the width is
reported. -/
theorem addRoom_all_or_nothing_undefined_width :
    let session : Session := { config := {}, textures := fun _ => ⟨fun _ => none, fun _ _ => none⟩ }
    let size : Vec3 Number := ⟨.named "w", .literal (-1), .literal 1000000⟩
    let next := (start session).perform ⟨3, .addRoom size "hall" []⟩
    (start session).RejectedFor size (.sizeUndefined "w") ∧ next.level = []
      ∧ next.session.log = [⟨3, .error, "undefined variable '$w', room skipped"⟩] := by
  intro session size next
  have rejected : (start session).RejectedFor size (.sizeUndefined "w") :=
    .extent ⟨.x, nofun, .none (.undefined rfl)⟩
  obtain ⟨-, skipped, -⟩ := addRoom_all_or_nothing (start session) 3 size "hall" []
  have nextEq := (skipped _ rejected).2
  refine ⟨rejected, ?_, ?_⟩
  · exact congrArg Construction.level nextEq
  · exact congrArg (·.session.log) nextEq

end Construction

end RoomLayout

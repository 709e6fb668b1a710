import RoomLayout.Proofs.Geometry.FloatUnit
import RoomLayout.Proofs.Texturing.Outlines

/-!
# Tile sizes that are no sizes

A tile size that is zero or negative, infinite or no number asks for a single tile along
every length, so that a face is one quad. What differs is how far the quad reaches along its
texture. Counting tiles passes over every such tile size, measuring textures only over zero and
the negative ones: an infinite tile size shrinks the texture to a point, and one that is no
number leaves no texture coordinates at all, but along the axes on which the texture is fitted
to the face.
-/

namespace RoomLayout

open Coordinate

/-- A tile size that no length can be cut by. -/
def IsUnusable (tileSize : Float) : Prop :=
  le tileSize zero = true ∨ isFinite tileSize = false

theorem tileCount_of_isUnusable {tileSize : Float} (unusable : IsUnusable tileSize)
    (length : Float) : tileCount tileSize length = 1 := by
  rw [tileCount, if_pos]
  rcases unusable with small | notFinite
  · simp [small]
  · simp [notFinite]

/-- A length that is an ordinary positive number. -/
structure IsExtent (length : Float) : Prop where
  positive : lt zero length = true
  isFinite : isFinite length = true

namespace IsExtent

variable {extent : Float}

theorem gridLine_start (isExtent : IsExtent extent) : gridLine extent 1 0 = zero := by
  change extent * zero / one = zero
  rw [mul_zero_of_positive isExtent.positive isExtent.isFinite]
  rfl

theorem gridLine_end (isExtent : IsExtent extent) : gridLine extent 1 1 = extent := by
  change extent * one / one = extent
  rw [mul_one_of_isFinite isExtent.isFinite, div_one_of_isFinite isExtent.isFinite]

end IsExtent

/-- Where the start or the end of a face lies on its texture if the tile size is unusable. -/
def wholeCoordinate (tileSize : Float) (isFitted isEnd : Bool) : Float :=
  if isFitted || le tileSize zero then if isEnd then one else zero
  else if isNumber tileSize then zero
  else tileSize

/-- A whole face measured by an unusable tile size. -/
theorem IsExtent.div_repeatLength {extent tileSize : Float} (isExtent : IsExtent extent)
    (unusable : IsUnusable tileSize) (isFitted isEnd : Bool) :
    (if isEnd then extent else zero) / repeatLength tileSize isFitted extent
      = wholeCoordinate tileSize isFitted isEnd := by
  obtain ⟨positive, finite⟩ := isExtent
  rw [repeatLength, wholeCoordinate]
  by_cases own : (isFitted || le tileSize zero) = true
  · rw [if_pos own, if_pos own]
    cases isEnd with
    | false => exact zero_div_of_positive positive finite
    | true => exact div_self_of_positive positive finite
  · rw [if_neg own, if_neg own]
    obtain ⟨-, notSmall⟩ := Bool.or_eq_false_iff.mp (Bool.not_eq_true _ ▸ own)
    have notFinite := unusable.resolve_left (by simp [notSmall])
    rcases unpack_of_not_isFinite notSmall notFinite with infinite | undefined
    · have number : isNumber tileSize = true := by
        rw [isNumber, le_iff_unpacked, infinite]
        rfl
      rw [if_pos number]
      cases isEnd with
      | false => exact zero_div_infinity infinite
      | true => exact div_infinity infinite positive finite
    · have noNumber : ¬ isNumber tileSize = true := by
        rw [isNumber, le_iff_unpacked, undefined]
        exact Bool.false_ne_true
      rw [if_neg noNumber]
      exact div_undefined undefined

namespace FaceLayout

/-- A corner of a whole face, at the start or the end of either axis. -/
def wholeCorner (layout : FaceLayout Float) (tileSize : Float) (fit : Fit) (isEndU isEndV : Bool) :
    Corner Float where
  position := layout.start
    + layout.uDirection.scale (if isEndU then layout.width else zero)
    + layout.vDirection.scale (if isEndV then layout.height else zero)
  u := wholeCoordinate tileSize fit.x isEndU
  v := wholeCoordinate tileSize fit.y isEndV

/-- One quad over a whole face. -/
def whole (layout : FaceLayout Float) (tileSize : Float) (covering : Covering) : Polygon Float :=
  let corner := layout.wholeCorner tileSize covering.fit
  let corners : Quad (Corner Float) :=
    ⟨corner false false, corner true false, corner true true, corner false true⟩
  { corners := if layout.windsOutward then corners.reverse else corners
    normal := layout.normal
    texture := covering.texture }

/-- An unusable tile size leaves a face whole. -/
theorem faceTiles_of_isUnusable {layout : FaceLayout Float} {tileSize : Float}
    (unusable : IsUnusable tileSize) (width : IsExtent layout.width)
    (height : IsExtent layout.height) (covering : Covering) :
    faceTiles tileSize layout covering = [layout.whole tileSize covering] := by
  have start (isEndU isEndV : Bool) : gridCorner tileSize layout covering.fit isEndU.toNat
      isEndV.toNat = layout.wholeCorner tileSize covering.fit isEndU isEndV := by
    have line {extent : Float} (isExtent : IsExtent extent) (isEnd : Bool) :
        gridLine extent 1 isEnd.toNat = if isEnd then extent else zero := by
      cases isEnd with
      | false => exact isExtent.gridLine_start
      | true => exact isExtent.gridLine_end
    rw [gridCorner, tileCount_of_isUnusable unusable, tileCount_of_isUnusable unusable,
      line width, line height, wholeCorner, width.div_repeatLength unusable,
      height.div_repeatLength unusable]
  have tile : faceTile tileSize layout covering 0 0 = layout.whole tileSize covering := by
    have first := start false false
    have second := start true false
    have third := start true true
    have fourth := start false true
    simp only [Bool.toNat_false, Bool.toNat_true] at first second third fourth
    simp only [faceTile, whole, zero_add, first, second, third, fourth]
  rw [faceTiles, tileCount_of_isUnusable unusable, tileCount_of_isUnusable unusable]
  exact congrArg (fun polygon => [polygon]) tile

end FaceLayout

/-- The faces that are built, in order. -/
def Surfaces.built (surfaces : Surfaces) : List Face :=
  Face.all.filter fun face => !(surfaces.face face).isRemoved

/-- The extents of a room are ordinary positive numbers. -/
def Vec3.IsExtents (size : Vec3 Float) : Prop := ∀ extent ∈ size.toList, IsExtent extent

theorem Vec3.IsExtents.along {size : Vec3 Float} (extents : size.IsExtents) (axis : Axis) :
    IsExtent (size.along axis) := by
  apply extents
  cases axis <;> simp [Vec3.toList, Vec3.along]

section Build

variable {tileSize : Float} {size : Vec3 Float}

/-- Every face that is built is whole. -/
theorem polygons_build_of_isUnusable (unusable : IsUnusable tileSize) (origin : Vec3 Float)
    (extents : size.IsExtents) (surfaces : Surfaces) :
    (Room.build tileSize origin size surfaces).polygons = surfaces.built.map fun face =>
      (FaceLayout.ofFace face origin size).whole tileSize (surfaces.face face) := by
  change Face.all.flatMap (facePolygons tileSize origin size surfaces) = _
  rw [Surfaces.built]
  induction Face.all with
  | nil => rfl
  | cons face rest inductionHypothesis =>
    have width := extents.along face.columnAxis
    have height := extents.along face.rowAxis
    rw [← FaceLayout.width_ofFace face origin] at width
    rw [← FaceLayout.height_ofFace face origin] at height
    rw [List.flatMap_cons, inductionHypothesis, facePolygons]
    by_cases removed : (surfaces.face face).isRemoved = true
    · rw [if_pos removed, List.filter_cons_of_neg (by simp [removed]), List.nil_append]
    · rw [if_neg removed, List.filter_cons_of_pos (by simpa using removed), List.map_cons,
        FaceLayout.faceTiles_of_isUnusable unusable width height, List.singleton_append]

theorem isUnusable_zero : IsUnusable 0 := .inl (by decide)

end Build

/-! ## Measuring by two tile sizes -/

/-- An axis is measured like without a tile size if it is fitted, or if the tile size is zero or
negative; else the end of the face gives the difference away. -/
theorem wholeCoordinate_eq_iff {tileSize : Float} {isFitted : Bool} :
    (∀ isEnd, wholeCoordinate tileSize isFitted isEnd = wholeCoordinate 0 isFitted isEnd)
      ↔ isFitted = true ∨ le tileSize zero = true := by
  have plain (isEnd : Bool) : wholeCoordinate 0 isFitted isEnd = if isEnd then one else zero := by
    have small : (isFitted || le (0 : Float) zero) = true := by
      rw [Bool.or_eq_true_iff]
      exact .inr (by decide)
    rw [wholeCoordinate, if_pos small]
  rw [← Bool.or_eq_true_iff]
  constructor
  · intro same
    by_contra own
    have atEnd := same true
    rw [plain, wholeCoordinate, if_neg own, if_pos rfl] at atEnd
    split at atEnd
    · exact absurd atEnd (by decide)
    · next noNumber =>
      rw [atEnd] at noNumber
      exact noNumber (by decide)
  · intro own isEnd
    rw [plain, wholeCoordinate, if_pos own]

namespace FaceLayout

/-- A whole face stands at the same corners whatever measures it. -/
theorem whole_sameOutline (layout : FaceLayout Float) (tileSize tileSize' : Float)
    (covering : Covering) :
    (layout.whole tileSize covering).SameOutline (layout.whole tileSize' covering) where
  positions := by
    simp only [Polygon.positions, whole]
    split <;> simp only [Quad.reverse, Quad.map, wholeCorner]
  normal := by simp only [whole]

/-- Two tile sizes make the same of a whole face exactly if they measure both axes alike. -/
theorem whole_eq_iff {layout : FaceLayout Float} {tileSize tileSize' : Float}
    {covering : Covering} : layout.whole tileSize covering = layout.whole tileSize' covering
      ↔ (∀ isEnd, wholeCoordinate tileSize covering.fit.x isEnd
            = wholeCoordinate tileSize' covering.fit.x isEnd)
        ∧ ∀ isEnd, wholeCoordinate tileSize covering.fit.y isEnd
            = wholeCoordinate tileSize' covering.fit.y isEnd := by
  constructor
  · intro same
    have corners : (layout.whole tileSize covering).corners
        = (layout.whole tileSize' covering).corners := by rw [same]
    simp only [whole] at corners
    split at corners
    all_goals
      simp only [Quad.reverse, Quad.mk.injEq, wholeCorner, Corner.mk.injEq, true_and] at corners
      refine ⟨fun isEnd => ?_, fun isEnd => ?_⟩ <;> cases isEnd <;> tauto
  · rintro ⟨sameU, sameV⟩
    have corner (isEndU isEndV : Bool) : layout.wholeCorner tileSize covering.fit isEndU isEndV
        = layout.wholeCorner tileSize' covering.fit isEndU isEndV := by
      rw [wholeCorner, wholeCorner, sameU, sameV]
    simp only [whole, corner]

end FaceLayout

theorem Fit.eq_both_iff {fit : Fit} : fit = ⟨true, true⟩ ↔ fit.x = true ∧ fit.y = true := by
  cases fit
  rw [Fit.mk.injEq]

/-- A room whose faces are whole, because its tile size is unusable. -/
structure IsBuiltWhole (tileSize : Float) (origin size : Vec3 Float) (surfaces : Surfaces) :
    Prop where
  /-- Every face that is built is one quad. -/
  polygons_eq : (Room.build tileSize origin size surfaces).polygons = surfaces.built.map fun face =>
    (FaceLayout.ofFace face origin size).whole tileSize (surfaces.face face)
  /-- It stands where it stands in a room built without a tile size, -/
  sameGeometry : (Room.build tileSize origin size surfaces).SameGeometry
    (Room.build 0 origin size surfaces)
  /-- with the same texture. -/
  sameTextures : (Room.build tileSize origin size surfaces).polygons.map Polygon.texture
    = (Room.build 0 origin size surfaces).polygons.map Polygon.texture
  /-- The rooms are the same, texture coordinates included, for a tile size that is zero or
  negative, for any other one only if all textures are fitted. -/
  eq_plain_iff : Room.build tileSize origin size surfaces = Room.build 0 origin size surfaces
    ↔ le tileSize zero = true ∨ ∀ face ∈ surfaces.built, (surfaces.face face).fit = ⟨true, true⟩

/-- What an unusable tile size makes of a room: what zero makes of it, but for the texture
coordinates along axes that are not fitted, if the tile size is infinite or no number. -/
theorem built_whole_by_unusable_tile_size {tileSize : Float} (unusable : IsUnusable tileSize)
    (origin : Vec3 Float) {size : Vec3 Float} (extents : size.IsExtents) (surfaces : Surfaces) :
    IsBuiltWhole tileSize origin size surfaces := by
  have polygons := polygons_build_of_isUnusable unusable origin extents surfaces
  have plain := polygons_build_of_isUnusable isUnusable_zero origin extents surfaces
  constructor
  case polygons_eq => exact polygons
  case sameGeometry =>
    refine ⟨rfl, rfl, rfl, ?_, rfl⟩
    rw [polygons, plain, List.forall₂_map_left_iff, List.forall₂_map_right_iff, List.forall₂_same]
    exact fun face _ => FaceLayout.whole_sameOutline _ _ _ _
  case sameTextures =>
    rw [polygons, plain, List.map_map, List.map_map]
    rfl
  case eq_plain_iff =>
    have byPolygons : Room.build tileSize origin size surfaces = Room.build 0 origin size surfaces
        ↔ (Room.build tileSize origin size surfaces).polygons
          = (Room.build 0 origin size surfaces).polygons := by
      constructor
      · exact congrArg Room.polygons
      · intro same
        rw [Room.build, Room.build, Room.mk.injEq]
        exact ⟨rfl, rfl, rfl, same, rfl⟩
    have byFaces (face : Face) : (FaceLayout.ofFace face origin size).whole tileSize
          (surfaces.face face) = (FaceLayout.ofFace face origin size).whole 0 (surfaces.face face)
        ↔ le tileSize zero = true ∨ (surfaces.face face).fit = ⟨true, true⟩ := by
      rw [FaceLayout.whole_eq_iff, wholeCoordinate_eq_iff, wholeCoordinate_eq_iff, ← and_or_right,
        or_comm, Fit.eq_both_iff]
    rw [byPolygons, polygons, plain, List.map_inj_left]
    simp only [byFaces]
    exact ⟨fun each => or_iff_not_imp_left.mpr fun large face built =>
        (each face built).resolve_left large,
      fun whole face built => whole.imp_right fun fitted => fitted face built⟩

/-- A hall whose tile size is no number, open to the north, with all its textures fitted. -/
theorem built_whole_by_unusable_tile_size_fitted_hall :
    let fitted : Covering := { texture := .builtin "stone", fit := ⟨true, true⟩ }
    let surfaces : Surfaces := ⟨fitted, fitted, .removed, fitted, fitted, fitted⟩
    let size : Vec3 Float := ⟨400, 100, 200⟩
    IsUnusable (0 / 0) ∧ size.IsExtents ∧ IsBuiltWhole (0 / 0) ⟨50, 0, -50⟩ size surfaces
      ∧ Room.build (0 / 0) ⟨50, 0, -50⟩ size surfaces
        = Room.build 0 ⟨50, 0, -50⟩ size surfaces := by
  intro fitted surfaces size
  have unusable : IsUnusable (0 / 0) := .inr (by decide +kernel)
  have extents : size.IsExtents := by
    simp only [Vec3.IsExtents, Vec3.toList, size, List.forall_mem_cons]
    exact ⟨⟨by decide +kernel, by decide +kernel⟩, ⟨by decide +kernel, by decide +kernel⟩,
      ⟨by decide +kernel, by decide +kernel⟩, nofun⟩
  have whole := built_whole_by_unusable_tile_size unusable ⟨50, 0, -50⟩ extents surfaces
  exact ⟨unusable, extents, whole, whole.eq_plain_iff.mpr (.inr (by decide))⟩

/-- An infinite tile size shrinks the textures of a room to a point, and one that is no number
leaves them without coordinates, where zero lets them run over each face once. -/
theorem unusable_tile_sizes_differ :
    let build (tileSize : Float) := Room.build tileSize ⟨0, 0, 0⟩ ⟨64, 64, 64⟩ {}
    let corners (room : Room Float) := (room.polygons.map fun polygon =>
      polygon.corners.toList.map fun corner => (corner.u, corner.v)).head?
    IsUnusable (1 / 0) ∧ IsUnusable (0 / 0)
      ∧ corners (build 0) = some [(0, 0), (1, 0), (1, 1), (0, 1)]
      ∧ corners (build (1 / 0)) = some [(0, 0), (0, 0), (0, 0), (0, 0)]
      ∧ corners (build (0 / 0)) = some (List.replicate 4 (0 / 0, 0 / 0))
      ∧ build (1 / 0) ≠ build 0 ∧ build (0 / 0) ≠ build 0 := by
  refine ⟨.inr (by decide +kernel), .inr (by decide +kernel), ?_⟩
  decide +kernel

end RoomLayout

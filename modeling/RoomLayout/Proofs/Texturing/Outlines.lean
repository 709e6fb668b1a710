import Mathlib.Data.List.Forall2
import RoomLayout.Proofs.Construction.Effects
import RoomLayout.Proofs.Stitching.PairStep
import RoomLayout.Proofs.Tiling.Grid

/-!
# Rooms up to their textures

Polygons have the same outline when they stand at the same corners and face the same way,
whatever is painted on them. Building, lighting and stitching read outlines only: from
rooms with the same outlines they make rooms with the same outlines.
-/

namespace RoomLayout

/-- Something exists in one list as soon as its relative exists in the other. -/
theorem exists_mem_iff_of_forall₂ {β γ : Type} {R : β → γ → Prop} {P : β → Prop} {Q : γ → Prop}
    {values : List β} {values' : List γ} (related : List.Forall₂ R values values')
    (same : ∀ value value', R value value' → (P value ↔ Q value')) :
    (∃ value ∈ values, P value) ↔ ∃ value' ∈ values', Q value' := by
  induction related with
  | nil => simp
  | cons first _ inductionHypothesis =>
    simp only [List.mem_cons, exists_eq_or_imp, same _ _ first, inductionHypothesis]

variable {α : Type} [Coordinate α]

/-- Two polygons that differ in nothing but texture and texture coordinates. -/
structure Polygon.SameOutline (p q : Polygon α) : Prop where
  positions : p.positions = q.positions
  normal : p.normal = q.normal

namespace Polygon.SameOutline

variable {p p' q q' : Polygon α}

theorem isWithin_eq (same : p.SameOutline q) (box : Box α) (tolerance : α) :
    p.isWithin box tolerance = q.isWithin box tolerance := by
  rw [isWithin, isWithin, same.positions]

theorem coincides_eq (first : p.SameOutline p') (second : q.SameOutline q') (tolerance : α) :
    p.coincides q tolerance = p'.coincides q' tolerance := by
  rw [coincides, coincides, first.positions, second.positions]

end Polygon.SameOutline

/-- Two rooms that differ in nothing but the textures of their polygons. -/
structure Room.SameGeometry (room room' : Room α) : Prop where
  origin : room.origin = room'.origin
  size : room.size = room'.size
  bounds : room.bounds = room'.bounds
  polygons : List.Forall₂ Polygon.SameOutline room.polygons room'.polygons
  lights : room.lights = room'.lights

/-- Two levels of rooms that differ in nothing but textures. -/
abbrev Level.SameGeometry (level level' : Level α) : Prop :=
  List.Forall₂ Room.SameGeometry level level'

/-! ## Building -/

/-- The same faces are built. -/
def Surfaces.SameFaces (surfaces surfaces' : Surfaces) : Prop :=
  ∀ face, (surfaces.face face).isRemoved = (surfaces'.face face).isRemoved

/-- What covers a face decides nothing about the outlines of its tiles. -/
theorem faceTiles_sameOutline (tileSize : α) (layout : FaceLayout α)
    (covering covering' : Covering) :
    List.Forall₂ Polygon.SameOutline (faceTiles tileSize layout covering)
      (faceTiles tileSize layout covering') := by
  refine List.rel_flatMap (List.forall₂_same.mpr fun _ _ => Eq.refl _) ?_
  rintro i _ rfl
  rw [List.forall₂_map_left_iff, List.forall₂_map_right_iff, List.forall₂_same]
  intro j _
  constructor
  case positions => rw [FaceLayout.positions_faceTile, FaceLayout.positions_faceTile]
  case normal => rfl

theorem facePolygons_sameOutline {surfaces surfaces' : Surfaces}
    (same : surfaces.SameFaces surfaces') (tileSize : α) (origin size : Vec3 α) (face : Face) :
    List.Forall₂ Polygon.SameOutline (facePolygons tileSize origin size surfaces face)
      (facePolygons tileSize origin size surfaces' face) := by
  rw [facePolygons, facePolygons, same face]
  split
  · exact .nil
  · exact faceTiles_sameOutline tileSize _ _ _

/-- Rooms with the same faces have the same geometry. -/
theorem Room.build_sameGeometry {surfaces surfaces' : Surfaces}
    (same : surfaces.SameFaces surfaces') (tileSize : α) (origin size : Vec3 α) :
    (Room.build tileSize origin size surfaces).SameGeometry
      (Room.build tileSize origin size surfaces') where
  origin := rfl
  size := rfl
  bounds := rfl
  polygons := by
    refine List.rel_flatMap (List.forall₂_same.mpr fun _ _ => Eq.refl _) ?_
    rintro face _ rfl
    exact facePolygons_sameOutline same tileSize origin size face
  lights := rfl

/-! ## Lighting -/

/-- Rooms with the same geometry keep it with one more light. -/
theorem Room.SameGeometry.addLight {room room' : Room α} (same : room.SameGeometry room')
    (light : Light α) : (room.addLight light).SameGeometry (room'.addLight light) :=
  { same with lights := congrArg (· ++ [light]) same.lights }

/-- A light that is the same for rooms of the same geometry. -/
theorem Level.SameGeometry.withLight {level level' : Level α} (same : level.SameGeometry level')
    {light : Room α → Light α}
    (sameLight : ∀ room room' : Room α, room.SameGeometry room' → light room = light room') :
    (level.withLight light).SameGeometry (level'.withLight light) := by
  rcases withLight_cases light level with ⟨rfl, dark⟩ | ⟨earlier, room, rfl, lit⟩
  · rw [List.forall₂_nil_left_iff.mp same, withLight_nil]
    exact .nil
  · have reversed := List.rel_reverse same
    rw [List.reverse_append, List.reverse_singleton, List.singleton_append,
      List.forall₂_cons_left_iff] at reversed
    obtain ⟨room', earlier', sameRoom, sameEarlier, split⟩ := reversed
    obtain rfl : level' = earlier'.reverse ++ [room'] := by
      rw [← List.reverse_reverse level', split, List.reverse_cons]
    rw [lit, withLight_append_singleton, sameLight room room' sameRoom]
    refine List.rel_append ?_ (.cons (sameRoom.addLight _) .nil)
    rwa [← List.forall₂_reverse_iff, List.reverse_reverse]

/-! ## Stitching -/

section Stitching

variable {a a' b b' : Room α} {tolerance : α}

/-- Only outlines and boxes decide whether two polygons are deleted on account of each
other. -/
theorem shared_iff_of_sameGeometry (first : a.SameGeometry a') (second : b.SameGeometry b')
    {p p' q q' : Polygon α} (inFirst : p.SameOutline p') (inSecond : q.SameOutline q') :
    Shared a b tolerance p q ↔ Shared a' b' tolerance p' q' := by
  constructor
  · rintro ⟨touching, firstInside, secondInside, coincident⟩
    rw [first.bounds, second.bounds] at touching
    rw [second.bounds, inFirst.isWithin_eq] at firstInside
    rw [first.bounds, inSecond.isWithin_eq] at secondInside
    rw [inFirst.coincides_eq inSecond] at coincident
    exact ⟨touching, firstInside, secondInside, coincident⟩
  · rintro ⟨touching, firstInside, secondInside, coincident⟩
    rw [← first.bounds, ← second.bounds] at touching
    rw [← second.bounds, ← inFirst.isWithin_eq] at firstInside
    rw [← first.bounds, ← inSecond.isWithin_eq] at secondInside
    rw [← inFirst.coincides_eq inSecond] at coincident
    exact ⟨touching, firstInside, secondInside, coincident⟩

theorem isLostByFirst_of_sameGeometry (first : a.SameGeometry a') (second : b.SameGeometry b')
    {p p' : Polygon α} (same : p.SameOutline p') :
    isLostByFirst a b tolerance p = isLostByFirst a' b' tolerance p' := by
  rw [Bool.eq_iff_iff, isLostByFirst_iff, isLostByFirst_iff]
  exact exists_mem_iff_of_forall₂ second.polygons fun _ _ sameToo =>
    shared_iff_of_sameGeometry first second same sameToo

theorem isLostBySecond_of_sameGeometry (first : a.SameGeometry a') (second : b.SameGeometry b')
    {q q' : Polygon α} (same : q.SameOutline q') :
    isLostBySecond a b tolerance q = isLostBySecond a' b' tolerance q' := by
  rw [Bool.eq_iff_iff, isLostBySecond_iff, isLostBySecond_iff]
  exact exists_mem_iff_of_forall₂ first.polygons fun _ _ sameToo =>
    shared_iff_of_sameGeometry first second sameToo same

/-- Tests that agree on outlines keep polygons of the same outlines. -/
theorem Room.SameGeometry.keep (same : a.SameGeometry a') {test test' : Polygon α → Bool}
    (agree : ∀ p p' : Polygon α, p.SameOutline p' → test p = test' p') :
    (a.keep test).SameGeometry (a'.keep test') := by
  refine { same with polygons := List.rel_filter ?_ same.polygons }
  intro p p' sameOutline
  simp only [agree p p' sameOutline]

/-- A stitching step makes rooms of the same geometry from rooms of the same geometry. -/
theorem stitchPair_sameGeometry (first : a.SameGeometry a') (second : b.SameGeometry b')
    (tolerance : α) :
    (stitchPair a b tolerance).1.SameGeometry (stitchPair a' b' tolerance).1
      ∧ (stitchPair a b tolerance).2.1.SameGeometry (stitchPair a' b' tolerance).2.1 := by
  rw [stitchPair_eq, stitchPair_eq]
  constructor
  · exact first.keep fun p p' same => by rw [isLostByFirst_of_sameGeometry first second same]
  · exact second.keep fun q q' same => by rw [isLostBySecond_of_sameGeometry first second same]

namespace Level.SameGeometry

/-- So does a row of steps. -/
theorem stitchFirst {room room' : Room α} {later later' : Level α} (first : room.SameGeometry room')
    (same : later.SameGeometry later') (tolerance : α) :
    (Level.stitchFirst room tolerance later).1.SameGeometry
        (Level.stitchFirst room' tolerance later').1
      ∧ Level.SameGeometry (Level.stitchFirst room tolerance later).2.1
        (Level.stitchFirst room' tolerance later').2.1 := by
  induction same generalizing room room' with
  | nil => exact ⟨first, .nil⟩
  | cons next _ inductionHypothesis =>
    obtain ⟨stitchedFirst, stitchedNext⟩ := stitchPair_sameGeometry first next tolerance
    obtain ⟨swept, rest⟩ := inductionHypothesis stitchedFirst
    rw [stitchFirst_cons, stitchFirst_cons]
    exact ⟨swept, .cons stitchedNext rest⟩

/-- And so does the whole pass. -/
theorem stitch (level level' : Level α) (same : level.SameGeometry level') (tolerance : α) :
    Level.SameGeometry (level.stitch tolerance).1 (level'.stitch tolerance).1 := by
  fun_induction Level.stitch tolerance level generalizing level' with
  | case1 =>
    rw [List.forall₂_nil_left_iff.mp same, stitch_nil]
    exact .nil
  | case2 room later swept rest inductionHypothesis =>
    obtain ⟨room', later', sameRoom, sameLater, rfl⟩ := List.forall₂_cons_left_iff.mp same
    obtain ⟨sameSwept, sameRest⟩ := SameGeometry.stitchFirst sameRoom sameLater tolerance
    rw [stitch_cons]
    exact .cons sameSwept (inductionHypothesis _ sameRest)

end Level.SameGeometry

end Stitching

end RoomLayout

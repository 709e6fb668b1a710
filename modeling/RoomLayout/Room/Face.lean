import RoomLayout.Texture

/-!
# Faces

The six faces of a room and what covers each of them.
-/

namespace RoomLayout

/-- One of the six faces of a room. -/
inductive Face where
  | floor
  | ceiling
  | wallNorth
  | wallEast
  | wallSouth
  | wallWest
  deriving BEq, DecidableEq

namespace Face

/-- The faces in the order in which a room is built. -/
def all : List Face := [floor, ceiling, wallNorth, wallEast, wallSouth, wallWest]

/-- The four walls. -/
def walls : List Face := [wallNorth, wallEast, wallSouth, wallWest]

end Face

/-- Whether a texture is stretched once across a face, on each of the face's
two texture axes, instead of being repeated. -/
structure Fit where
  x : Bool := false
  y : Bool := false
  deriving BEq, DecidableEq

/-- What covers a face. -/
structure Covering where
  texture : Texture := .missing
  fit : Fit := {}
  /-- The face is not built at all. -/
  isRemoved : Bool := false
  deriving BEq, DecidableEq

namespace Covering

/-- The covering of a face that is left open. -/
def removed : Covering := { isRemoved := true }

end Covering

/-- The coverings of all six faces of a room. -/
structure Surfaces where
  floor : Covering := {}
  ceiling : Covering := {}
  wallNorth : Covering := {}
  wallEast : Covering := {}
  wallSouth : Covering := {}
  wallWest : Covering := {}
  deriving BEq, DecidableEq

namespace Surfaces

/-- The covering of one face. -/
def face (surfaces : Surfaces) : Face → Covering
  | .floor => surfaces.floor
  | .ceiling => surfaces.ceiling
  | .wallNorth => surfaces.wallNorth
  | .wallEast => surfaces.wallEast
  | .wallSouth => surfaces.wallSouth
  | .wallWest => surfaces.wallWest

/-- Cover one face. -/
def set (surfaces : Surfaces) (face : Face) (covering : Covering) : Surfaces :=
  match face with
  | .floor => { surfaces with floor := covering }
  | .ceiling => { surfaces with ceiling := covering }
  | .wallNorth => { surfaces with wallNorth := covering }
  | .wallEast => { surfaces with wallEast := covering }
  | .wallSouth => { surfaces with wallSouth := covering }
  | .wallWest => { surfaces with wallWest := covering }

/-- Cover several faces alike. -/
def setAll (surfaces : Surfaces) (faces : List Face) (covering : Covering) : Surfaces :=
  faces.foldl (fun surfaces face => surfaces.set face covering) surfaces

/-- The number of faces that are built. -/
def presentFaces (surfaces : Surfaces) : Nat :=
  Face.all.countP fun face => !(surfaces.face face).isRemoved

/-- Setting a face decides that face and leaves the others. -/
theorem face_set (surfaces : Surfaces) (target face : Face) (covering : Covering) :
    (surfaces.set target covering).face face =
      if face = target then covering else surfaces.face face := by
  cases target <;> cases face <;> rfl

end Surfaces

end RoomLayout

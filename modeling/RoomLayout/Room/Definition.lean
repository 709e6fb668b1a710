import RoomLayout.NameTable
import RoomLayout.Room.Face

/-!
# Definitions

The named surfaces of a script. The table starts with `default`, all faces
covered by the placeholder, and a name means what it was defined as last.
-/

namespace RoomLayout

/-- Named surfaces. -/
structure Definitions where
  table : NameTable Surfaces

namespace Definitions

/-- The name that is always defined. -/
def defaultName : String := "default"

/-- The table a script starts with. -/
def initial : Definitions := ⟨NameTable.empty.insert defaultName {}⟩

/-- The surfaces of a name. -/
def get? (definitions : Definitions) (name : String) : Option Surfaces :=
  definitions.table.get? name

/-- The surfaces of the name `default`. -/
def fallback (definitions : Definitions) : Surfaces :=
  (definitions.get? defaultName).getD {}

/-- Define a name, replacing an earlier definition. -/
def insert (definitions : Definitions) (name : String) (surfaces : Surfaces) : Definitions :=
  ⟨definitions.table.insert name surfaces⟩

/-- Whether a name is defined. -/
def contains (definitions : Definitions) (name : String) : Bool :=
  definitions.table.contains name

/-- The number of defined names. -/
def size (definitions : Definitions) : Nat := definitions.table.size

end Definitions

end RoomLayout

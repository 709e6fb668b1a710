/-!
# Textures

The compiler never looks at pixels. A texture is a handle that is copied onto
every polygon it covers; its written form is what a level bundle stores.
-/

namespace RoomLayout

/-- A texture reference. -/
inductive Texture where
  /-- The placeholder of faces that name no texture, and of unknown textures. -/
  | missing
  /-- A texture shipped with the game. -/
  | builtin (name : String)
  /-- An image file of the project. -/
  | custom (folder filename : String)
  deriving BEq, DecidableEq, Inhabited

namespace Texture

/-- The written form of a texture. -/
def display : Texture → String
  | missing => "<missing>"
  | builtin name => "arx:" ++ name
  | custom folder filename => "custom:" ++ folder ++ "/" ++ filename

/-- The order of textures: the placeholder, then shipped textures by name, then
files by folder and name. -/
def before : Texture → Texture → Bool
  | missing, missing => false
  | missing, _ => true
  | builtin a, builtin b => a < b
  | builtin _, custom _ _ => true
  | custom folder a, custom other b => folder < other || (folder == other && a < b)
  | _, _ => false

end Texture

/-- What a session asks a source of textures. -/
inductive TextureQuery where
  | builtin (name : String)
  | custom (folder filename : String)
  deriving BEq, DecidableEq

/-- Resolves the texture names of a script. `none` means that there is no such
texture; the caller reports it and keeps the placeholder. -/
structure TextureSource where
  builtin : String → Option Texture
  custom : String → String → Option Texture

end RoomLayout

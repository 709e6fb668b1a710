import RoomLayout.Files.Path
import RoomLayout.Session.Basic

/-!
# Texture roots

Image files are looked up below a root directory: the one that the settings
name, or the directory of the script.
-/

namespace RoomLayout

/-- The path of an image file below a root. -/
def texturePath (root folder filename : String) : String :=
  Path.join (Path.join root folder) filename

/-- The textures below a root. Every name is a texture of the game; an image
file is a texture if it exists or need not be checked. -/
def texturesBelow (isFile : String → Bool) (root : String) (checkFiles : Bool) : TextureSource where
  builtin name := if name = "" then none else some (.builtin name)
  custom folder filename :=
    if filename = "" then none
    else if checkFiles && !isFile (texturePath root folder filename) then none
    else some (.custom folder filename)

/-- The texture root of a script given as text. -/
def Config.rootHere (config : Config) : String := config.textureRoot.getD "."

/-- The texture root of the script at a path. -/
def Config.rootBeside (config : Config) (path : String) : String :=
  config.textureRoot.getD ((Path.parent? path).getD ".")

/-- A fresh session with textures below a root. -/
def Session.below (isFile : String → Bool) (root : String) (config : Config) : Session where
  config := config
  textures _ := texturesBelow isFile root config.checkTextures

end RoomLayout

import RoomLayout.Catalogue
import RoomLayout.Session.Config
import RoomLayout.Session.Diagnostic
import RoomLayout.Texture

/-!
# Sessions

What a compile owns besides the script: its settings, the source of its
textures, the textures it has used and the diagnostics it has reported. Nothing
is shared between sessions. A source of textures may answer one query in different
ways at different times, so a session keeps what it has asked.
-/

namespace RoomLayout

/-- The surroundings of a compile. -/
structure Session where
  config : Config
  /-- The textures to be had after the queries made so far. -/
  textures : List TextureQuery → TextureSource
  /-- The queries made so far, the latest first. -/
  asked : List TextureQuery := []
  /-- The textures marked as used, ascending and distinct. -/
  used : List Texture := []
  /-- Everything reported, in order of emission. -/
  log : List Diagnostic := []

namespace Session

/-- Report diagnostics after the earlier ones. -/
def report (session : Session) (diagnostics : List Diagnostic) : Session :=
  { session with log := session.log ++ diagnostics }

/-- Mark a texture as used; the placeholder is never used. -/
def markUsed (session : Session) (texture : Texture) : Session :=
  if texture = .missing then session
  else { session with used := Catalogue.insert Texture.before texture session.used }

end Session

/-- Why a texture of a face rule is replaced by the placeholder. -/
inductive TextureFault where
  | unknownName (name : String)
  | fileNotFound (folder filename : String)
  deriving BEq, DecidableEq

/-- The wording of a texture fault. -/
def TextureFault.message : TextureFault → String
  | .unknownName name => "unknown texture '" ++ name ++ "', using placeholder"
  | .fileNotFound folder filename =>
    "texture file '" ++ folder ++ "/" ++ filename ++ "' not found, using placeholder"

namespace Session

/-- The texture that was found, or the placeholder with a warning at `line`. -/
def orPlaceholder (session : Session) (line : Nat) (fault : TextureFault) :
    Option Texture → Texture × Session
  | some texture => (texture, session)
  | none => (.missing, session.report [.warning line fault.message])

/-- Note a query to the source of textures. -/
def noteQuery (session : Session) (query : TextureQuery) : Session :=
  { session with asked := query :: session.asked }

/-- Look up a texture shipped with the game. -/
def builtinTexture (session : Session) (line : Nat) (name : String) : Texture × Session :=
  (session.noteQuery (.builtin name)).orPlaceholder line (.unknownName name)
    ((session.textures session.asked).builtin name)

/-- Look up an image file of the project. -/
def customTexture (session : Session) (line : Nat) (folder filename : String) : Texture × Session :=
  (session.noteQuery (.custom folder filename)).orPlaceholder line (.fileNotFound folder filename)
    ((session.textures session.asked).custom folder filename)

end Session

end RoomLayout

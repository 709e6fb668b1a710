import RoomLayout.Placement.Cursor
import RoomLayout.Room.Definition
import RoomLayout.Room.Tiling
import RoomLayout.Script.Statement
import RoomLayout.Session.Basic

/-!
# Construction

Carries out statements one after the other. Later lines depend on the
definitions, variables and snapshots of earlier ones, so order is everything. A
statement that cannot be carried out reports one error and changes nothing else.
-/

namespace RoomLayout

/-- How bright a light is. -/
inductive LightModifier where
  | full
  | dim
  /-- A fraction of the full intensity. -/
  | fraction (value : Float)

/-- The factor of a modifier on the full intensity. -/
def LightModifier.factor (dimFactor : Float) : LightModifier → Float
  | full => 1
  | dim => dimFactor
  | fraction value => value

/-- The modifier of a percentage; negative percentages count as none. -/
def LightModifier.ofPercentage (percentage : Int) : LightModifier :=
  .fraction (Float.ofInt (max percentage 0) / 100)

/-- Why a statement cannot be carried out. -/
inductive ConstructionError where
  | sizeUndefined (name : String)
  | sizeNotInteger (name : String)
  | sizeNotPositive (value : Int)
  | tooManyTiles (count : Nat) (axis : Axis)
  | lightUndefined (name : String)
  deriving BEq, DecidableEq

/-- The wording of a construction error. -/
def ConstructionError.message : ConstructionError → String
  | sizeUndefined name => "undefined variable '$" ++ name ++ "', room skipped"
  | sizeNotInteger name => "'$" ++ name ++ "' does not hold an integer, room skipped"
  | sizeNotPositive value =>
    "room extents must be positive, got " ++ toString value ++ ", room skipped"
  | tooManyTiles count axis =>
    "room needs " ++ toString count ++ " tiles along " ++ axis.letter.toString ++ ", more than "
      ++ toString maxTilesPerAxis ++ ", room skipped"
  | lightUndefined name => "undefined variable '$" ++ name ++ "', light skipped"

/-- What a statement replaces or ignores. -/
inductive ConstructionWarning where
  | unknownDefinition (name : String)
  | snapshotNeverSaved (name : String)
  | notALightModifier (name : String)
  | lightBeforeRoom
  deriving BEq, DecidableEq

/-- The wording of a construction warning. -/
def ConstructionWarning.message : ConstructionWarning → String
  | unknownDefinition name =>
    "unknown definition '" ++ name ++ "', using '" ++ Definitions.defaultName ++ "'"
  | snapshotNeverSaved name =>
    "cursor snapshot '" ++ name ++ "' was never saved, ignoring restore"
  | notALightModifier name => "'$" ++ name ++ "' is not a light modifier, using full intensity"
  | lightBeforeRoom => "'with light' before any room was added, ignoring"

/-- What has been built so far, and everything that later statements refer to. -/
structure Construction where
  session : Session
  values : NameTable Value
  definitions : Definitions
  cursor : Cursor Float
  level : Level Float

namespace Construction

/-- Nothing built yet. -/
def start (session : Session) : Construction where
  session := session
  values := NameTable.empty
  definitions := Definitions.initial
  cursor := Cursor.initial
  level := []

/-- Report an error at a line. -/
def fail (state : Construction) (line : Nat) (error : ConstructionError) : Construction :=
  { state with session := state.session.report [.error line error.message] }

/-- Report a warning at a line. -/
def warn (state : Construction) (line : Nat) (warning : ConstructionWarning) : Construction :=
  { state with session := state.session.report [.warning line warning.message] }

/-- The covering that a rule's source stands for. -/
def covering (session : Session) (line : Nat) : FaceSource → Covering × Session
  | .off => (.removed, session)
  | .builtin name fit =>
    let (texture, session) := session.builtinTexture line name
    ({ texture, fit }, session)
  | .custom folder filename fit =>
    let (texture, session) := session.customTexture line folder filename
    ({ texture, fit }, session)

/-- Cover the faces that a rule speaks of. -/
def applyRule (state : Surfaces × Session) (rule : FaceRule) : Surfaces × Session :=
  let (covering, session) := covering state.2 rule.line rule.source
  (state.1.setAll rule.target.faces covering, session)

/-- The surfaces that rules describe: the placeholder everywhere, covered by one
rule after the other. -/
def surfacesOf (session : Session) (rules : List FaceRule) : Surfaces × Session :=
  rules.foldl applyRule ({}, session)

/-- Carry out a definition. -/
def define (state : Construction) (name : String) (rules : List FaceRule) : Construction :=
  let (surfaces, session) := surfacesOf state.session rules
  { state with session, definitions := state.definitions.insert name surfaces }

/-- The whole number that a room's extent on one axis stands for. -/
def resolveNumber (values : NameTable Value) : Number → Except ConstructionError Int
  | .literal value => .ok value
  | .named name =>
    match values.get? name with
    | some (.integer value) => .ok value
    | some _ => .error (.sizeNotInteger name)
    | none => .error (.sizeUndefined name)

/-- A room's extent on one axis. -/
def resolveExtent (values : NameTable Value) (number : Number) :
    Except ConstructionError Float := do
  let value ← resolveNumber values number
  if value ≤ 0 then .error (.sizeNotPositive value) else .ok (Float.ofInt value)

/-- Refuse an extent that needs too many tiles on some axis; the first one is
reported. -/
def checkTiles (tileSize : Float) (size : Vec3 Float) : Except ConstructionError (Vec3 Float) :=
  let counts := tileCounts tileSize size
  if maxTilesPerAxis < counts.x then .error (.tooManyTiles counts.x .x)
  else if maxTilesPerAxis < counts.y then .error (.tooManyTiles counts.y .y)
  else if maxTilesPerAxis < counts.z then .error (.tooManyTiles counts.z .z)
  else .ok size

/-- The extent of a room, judged axis by axis. -/
def resolveSize (state : Construction) (size : Vec3 Number) :
    Except ConstructionError (Vec3 Float) := do
  let x ← resolveExtent state.values size.x
  let y ← resolveExtent state.values size.y
  let z ← resolveExtent state.values size.z
  checkTiles state.session.config.tileSize ⟨x, y, z⟩

/-- The surfaces of a name, or those of `default` with a warning. -/
def surfacesNamed (state : Construction) (line : Nat) (name : String) : Surfaces × Construction :=
  match state.definitions.get? name with
  | some surfaces => (surfaces, state)
  | none => (state.definitions.fallback, state.warn line (.unknownDefinition name))

/-- Move the cursor to the next room and build it there. -/
def placeRoom (state : Construction) (size : Vec3 Float) (surfaces : Surfaces)
    (alignments : List Alignment) : Construction :=
  let cursor := (state.cursor.setNewSize size).moveBy alignments
  let room := Room.build state.session.config.tileSize cursor.state.position size surfaces
  { state with cursor := cursor.commit, level := state.level ++ [room] }

/-- Carry out the addition of a room. -/
def addRoom (state : Construction) (line : Nat) (size : Vec3 Number) (definition : String)
    (alignments : List Alignment) : Construction :=
  match state.resolveSize size with
  | .error error => state.fail line error
  | .ok size =>
    let (surfaces, state) := state.surfacesNamed line definition
    state.placeRoom size surfaces alignments

/-- The modifier that a light's argument stands for, with a warning if it is a
fallback. -/
def resolveLight (values : NameTable Value) :
    LightArgument → Except ConstructionError (LightModifier × Option ConstructionWarning)
  | .full => .ok (.full, none)
  | .dim => .ok (.dim, none)
  | .percentage value => .ok (.ofPercentage value, none)
  | .named name =>
    match values.get? name with
    | some (.percentage value) => .ok (.ofPercentage value, none)
    | some (.text "dim") => .ok (.dim, none)
    | some _ => .ok (.full, some (.notALightModifier name))
    | none => .error (.lightUndefined name)

/-- The light that a modifier gives in a room. It hangs above the cursor, at half
the height of the room placed there. -/
def lightIn (config : Config) (cursor : CursorState Float) (modifier : LightModifier)
    (room : Room Float) : Light Float where
  position :=
    ⟨cursor.position.x, cursor.position.y - cursor.oldSize.y / 2, cursor.position.z⟩
  radius := config.lightRadiusScale * Coordinate.greater room.size.x room.size.z
  intensity := config.lightIntensity * modifier.factor config.dimFactor

/-- Hang a light in the last room. -/
def hangLight (state : Construction) (line : Nat) (modifier : LightModifier) : Construction :=
  match state.level.addLight? (lightIn state.session.config state.cursor.state modifier) with
  | some level => { state with level }
  | none => state.warn line .lightBeforeRoom

/-- Carry out the addition of a light. -/
def addLight (state : Construction) (line : Nat) (argument : LightArgument) : Construction :=
  match resolveLight state.values argument with
  | .error error => state.fail line error
  | .ok (modifier, none) => state.hangLight line modifier
  | .ok (modifier, some warning) => (state.warn line warning).hangLight line modifier

/-- Carry out the return to a snapshot. -/
def restore (state : Construction) (line : Nat) (name : String) : Construction :=
  match state.cursor.restore? name with
  | some cursor => { state with cursor }
  | none => state.warn line (.snapshotNeverSaved name)

/-- Carry out a statement. -/
def perform (state : Construction) (statement : Statement) : Construction :=
  match statement.action with
  | .define name rules => state.define name rules
  | .addRoom size definition alignments =>
    state.addRoom statement.line size definition alignments
  | .addLight argument => state.addLight statement.line argument
  | .saveCursor name => { state with cursor := state.cursor.saveAs name }
  | .restoreCursor name => state.restore statement.line name
  | .assign name value => { state with values := state.values.insert name value }

/-- Carry out statements in order. -/
def performAll (state : Construction) (statements : List Statement) : Construction :=
  statements.foldl perform state

end Construction

end RoomLayout

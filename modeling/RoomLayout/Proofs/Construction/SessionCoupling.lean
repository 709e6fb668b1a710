import RoomLayout.Proofs.Construction.Effects

/-!
# Runs in two sessions

One program is run in two sessions. A coupling of sessions says in what they may differ.
Its laws say that related sessions answer alike, stay related when the same is reported or
asked, and have the settings in common that statements consult. Then the two runs build the
same and report the same, whatever the coupling is (`Lockstep.performAll`).
-/

namespace RoomLayout

/-- In what the sessions of two runs of one program may differ. -/
structure SessionCoupling where
  Related : Session → Session → Prop
  report : ∀ {session session'}, Related session session' → ∀ diagnostics,
    Related (session.report diagnostics) (session'.report diagnostics)
  noteQuery : ∀ {session session'}, Related session session' → ∀ query,
    Related (session.noteQuery query) (session'.noteQuery query)
  answers : ∀ {session session'}, Related session session' →
    session.textures session.asked = session'.textures session'.asked
  tileSize : ∀ {session session'}, Related session session' →
    session.config.tileSize = session'.config.tileSize
  light : ∀ {session session'}, Related session session' →
    Construction.lightIn session.config = Construction.lightIn session'.config

namespace SessionCoupling

section Surfaces

variable (coupling : SessionCoupling) {session session' : Session}

theorem orPlaceholder (related : coupling.Related session session') (line : Nat)
    (fault : TextureFault) (found : Option Texture) :
    (session.orPlaceholder line fault found).1 = (session'.orPlaceholder line fault found).1
      ∧ coupling.Related (session.orPlaceholder line fault found).2
        (session'.orPlaceholder line fault found).2 := by
  cases found with
  | some texture => exact ⟨rfl, related⟩
  | none => exact ⟨rfl, coupling.report related _⟩

/-- A source stands for the same covering. -/
theorem covering (related : coupling.Related session session') (line : Nat)
    (source : FaceSource) :
    (Construction.covering session line source).1 = (Construction.covering session' line source).1
      ∧ coupling.Related (Construction.covering session line source).2
        (Construction.covering session' line source).2 := by
  cases source with
  | off => exact ⟨rfl, related⟩
  | builtin name fit =>
    obtain ⟨texture, after⟩ := coupling.orPlaceholder
      (coupling.noteQuery related (.builtin name)) line (.unknownName name)
      ((session'.textures session'.asked).builtin name)
    simp only [Construction.covering, Session.builtinTexture, coupling.answers related]
    exact ⟨by rw [texture], after⟩
  | custom folder filename fit =>
    obtain ⟨texture, after⟩ := coupling.orPlaceholder
      (coupling.noteQuery related (.custom folder filename)) line (.fileNotFound folder filename)
      ((session'.textures session'.asked).custom folder filename)
    simp only [Construction.covering, Session.customTexture, coupling.answers related]
    exact ⟨by rw [texture], after⟩

/-- Rules describe the same surfaces. -/
theorem surfacesOf (related : coupling.Related session session') (rules : List FaceRule) :
    (Construction.surfacesOf session rules).1 = (Construction.surfacesOf session' rules).1
      ∧ coupling.Related (Construction.surfacesOf session rules).2
        (Construction.surfacesOf session' rules).2 := by
  suffices general : ∀ surfaces : Surfaces,
      (rules.foldl Construction.applyRule (surfaces, session)).1
          = (rules.foldl Construction.applyRule (surfaces, session')).1
        ∧ coupling.Related (rules.foldl Construction.applyRule (surfaces, session)).2
          (rules.foldl Construction.applyRule (surfaces, session')).2 from general {}
  induction rules generalizing session session' with
  | nil => exact fun _ => ⟨rfl, related⟩
  | cons rule rest inductionHypothesis =>
    intro surfaces
    obtain ⟨covering, after⟩ := coupling.covering related rule.line rule.source
    rw [List.foldl_cons, List.foldl_cons, Construction.applyRule, Construction.applyRule]
    simp only [covering]
    exact inductionHypothesis after _

end Surfaces

/-- Two constructions that differ only in their sessions, and there only in what a coupling
allows. -/
structure Lockstep (coupling : SessionCoupling) (state state' : Construction) : Prop where
  session : coupling.Related state.session state'.session
  values : state.values = state'.values
  definitions : state.definitions = state'.definitions
  cursor : state.cursor = state'.cursor
  level : state.level = state'.level

namespace Lockstep

variable {coupling : SessionCoupling} {state state' : Construction}

/-- Runs start in lockstep. -/
theorem start {session session' : Session} (related : coupling.Related session session') :
    coupling.Lockstep (Construction.start session) (Construction.start session') :=
  ⟨related, rfl, rfl, rfl, rfl⟩

/-- But for their sessions, constructions in lockstep are the same. -/
theorem eq_withSession (lockstep : coupling.Lockstep state state') :
    state' = { state with session := state'.session } := by
  obtain ⟨_, values, definitions, cursor, level⟩ := lockstep
  rw [values, definitions, cursor, level]

/-- Both sides may report the same. -/
theorem reporting (lockstep : coupling.Lockstep state state') (diagnostics : List Diagnostic) :
    coupling.Lockstep (state.reporting diagnostics) (state'.reporting diagnostics) :=
  { lockstep with session := coupling.report lockstep.session diagnostics }

theorem resolveSize (lockstep : coupling.Lockstep state state') (size : Vec3 Number) :
    state.resolveSize size = state'.resolveSize size := by
  simp only [Construction.resolveSize, lockstep.values, coupling.tileSize lockstep.session]

theorem surfacesNamed (lockstep : coupling.Lockstep state state') (line : Nat) (name : String) :
    (state.surfacesNamed line name).1 = (state'.surfacesNamed line name).1
      ∧ coupling.Lockstep (state.surfacesNamed line name).2 (state'.surfacesNamed line name).2 := by
  simp only [Construction.surfacesNamed, lockstep.definitions]
  cases state'.definitions.get? name with
  | some surfaces => exact ⟨rfl, lockstep⟩
  | none => exact ⟨rfl, lockstep.reporting _⟩

theorem placeRoom (lockstep : coupling.Lockstep state state') (extent : Vec3 Float)
    (surfaces : Surfaces) (alignments : List Alignment) :
    coupling.Lockstep (state.placeRoom extent surfaces alignments)
      (state'.placeRoom extent surfaces alignments) := by
  simp only [Construction.placeRoom, lockstep.cursor, lockstep.level,
    coupling.tileSize lockstep.session]
  exact { lockstep with cursor := rfl, level := rfl }

theorem addRoom (lockstep : coupling.Lockstep state state') (line : Nat) (size : Vec3 Number)
    (definition : String) (alignments : List Alignment) :
    coupling.Lockstep (state.addRoom line size definition alignments)
      (state'.addRoom line size definition alignments) := by
  rw [Construction.addRoom, Construction.addRoom, lockstep.resolveSize size]
  cases state'.resolveSize size with
  | error error => exact lockstep.reporting _
  | ok extent =>
    obtain ⟨surfaces, after⟩ := lockstep.surfacesNamed line definition
    simp only [surfaces]
    exact after.placeRoom extent _ alignments

theorem hangLight (lockstep : coupling.Lockstep state state') (line : Nat)
    (modifier : LightModifier) :
    coupling.Lockstep (state.hangLight line modifier) (state'.hangLight line modifier) := by
  rw [Construction.hangLight, Construction.hangLight, lockstep.level, lockstep.cursor,
    coupling.light lockstep.session]
  cases state'.level.addLight?
      (Construction.lightIn state'.session.config state'.cursor.state modifier) with
  | some level => exact ⟨lockstep.session, lockstep.values, lockstep.definitions, rfl, rfl⟩
  | none => exact lockstep.reporting _

theorem addLight (lockstep : coupling.Lockstep state state') (line : Nat)
    (argument : LightArgument) :
    coupling.Lockstep (state.addLight line argument) (state'.addLight line argument) := by
  rw [Construction.addLight, Construction.addLight, lockstep.values]
  rcases Construction.resolveLight state'.values argument with error | ⟨modifier, none | warning⟩
  · exact lockstep.reporting _
  · exact lockstep.hangLight line modifier
  · exact Lockstep.hangLight (lockstep.reporting _) line modifier

theorem restore (lockstep : coupling.Lockstep state state') (line : Nat) (name : String) :
    coupling.Lockstep (state.restore line name) (state'.restore line name) := by
  rw [Construction.restore, Construction.restore, lockstep.cursor]
  cases state'.cursor.restore? name with
  | some cursor => exact { lockstep with cursor := rfl }
  | none => exact lockstep.reporting _

/-- A statement keeps the lockstep. -/
theorem perform (lockstep : coupling.Lockstep state state') (statement : Statement) :
    coupling.Lockstep (state.perform statement) (state'.perform statement) := by
  obtain ⟨line, action⟩ := statement
  cases action with
  | define name rules =>
    obtain ⟨surfaces, after⟩ := coupling.surfacesOf lockstep.session rules
    simp only [Construction.perform, Construction.define, surfaces, lockstep.definitions]
    exact { lockstep with session := after, definitions := rfl }
  | addRoom size definition alignments =>
    exact lockstep.addRoom line size definition alignments
  | addLight argument => exact lockstep.addLight line argument
  | saveCursor name =>
    exact { lockstep with cursor := congrArg (Cursor.saveAs · name) lockstep.cursor }
  | restoreCursor name => exact lockstep.restore line name
  | assign name value =>
    exact { lockstep with values := congrArg (NameTable.insert · name value) lockstep.values }

/-- So do statements one after the other. -/
theorem performAll (lockstep : coupling.Lockstep state state') (statements : List Statement) :
    coupling.Lockstep (state.performAll statements) (state'.performAll statements) := by
  induction statements generalizing state state' with
  | nil => exact lockstep
  | cons statement rest inductionHypothesis =>
    exact inductionHypothesis (lockstep.perform statement)

end Lockstep

end SessionCoupling

end RoomLayout

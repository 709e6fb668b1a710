import RoomLayout.Proofs.Construction.Effects

/-!
# Invariants of constructions

A property that every kind of change keeps holds along every run. The changes are those
that statements are made of: reports, a placed room, a hung light, a return to a
snapshot, and a name that gets a meaning. Runs that give no name a meaning need the
first four only.
-/

namespace RoomLayout

/-- Whether an action gives no name a meaning: it places or lights rooms, or returns to a
snapshot. -/
def Action.namesNothing : Action → Bool
  | .addRoom _ _ _ | .addLight _ | .restoreCursor _ => true
  | .define _ _ | .saveCursor _ | .assign _ _ => false

namespace Construction

/-- A property that is kept where no name gets a meaning. -/
structure UnnamedInvariant (Holds : Construction → Prop) : Prop where
  reporting : ∀ {state}, Holds state → ∀ diagnostics, Holds (state.reporting diagnostics)
  placeRoom : ∀ {state size extent}, Holds state → state.resolveSize size = .ok extent →
    ∀ definition alignments,
      Holds (state.placeRoom extent (state.definitions.named definition) alignments)
  light : ∀ {state argument modifier fallback}, Holds state →
    resolveLight state.values argument = .ok (modifier, fallback) →
      Holds { state with
        level := state.level.withLight
          (lightIn state.session.config state.cursor.state modifier) }
  restore : ∀ {state name snapshot}, Holds state →
    state.cursor.saved.get? name = some snapshot →
      Holds { state with cursor := { state.cursor with state := snapshot } }

/-- A property that every statement keeps. -/
structure Invariant (Holds : Construction → Prop) : Prop extends UnnamedInvariant Holds where
  define : ∀ {state}, Holds state → ∀ name rules, Holds (state.define name rules)
  saveCursor : ∀ {state}, Holds state → ∀ name,
    Holds { state with cursor := state.cursor.saveAs name }
  assign : ∀ {state}, Holds state → ∀ name value,
    Holds { state with values := state.values.insert name value }

variable {Holds : Construction → Prop} {state : Construction}

namespace UnnamedInvariant

theorem addRoom (invariant : UnnamedInvariant Holds) (holds : Holds state) (line : Nat)
    (size : Vec3 Number) (definition : String) (alignments : List Alignment) :
    Holds (state.addRoom line size definition alignments) := by
  cases resolved : state.resolveSize size with
  | error error =>
    rw [addRoom_of_error line resolved]
    exact invariant.reporting holds _
  | ok extent =>
    obtain ⟨diagnostics, placed⟩ := addRoom_of_ok line resolved definition alignments
    rw [placed]
    exact invariant.placeRoom (invariant.reporting holds diagnostics) resolved definition alignments

theorem addLight (invariant : UnnamedInvariant Holds) (holds : Holds state) (line : Nat)
    (argument : LightArgument) : Holds (state.addLight line argument) := by
  cases resolved : resolveLight state.values argument with
  | error error =>
    rw [addLight_of_error line resolved]
    exact invariant.reporting holds _
  | ok light =>
    obtain ⟨diagnostics, hung⟩ := addLight_of_ok line resolved
    rw [hung]
    exact invariant.light (invariant.reporting holds diagnostics) resolved

theorem restoreCursor (invariant : UnnamedInvariant Holds) (holds : Holds state) (line : Nat)
    (name : String) : Holds (state.restore line name) := by
  cases found : state.cursor.saved.get? name with
  | none =>
    rw [restore_of_not_saved line found]
    exact invariant.reporting holds _
  | some snapshot =>
    rw [restore_of_saved line found]
    exact invariant.restore holds found

/-- A statement that gives no name a meaning keeps the property. -/
theorem perform (invariant : UnnamedInvariant Holds) (holds : Holds state) {statement : Statement}
    (namesNothing : statement.action.namesNothing = true) : Holds (state.perform statement) := by
  obtain ⟨line, action⟩ := statement
  cases action with
  | addRoom size definition alignments =>
    exact invariant.addRoom holds line size definition alignments
  | addLight argument => exact invariant.addLight holds line argument
  | restoreCursor name => exact invariant.restoreCursor holds line name
  | define name rules => exact nomatch namesNothing
  | saveCursor name => exact nomatch namesNothing
  | assign name value => exact nomatch namesNothing

theorem performAll (invariant : UnnamedInvariant Holds) (holds : Holds state)
    {statements : List Statement}
    (nameNothing : ∀ statement ∈ statements, statement.action.namesNothing = true) :
    Holds (state.performAll statements) := by
  induction statements generalizing state with
  | nil => exact holds
  | cons statement rest inductionHypothesis =>
    rw [List.forall_mem_cons] at nameNothing
    exact inductionHypothesis (invariant.perform holds nameNothing.1) nameNothing.2

end UnnamedInvariant

namespace Invariant

/-- Every statement keeps the property. -/
theorem perform (invariant : Invariant Holds) (holds : Holds state) (statement : Statement) :
    Holds (state.perform statement) := by
  obtain ⟨line, action⟩ := statement
  cases action with
  | define name rules => exact invariant.define holds name rules
  | saveCursor name => exact invariant.saveCursor holds name
  | assign name value => exact invariant.assign holds name value
  | addRoom _ _ _ | addLight _ | restoreCursor _ =>
    exact invariant.toUnnamedInvariant.perform holds rfl

theorem performAll (invariant : Invariant Holds) (holds : Holds state)
    (statements : List Statement) : Holds (state.performAll statements) := by
  induction statements generalizing state with
  | nil => exact holds
  | cons statement rest inductionHypothesis =>
    exact inductionHypothesis (invariant.perform holds statement)

end Invariant

/-- A property of sessions that reports and queries keep. -/
structure SessionInvariant (Holds : Session → Prop) : Prop where
  report : ∀ {session}, Holds session → ∀ diagnostics, Holds (session.report diagnostics)
  noteQuery : ∀ {session}, Holds session → ∀ query, Holds (session.noteQuery query)

namespace SessionInvariant

variable {Holds : Session → Prop} {session : Session}

theorem orPlaceholder (invariant : SessionInvariant Holds) (holds : Holds session) (line : Nat)
    (fault : TextureFault) (found : Option Texture) :
    Holds (session.orPlaceholder line fault found).2 := by
  cases found with
  | some texture => exact holds
  | none => exact invariant.report holds _

theorem covering (invariant : SessionInvariant Holds) (holds : Holds session) (line : Nat)
    (source : FaceSource) : Holds (covering session line source).2 := by
  cases source with
  | off => exact holds
  | builtin name fit => exact invariant.orPlaceholder (invariant.noteQuery holds _) _ _ _
  | custom folder filename fit =>
    exact invariant.orPlaceholder (invariant.noteQuery holds _) _ _ _

theorem surfacesOf (invariant : SessionInvariant Holds) (holds : Holds session)
    (rules : List FaceRule) : Holds (surfacesOf session rules).2 := by
  suffices general : ∀ surfaces : Surfaces,
      Holds (rules.foldl applyRule (surfaces, session)).2 from general {}
  induction rules generalizing session with
  | nil => exact fun _ => holds
  | cons rule rest inductionHypothesis =>
    exact fun _ => inductionHypothesis (invariant.covering holds rule.line rule.source) _

/-- Statements report and ask, and leave the session alone otherwise. -/
theorem invariant (invariant : SessionInvariant Holds) :
    Invariant (fun state => Holds state.session) where
  reporting holds diagnostics := invariant.report holds diagnostics
  placeRoom holds _ _ _ := holds
  light holds _ := holds
  restore holds _ := holds
  define holds _ rules := invariant.surfacesOf holds rules
  saveCursor holds _ := holds
  assign holds _ _ := holds

end SessionInvariant

theorem SessionInvariant.config (config : Config) :
    SessionInvariant (fun session => session.config = config) :=
  ⟨fun kept _ => kept, fun kept _ => kept⟩

/-- Looking up textures leaves the settings. -/
theorem config_covering (session : Session) (line : Nat) (source : FaceSource) :
    (covering session line source).2.config = session.config :=
  (SessionInvariant.config session.config).covering rfl line source

/-- Statements leave the settings. -/
theorem keepsConfig (config : Config) : Invariant (fun state => state.session.config = config) :=
  (SessionInvariant.config config).invariant

/-- Statements leave the source of textures. -/
theorem keepsTextures (textures : List TextureQuery → TextureSource) :
    Invariant (fun state => state.session.textures = textures) := by
  have keeps : SessionInvariant fun session => session.textures = textures :=
    ⟨fun kept _ => kept, fun kept _ => kept⟩
  exact keeps.invariant

end Construction

end RoomLayout

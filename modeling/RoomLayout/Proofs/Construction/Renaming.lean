import Mathlib.Logic.Equiv.Basic
import RoomLayout.Proofs.Construction.SessionCoupling
import RoomLayout.Proofs.Texturing.Used

/-!
# Renaming

Definitions, variables and snapshots each have names of their own. Names are compared and put
into messages; apart from `default` none has a meaning. So a program with other names builds the
same rooms, as long as different names of one kind stay different and `default` keeps its name
(`compileStatements_rename`). Names of different kinds may coincide or change places.

A run of the renamed program goes alongside the run of the program. Their tables have the same
values under different names, and their sessions differ in the wording of what was reported.
-/

namespace RoomLayout

/-- Other names for definitions, variables and snapshots. -/
structure Renaming where
  definition : String → String
  value : String → String
  snapshot : String → String
  definition_injective : Function.Injective definition
  value_injective : Function.Injective value
  snapshot_injective : Function.Injective snapshot
  definition_default : definition Definitions.defaultName = Definitions.defaultName

section Renamed

variable (names : Renaming)

/-- A number under another name. -/
def Number.rename : Number → Number
  | .literal value => .literal value
  | .named name => .named (names.value name)

/-- The argument of a light under another name. -/
def LightArgument.rename : LightArgument → LightArgument
  | .named name => .named (names.value name)
  | argument => argument

/-- An action with other names. The texts of values and the names of textures are none. -/
def Action.rename : Action → Action
  | .define name rules => .define (names.definition name) rules
  | .addRoom size definition alignments =>
    .addRoom (size.map (Number.rename names)) (names.definition definition) alignments
  | .addLight argument => .addLight (argument.rename names)
  | .saveCursor name => .saveCursor (names.snapshot name)
  | .restoreCursor name => .restoreCursor (names.snapshot name)
  | .assign name value => .assign (names.value name) value

/-- A statement with other names, on its line. -/
def Statement.rename (statement : Statement) : Statement :=
  { statement with action := statement.action.rename names }

end Renamed

/-! ## What stays the same -/

/-- A table in which each name has the value that another name has in the first one. -/
def NameTable.IsRenamed {β : Type} (rename : String → String) (table table' : NameTable β) :
    Prop :=
  ∀ name, table'.get? (rename name) = table.get? name

/-- Names that stay different are given values independently. -/
theorem NameTable.IsRenamed.insert {β : Type} {rename : String → String}
    {table table' : NameTable β} (renamed : table.IsRenamed rename table')
    (injective : Function.Injective rename) (name : String) (value : β) :
    (table.insert name value).IsRenamed rename (table'.insert (rename name) value) := by
  intro key
  rw [get?_insert, get?_insert, renamed key]
  simp only [injective.eq_iff]

/-- A diagnostic without its wording. -/
def Diagnostic.place (diagnostic : Diagnostic) : Nat × Severity :=
  (diagnostic.line, diagnostic.severity)

/-- Two sessions that differ in the wording of what was reported. -/
def SessionCoupling.wording : SessionCoupling where
  Related session session' := ∃ log, session' = { session with log }
    ∧ log.map Diagnostic.place = session.log.map Diagnostic.place
  report := by
    rintro session _ ⟨log, rfl, alike⟩ diagnostics
    refine ⟨log ++ diagnostics, rfl, ?_⟩
    rw [Session.report, List.map_append, List.map_append, alike]
  noteQuery := by
    rintro session _ ⟨log, rfl, alike⟩ query
    exact ⟨log, rfl, alike⟩
  answers := by
    rintro session _ ⟨log, rfl, -⟩
    rfl
  tileSize := by
    rintro session _ ⟨log, rfl, -⟩
    rfl
  light := by
    rintro session _ ⟨log, rfl, -⟩
    rfl

/-- What the two sides report may differ in its wording. -/
theorem SessionCoupling.wording_report {session session' : Session}
    (related : wording.Related session session') {diagnostics diagnostics' : List Diagnostic}
    (alike : diagnostics'.map Diagnostic.place = diagnostics.map Diagnostic.place) :
    wording.Related (session.report diagnostics) (session'.report diagnostics') := by
  obtain ⟨log, rfl, same⟩ := related
  refine ⟨log ++ diagnostics', rfl, ?_⟩
  rw [Session.report, List.map_append, List.map_append, same, alike]

/-! ## Values under other names -/

/-- Of a computation in two steps only the values matter if errors are forgotten. -/
theorem toOption_bind {ε β γ : Type} (first : Except ε β) (next : β → Except ε γ) :
    (first >>= next).toOption = first.toOption.bind fun value => (next value).toOption := by
  cases first <;> rfl

/-- Computations with the same value, if any, both fail or both come to it. -/
theorem cases_of_toOption_eq {ε β : Type} {first second : Except ε β}
    (same : second.toOption = first.toOption) :
    (∃ error error', first = .error error ∧ second = .error error')
      ∨ ∃ value, first = .ok value ∧ second = .ok value := by
  cases first with
  | error error =>
    cases second with
    | error error' => exact .inl ⟨error, error', rfl, rfl⟩
    | ok value' => cases same
  | ok value =>
    cases second with
    | error error' => cases same
    | ok value' => exact .inr ⟨value, rfl, congrArg Except.ok (Option.some.inj same)⟩

section Values

variable {names : Renaming} {values values' : NameTable Value}
  (renamed : values.IsRenamed names.value values')

include renamed

open Construction

theorem resolveNumber_rename (number : Number) :
    (resolveNumber values' (number.rename names)).toOption
      = (resolveNumber values number).toOption := by
  cases number with
  | literal value => rfl
  | named name =>
    simp only [resolveNumber, Number.rename, renamed name]
    rcases values.get? name with _ | value
    · rfl
    · cases value <;> rfl

theorem resolveExtent_rename (number : Number) :
    (resolveExtent values' (number.rename names)).toOption
      = (resolveExtent values number).toOption := by
  simp only [resolveExtent, toOption_bind, resolveNumber_rename renamed]

/-- A light has the same modifier, and a fallback if it had one. -/
theorem resolveLight_rename (argument : LightArgument) :
    (∃ error error', resolveLight values argument = .error error
        ∧ resolveLight values' (argument.rename names) = .error error')
      ∨ ∃ modifier fallback fallback', resolveLight values argument = .ok (modifier, fallback)
        ∧ resolveLight values' (argument.rename names) = .ok (modifier, fallback')
        ∧ fallback'.isSome = fallback.isSome := by
  cases argument with
  | full | dim | percentage _ => exact .inr ⟨_, _, _, rfl, rfl, rfl⟩
  | named name =>
    simp only [LightArgument.rename, resolveLight, renamed name]
    split
    · exact .inr ⟨_, _, _, rfl, rfl, rfl⟩
    · exact .inr ⟨_, _, _, rfl, rfl, rfl⟩
    · exact .inr ⟨_, _, _, rfl, rfl, rfl⟩
    · exact .inl ⟨_, _, rfl, rfl⟩

end Values

/-! ## Runs side by side -/

/-- The construction of a program and the one of the program with other names. -/
structure Renaming.Relates (names : Renaming) (state state' : Construction) : Prop where
  session : SessionCoupling.wording.Related state.session state'.session
  values : state.values.IsRenamed names.value state'.values
  definitions : state.definitions.table.IsRenamed names.definition state'.definitions.table
  position : state.cursor.state = state'.cursor.state
  saved : state.cursor.saved.IsRenamed names.snapshot state'.cursor.saved
  level : state.level = state'.level

namespace Renaming.Relates

variable {names : Renaming} {state state' : Construction}

/-- Runs start with `default` defined, under its own name. -/
theorem start (names : Renaming) (session : Session) :
    names.Relates (Construction.start session) (Construction.start session) where
  session := ⟨session.log, rfl, rfl⟩
  values _ := rfl
  definitions := by
    have empty : (NameTable.empty : NameTable Surfaces).IsRenamed names.definition
      NameTable.empty := fun _ => rfl
    have initial := empty.insert names.definition_injective Definitions.defaultName {}
    rwa [names.definition_default] at initial
  position := rfl
  saved _ := rfl
  level := rfl

/-- Both sides may report, in different words, at the same line and of the same severity. -/
theorem reporting (relates : names.Relates state state')
    {diagnostics diagnostics' : List Diagnostic}
    (alike : diagnostics'.map Diagnostic.place = diagnostics.map Diagnostic.place) :
    names.Relates (state.reporting diagnostics) (state'.reporting diagnostics') :=
  { relates with session := SessionCoupling.wording_report relates.session alike }

theorem fail (relates : names.Relates state state') (line : Nat)
    (error error' : ConstructionError) :
    names.Relates (state.fail line error) (state'.fail line error') :=
  relates.reporting rfl

theorem warn (relates : names.Relates state state') (line : Nat)
    (warning warning' : ConstructionWarning) :
    names.Relates (state.warn line warning) (state'.warn line warning') :=
  relates.reporting rfl

theorem define (relates : names.Relates state state') (name : String)
    (rules : List FaceRule) :
    names.Relates (state.define name rules)
      (state'.define (names.definition name) rules) := by
  obtain ⟨surfaces, after⟩ := SessionCoupling.wording.surfacesOf relates.session rules
  simp only [Construction.define, ← surfaces]
  exact { relates with
    session := after
    definitions := relates.definitions.insert names.definition_injective name _ }

theorem toOption_resolveSize (relates : names.Relates state state') (size : Vec3 Number) :
    (state'.resolveSize (size.map (Number.rename names))).toOption
      = (state.resolveSize size).toOption := by
  simp only [Construction.resolveSize, Vec3.map, toOption_bind,
    resolveExtent_rename relates.values,
    SessionCoupling.wording.tileSize relates.session]

/-- A definition that is missing is missing under its other name, and `default` stands in. -/
theorem surfacesNamed (relates : names.Relates state state') (line : Nat) (name : String) :
    (state'.surfacesNamed line (names.definition name)).1 = (state.surfacesNamed line name).1
      ∧ names.Relates (state.surfacesNamed line name).2
        (state'.surfacesNamed line (names.definition name)).2 := by
  have found : state'.definitions.get? (names.definition name) = state.definitions.get? name :=
    relates.definitions name
  have fallback : state'.definitions.fallback = state.definitions.fallback := by
    have default := relates.definitions Definitions.defaultName
    rw [names.definition_default] at default
    rw [Definitions.fallback, Definitions.get?, default]
    rfl
  simp only [Construction.surfacesNamed, found]
  cases state.definitions.get? name with
  | some surfaces => exact ⟨rfl, relates⟩
  | none => exact ⟨fallback, relates.warn line _ _⟩

theorem placeRoom (relates : names.Relates state state') (extent : Vec3 Float)
    (surfaces : Surfaces) (alignments : List Alignment) :
    names.Relates (state.placeRoom extent surfaces alignments)
      (state'.placeRoom extent surfaces alignments) where
  session := relates.session
  values := relates.values
  definitions := relates.definitions
  position := by
    simp only [Construction.placeRoom, Cursor.commit, Cursor.moveBy, Cursor.setNewSize,
      relates.position]
  saved := relates.saved
  level := by
    simp only [Construction.placeRoom, Cursor.moveBy, Cursor.setNewSize, relates.position,
      relates.level, SessionCoupling.wording.tileSize relates.session]

theorem addRoom (relates : names.Relates state state') (line : Nat) (size : Vec3 Number)
    (definition : String) (alignments : List Alignment) :
    names.Relates (state.addRoom line size definition alignments)
      (state'.addRoom line (size.map (Number.rename names)) (names.definition definition)
        alignments) := by
  rw [Construction.addRoom, Construction.addRoom]
  rcases cases_of_toOption_eq (relates.toOption_resolveSize size) with
    ⟨error, error', rejected, rejected'⟩ | ⟨extent, accepted, accepted'⟩
  · rw [rejected, rejected']
    exact relates.fail line error error'
  · obtain ⟨surfaces, after⟩ := relates.surfacesNamed line definition
    rw [accepted, accepted']
    simp only [surfaces]
    exact after.placeRoom extent _ alignments

theorem hangLight (relates : names.Relates state state') (line : Nat)
    (modifier : LightModifier) :
    names.Relates (state.hangLight line modifier) (state'.hangLight line modifier) := by
  rw [Construction.hangLight, Construction.hangLight, relates.level, relates.position,
    SessionCoupling.wording.light relates.session]
  cases state'.level.addLight?
      (Construction.lightIn state'.session.config state'.cursor.state modifier) with
  | some level => exact { relates with level := rfl }
  | none => exact relates.warn line _ _

theorem addLight (relates : names.Relates state state') (line : Nat)
    (argument : LightArgument) :
    names.Relates (state.addLight line argument)
      (state'.addLight line (argument.rename names)) := by
  rw [Construction.addLight, Construction.addLight]
  rcases resolveLight_rename relates.values argument with
    ⟨error, error', rejected, rejected'⟩
      | ⟨modifier, fallback, fallback', resolved, resolved', same⟩
  · rw [rejected, rejected']
    exact relates.fail line error error'
  · rw [resolved, resolved']
    cases fallback with
    | none =>
      obtain rfl : fallback' = none := Option.not_isSome_iff_eq_none.mp (by simp [same])
      exact relates.hangLight line modifier
    | some warning =>
      obtain ⟨warning', rfl⟩ := Option.isSome_iff_exists.mp same
      exact (relates.warn line warning warning').hangLight line modifier

/-- Both sides keep the same place, under different names. -/
theorem saveAs (relates : names.Relates state state') (name : String) :
    names.Relates { state with cursor := state.cursor.saveAs name }
      { state' with cursor := state'.cursor.saveAs (names.snapshot name) } where
  session := relates.session
  values := relates.values
  definitions := relates.definitions
  position := relates.position
  saved := by
    rw [Cursor.saveAs, Cursor.saveAs, relates.position]
    exact relates.saved.insert names.snapshot_injective name _
  level := relates.level

theorem restore (relates : names.Relates state state') (line : Nat) (name : String) :
    names.Relates (state.restore line name)
      (state'.restore line (names.snapshot name)) := by
  cases saved : state.cursor.saved.get? name with
  | none =>
    rw [Construction.restore_of_not_saved line saved,
      Construction.restore_of_not_saved line ((relates.saved name).trans saved)]
    exact relates.warn line _ _
  | some snapshot =>
    rw [Construction.restore_of_saved line saved,
      Construction.restore_of_saved line ((relates.saved name).trans saved)]
    exact { relates with position := rfl }

/-- A statement and the statement with other names keep the constructions related. -/
theorem perform (relates : names.Relates state state') (statement : Statement) :
    names.Relates (state.perform statement) (state'.perform (statement.rename names)) := by
  obtain ⟨line, action⟩ := statement
  cases action with
  | define name rules => exact relates.define name rules
  | addRoom size definition alignments => exact relates.addRoom line size definition alignments
  | addLight argument => exact relates.addLight line argument
  | saveCursor name => exact relates.saveAs name
  | restoreCursor name => exact relates.restore line name
  | assign name value =>
    exact { relates with
      values := relates.values.insert names.value_injective name value }

/-- So do statements one after the other. -/
theorem performAll (relates : names.Relates state state') (statements : List Statement) :
    names.Relates (state.performAll statements)
      (state'.performAll (statements.map (Statement.rename names))) := by
  induction statements generalizing state state' with
  | nil => exact relates
  | cons statement rest inductionHypothesis =>
    exact inductionHypothesis (relates.perform statement)

end Renaming.Relates

/-! ## Compiling -/

/-- Names carry no meaning. With other names for its definitions, variables and snapshots,
`default` apart, a program compiles to the same rooms, with the same textures used and
diagnostics of the same severities at the same lines, in the same order. -/
theorem compileStatements_rename (names : Renaming) (session : Session)
    (statements : List Statement) :
    let compiled := compileStatements session statements
    let renamed := compileStatements session (statements.map (Statement.rename names))
    renamed.level = compiled.level
      ∧ renamed.session.used = compiled.session.used
      ∧ renamed.session.log.map Diagnostic.place = compiled.session.log.map Diagnostic.place := by
  obtain ⟨⟨log, session', alike⟩, -, -, -, -, level⟩ :=
    (Renaming.Relates.start names session).performAll statements
  simp only [compileStatements_eq, Session.log_markPolygons, ← level, session',
    Session.used_markPolygons, true_and]
  exact alike

/-- Two definitions change their names, and a variable and a snapshot get the name of one of
them. A variable without a value, a definition that was never made and a snapshot that was never
saved are reported as before. -/
theorem compileStatements_rename_swapped :
    let session : Session := { config := {}, textures := fun _ =>
      ⟨fun name => some (.builtin name), fun _ _ => none⟩ }
    let program (hall crypt width other mark : String) : List Statement := [
      ⟨1, .define hall [⟨2, .walls, .builtin "brick" {}⟩]⟩,
      ⟨4, .define crypt [⟨5, .single .floor, .off⟩]⟩,
      ⟨7, .assign width (.integer 100)⟩,
      ⟨8, .addRoom ⟨.named width, .literal 100, .named width⟩ hall []⟩,
      ⟨9, .saveCursor mark⟩,
      ⟨10, .addRoom ⟨.named other, .literal 100, .literal 100⟩ crypt []⟩,
      ⟨11, .addLight (.named width)⟩,
      ⟨12, .restoreCursor mark⟩,
      ⟨13, .restoreCursor other⟩,
      ⟨14, .addRoom ⟨.named width, .literal 100, .literal 100⟩ other [⟨.x, .plusPlus⟩]⟩]
    let compiled := compileStatements session (program "hall" "crypt" "w" "lost" "mark")
    let renamed := compileStatements session (program "crypt" "hall" "hall" "lost" "hall")
    renamed.level = compiled.level ∧ compiled.level.length = 2
      ∧ renamed.session.used = [.builtin "brick"]
      ∧ renamed.session.log.map Diagnostic.place
        = [(10, .error), (11, .warning), (13, .warning), (14, .warning)] := by
  intro session program compiled renamed
  let names : Renaming := {
    definition := Equiv.swap "hall" "crypt"
    value := Equiv.swap "w" "hall"
    snapshot := Equiv.swap "mark" "hall"
    definition_injective := (Equiv.swap "hall" "crypt").injective
    value_injective := (Equiv.swap "w" "hall").injective
    snapshot_injective := (Equiv.swap "mark" "hall").injective
    definition_default := by decide }
  have isRenamed : (program "hall" "crypt" "w" "lost" "mark").map (Statement.rename names)
      = program "crypt" "hall" "hall" "lost" "hall" := by decide
  have same := compileStatements_rename names session (program "hall" "crypt" "w" "lost" "mark")
  rw [isRenamed] at same
  obtain ⟨level, used, places⟩ := same
  have summary : (compiled.level.length, compiled.session.used,
      compiled.session.log.map Diagnostic.place) = (2, [.builtin "brick"],
        [(10, .error), (11, .warning), (13, .warning), (14, .warning)]) := by decide +kernel
  simp only [Prod.mk.injEq] at summary
  exact ⟨level, summary.1, used.trans summary.2.1, places.trans summary.2.2⟩

end RoomLayout

import RoomLayout.Proofs.Construction.SessionCoupling
import RoomLayout.Proofs.Construction.Tracing
import RoomLayout.Proofs.LastWrite
import RoomLayout.Proofs.Naming.Provenance
import RoomLayout.Proofs.Texturing.Used

/-!
# Definitions in force

A room is built with what its name means at its line. Seen from there, looking back, that is
what the last definition of the name made, or else the last one of `default`, or else the
placeholder on all faces; and a definition gives a face the covering of the last of its rules
that speaks of the face. Carrying out goes forward instead, rule by rule and statement by
statement, and overwrites. Both views agree on faces (`Construction.face_surfacesOf_iff`) and
on names (`Construction.inForce_iff`).
-/

namespace RoomLayout

/-! ### The faces of a target -/

/-- A target speaks of a face: of the face itself, or of all walls. -/
inductive FaceTarget.Covers : FaceTarget → Face → Prop where
  | single (face : Face) : Covers (.single face) face
  | north : Covers .walls .wallNorth
  | east : Covers .walls .wallEast
  | south : Covers .walls .wallSouth
  | west : Covers .walls .wallWest

theorem FaceTarget.mem_faces_iff {target : FaceTarget} {face : Face} :
    face ∈ target.faces ↔ target.Covers face := by
  constructor
  · intro member
    cases target with
    | single covered => exact List.mem_singleton.mp member ▸ .single face
    | walls =>
      simp only [faces, Face.walls, List.mem_cons, List.not_mem_nil, or_false] at member
      rcases member with rfl | rfl | rfl | rfl
      · exact .north
      · exact .east
      · exact .south
      · exact .west
  · rintro (_ | _ | _ | _ | _)
    · exact List.mem_singleton_self face
    all_goals simp [faces, Face.walls]

namespace Surfaces

/-- Covering several faces leaves the others. -/
theorem face_setAll_of_not_mem {faces : List Face} {face : Face} (other : face ∉ faces)
    (surfaces : Surfaces) (covering : Covering) :
    (surfaces.setAll faces covering).face face = surfaces.face face := by
  induction faces generalizing surfaces with
  | nil => rfl
  | cons first rest inductionHypothesis =>
    obtain ⟨different, notLater⟩ := List.ne_and_not_mem_of_not_mem_cons other
    exact (inductionHypothesis notLater _).trans
      ((face_set _ _ _ _).trans (if_neg different))

/-- Covering several faces covers each of them. -/
theorem face_setAll_of_mem {faces : List Face} {face : Face} (member : face ∈ faces)
    (surfaces : Surfaces) (covering : Covering) :
    (surfaces.setAll faces covering).face face = covering := by
  induction faces generalizing surfaces with
  | nil => exact absurd member List.not_mem_nil
  | cons first rest inductionHypothesis =>
    by_cases later : face ∈ rest
    · exact inductionHypothesis later _
    · obtain rfl : face = first := (List.mem_cons.mp member).resolve_right later
      exact (face_setAll_of_not_mem later _ _).trans ((face_set _ _ _ _).trans (if_pos rfl))

/-- Surfaces that cover each face alike are the same. -/
theorem eq_of_face_eq {surfaces other : Surfaces}
    (same : ∀ face, surfaces.face face = other.face face) : surfaces = other := by
  obtain ⟨_, _, _, _, _, _⟩ := surfaces
  obtain ⟨_, _, _, _, _, _⟩ := other
  obtain rfl := same .floor
  obtain rfl := same .ceiling
  obtain rfl := same .wallNorth
  obtain rfl := same .wallEast
  obtain rfl := same .wallSouth
  obtain rfl := same .wallWest
  rfl

theorem face_bare (face : Face) : ({} : Surfaces).face face = {} := by
  cases face <;> rfl

end Surfaces

namespace Construction

/-! ### The last rule for a face -/

/-- What rules make of a face, looking back from the end of the rules: the last rule that speaks
of the face counts, and its texture is looked up after those of the rules before it. A face
that no rule speaks of has the placeholder. -/
inductive CoveredAs (session : Session) (rules : List FaceRule) (face : Face) :
    Covering → Prop where
  | byRule {earlier : List FaceRule} {rule : FaceRule}
      (last : IsLast (fun rule => rule.target.Covers face) rules earlier rule) :
      CoveredAs session rules face (covering (surfacesOf session earlier).2 rule.line rule.source).1
  | bare (none : ∀ rule ∈ rules, ¬ rule.target.Covers face) : CoveredAs session rules face {}

/-- A rule leaves the faces that it does not speak of. -/
theorem face_applyRule_of_not_covers {face : Face} (state : Surfaces × Session) (rule : FaceRule)
    (other : ¬ rule.target.Covers face) : (applyRule state rule).1.face face = state.1.face face :=
  Surfaces.face_setAll_of_not_mem (mt FaceTarget.mem_faces_iff.mp other) _ _

variable {session : Session} {rules : List FaceRule} {face : Face} {covering : Covering}

theorem CoveredAs.face_eq (covered : CoveredAs session rules face covering) :
    (surfacesOf session rules).1.face face = covering := by
  cases covered with
  | @byRule earlier rule last =>
    have decided := last.foldl_eq (fun state : Surfaces × Session => state.1.face face)
      face_applyRule_of_not_covers ({}, session)
    exact decided.trans (Surfaces.face_setAll_of_mem (FaceTarget.mem_faces_iff.mpr last.holds) _ _)
  | bare none =>
    have untouched := foldl_eq_of_none (fun state : Surfaces × Session => state.1.face face)
      face_applyRule_of_not_covers none ({}, session)
    exact untouched.trans (Surfaces.face_bare face)

/-- Rules make exactly one thing of a face. -/
theorem face_surfacesOf_iff :
    (surfacesOf session rules).1.face face = covering ↔ CoveredAs session rules face covering := by
  constructor
  · rintro rfl
    rcases exists_isLast_or_none (fun rule : FaceRule => rule.target.Covers face) rules with
      ⟨earlier, rule, last⟩ | none
    · have covered : CoveredAs session rules face _ := .byRule last
      rwa [covered.face_eq]
    · have covered : CoveredAs session rules face {} := .bare none
      rwa [covered.face_eq]
  · exact CoveredAs.face_eq

/-! ### The last definition of a name -/

/-- The surfaces that the last definition of a name makes, looking back from the end of the
statements: what its rules make of each face, in the session that the definition finds. -/
inductive LastMade (session : Session) (statements : List Statement) (name : String)
    (surfaces : Surfaces) : Prop where
  | intro {earlier : List Statement} {line : Nat} {rules : List FaceRule}
      (last : IsLast (fun statement => statement.action.defines name = true) statements earlier
        ⟨line, .define name rules⟩)
      (faces : ∀ face,
        CoveredAs ((start session).performAll earlier).session rules face (surfaces.face face))

/-- No statement defines a name. -/
def NeverDefined (statements : List Statement) (name : String) : Prop :=
  ∀ statement ∈ statements, ¬ statement.action.defines name = true

/-- What a name means after statements: what its last definition made, or else what the last
definition of `default` made, or else the placeholder on all faces. -/
inductive InForce (session : Session) (statements : List Statement) (name : String) :
    Surfaces → Prop where
  | named {surfaces : Surfaces} (made : LastMade session statements name surfaces) :
      InForce session statements name surfaces
  | byDefault {surfaces : Surfaces} (undefined : NeverDefined statements name)
      (made : LastMade session statements Definitions.defaultName surfaces) :
      InForce session statements name surfaces
  | bare (undefined : NeverDefined statements name)
      (noDefault : NeverDefined statements Definitions.defaultName) :
      InForce session statements name {}

/-- The table of definitions changes at a name only where it is defined. -/
theorem get?_definitions_perform {name : String} (state : Construction) (statement : Statement)
    (other : ¬ statement.action.defines name = true) :
    (state.perform statement).definitions.get? name = state.definitions.get? name := by
  obtain ⟨line, action⟩ := statement
  cases action with
  | define defined rules =>
    have different : name ≠ defined := by simpa [Action.defines] using other
    exact (NameTable.get?_insert _ _ _ _).trans (if_neg different)
  | addRoom _ _ _ | addLight _ | restoreCursor _ =>
    rw [(keepsDefinitions state.definitions).perform rfl rfl]
  | saveCursor _ | assign _ _ => rfl

variable {statements : List Statement} {name : String} {surfaces : Surfaces}

/-- Without a definition, a name is in the table as it was at first. -/
theorem NeverDefined.get?_eq (undefined : NeverDefined statements name) (session : Session) :
    ((start session).performAll statements).definitions.get? name
      = Definitions.initial.get? name :=
  foldl_eq_of_none (fun state : Construction => state.definitions.get? name)
    get?_definitions_perform undefined (start session)

/-- What the last definition of a name made is what is in the table. -/
theorem LastMade.get?_eq (made : LastMade session statements name surfaces) :
    ((start session).performAll statements).definitions.get? name = some surfaces := by
  obtain ⟨last, faces⟩ := made
  have decided := last.foldl_eq (fun state : Construction => state.definitions.get? name)
    get?_definitions_perform (start session)
  refine decided.trans ((NameTable.get?_insert_self _ _ _).trans (congrArg some ?_))
  exact Surfaces.eq_of_face_eq fun face => (faces face).face_eq

/-- A name was defined, and what the last definition made is in the table, or never was. -/
theorem exists_lastMade_or_neverDefined (session : Session) (statements : List Statement)
    (name : String) :
    (∃ surfaces, LastMade session statements name surfaces) ∨ NeverDefined statements name := by
  rcases exists_isLast_or_none (fun statement : Statement => statement.action.defines name = true)
    statements with ⟨earlier, ⟨line, action⟩, last⟩ | undefined
  · have defines := last.holds
    cases action with
    | define defined rules =>
      obtain rfl : name = defined := eq_of_beq defines
      exact .inl ⟨_, .intro last fun face => face_surfacesOf_iff.mp rfl⟩
    | addRoom _ _ _ | addLight _ | saveCursor _ | restoreCursor _ | assign _ _ =>
      exact nomatch defines
  · exact .inr undefined

theorem get?_initial_default : Definitions.initial.get? Definitions.defaultName = some {} :=
  NameTable.get?_insert_self _ _ _

theorem get?_initial_of_ne (other : name ≠ Definitions.defaultName) :
    Definitions.initial.get? name = none :=
  (NameTable.get?_insert _ _ _ _).trans (if_neg other)

/-- The table always has `default`, so what stands in for it is never used. -/
theorem get?_definitions_default (session : Session) (statements : List Statement) :
    let definitions := ((start session).performAll statements).definitions
    definitions.get? Definitions.defaultName = some definitions.fallback := by
  intro definitions
  obtain ⟨surfaces, found⟩ : ∃ surfaces,
      definitions.get? Definitions.defaultName = some surfaces := by
    rcases exists_lastMade_or_neverDefined session statements Definitions.defaultName with
      ⟨surfaces, made⟩ | undefined
    · exact ⟨surfaces, made.get?_eq⟩
    · exact ⟨{}, (undefined.get?_eq session).trans get?_initial_default⟩
  rw [Definitions.fallback, found, Option.getD_some]

/-- A name that never was defined means what `default` means. -/
theorem NeverDefined.named_eq (undefined : NeverDefined statements name) (session : Session) :
    ((start session).performAll statements).definitions.named name
      = ((start session).performAll statements).definitions.fallback := by
  by_cases same : name = Definitions.defaultName
  · rw [same, Definitions.named, get?_definitions_default session statements, Option.getD_some]
  · rw [Definitions.named, undefined.get?_eq session, get?_initial_of_ne same, Option.getD_none]

theorem InForce.named_eq (inForce : InForce session statements name surfaces) :
    ((start session).performAll statements).definitions.named name = surfaces := by
  cases inForce with
  | named made => rw [Definitions.named, made.get?_eq, Option.getD_some]
  | byDefault undefined made =>
    rw [undefined.named_eq, Definitions.fallback, made.get?_eq, Option.getD_some]
  | bare undefined noDefault =>
    rw [undefined.named_eq, Definitions.fallback, noDefault.get?_eq, get?_initial_default,
      Option.getD_some]

/-- A name means exactly one thing, and that is what a room of the name is built with. -/
theorem inForce_iff :
    InForce session statements name surfaces
      ↔ surfaces = ((start session).performAll statements).definitions.named name := by
  refine ⟨fun inForce => inForce.named_eq.symm, ?_⟩
  rintro rfl
  rcases exists_lastMade_or_neverDefined session statements name with ⟨surfaces, made⟩ | undefined
  · have inForce := InForce.named made
    rwa [inForce.named_eq]
  · rcases exists_lastMade_or_neverDefined session statements Definitions.defaultName with
      ⟨surfaces, made⟩ | noDefault
    · have inForce := InForce.byDefault undefined made
      rwa [inForce.named_eq]
    · have inForce : InForce session statements name {} := .bare undefined noDefault
      rwa [inForce.named_eq]

end Construction

/-! ### One more report -/

/-- A session that is the same as another one but for a diagnostic that it reported after the
first ones. -/
def Session.HasOneMore (before : List Diagnostic) (more : Diagnostic) (session other : Session) :
    Prop :=
  ∃ after, other.log = before ++ after
    ∧ session = { other with log := before ++ more :: after }

/-- Two runs of which one has reported a diagnostic more. -/
def SessionCoupling.oneMore (before : List Diagnostic) (more : Diagnostic) : SessionCoupling where
  Related := Session.HasOneMore before more
  report := by
    rintro _ other ⟨after, log, rfl⟩ diagnostics
    refine ⟨after ++ diagnostics, ?_, ?_⟩
    · rw [Session.report, log, List.append_assoc]
    · rw [Session.report, Session.report, List.append_assoc, List.cons_append]
  noteQuery := by
    rintro _ other ⟨after, log, rfl⟩ query
    exact ⟨after, log, rfl⟩
  answers := by
    rintro _ other ⟨_, _, rfl⟩
    rfl
  tileSize := by
    rintro _ other ⟨_, _, rfl⟩
    rfl
  light := by
    rintro _ other ⟨_, _, rfl⟩
    rfl

/-- A compile that comes to the same as another one but for a diagnostic that it reported after
the first ones. -/
structure Compiled.HasOneMore (before : List Diagnostic) (more : Diagnostic)
    (compiled other : Compiled) : Prop where
  level : compiled.level = other.level
  session : compiled.session.HasOneMore before more other.session

/-- Marking looks at no report. -/
theorem Session.HasOneMore.markPolygons {before : List Diagnostic} {more : Diagnostic}
    {session other : Session} (oneMore : session.HasOneMore before more other)
    (polygons : List (Polygon Float)) :
    (session.markPolygons polygons).HasOneMore before more (other.markPolygons polygons) := by
  obtain ⟨after, log, rfl⟩ := oneMore
  refine ⟨after, (log_markPolygons other polygons).trans log, ?_⟩
  rw [markPolygons_eq_withUsed, markPolygons_eq_withUsed other, used_markPolygons,
    used_markPolygons]

namespace Construction

/-- Where one of two statements in the same place only reports a diagnostic more, so does the
compile. -/
theorem hasOneMore_compileStatements {session : Session} {before : List Diagnostic}
    {more : Diagnostic} {earlier later : List Statement} {statement statement' : Statement}
    (lockstep : (SessionCoupling.oneMore before more).Lockstep
      (((start session).performAll earlier).perform statement)
      (((start session).performAll earlier).perform statement')) :
    (compileStatements session (earlier ++ statement :: later)).HasOneMore before more
      (compileStatements session (earlier ++ statement' :: later)) := by
  have built : (SessionCoupling.oneMore before more).Lockstep
      ((start session).performAll (earlier ++ statement :: later))
      ((start session).performAll (earlier ++ statement' :: later)) := by
    rw [performAll_append, performAll_append]
    exact lockstep.performAll later
  have level : (compileStatements session (earlier ++ statement :: later)).level
      = (compileStatements session (earlier ++ statement' :: later)).level := by
    simp only [compileStatements_eq, built.level]
  refine ⟨level, ?_⟩
  simp only [compileStatements_eq, built.level]
  exact Session.HasOneMore.markPolygons built.session _

/-- A room of a name that is not in the table is built like one of `default`, with a warning. -/
theorem lockstep_addRoom_default {state : Construction} {name : String}
    (unknown : state.definitions.get? name = none)
    (known : state.definitions.get? Definitions.defaultName = some state.definitions.fallback)
    {size : Vec3 Number} {extent : Vec3 Float} (accepted : state.resolveSize size = .ok extent)
    (line : Nat) (alignments : List Alignment) :
    (SessionCoupling.oneMore state.session.log
        (.warning line (ConstructionWarning.unknownDefinition name).message)).Lockstep
      (state.addRoom line size name alignments)
      (state.addRoom line size Definitions.defaultName alignments) := by
  rw [addRoom, addRoom, accepted]
  simp only [surfacesNamed, unknown, known]
  refine SessionCoupling.Lockstep.placeRoom ?_ extent _ alignments
  exact ⟨⟨[], (List.append_nil _).symm, rfl⟩, rfl, rfl, rfl, rfl⟩

/-- A room that is accepted is there to the end, as it was built but for its lights. -/
theorem getElem?_unlit_of_accepted {session : Session} {earlier : List Statement}
    {size : Vec3 Number} {extent : Vec3 Float}
    (accepted : ((start session).performAll earlier).resolveSize size = .ok extent) (line : Nat)
    (definition : String) (alignments : List Alignment) (later : List Statement) :
    let found := (start session).performAll earlier
    let placing : Statement := ⟨line, .addRoom size definition alignments⟩
    ((start session).performAll (earlier ++ placing :: later)).level.unlit[found.level.length]?
      = some (found.nextRoom extent definition alignments) := by
  intro found placing
  have level : (found.perform placing).level
      = found.level ++ [found.nextRoom extent definition alignments] := by
    rw [level_perform_eq]
    dsimp only [placing]
    rw [accepted]
    rfl
  have atIndex : (found.perform placing).level[found.level.length]?
      = some (found.nextRoom extent definition alignments) := by
    rw [level, List.getElem?_concat_length]
  obtain ⟨room, stays, unlit⟩ := Level.getElem?_of_unlit_isPrefix
    (unlit_isPrefix_performAll (found.perform placing) later) atIndex
  rw [performAll_append, Level.getElem?_unlit]
  exact (congrArg (Option.map Room.unlit) stays).trans (congrArg some unlit)

/-- Where an addition is rejected, the name in it makes no difference. -/
theorem compileStatements_of_rejected {session : Session} {earlier : List Statement}
    {size : Vec3 Number} {error : ConstructionError}
    (refused : ((start session).performAll earlier).resolveSize size = .error error) (line : Nat)
    (definition other : String) (alignments : List Alignment) (later : List Statement) :
    compileStatements session (earlier ++ ⟨line, .addRoom size definition alignments⟩ :: later)
      = compileStatements session (earlier ++ ⟨line, .addRoom size other alignments⟩ :: later) := by
  have same : ((start session).performAll earlier).perform
        ⟨line, .addRoom size definition alignments⟩
      = ((start session).performAll earlier).perform ⟨line, .addRoom size other alignments⟩ :=
    (addRoom_of_error line refused definition alignments).trans
      (addRoom_of_error line refused other alignments).symm
  have built : (start session).performAll
        (earlier ++ ⟨line, .addRoom size definition alignments⟩ :: later)
      = (start session).performAll
        (earlier ++ ⟨line, .addRoom size other alignments⟩ :: later) := by
    rw [performAll_append, performAll_append]
    exact congrArg (performAll · later) same
  rw [compileStatements_eq, compileStatements_eq, built]

/-- Names mean at each line what their last definitions made, and `default` stands in for the
others. -/
structure UsesDefinitionsInForce (session : Session) (statements : List Statement) : Prop where
  /-- A room that is accepted is built with the one thing that its name means then, and stays as
  it was built, but for its lights. -/
  built : ∀ {earlier size definition alignments extent},
    (Action.addRoom size definition alignments).StandsAfter earlier statements →
    ((start session).performAll earlier).resolveSize size = .ok extent →
    let found := (start session).performAll earlier
    let position := ((found.cursor.setNewSize extent).moveBy alignments).state.position
    ∃ surfaces, (∀ other, InForce session earlier definition other ↔ other = surfaces)
      ∧ ((start session).performAll statements).level.unlit[found.level.length]?
        = some (Room.build found.session.config.tileSize position extent surfaces)
  /-- A definition changes no room. -/
  defining : ∀ {earlier line name rules later},
    statements = earlier ++ ⟨line, .define name rules⟩ :: later →
    ((start session).performAll (earlier ++ [⟨line, .define name rules⟩])).level
      = ((start session).performAll earlier).level
  /-- The table always has `default`. -/
  default_defined : ∀ earlier, earlier <+: statements →
    let definitions := ((start session).performAll earlier).definitions
    definitions.get? Definitions.defaultName = some definitions.fallback
  /-- Where a name was never defined, `default` in its place spares a warning if the room is
  accepted, and changes nothing else. -/
  replaced : ∀ {earlier line size name alignments later},
    statements = earlier ++ ⟨line, .addRoom size name alignments⟩ :: later →
    NeverDefined earlier name → name ≠ Definitions.defaultName →
    let found := (start session).performAll earlier
    let replacement := earlier ++ ⟨line, .addRoom size Definitions.defaultName alignments⟩ :: later
    let warning := Diagnostic.warning line (ConstructionWarning.unknownDefinition name).message
    (∀ extent, found.resolveSize size = .ok extent →
        (compileStatements session statements).HasOneMore found.session.log warning
          (compileStatements session replacement))
      ∧ ∀ error, found.resolveSize size = .error error →
        compileStatements session statements = compileStatements session replacement

/-- Rooms use the definition in force at their line, for every program. Looking back from an
accepted room, that is the last definition of its name, or else the last one of `default`, or
else the placeholder on all faces; a definition covers each face as the last of its rules for
the face says, and later definitions change no room. So a name without a definition can be
replaced by `default`, which is always in the table, at the price of a warning. -/
theorem rooms_use_definition_in_force (session : Session) (statements : List Statement) :
    UsesDefinitionsInForce session statements where
  built := by
    rintro earlier size definition alignments extent ⟨line, later, rfl⟩ accepted found position
    exact ⟨found.definitions.named definition, fun _ => inForce_iff,
      getElem?_unlit_of_accepted accepted line definition alignments later⟩
  defining := by
    rintro earlier line name rules later -
    rw [performAll_append]
    rfl
  default_defined earlier _ := get?_definitions_default session earlier
  replaced := by
    rintro earlier line size name alignments later rfl undefined other found replacement warning
    constructor
    · intro extent accepted
      have unknown := (undefined.get?_eq session).trans (get?_initial_of_ne other)
      exact hasOneMore_compileStatements
        (lockstep_addRoom_default unknown (get?_definitions_default session earlier) accepted line
          alignments)
    · intro error refused
      exact compileStatements_of_rejected refused line name _ alignments later

/-- Walls that are covered, one taken out, all covered anew, and another one taken out; then the
name gets another meaning, and a room asks for a name that has none. -/
theorem rooms_use_definition_in_force_overlapping :
    let session : Session :=
      { config := {}, textures := fun _ => ⟨fun name => some (.builtin name), fun _ _ => none⟩ }
    let size : Vec3 Number := ⟨.literal 100, .literal 100, .literal 100⟩
    let rules : List FaceRule :=
      [⟨2, .walls, .builtin "plank" {}⟩, ⟨3, .single .wallNorth, .off⟩,
        ⟨4, .walls, .builtin "stone" { x := true }⟩, ⟨5, .single .wallEast, .off⟩]
    let stone : Covering := { texture := .builtin "stone", fit := { x := true } }
    let hall : Surfaces :=
      { wallNorth := stone, wallEast := .removed, wallSouth := stone, wallWest := stone }
    let first : List Statement := [⟨1, .define "hall" rules⟩, ⟨6, .addRoom size "hall" []⟩]
    let second : List Statement := [⟨7, .define "hall" []⟩]
    let replacement := first ++ second ++ [⟨8, .addRoom size "default" []⟩]
    let statements := first ++ second ++ [⟨8, .addRoom size "palace" []⟩]
    ((start session).performAll statements).level.unlit[0]?
        = some (Room.build 100 ⟨0, 0, 0⟩ ⟨100, 100, 100⟩ hall)
      ∧ ((start session).performAll (first ++ second)).level
        = ((start session).performAll first).level
      ∧ (compileStatements session statements).HasOneMore []
        (.warning 8 "unknown definition 'palace', using 'default'")
        (compileStatements session replacement) := by
  intro session size rules stone hall first second replacement statements
  have uses := rooms_use_definition_in_force session statements
  have accepted : ((start session).performAll [⟨1, .define "hall" rules⟩]).resolveSize size
      = .ok ⟨100, 100, 100⟩ := by
    decide +kernel
  have origin : ((((start session).performAll [⟨1, .define "hall" rules⟩]).cursor.setNewSize
      ⟨100, 100, 100⟩).moveBy []).state.position = ⟨0, 0, 0⟩ := by
    decide +kernel
  obtain ⟨surfaces, unique, room⟩ := uses.built ⟨6, _, rfl⟩ accepted
  have inForce : InForce session [⟨1, .define "hall" rules⟩] "hall" hall :=
    inForce_iff.mpr (by decide +kernel)
  obtain rfl := (unique hall).mp inForce
  have acceptedAgain : ((start session).performAll (first ++ second)).resolveSize size
      = .ok ⟨100, 100, 100⟩ := by
    decide +kernel
  have undefined : NeverDefined (first ++ second) "palace" := by
    simp [NeverDefined, first, second, Action.defines]
  have replaced := (uses.replaced rfl undefined (by decide)).1 _ acceptedAgain
  have nothingReported : ((start session).performAll (first ++ second)).session.log = [] := by
    decide +kernel
  rw [nothingReported] at replaced
  rw [origin] at room
  exact ⟨room, uses.defining rfl, replaced⟩

end Construction

end RoomLayout

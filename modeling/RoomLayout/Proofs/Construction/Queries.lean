import RoomLayout.Proofs.Construction.Invariant
import RoomLayout.Proofs.Construction.Lockstep

/-!
# Queries

Statements ask the source of textures for what the rules of definitions say, in their order,
and for nothing else. So two sources that agree on these queries make the same surfaces, and
runs with them are coupled.
-/

namespace RoomLayout

/-- What the source of a covering asks for. -/
def FaceSource.query? : FaceSource → Option TextureQuery
  | .off => none
  | .builtin name _ => some (.builtin name)
  | .custom folder filename _ => some (.custom folder filename)

/-- What the rules of a definition ask for, in order. -/
def rulesQueries (rules : List FaceRule) : List TextureQuery :=
  rules.filterMap fun rule => rule.source.query?

/-- What an action asks for, in order. -/
def Action.queries : Action → List TextureQuery
  | define _ rules => rulesQueries rules
  | addRoom _ _ _ | addLight _ | saveCursor _ | restoreCursor _ | assign _ _ => []

/-! ### What is asked -/

namespace Construction

theorem asked_orPlaceholder (session : Session) (line : Nat) (fault : TextureFault)
    (found : Option Texture) :
    (session.orPlaceholder line fault found).2.asked = session.asked := by
  cases found <;> rfl

/-- A covering asks for what its source says. -/
theorem asked_covering (session : Session) (line : Nat) (source : FaceSource) :
    (covering session line source).2.asked = source.query?.toList ++ session.asked := by
  cases source with
  | off => rfl
  | builtin name fit => exact asked_orPlaceholder _ _ _ _
  | custom folder filename fit => exact asked_orPlaceholder _ _ _ _

theorem asked_foldl_applyRule (rules : List FaceRule) (state : Surfaces × Session) :
    (rules.foldl applyRule state).2.asked = (rulesQueries rules).reverse ++ state.2.asked := by
  induction rules generalizing state with
  | nil => rfl
  | cons rule rest inductionHypothesis =>
    rw [List.foldl_cons, inductionHypothesis, applyRule, asked_covering, rulesQueries, rulesQueries,
      List.filterMap_cons]
    cases rule.source.query? with
    | none => rfl
    | some query => simp

theorem keepsAsked (asked : List TextureQuery) :
    UnnamedInvariant (fun later => later.session.asked = asked) where
  reporting kept _ := kept
  placeRoom kept _ _ _ := kept
  light kept _ := kept
  restore kept _ := kept

/-- A statement asks for what its rules say. -/
theorem asked_perform (state : Construction) (statement : Statement) :
    (state.perform statement).session.asked
      = statement.action.queries.reverse ++ state.session.asked := by
  obtain ⟨line, action⟩ := statement
  cases action with
  | define name rules => exact asked_foldl_applyRule rules _
  | addRoom _ _ _ | addLight _ | restoreCursor _ =>
    exact (keepsAsked state.session.asked).perform rfl rfl
  | saveCursor _ | assign _ _ => rfl

/-- A run asks for what its statements say, in their order. -/
theorem asked_performAll (state : Construction) (statements : List Statement) :
    (state.performAll statements).session.asked
      = (statements.flatMap (·.action.queries)).reverse ++ state.session.asked := by
  induction statements generalizing state with
  | nil => rfl
  | cons statement rest inductionHypothesis =>
    calc
      ((state.perform statement).performAll rest).session.asked
      _ = (rest.flatMap (·.action.queries)).reverse
            ++ (statement.action.queries.reverse ++ state.session.asked) := by
        rw [inductionHypothesis, asked_perform]
      _ = ((statement :: rest).flatMap (·.action.queries)).reverse ++ state.session.asked := by
        rw [List.flatMap_cons, List.reverse_append, List.append_assoc]

end Construction

/-! ### Sources that agree -/

/-- What a source of textures answers to a query. -/
def TextureSource.answer (source : TextureSource) : TextureQuery → Option Texture
  | .builtin name => source.builtin name
  | .custom folder filename => source.custom folder filename

/-- A source of textures is what it answers. -/
theorem TextureSource.ext_answer {source source' : TextureSource}
    (same : ∀ query, source.answer query = source'.answer query) : source = source' := by
  obtain ⟨builtin, custom⟩ := source
  obtain ⟨builtin', custom'⟩ := source'
  congr
  · exact funext fun name => same (.builtin name)
  · exact funext fun folder => funext fun filename => same (.custom folder filename)

/-- The same settings, and from now on the same answers to the queries that count. -/
structure Session.AgreesOn (Counts : TextureQuery → Prop) (session session' : Session) :
    Prop where
  config : session.config = session'.config
  answers : ∀ queries query, Counts query →
    (session.textures (queries ++ session.asked)).answer query
      = (session'.textures (queries ++ session'.asked)).answer query

namespace Session.AgreesOn

variable {Counts : TextureQuery → Prop} {session session' : Session}

/-- Reports do not count. -/
theorem report (agree : session.AgreesOn Counts session')
    (diagnostics diagnostics' : List Diagnostic) :
    (session.report diagnostics).AgreesOn Counts (session'.report diagnostics') :=
  ⟨agree.config, agree.answers⟩

theorem noteQuery (agree : session.AgreesOn Counts session') (query : TextureQuery) :
    (session.noteQuery query).AgreesOn Counts (session'.noteQuery query) where
  config := agree.config
  answers queries other counts := by
    have answers := agree.answers (queries ++ [query]) other counts
    rwa [List.append_assoc, List.append_assoc] at answers

theorem orPlaceholder (agree : session.AgreesOn Counts session') (line : Nat)
    (fault : TextureFault) (found : Option Texture) :
    (session.orPlaceholder line fault found).1 = (session'.orPlaceholder line fault found).1
      ∧ (session.orPlaceholder line fault found).2.AgreesOn Counts
        (session'.orPlaceholder line fault found).2 := by
  cases found with
  | some texture => exact ⟨rfl, agree⟩
  | none => exact ⟨rfl, agree.report _ _⟩

/-- A source that asks for what counts stands for the same covering. -/
theorem covering (agree : session.AgreesOn Counts session') (line : Nat) {source : FaceSource}
    (asks : ∀ query ∈ source.query?, Counts query) :
    (Construction.covering session line source).1 = (Construction.covering session' line source).1
      ∧ (Construction.covering session line source).2.AgreesOn Counts
        (Construction.covering session' line source).2 := by
  cases source with
  | off => exact ⟨rfl, agree⟩
  | builtin name fit =>
    have same : (session.textures session.asked).builtin name
        = (session'.textures session'.asked).builtin name :=
      agree.answers [] _ (asks (.builtin name) rfl)
    obtain ⟨texture, after⟩ := (agree.noteQuery (.builtin name)).orPlaceholder line
      (.unknownName name) ((session'.textures session'.asked).builtin name)
    simp only [Construction.covering, builtinTexture, same]
    exact ⟨by rw [texture], after⟩
  | custom folder filename fit =>
    have same : (session.textures session.asked).custom folder filename
        = (session'.textures session'.asked).custom folder filename :=
      agree.answers [] _ (asks (.custom folder filename) rfl)
    obtain ⟨texture, after⟩ := (agree.noteQuery (.custom folder filename)).orPlaceholder line
      (.fileNotFound folder filename) ((session'.textures session'.asked).custom folder filename)
    simp only [Construction.covering, customTexture, same]
    exact ⟨by rw [texture], after⟩

/-- Rules that ask for what counts cover surfaces alike. -/
theorem foldl_applyRule (agree : session.AgreesOn Counts session') {rules : List FaceRule}
    (asks : ∀ query ∈ rulesQueries rules, Counts query) (surfaces : Surfaces) :
    (rules.foldl Construction.applyRule (surfaces, session)).1
        = (rules.foldl Construction.applyRule (surfaces, session')).1
      ∧ (rules.foldl Construction.applyRule (surfaces, session)).2.AgreesOn Counts
        (rules.foldl Construction.applyRule (surfaces, session')).2 := by
  induction rules generalizing session session' surfaces with
  | nil => exact ⟨rfl, agree⟩
  | cons rule rest inductionHypothesis =>
    have ofRule : ∀ query ∈ rule.source.query?, Counts query := fun query asked =>
      asks query (List.mem_filterMap.mpr ⟨rule, List.mem_cons_self, asked⟩)
    have ofRest : ∀ query ∈ rulesQueries rest, Counts query := by
      intro query asked
      obtain ⟨other, inRest, isQuery⟩ := List.mem_filterMap.mp asked
      exact asks query (List.mem_filterMap.mpr ⟨other, List.mem_cons_of_mem _ inRest, isQuery⟩)
    obtain ⟨covering, after⟩ := agree.covering rule.line ofRule
    rw [List.foldl_cons, List.foldl_cons, Construction.applyRule, Construction.applyRule]
    simp only [covering]
    exact inductionHypothesis after ofRest _

/-- Rules that ask for what counts describe the same surfaces. -/
theorem surfacesOf (agree : session.AgreesOn Counts session') {rules : List FaceRule}
    (asks : ∀ query ∈ rulesQueries rules, Counts query) :
    (Construction.surfacesOf session rules).1 = (Construction.surfacesOf session' rules).1
      ∧ (Construction.surfacesOf session rules).2.AgreesOn Counts
        (Construction.surfacesOf session' rules).2 :=
  agree.foldl_applyRule asks {}

end Session.AgreesOn

/-- The same settings, and the same answers to all queries from now on. -/
structure Session.AnswersLike (session session' : Session) : Prop where
  config : session.config = session'.config
  answers : ∀ queries, session.textures (queries ++ session.asked)
    = session'.textures (queries ++ session'.asked)

namespace Session.AnswersLike

variable {session session' : Session}

theorem refl (session : Session) : session.AnswersLike session := ⟨rfl, fun _ => rfl⟩

/-- Reports do not count. -/
theorem report (alike : session.AnswersLike session') (diagnostics diagnostics' : List Diagnostic) :
    (session.report diagnostics).AnswersLike (session'.report diagnostics') :=
  ⟨alike.config, alike.answers⟩

/-- All queries count. -/
theorem iff_agreesOn :
    session.AnswersLike session' ↔ session.AgreesOn (fun _ => True) session' := by
  constructor
  · rintro ⟨config, answers⟩
    exact ⟨config, fun queries query _ => by rw [answers]⟩
  · rintro ⟨config, answers⟩
    exact ⟨config, fun queries => TextureSource.ext_answer fun query =>
      answers queries query trivial⟩

/-- Rules describe the same surfaces. -/
theorem surfacesOf (alike : session.AnswersLike session') (rules : List FaceRule) :
    (Construction.surfacesOf session rules).1 = (Construction.surfacesOf session' rules).1
      ∧ (Construction.surfacesOf session rules).2.AnswersLike
        (Construction.surfacesOf session' rules).2 := by
  rw [iff_agreesOn] at alike ⊢
  exact alike.surfacesOf fun _ _ => trivial

end Session.AnswersLike

/-! ### Couplings -/

/-- Two runs of a program that makes no queries but those that count, on which the two sources
of textures agree. -/
def Coupling.agreeingOn (Counts : TextureQuery → Prop) : Coupling where
  Sessions := Session.AgreesOn Counts
  Covered := (· = ·)
  Rules rules rules' := rules = rules' ∧ ∀ query ∈ rulesQueries rules, Counts query
  Levels := (· = ·)
  sameConfig agree := agree.config
  report agree diagnostics diagnostics' := agree.report diagnostics diagnostics'
  bare := rfl
  define := by
    rintro session session' rules _ agree ⟨rfl, asks⟩
    exact agree.surfacesOf asks
  place := by
    rintro level _ surfaces _ rfl rfl tileSize origin size
    rfl
  light := by
    rintro level _ rfl config cursor modifier
    rfl

/-- Two runs that build alike from some room on: after the first `count` rooms of the one
and the first `count'` rooms of the other. -/
def Coupling.fromRoom (count count' : Nat) : Coupling where
  Sessions := Session.AnswersLike
  Covered := (· = ·)
  Rules := (· = ·)
  Levels level level' := count ≤ level.length ∧ count' ≤ level'.length
    ∧ level.drop count = level'.drop count'
  sameConfig alike := alike.config
  report alike diagnostics diagnostics' := alike.report diagnostics diagnostics'
  bare := rfl
  define := by
    rintro session session' rules _ alike rfl
    exact alike.surfacesOf rules
  place := by
    rintro level level' surfaces _ ⟨inRange, inRange', same⟩ rfl tileSize origin size
    refine ⟨by simp; omega, by simp; omega, ?_⟩
    rw [List.drop_append_of_le_length inRange, List.drop_append_of_le_length inRange', same]
  light := by
    rintro level level' ⟨inRange, inRange', same⟩ config cursor modifier
    refine ⟨by simpa using inRange, by simpa using inRange', ?_⟩
    rw [Level.drop_withLight _ _ _ inRange, Level.drop_withLight _ _ _ inRange', same]

end RoomLayout

import Mathlib.Data.List.Forall2
import RoomLayout.Proofs.Construction.Effects

/-!
# Constructions in lockstep

Two runs are compared statement by statement. A coupling says in what they may differ:
the sessions, the surfaces of definitions, the rules that these come from, and the rooms.
Its laws say that asking for textures, placing a room and hanging a light keep the
difference of that kind. All else that statements consult is the same on both sides, so
related programs keep two coupled constructions coupled, whatever the coupling is
(`Lockstep.performAll`).
-/

namespace RoomLayout

namespace NameTable

variable {β γ : Type}

/-- Two tables with the same names, whose values are related. -/
def Related (R : β → γ → Prop) (table : NameTable β) (other : NameTable γ) : Prop :=
  List.Forall₂ (fun entry entry' => entry.1 = entry'.1 ∧ R entry.2 entry'.2)
    table.entries other.entries

namespace Related

variable {R : β → γ → Prop} {table : NameTable β} {other : NameTable γ}

/-- A name means related values, or nothing in both tables. -/
theorem get? (related : table.Related R other) (name : String) :
    Option.Rel R (table.get? name) (other.get? name) := by
  obtain ⟨entries⟩ := table
  obtain ⟨entries'⟩ := other
  simp only [Related, NameTable.get?] at related ⊢
  induction related with
  | nil => exact .none
  | cons entry _ inductionHypothesis =>
    obtain ⟨sameName, value⟩ := entry
    rw [List.lookup_cons, List.lookup_cons, ← sameName]
    split
    · exact .some value
    · exact inductionHypothesis

/-- The value of a name, or else another one. -/
theorem getD (related : table.Related R other) (name : String) {value : β} {value' : γ}
    (fallback : R value value') :
    R ((table.get? name).getD value) ((other.get? name).getD value') := by
  have found := related.get? name
  generalize table.get? name = left, other.get? name = right at found
  cases found with
  | none => exact fallback
  | some values => exact values

/-- Tables stay related when a name is given related values. -/
theorem insert (related : table.Related R other) (name : String) {value : β} {value' : γ}
    (values : R value value') : (table.insert name value).Related R (other.insert name value') := by
  refine .cons ⟨rfl, values⟩ (List.rel_filter ?_ related)
  intro entry entry' same
  simp only [same.1]

/-- Tables with equal values are equal. -/
theorem eq {table other : NameTable β} (related : table.Related (· = ·) other) :
    table = other := by
  have entries : table.entries = other.entries := by
    rw [← List.forall₂_eq_eq_eq]
    exact related.imp fun _ _ same => Prod.ext same.1 same.2
  obtain ⟨_⟩ := table
  obtain ⟨_⟩ := other
  exact congrArg NameTable.mk entries

end Related

end NameTable

/-- The same action, but for the rules that a definition is made from. -/
inductive Action.SameButRules (Rules : List FaceRule → List FaceRule → Prop) :
    Action → Action → Prop where
  | define (name : String) {rules rules' : List FaceRule} (related : Rules rules rules') :
      SameButRules Rules (.define name rules) (.define name rules')
  | addRoom (size : Vec3 Number) (definition : String) (alignments : List Alignment) :
      SameButRules Rules (.addRoom size definition alignments) (.addRoom size definition alignments)
  | addLight (argument : LightArgument) :
      SameButRules Rules (.addLight argument) (.addLight argument)
  | saveCursor (name : String) : SameButRules Rules (.saveCursor name) (.saveCursor name)
  | restoreCursor (name : String) : SameButRules Rules (.restoreCursor name) (.restoreCursor name)
  | assign (name : String) (value : Value) :
      SameButRules Rules (.assign name value) (.assign name value)

/-- The same statement, but for the rules that a definition is made from and the line. -/
def Statement.SameButRules (Rules : List FaceRule → List FaceRule → Prop)
    (statement statement' : Statement) : Prop :=
  statement.action.SameButRules Rules statement'.action

theorem Statement.SameButRules.refl {Rules : List FaceRule → List FaceRule → Prop}
    (reflexive : ∀ rules, Rules rules rules) (statement : Statement) :
    statement.SameButRules Rules statement := by
  obtain ⟨line, action⟩ := statement
  cases action with
  | define name rules => exact .define name (reflexive rules)
  | addRoom size definition alignments => exact .addRoom size definition alignments
  | addLight argument => exact .addLight argument
  | saveCursor name => exact .saveCursor name
  | restoreCursor name => exact .restoreCursor name
  | assign name value => exact .assign name value

open Construction in
/-- What two runs may differ in, and that they go on to differ in nothing else. -/
structure Coupling where
  Sessions : Session → Session → Prop
  Covered : Surfaces → Surfaces → Prop
  Rules : List FaceRule → List FaceRule → Prop
  Levels : Level Float → Level Float → Prop
  sameConfig : ∀ {session session'}, Sessions session session' → session.config = session'.config
  report : ∀ {session session'}, Sessions session session' → ∀ diagnostics diagnostics',
    Sessions (session.report diagnostics) (session'.report diagnostics')
  bare : Covered {} {}
  define : ∀ {session session' rules rules'}, Sessions session session' → Rules rules rules' →
    Covered (surfacesOf session rules).1 (surfacesOf session' rules').1
      ∧ Sessions (surfacesOf session rules).2 (surfacesOf session' rules').2
  place : ∀ {level level' surfaces surfaces'}, Levels level level' → Covered surfaces surfaces' →
    ∀ tileSize origin size, Levels (level ++ [Room.build tileSize origin size surfaces])
      (level' ++ [Room.build tileSize origin size surfaces'])
  light : ∀ {level level'}, Levels level level' → ∀ config cursor modifier,
    Levels (level.withLight (lightIn config cursor modifier))
      (level'.withLight (lightIn config cursor modifier))

/-- Two constructions that differ only in what a coupling allows. -/
structure Coupling.Lockstep (coupling : Coupling) (state state' : Construction) : Prop where
  session : coupling.Sessions state.session state'.session
  values : state.values = state'.values
  definitions : state.definitions.table.Related coupling.Covered state'.definitions.table
  cursor : state.cursor = state'.cursor
  level : coupling.Levels state.level state'.level

namespace Coupling.Lockstep

variable {coupling : Coupling} {state state' : Construction}

/-- Runs start in lockstep from related sessions, where levels without rooms are related. -/
theorem start {session session' : Session} (sessions : coupling.Sessions session session')
    (empty : coupling.Levels [] []) :
    coupling.Lockstep (Construction.start session) (Construction.start session') where
  session := sessions
  values := rfl
  definitions := .cons ⟨rfl, coupling.bare⟩ .nil
  cursor := rfl
  level := empty

/-- Either side may report what it likes. -/
theorem reporting (lockstep : coupling.Lockstep state state')
    (diagnostics diagnostics' : List Diagnostic) :
    coupling.Lockstep (state.reporting diagnostics) (state'.reporting diagnostics') :=
  { lockstep with session := coupling.report lockstep.session diagnostics diagnostics' }

/-- A name stands for related surfaces, also where it stands for those of `default`. -/
theorem named (lockstep : coupling.Lockstep state state') (name : String) :
    coupling.Covered (state.definitions.named name) (state'.definitions.named name) :=
  lockstep.definitions.getD name (lockstep.definitions.getD Definitions.defaultName coupling.bare)

theorem define (lockstep : coupling.Lockstep state state') (name : String)
    {rules rules' : List FaceRule} (related : coupling.Rules rules rules') :
    coupling.Lockstep (state.define name rules) (state'.define name rules') := by
  obtain ⟨covered, sessions⟩ := coupling.define lockstep.session related
  exact { lockstep with
    session := sessions
    definitions := lockstep.definitions.insert name covered }

theorem placeRoom (lockstep : coupling.Lockstep state state') (extent : Vec3 Float)
    {surfaces surfaces' : Surfaces} (covered : coupling.Covered surfaces surfaces')
    (alignments : List Alignment) :
    coupling.Lockstep (state.placeRoom extent surfaces alignments)
      (state'.placeRoom extent surfaces' alignments) := by
  constructor
  case session => exact lockstep.session
  case values => exact lockstep.values
  case definitions => exact lockstep.definitions
  case cursor => simp only [Construction.placeRoom, lockstep.cursor]
  case level =>
    simp only [Construction.placeRoom, lockstep.cursor, coupling.sameConfig lockstep.session]
    exact coupling.place lockstep.level covered _ _ _

theorem addRoom (lockstep : coupling.Lockstep state state') (line line' : Nat)
    (size : Vec3 Number) (definition : String) (alignments : List Alignment) :
    coupling.Lockstep (state.addRoom line size definition alignments)
      (state'.addRoom line' size definition alignments) := by
  have sameSize := Construction.resolveSize_congr lockstep.values
    (coupling.sameConfig lockstep.session) size
  cases resolved : state'.resolveSize size with
  | error error =>
    rw [Construction.addRoom_of_error line (sameSize.trans resolved),
      Construction.addRoom_of_error line' resolved]
    exact lockstep.reporting _ _
  | ok extent =>
    obtain ⟨diagnostics, placed⟩ :=
      Construction.addRoom_of_ok line (sameSize.trans resolved) definition alignments
    obtain ⟨diagnostics', placed'⟩ :=
      Construction.addRoom_of_ok line' resolved definition alignments
    rw [placed, placed']
    exact (lockstep.reporting diagnostics diagnostics').placeRoom extent
      (lockstep.named definition) alignments

theorem addLight (lockstep : coupling.Lockstep state state') (line line' : Nat)
    (argument : LightArgument) :
    coupling.Lockstep (state.addLight line argument) (state'.addLight line' argument) := by
  cases resolved : Construction.resolveLight state'.values argument with
  | error error =>
    rw [Construction.addLight_of_error line (lockstep.values ▸ resolved),
      Construction.addLight_of_error line' resolved]
    exact lockstep.reporting _ _
  | ok light =>
    obtain ⟨diagnostics, hung⟩ :=
      Construction.addLight_of_ok line (lockstep.values ▸ resolved)
    obtain ⟨diagnostics', hung'⟩ := Construction.addLight_of_ok line' resolved
    rw [hung, hung', lockstep.cursor, coupling.sameConfig lockstep.session]
    exact { lockstep.reporting diagnostics diagnostics' with
      level := coupling.light lockstep.level _ _ _ }

theorem restore (lockstep : coupling.Lockstep state state') (line line' : Nat) (name : String) :
    coupling.Lockstep (state.restore line name) (state'.restore line' name) := by
  have sameSaved : state.cursor.saved.get? name = state'.cursor.saved.get? name := by
    rw [lockstep.cursor]
  cases found : state'.cursor.saved.get? name with
  | none =>
    rw [Construction.restore_of_not_saved line (sameSaved.trans found),
      Construction.restore_of_not_saved line' found]
    exact lockstep.reporting _ _
  | some snapshot =>
    rw [Construction.restore_of_saved line (sameSaved.trans found),
      Construction.restore_of_saved line' found, lockstep.cursor]
    exact { lockstep with cursor := rfl }

/-- One statement on either side, the same but for related rules, keeps the lockstep. -/
theorem perform (lockstep : coupling.Lockstep state state') {statement statement' : Statement}
    (same : statement.SameButRules coupling.Rules statement') :
    coupling.Lockstep (state.perform statement) (state'.perform statement') := by
  obtain ⟨line, action⟩ := statement
  obtain ⟨line', action'⟩ := statement'
  cases same with
  | define name related => exact lockstep.define name related
  | addRoom size definition alignments => exact lockstep.addRoom line line' size definition alignments
  | addLight argument => exact lockstep.addLight line line' argument
  | saveCursor name => exact { lockstep with cursor := congrArg (Cursor.saveAs · name) lockstep.cursor }
  | restoreCursor name => exact lockstep.restore line line' name
  | assign name value =>
    exact { lockstep with values := congrArg (NameTable.insert · name value) lockstep.values }

/-- Programs that are the same but for related rules keep the lockstep. -/
theorem performAll (lockstep : coupling.Lockstep state state')
    {statements statements' : List Statement}
    (same : List.Forall₂ (Statement.SameButRules coupling.Rules) statements statements') :
    coupling.Lockstep (state.performAll statements) (state'.performAll statements') := by
  induction same generalizing state state' with
  | nil => exact lockstep
  | cons first _ inductionHypothesis => exact inductionHypothesis (lockstep.perform first)

end Coupling.Lockstep

end RoomLayout

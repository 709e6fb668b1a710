import RoomLayout.Proofs.Construction.SessionCoupling
import RoomLayout.Proofs.Texturing.Used

/-!
# Compiling again in one session

A session outlives a compile, and the next compile in it finds what was reported, asked and
used before. It adds to that and reads none of it: its rooms are those of a compile in a
fresh session, and its reports stand after the earlier ones (`compiles_do_not_leak`). Only
the source of textures could tell the difference, so it has to answer regardless of what was
asked before.
-/

namespace RoomLayout

namespace Session

/-- A session in which nothing has been compiled, with the same settings and the same source of
textures. -/
def fresh (session : Session) : Session where
  config := session.config
  textures := session.textures

/-- Whether the answers to queries do not depend on what was asked before. -/
def IsSteady (session : Session) : Prop :=
  ∀ queries queries', session.textures queries = session.textures queries'

/-- A session in which diagnostics were reported that another one lacks, and which is the same as
that one otherwise, whatever was asked and used in them. -/
structure IsBehind (past : List Diagnostic) (session other : Session) : Prop where
  config : session.config = other.config
  answers : ∀ queries queries', session.textures queries = other.textures queries'
  log : session.log = past ++ other.log

end Session

/-- Two runs of which one goes on in a session with earlier reports. -/
def SessionCoupling.behind (past : List Diagnostic) : SessionCoupling where
  Related := Session.IsBehind past
  report related diagnostics :=
    { config := related.config
      answers := related.answers
      log := by simp only [Session.report, related.log, List.append_assoc] }
  noteQuery related _ := ⟨related.config, related.answers, related.log⟩
  answers related := related.answers _ _
  tileSize related := congrArg Config.tileSize related.config
  light related := congrArg Construction.lightIn related.config

/-! ### What a compile leaves -/

/-- A compile leaves the settings. -/
theorem config_compileStatements (session : Session) (statements : List Statement) :
    (compileStatements session statements).session.config = session.config := by
  rw [compileStatements_eq]
  exact (congrArg Session.config (Session.markPolygons_eq_withUsed _ _)).trans
    ((Construction.keepsConfig session.config).performAll rfl statements)

/-- A compile leaves the source of textures. -/
theorem textures_compileStatements (session : Session) (statements : List Statement) :
    (compileStatements session statements).session.textures = session.textures := by
  rw [compileStatements_eq]
  exact (congrArg Session.textures (Session.markPolygons_eq_withUsed _ _)).trans
    ((Construction.keepsTextures session.textures).performAll rfl statements)

/-- A compile adds the textures of its rooms to those in use. -/
theorem mem_used_compileStatements {session : Session} {statements : List Statement}
    {texture : Texture} :
    texture ∈ (compileStatements session statements).session.used ↔
      (compileStatements session statements).level.Carries texture ∧ texture ≠ .missing
        ∨ texture ∈ session.used := by
  have unmarked : ((Construction.start session).performAll statements).session.used
      = session.used :=
    (Construction.keepsUsed session.used).performAll rfl statements
  rw [compileStatements_eq, Session.mem_used_markPolygons, Level.mem_textures_iff, unmarked]

/-! ### Side by side -/

/-- Two constructions in which names, cursor and rooms are the same, so that statements find the
same in both. -/
structure Construction.SeesLike (state other : Construction) : Prop where
  values : state.values = other.values
  definitions : state.definitions = other.definitions
  cursor : state.cursor = other.cursor
  level : state.level = other.level

/-- What the first statements of a program have built. -/
def Program.builtAfter (program : Program) (session : Session) (count : Nat) : Construction :=
  (Construction.start (session.report program.diagnostics)).performAll
    (program.statements.take count)

/-- A compile after another one, next to the same compile alone: the rooms are the same, the
reports stand one after the other, and the textures in use are those of both. -/
structure Compiled.Follows (after before alone : Compiled) : Prop where
  level : after.level = alone.level
  log : after.session.log = before.session.log ++ alone.session.log
  used : ∀ texture, texture ∈ after.session.used ↔
    texture ∈ before.session.used ∨ texture ∈ alone.session.used

/-- Statements compiled in a session with a past. -/
theorem follows_compileStatements {before : Compiled} {session : Session}
    (behind : before.session.IsBehind before.session.log session) (unused : session.used = [])
    (program : Program) :
    Compiled.Follows
      (compileStatements (before.session.report program.diagnostics) program.statements)
      before
      (compileStatements (session.report program.diagnostics) program.statements) := by
  have started := (SessionCoupling.behind before.session.log).report behind program.diagnostics
  have built := (SessionCoupling.Lockstep.start started).performAll program.statements
  have level : (compileStatements (before.session.report program.diagnostics)
        program.statements).level
      = (compileStatements (session.report program.diagnostics) program.statements).level := by
    have config : (before.session.report program.diagnostics).config
        = (session.report program.diagnostics).config := started.config
    simp only [compileStatements_eq, built.level, config]
  refine ⟨level, ?log, fun texture => ?used⟩
  case log =>
    simp only [compileStatements_eq, Session.log_markPolygons]
    exact built.session.log
  case used =>
    have none : texture ∉ (session.report program.diagnostics).used := by
      simp [Session.report, unused]
    rw [mem_used_compileStatements, mem_used_compileStatements, level, or_iff_left none]
    exact or_comm

/-- Compiles do not leak into each other. A script compiled in a session in which another one was
compiled before comes to the rooms of a compile in a fresh session. Its reports stand after
the earlier ones, and the textures in use are those of both. At no statement does it see a
name, a definition, a cursor, a snapshot or a room other than it would see there. -/
theorem compiles_do_not_leak (session : Session) (steady : session.IsSteady)
    {first second : String} {tokens tokens' : List Token}
    (lexes : tokenize first = .ok tokens) (lexes' : tokenize second = .ok tokens') :
    ∃ before after alone : Compiled,
      compile session first = .ok before
        ∧ compile before.session second = .ok after
        ∧ compile session.fresh second = .ok alone
        ∧ after.Follows before alone
        ∧ ∀ count, ((Program.ofTokens tokens').builtAfter before.session count).SeesLike
            ((Program.ofTokens tokens').builtAfter session.fresh count) := by
  let before := compileStatements (session.report (Program.ofTokens tokens).diagnostics)
    (Program.ofTokens tokens).statements
  have behind : before.session.IsBehind before.session.log session.fresh := by
    constructor
    case config => exact config_compileStatements _ _
    case answers =>
      intro queries queries'
      exact (congrFun (textures_compileStatements _ _) queries).trans (steady queries queries')
    case log => exact (List.append_nil _).symm
  refine ⟨before, _, _, compile_of_lexes lexes session, compile_of_lexes lexes' before.session,
    compile_of_lexes lexes' session.fresh, follows_compileStatements behind rfl _, fun count => ?_⟩
  have started := (SessionCoupling.behind before.session.log).report behind
    (Program.ofTokens tokens').diagnostics
  have built := (SessionCoupling.Lockstep.start started).performAll
    ((Program.ofTokens tokens').statements.take count)
  exact ⟨built.values, built.definitions, built.cursor, built.level⟩

/-- The first script removes the walls of `default`, sets a variable and saves the cursor. The
second one, which refers to all three, gets bare rooms, a warning and an error. -/
theorem compiles_do_not_leak_redefined_default :
    let session : Session := {
      config := { stitchRooms := false }
      textures := fun _ => ⟨fun name => some (.builtin name), fun _ _ => none⟩ }
    let first := "$s=9\ndefine default \x7b\nwall off\nfloor arx a\n\x7d\n"
      ++ "room add $s 9 9 c\ncursor save a"
    let second := "define b \x7b\nfloor arx b\n\x7d\ncursor restore a\nroom add $s 9 9 b\n"
      ++ "room add 9 9 9 b\nroom add 9 9 9 default"
    session.IsSteady ∧ (tokenize first).isOk = true ∧ (tokenize second).isOk = true
      ∧ ∃ before after alone : Compiled,
        compile session first = .ok before
          ∧ compile before.session second = .ok after
          ∧ compile session.fresh second = .ok alone
          ∧ before.level.map (fun room => room.polygons.length) = [2]
          ∧ after.level.map (fun room => room.polygons.length) = [6, 6]
          ∧ before.session.log.map Diagnostic.display
            = ["line 6: warning: unknown definition 'c', using 'default'"]
          ∧ alone.session.log.map Diagnostic.display
            = ["line 4: warning: cursor snapshot 'a' was never saved, ignoring restore",
              "line 5: error: undefined variable '$s', room skipped"]
          ∧ before.session.used = [.builtin "a"] ∧ alone.session.used = [.builtin "b"]
          ∧ after.Follows before alone := by
  intro session first second
  let summary (compiled : Compiled) : List Nat × List String × List Texture :=
    (compiled.level.map fun room => room.polygons.length,
      compiled.session.log.map Diagnostic.display, compiled.session.used)
  have ofFirst : (compile session first).map summary = .ok
      ([2], ["line 6: warning: unknown definition 'c', using 'default'"], [.builtin "a"]) := by
    decide +kernel
  have ofSecond : (compile session.fresh second).map summary = .ok
      ([6, 6], ["line 4: warning: cursor snapshot 'a' was never saved, ignoring restore",
        "line 5: error: undefined variable '$s', room skipped"], [.builtin "b"]) := by
    decide +kernel
  obtain ⟨tokens, lexes⟩ := exists_tokens_of_compile ofFirst
  obtain ⟨tokens', lexes'⟩ := exists_tokens_of_compile ofSecond
  have steady : session.IsSteady := fun _ _ => rfl
  obtain ⟨before, after, alone, found, found', found'', follows, _⟩ :=
    compiles_do_not_leak session steady lexes lexes'
  rw [found] at ofFirst
  rw [found''] at ofSecond
  obtain ⟨polygons, reported⟩ := Prod.mk.inj (Except.ok.inj ofFirst)
  obtain ⟨polygons', reported'⟩ := Prod.mk.inj (Except.ok.inj ofSecond)
  have sameLevel : after.level.map (fun room => room.polygons.length) = [6, 6] := by
    rw [follows.level]
    exact polygons'
  exact ⟨steady, by rw [lexes]; rfl, by rw [lexes']; rfl, before, after, alone, found, found',
    found'', polygons, sameLevel, (Prod.mk.inj reported).1, (Prod.mk.inj reported').1,
    (Prod.mk.inj reported).2, (Prod.mk.inj reported').2, follows⟩

end RoomLayout

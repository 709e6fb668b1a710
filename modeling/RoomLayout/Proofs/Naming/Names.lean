import RoomLayout.Files.TextureRoot
import RoomLayout.Proofs.Construction.Lockstep
import RoomLayout.Proofs.Naming.Provenance
import RoomLayout.Proofs.Naming.Spelling

/-!
# Names as they are spelled

A name reaches the tables, the source of textures and the files below the texture root as it
is spelled in the script, unless it is an integer that is no plain numeral. An integer reaches
them as its plain numeral, so files and names with zeros in front cannot be spoken of.
-/

namespace RoomLayout

/-! ### Which files a script looks up -/

namespace Program

/-- Rooms depend on the source of textures only through the queries that the program makes. -/
theorem level_built_congr {program : Program} {session session' : Session}
    (agree : session.AgreesOn (· ∈ program.queries) session') :
    (program.built session).level = (program.built session').level := by
  let coupling : Coupling := .agreeingOn (· ∈ program.queries)
  have same : List.Forall₂ (Statement.SameButRules coupling.Rules)
      program.statements program.statements := by
    rw [List.forall₂_same]
    rintro ⟨line, action⟩ member
    cases action with
    | define name rules =>
      exact .define name ⟨rfl, fun query asked => List.mem_flatMap.mpr ⟨_, member, asked⟩⟩
    | addRoom size definition alignments => exact .addRoom size definition alignments
    | addLight argument => exact .addLight argument
    | saveCursor name => exact .saveCursor name
    | restoreCursor name => exact .restoreCursor name
    | assign name value => exact .assign name value
  have start : coupling.Lockstep
      (Construction.start (session.report program.diagnostics))
      (Construction.start (session'.report program.diagnostics)) :=
    .start (agree.report _ _) rfl
  exact (start.performAll same).level

/-- Below a root, rooms depend only on the files at the paths of the folders and names that the
program asks for. -/
theorem level_built_below_congr (program : Program) {isFile isFile' : String → Bool}
    {root : String} (config : Config)
    (agree : ∀ folder filename, .custom folder filename ∈ program.queries →
      isFile (texturePath root folder filename) = isFile' (texturePath root folder filename)) :
    (program.built (Session.below isFile root config)).level
      = (program.built (Session.below isFile' root config)).level := by
  refine program.level_built_congr ⟨rfl, fun _ query inProgram => ?_⟩
  cases query with
  | builtin name => rfl
  | custom folder filename =>
    simp only [TextureSource.answer, Session.below, texturesBelow, agree folder filename inProgram]

end Program

/-! ### Names of a script -/

/-- The tokens of a script are spelled as in its text, and name what they spell. -/
structure NamesAsSpelled (source : String) (tokens : List Token) : Prop where
  /-- Every token was cut from a piece of the text. -/
  cut : ∀ token ∈ tokens, ∃ piece, token.IsCutFrom source.toList piece
  /-- A word is spelled like its piece, unless it is an integer that is no plain numeral. -/
  spelled : ∀ token ∈ tokens, ∀ piece word, token.IsCutFrom source.toList piece →
    token.kind.asWord? = some word →
      (word.toList = piece ↔ ∀ value, token.kind = .integer value → IsPlainNumeral piece)
  /-- The word of an integer is the plain numeral of the number that its piece writes. -/
  numerals : ∀ token ∈ tokens, ∀ piece value, token.IsCutFrom source.toList piece →
    token.kind = .integer value →
      token.kind.asWord? = some (toString (integerValue piece))
        ∧ IsPlainNumeral (toString (integerValue piece)).toList
  /-- Words that are spelled differently are different names, unless they are integers of one
  number. -/
  distinct : ∀ token ∈ tokens, ∀ token' ∈ tokens, ∀ piece piece' word word',
    token.IsCutFrom source.toList piece → token'.IsCutFrom source.toList piece' →
    token.kind.asWord? = some word → token'.kind.asWord? = some word' →
      (word = word' ↔ piece = piece'
        ∨ ∃ value, token.kind = .integer value ∧ token'.kind = .integer value)
  /-- The names in the statements are words of the tokens, or the name that stands in for a
  missing one. -/
  words : ∀ statement ∈ (Program.ofTokens tokens).statements, ∀ name ∈ statement.action.names,
    name = Definitions.defaultName ∨ ∃ token ∈ tokens, token.kind.asWord? = some name
  /-- Defined are the names that statements define. -/
  definitions : ∀ session name, ((Program.ofTokens tokens).built session).definitions.contains name
    = (name == Definitions.defaultName
      || (Program.ofTokens tokens).statements.any (·.action.defines name))
  /-- Saved are the names that statements save. -/
  snapshots : ∀ session name, ((Program.ofTokens tokens).built session).cursor.saved.contains name
    = (Program.ofTokens tokens).statements.any (·.action.savesCursor name)
  /-- The source of textures is asked for the names in the rules, in their order. -/
  textures : ∀ session, ((Program.ofTokens tokens).built session).session.asked
    = (Program.ofTokens tokens).queries.reverse ++ session.asked
  /-- Of the files below a root only those at the paths of folders and names in the rules
  matter. -/
  files : ∀ config root isFile isFile',
    (∀ folder filename, .custom folder filename ∈ (Program.ofTokens tokens).queries →
      isFile (texturePath root folder filename) = isFile' (texturePath root folder filename)) →
    ((Program.ofTokens tokens).built (Session.below isFile root config)).level
      = ((Program.ofTokens tokens).built (Session.below isFile' root config)).level

/-- A word keeps its spelling on its way from the text to the tables, to the source of textures
and to the files, and differs from what is spelled otherwise, but for integers that are no plain
numerals. -/
theorem names_as_spelled {source : String} {tokens : List Token}
    (tokenized : tokenize source = .ok tokens) : NamesAsSpelled source tokens where
  cut token member := by
    obtain ⟨offset, length, exact⟩ := exists_isExact_of_mem tokenized member
    exact ⟨_, offset, length, exact, rfl⟩
  spelled _ _ _ _ cut isWord := cut.toList_word_eq_iff isWord
  numerals token _ piece value cut isInteger := by
    rw [cut.integerValue_eq isInteger, isInteger]
    exact ⟨rfl, isPlainNumeral_toString value⟩
  distinct _ _ _ _ _ _ _ _ cut cut' isWord isWord' := cut.word_eq_iff cut' isWord isWord'
  words := Program.names_ofTokens tokens
  definitions session name := by
    rw [Program.built, Construction.contains_definitions_performAll]
    exact congrArg (· || _) (Definitions.contains_initial name)
  snapshots session name := by
    rw [Program.built, Construction.contains_saved_performAll]
    exact Bool.false_or _
  textures session := Construction.asked_performAll _ _
  files config _ _ _ agree := Program.level_built_below_congr _ config agree

/-- A file whose name begins with a zero, and a texture whose name is a number. -/
theorem names_as_spelled_numbered_textures :
    let source :=
      "define hall \x7b\nfloor custom brick 01.bmp\nceiling arx 12\n\x7d\ncursor save hall"
    ∃ tokens, tokenize source = .ok tokens ∧ ∀ session : Session,
      let built := (Program.ofTokens tokens).built session
      built.session.asked = [.builtin "12", .custom "brick" "01.bmp"] ++ session.asked
        ∧ built.definitions.contains "hall" = true ∧ built.definitions.contains "Hall" = false
        ∧ built.cursor.saved.contains "hall" = true := by
  intro source
  have parts : (tokenize source).map (fun tokens => (Program.ofTokens tokens).statements)
      = .ok [⟨1, .define "hall"
          [⟨2, .single .floor, .custom "brick" "01.bmp" {}⟩,
            ⟨3, .single .ceiling, .builtin "12" {}⟩]⟩,
        ⟨5, .saveCursor "hall"⟩] := by decide +kernel
  cases tokenized : tokenize source with
  | error error =>
    rw [tokenized] at parts
    exact nomatch parts
  | ok tokens =>
    rw [tokenized] at parts
    have statements : (Program.ofTokens tokens).statements = _ := Except.ok.inj parts
    refine ⟨tokens, rfl, ?_⟩
    intro session built
    have names := names_as_spelled tokenized
    rw [names.textures, names.definitions, names.definitions, names.snapshots, Program.queries,
      statements]
    exact ⟨rfl, by decide, by decide, by decide⟩

/-- Zeros in front are lost, and what is saved as `007` is the snapshot `7`. -/
theorem leading_zeros_are_lost :
    let token : Token := ⟨.integer 7, ⟨1, 1⟩⟩
    tokenize "007" = .ok [token] ∧ token.IsCutFrom "007".toList "007".toList
      ∧ token.kind.asWord? = some "7"
      ∧ (tokenize "cursor save 007\ncursor restore 7").map Program.ofTokens
        = .ok ⟨[⟨1, .saveCursor "7"⟩, ⟨2, .restoreCursor "7"⟩], []⟩ := by
  intro token
  have tokenized : tokenize "007" = .ok [token] := by decide +kernel
  have munch : IsMaximalMunch "007".toList (.token (.integer 7)) 3 :=
    isMaximalMunch_of_longestMatch (by decide +kernel)
  have written : ∀ number, token.kind.number? = some number →
      (Lexeme.token token.kind).WritesNumber "007".toList number := by
    rintro number ⟨rfl⟩
    exact .integer ⟨by decide, List.all_eq_true.mp (by decide)⟩
  have exact : token.IsExact "007".toList 0 3 :=
    ⟨⟨.start, munch, by decide +kernel, rfl⟩, written, fun percentage same => nomatch same⟩
  exact ⟨tokenized, ⟨0, 3, exact, rfl⟩, rfl, by decide +kernel⟩

end RoomLayout

import RoomLayout.Proofs.Construction.Effectiveness
import RoomLayout.Proofs.Construction.Queries
import RoomLayout.Proofs.Reading.Accounting
import RoomLayout.Proofs.Reading.SilentLines

/-!
# Where names come from

The names of a script are words of its tokens, and they are handed on as they are: the table
of definitions, the snapshots and the source of textures get the names that the statements
have, in the order of the statements, and no others.
-/

namespace RoomLayout

/-! ### The names of statements -/

/-- The names in a query. -/
def TextureQuery.names : TextureQuery → List String
  | .builtin name => [name]
  | .custom folder filename => [folder, filename]

namespace Action

/-- Whether an action defines a name. -/
def defines (name : String) : Action → Bool
  | define defined _ => name == defined
  | addRoom _ _ _ | addLight _ | saveCursor _ | restoreCursor _ | assign _ _ => false

/-- The names of definitions, snapshots and textures in an action. -/
def names : Action → List String
  | define name rules => name :: (rulesQueries rules).flatMap TextureQuery.names
  | addRoom _ definition _ => [definition]
  | saveCursor name | restoreCursor name => [name]
  | addLight _ | assign _ _ => []

end Action

/-! ### Reading names -/

section Reading

variable {Known : String → Prop}

/-- Every word among some tokens is known. -/
def AllWords (Known : String → Prop) (kinds : List TokenKind) : Prop :=
  ∀ kind ∈ kinds, ∀ word, kind.asWord? = some word → Known word

theorem AllWords.tail {kind : TokenKind} {rest : List TokenKind}
    (known : AllWords Known (kind :: rest)) : AllWords Known rest :=
  fun other member => known other (List.mem_cons_of_mem _ member)

theorem names_readFaceSource {number : Nat} {tokens : List Token} {source : FaceSource}
    {diagnostics : List Diagnostic} (known : AllWords Known (tokens.map Token.kind))
    (read : readFaceSource number tokens = .ok (source, diagnostics)) :
    ∀ query ∈ source.query?, ∀ name ∈ query.names, Known name := by
  cases readFaceSource_eq_ok_iff_reads.mp read with
  | off => exact fun query asked => nomatch asked
  | builtin _ isWord modes =>
    rintro query ⟨rfl⟩ other member
    obtain rfl := List.mem_singleton.mp member
    exact known.tail _ List.mem_cons_self _ isWord
  | custom _ isFolder isFilename modes =>
    rintro query ⟨rfl⟩ other member
    rcases List.mem_cons.mp member with rfl | isOther
    · exact known.tail _ List.mem_cons_self _ isFolder
    · obtain rfl := List.mem_singleton.mp isOther
      exact known.tail.tail _ List.mem_cons_self _ isFilename

/-- A rule asks for known names only. -/
theorem names_readFaceRule {line : Line} (known : AllWords Known line.kinds) {rule : FaceRule}
    (read : (readFaceRule line).1 = some rule) :
    ∀ query ∈ rule.source.query?, ∀ name ∈ query.names, Known name := by
  unfold readFaceRule at read
  split at read
  · exact nomatch read
  · split at read
    · exact nomatch read
    · next isSource =>
      obtain rfl := Option.some.inj read
      exact names_readFaceSource known.tail isSource

/-- The rules of a block ask for known names only. -/
theorem names_readBody {header : Nat} {lines : List Line}
    (known : ∀ line ∈ lines, AllWords Known line.kinds) :
    ∀ name ∈ (rulesQueries (readBody header lines).rules).flatMap TextureQuery.names,
      Known name := by
  induction lines with
  | nil => exact List.forall_mem_nil _
  | cons line rest inductionHypothesis =>
    obtain ⟨here, later⟩ := List.forall_mem_cons.mp known
    unfold readBody
    split
    · exact List.forall_mem_nil _
    · intro name member
      simp only [rulesQueries, List.filterMap_append, List.flatMap_append] at member
      rcases List.mem_append.mp member with inRule | inLater
      · obtain ⟨query, asked, inQuery⟩ := List.mem_flatMap.mp inRule
        obtain ⟨rule, isRule, isQuery⟩ := List.mem_filterMap.mp asked
        exact names_readFaceRule here (Option.mem_toList.mp isRule) query isQuery name inQuery
      · exact inductionHypothesis later name inLater

/-- The rules of a block with its header ask for known names only. -/
theorem BlockHeader.names_body (header : BlockHeader) (number : Nat) {following : List Line}
    (known : ∀ line ∈ following, AllWords Known line.kinds) :
    ∀ name ∈ (rulesQueries (header.body number following).rules).flatMap TextureQuery.names,
      Known name := by
  unfold body
  split
  · exact List.forall_mem_nil _
  · exact names_readBody fun line member => known line (List.mem_of_mem_tail member)
  · exact names_readBody known
  · exact names_readBody known

/-- The name of a header is known. -/
theorem name_readHeader_known {arguments : List TokenKind} {following : List Line} {name : String}
    (known : AllWords Known arguments) (named : (readHeader arguments following).name = some name) :
    Known name := by
  rw [name_readHeader] at named
  obtain ⟨kind, first, isWord⟩ := splitHeader_eq_iff.mp (Prod.ext named rfl)
  exact known kind (first ▸ List.mem_cons_self) name isWord

theorem readDefinitionName_known {kinds : List TokenKind} (known : AllWords Known kinds)
    (knownDefault : Known Definitions.defaultName) : Known (readDefinitionName kinds).1 := by
  unfold readDefinitionName
  split
  · exact knownDefault
  · exact knownDefault
  · next kind rest _ =>
    split
    · next isWord => exact known _ List.mem_cons_self _ isWord
    · exact knownDefault

theorem names_readRoom {arguments : List TokenKind} {action : Action} {warnings : List LineWarning}
    (known : AllWords Known arguments) (knownDefault : Known Definitions.defaultName)
    (read : readRoom arguments = .ok (action, warnings)) : ∀ name ∈ action.names, Known name := by
  obtain ⟨x, y, z, rest, size, rfl, -, -, -, placed⟩ := readRoom_eq_ok_iff_sizes.mp read
  obtain ⟨rfl, -⟩ := Prod.mk.inj placed
  intro name member
  obtain rfl := List.mem_singleton.mp member
  exact readDefinitionName_known known.tail.tail.tail.tail knownDefault

theorem names_readSnapshot {snapshot : String → Action}
    (isName : ∀ name, (snapshot name).names = [name]) {arguments : List TokenKind}
    {action : Action} {warnings : List LineWarning} (known : AllWords Known arguments)
    (read : readSnapshot snapshot arguments = .ok (action, warnings)) :
    ∀ name ∈ action.names, Known name := by
  unfold readSnapshot at read
  split at read
  · exact nomatch read
  · split at read
    · next isWord =>
      obtain ⟨rfl, -⟩ := Prod.mk.inj (Except.ok.inj read)
      rw [isName]
      intro name member
      obtain rfl := List.mem_singleton.mp member
      exact known _ List.mem_cons_self _ isWord
    · exact nomatch read

/-- A line that stands for itself has known names only. -/
theorem names_readLine {line : Line} {action : Action} {warnings : List LineWarning}
    (known : AllWords Known line.kinds) (knownDefault : Known Definitions.defaultName)
    (read : readLine line = .ok (action, warnings)) : ∀ name ∈ action.names, Known name := by
  unfold readLine at read
  split at read
  · exact names_readRoom known.tail knownDefault read
  · unfold readLight at read
    split at read
    · obtain ⟨rfl, -⟩ := Prod.mk.inj (Except.ok.inj read)
      exact List.forall_mem_nil _
    · exact nomatch read
  · have rest := known.tail
    unfold readCursor at read
    split at read
    · next verb =>
      rw [verb] at rest
      exact names_readSnapshot (fun _ => rfl) rest.tail read
    · next verb =>
      rw [verb] at rest
      exact names_readSnapshot (fun _ => rfl) rest.tail read
    · exact nomatch read
  · unfold readAssignment at read
    split at read
    · obtain ⟨value, -, read⟩ := bind_eq_ok_iff.mp read
      obtain ⟨rfl, -⟩ := Prod.mk.inj (Except.ok.inj read)
      exact List.forall_mem_nil _
    · exact nomatch read
    · exact nomatch read
  · exact nomatch read
  · exact nomatch read

namespace Program

/-- The statement of a line with its block has known names only. -/
theorem names_block {line : Line} {following : List Line} (here : AllWords Known line.kinds)
    (later : ∀ other ∈ following, AllWords Known other.kinds)
    (knownDefault : Known Definitions.defaultName) :
    ∀ statement ∈ (ofLines (line :: line.block following)).statements,
      ∀ name ∈ statement.action.names, Known name := by
  by_cases isHeader : line.head.kind = .keyword .define
  · rw [ofLines_block_of_define isHeader]
    dsimp only
    rw [statements_consBlock, List.append_nil]
    intro statement member name inNames
    obtain ⟨word, named, rfl⟩ := Option.map_eq_some_iff.mp (Option.mem_toList.mp member)
    rcases List.mem_cons.mp inNames with rfl | inRules
    · exact name_readHeader_known here.tail named
    · exact BlockHeader.names_body _ _ later name inRules
  · rw [ofLines_block_of_not_define isHeader]
    cases read : readLine line with
    | error error => exact List.forall_mem_nil _
    | ok outcome =>
      intro statement member
      obtain rfl := List.mem_singleton.mp member
      exact names_readLine here knownDefault read

/-- The statements of a script have known names only. -/
theorem names_ofLines {lines : List Line} (known : ∀ line ∈ lines, AllWords Known line.kinds)
    (knownDefault : Known Definitions.defaultName) :
    ∀ statement ∈ (ofLines lines).statements, ∀ name ∈ statement.action.names, Known name := by
  induction lines using topLevelLines.induct with
  | case1 =>
    rw [ofLines_nil]
    exact List.forall_mem_nil _
  | case2 line following inductionHypothesis =>
    obtain ⟨here, later⟩ := List.forall_mem_cons.mp known
    rw [ofLines_cons, append_eq]
    intro statement member
    rcases List.mem_append.mp member with inFirst | inRest
    · exact names_block here later knownDefault statement inFirst
    · exact inductionHypothesis (fun other inRest => later other (List.mem_of_mem_drop inRest))
        statement inRest

end Program

end Reading

/-! ### Names along a run -/

namespace Construction

theorem keepsDefinitions (definitions : Definitions) :
    UnnamedInvariant (fun later => later.definitions = definitions) where
  reporting kept _ := kept
  placeRoom kept _ _ _ := kept
  light kept _ := kept
  restore kept _ := kept

/-- A statement defines its name, if it is a definition, and no other. -/
theorem contains_definitions_perform (state : Construction) (statement : Statement)
    (name : String) :
    (state.perform statement).definitions.contains name
      = (state.definitions.contains name || statement.action.defines name) := by
  obtain ⟨line, action⟩ := statement
  cases action with
  | define defined rules =>
    simp only [perform, define, Definitions.contains, Definitions.insert, NameTable.contains,
      NameTable.get?_insert, Action.defines]
    by_cases same : name = defined
    · simp [same]
    · simp [same]
  | addRoom _ _ _ | addLight _ | restoreCursor _ =>
    rw [(keepsDefinitions state.definitions).perform rfl rfl]
    exact (Bool.or_false _).symm
  | saveCursor _ | assign _ _ => exact (Bool.or_false _).symm

/-- The names of definitions are those that were defined. -/
theorem contains_definitions_performAll (state : Construction) (statements : List Statement)
    (name : String) :
    (state.performAll statements).definitions.contains name
      = (state.definitions.contains name || statements.any (·.action.defines name)) := by
  induction statements generalizing state with
  | nil => exact (Bool.or_false _).symm
  | cons statement rest inductionHypothesis =>
    calc
      ((state.perform statement).performAll rest).definitions.contains name
      _ = ((state.perform statement).definitions.contains name
            || rest.any (·.action.defines name)) := inductionHypothesis _
      _ = (state.definitions.contains name
            || (statement :: rest).any (·.action.defines name)) := by
        rw [contains_definitions_perform, List.any_cons, Bool.or_assoc]

end Construction

/-! ### Whole scripts -/

theorem Definitions.contains_initial (name : String) :
    initial.contains name = (name == defaultName) := by
  simp only [contains, initial, NameTable.contains, NameTable.get?_insert]
  by_cases same : name = defaultName
  · simp [same]
  · simp [same, NameTable.get?, NameTable.empty]

namespace Program

/-- The names in the statements of a script are words of its tokens, or the name that stands in
for a missing one. -/
theorem names_ofTokens (tokens : List Token) :
    ∀ statement ∈ (ofTokens tokens).statements, ∀ name ∈ statement.action.names,
      name = Definitions.defaultName ∨ ∃ token ∈ tokens, token.kind.asWord? = some name := by
  let Known (name : String) : Prop :=
    name = Definitions.defaultName ∨ ∃ token ∈ tokens, token.kind.asWord? = some name
  have known : ∀ line ∈ Line.ofTokens tokens, AllWords Known line.kinds := by
    intro line inScript kind member word isWord
    obtain ⟨token, inTokens, rfl⟩ := Line.exists_token_of_mem_kinds inScript member
    exact .inr ⟨token, inTokens, isWord⟩
  exact names_ofLines known (.inl rfl)

/-- What carrying out a script comes to before the rooms are stitched. -/
def built (program : Program) (session : Session) : Construction :=
  (Construction.start (session.report program.diagnostics)).performAll program.statements

/-- What the statements of a program ask the source of textures for, in order. -/
def queries (program : Program) : List TextureQuery :=
  program.statements.flatMap (·.action.queries)

end Program

end RoomLayout

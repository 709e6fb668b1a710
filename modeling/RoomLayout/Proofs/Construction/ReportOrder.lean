import RoomLayout.Proofs.Construction.Effects
import RoomLayout.Proofs.Reading.LineNumbers
import RoomLayout.Proofs.Texturing.Used

/-!
# The order of reports

A script is reported on twice: as it is read, and as its statements are carried out. Statements
are carried out in the order of their lines, and a definition in the order of its rules, so what
they report comes in the order of lines (`reportsOn_performAll`). Reading has no such order. Only
sorting puts the log in the order of lines, and on each line it leaves what reading reported
before what the statements did.
-/

namespace RoomLayout

/-! ### Reports on lines -/

/-- A session and a later one, which has reported on some of the given lines, in the order of
lines. -/
def Session.ReportsOn (numbers : List Nat) (session later : Session) : Prop :=
  ∃ raised, later.log = session.log ++ raised ∧ (raised.map Diagnostic.line).Pairwise (· ≤ ·)
    ∧ ∀ diagnostic ∈ raised, diagnostic.line ∈ numbers

namespace Session.ReportsOn

variable {numbers : List Nat} {session later last : Session}

theorem of_same_log (same : later.log = session.log) : session.ReportsOn numbers later :=
  ⟨[], by rw [same, List.append_nil], .nil, nofun⟩

theorem report (session : Session) (diagnostic : Diagnostic) :
    session.ReportsOn [diagnostic.line] (session.report [diagnostic]) := by
  refine ⟨[diagnostic], rfl, List.pairwise_singleton _ _, fun other member => ?_⟩
  rw [List.mem_singleton.mp member]
  exact List.mem_singleton_self _

theorem mono (reports : session.ReportsOn numbers later) {others : List Nat}
    (more : numbers ⊆ others) : session.ReportsOn others later := by
  obtain ⟨raised, log, ordered, onLines⟩ := reports
  exact ⟨raised, log, ordered, fun diagnostic member => more (onLines diagnostic member)⟩

/-- Reports on some lines, and then on lines that are not above them. -/
theorem append {others : List Nat} (reports : session.ReportsOn numbers later)
    (reports' : later.ReportsOn others last) (below : ∀ a ∈ numbers, ∀ b ∈ others, a ≤ b) :
    session.ReportsOn (numbers ++ others) last := by
  obtain ⟨raised, log, ordered, onLines⟩ := reports
  obtain ⟨raised', log', ordered', onLines'⟩ := reports'
  refine ⟨raised ++ raised', by rw [log', log, List.append_assoc], ?_, ?_⟩
  · rw [List.map_append, List.pairwise_append]
    refine ⟨ordered, ordered', ?_⟩
    intro a inRaised b inRaised'
    obtain ⟨one, isFirst, rfl⟩ := List.mem_map.mp inRaised
    obtain ⟨other, isSecond, rfl⟩ := List.mem_map.mp inRaised'
    exact below _ (onLines one isFirst) _ (onLines' other isSecond)
  · refine List.forall_mem_append.mpr ⟨?_, ?_⟩
    · exact fun one isFirst => List.mem_append_left _ (onLines one isFirst)
    · exact fun other isSecond => List.mem_append_right _ (onLines' other isSecond)

/-- Reports on one line, and then on the same. -/
theorem trans {line : Nat} (reports : session.ReportsOn [line] later)
    (reports' : later.ReportsOn [line] last) : session.ReportsOn [line] last := by
  refine (reports.append reports' fun a first b second => ?_).mono (by simp)
  rw [List.mem_singleton.mp first, List.mem_singleton.mp second]

end Session.ReportsOn

namespace Construction

open Session (ReportsOn)

theorem reportsOn_orPlaceholder (session : Session) (line : Nat) (fault : TextureFault)
    (found : Option Texture) :
    session.ReportsOn [line] (session.orPlaceholder line fault found).2 := by
  cases found with
  | some texture => exact .of_same_log rfl
  | none => exact .report session (.warning line fault.message)

/-- A texture that is not found is reported on the line of its rule. -/
theorem reportsOn_covering (session : Session) (line : Nat) (source : FaceSource) :
    session.ReportsOn [line] (covering session line source).2 := by
  cases source with
  | off => exact .of_same_log rfl
  | builtin name fit =>
    exact reportsOn_orPlaceholder (session.noteQuery (.builtin name)) line (.unknownName name) _
  | custom folder filename fit =>
    exact reportsOn_orPlaceholder (session.noteQuery (.custom folder filename)) line
      (.fileNotFound folder filename) _

/-- The rules of a definition report on their lines, in order. -/
theorem reportsOn_foldl_applyRule {rules : List FaceRule}
    (ordered : (rules.map FaceRule.line).Pairwise (· ≤ ·)) (state : Surfaces × Session) :
    state.2.ReportsOn (rules.map FaceRule.line) (rules.foldl applyRule state).2 := by
  induction rules generalizing state with
  | nil => exact .of_same_log rfl
  | cons rule rest inductionHypothesis =>
    rw [List.map_cons, List.pairwise_cons] at ordered
    have first : state.2.ReportsOn [rule.line] (applyRule state rule).2 :=
      reportsOn_covering state.2 rule.line rule.source
    refine first.append (inductionHypothesis ordered.2 (applyRule state rule)) ?_
    exact fun a isFirst b inRest => List.mem_singleton.mp isFirst ▸ ordered.1 b inRest

section Statements

variable (state : Construction) (line : Nat)

theorem reportsOn_fail (error : ConstructionError) :
    state.session.ReportsOn [line] (state.fail line error).session :=
  .report state.session (.error line error.message)

theorem reportsOn_warn (warning : ConstructionWarning) :
    state.session.ReportsOn [line] (state.warn line warning).session :=
  .report state.session (.warning line warning.message)

theorem reportsOn_addRoom (size : Vec3 Number) (definition : String)
    (alignments : List Alignment) :
    state.session.ReportsOn [line] (state.addRoom line size definition alignments).session := by
  rw [addRoom]
  cases state.resolveSize size with
  | error error => exact reportsOn_fail state line error
  | ok extent =>
    rw [surfacesNamed]
    cases state.definitions.get? definition with
    | some surfaces => exact .of_same_log rfl
    | none => exact reportsOn_warn state line (.unknownDefinition definition)

theorem reportsOn_hangLight (modifier : LightModifier) :
    state.session.ReportsOn [line] (state.hangLight line modifier).session := by
  rw [hangLight]
  cases state.level.addLight? (lightIn state.session.config state.cursor.state modifier) with
  | some level => exact .of_same_log rfl
  | none => exact reportsOn_warn state line .lightBeforeRoom

theorem reportsOn_addLight (argument : LightArgument) :
    state.session.ReportsOn [line] (state.addLight line argument).session := by
  rw [addLight]
  rcases resolveLight state.values argument with error | ⟨modifier, none | warning⟩
  · exact reportsOn_fail state line error
  · exact reportsOn_hangLight state line modifier
  · exact (reportsOn_warn state line warning).trans
      (reportsOn_hangLight (state.warn line warning) line modifier)

theorem reportsOn_restore (name : String) :
    state.session.ReportsOn [line] (state.restore line name).session := by
  rw [restore]
  cases state.cursor.restore? name with
  | some cursor => exact .of_same_log rfl
  | none => exact reportsOn_warn state line (.snapshotNeverSaved name)

end Statements

/-- A statement reports on its line, or on those of its rules in order. -/
theorem reportsOn_perform (state : Construction) {statement : Statement}
    (ordered : statement.lineNumbers.Pairwise (· < ·)) :
    state.session.ReportsOn statement.lineNumbers (state.perform statement).session := by
  obtain ⟨line, action⟩ := statement
  cases action with
  | define name rules =>
    have ofRules : (rules.map FaceRule.line).Pairwise (· ≤ ·) :=
      (List.pairwise_cons.mp ordered).2.imp Nat.le_of_lt
    exact (reportsOn_foldl_applyRule ofRules ({}, state.session)).mono (List.subset_cons_self _ _)
  | addRoom size definition alignments =>
    exact reportsOn_addRoom state line size definition alignments
  | addLight argument => exact reportsOn_addLight state line argument
  | restoreCursor name => exact reportsOn_restore state line name
  | saveCursor _ | assign _ _ => exact .of_same_log rfl

/-- Statements on ascending lines report in the order of these lines. -/
theorem reportsOn_performAll (state : Construction) {statements : List Statement}
    (ordered : (statements.flatMap Statement.lineNumbers).Pairwise (· < ·)) :
    state.session.ReportsOn (statements.flatMap Statement.lineNumbers)
      (state.performAll statements).session := by
  induction statements generalizing state with
  | nil => exact .of_same_log rfl
  | cons statement rest inductionHypothesis =>
    rw [List.flatMap_cons, List.pairwise_append] at ordered
    obtain ⟨here, later, between⟩ := ordered
    exact (reportsOn_perform state here).append (inductionHypothesis (state.perform statement) later)
      fun a inFirst b inRest => Nat.le_of_lt (between a inFirst b inRest)

end Construction

/-! ### Sorting -/

namespace Diagnostic

theorem sorted_perm (log : List Diagnostic) : (sorted log).Perm log :=
  List.mergeSort_perm log _

theorem line_le_trans (a b c : Diagnostic) (first : decide (a.line ≤ b.line) = true)
    (second : decide (b.line ≤ c.line) = true) : decide (a.line ≤ c.line) = true :=
  decide_eq_true (Nat.le_trans (of_decide_eq_true first) (of_decide_eq_true second))

theorem line_le_total (a b : Diagnostic) :
    (decide (a.line ≤ b.line) || decide (b.line ≤ a.line)) = true := by
  simpa using Nat.le_total a.line b.line

/-- Sorted diagnostics are in the order of lines. -/
theorem pairwise_sorted (log : List Diagnostic) :
    ((sorted log).map line).Pairwise (· ≤ ·) := by
  rw [List.pairwise_map]
  exact (List.pairwise_mergeSort line_le_trans line_le_total log).imp of_decide_eq_true

/-- The diagnostics of one line. -/
def onLine (number : Nat) (log : List Diagnostic) : List Diagnostic :=
  log.filter fun diagnostic => diagnostic.line = number

theorem onLine_append (number : Nat) (earlier later : List Diagnostic) :
    onLine number (earlier ++ later) = onLine number earlier ++ onLine number later :=
  List.filter_append _ _

theorem line_of_mem_onLine {number : Nat} {log : List Diagnostic} {diagnostic : Diagnostic}
    (member : diagnostic ∈ onLine number log) : diagnostic.line = number :=
  of_decide_eq_true (List.mem_filter.mp member).2

/-- Sorting leaves the diagnostics of a line in their order. -/
theorem onLine_sorted (number : Nat) (log : List Diagnostic) :
    onLine number (sorted log) = onLine number log := by
  have ordered : (onLine number log).Pairwise fun a b => decide (a.line ≤ b.line) = true := by
    refine List.pairwise_iff_forall_sublist.mpr fun {a b} pair => decide_eq_true ?_
    have first := line_of_mem_onLine (pair.subset List.mem_cons_self)
    have second := line_of_mem_onLine
      (pair.subset (List.mem_cons_of_mem _ (List.mem_singleton_self b)))
    rw [first, second]
  have inSorted : (onLine number log).Sublist (sorted log) :=
    List.sublist_mergeSort line_le_trans line_le_total ordered List.filter_sublist
  have kept : (onLine number log).Sublist (onLine number (sorted log)) := by
    have again : onLine number (onLine number log) = onLine number log := by
      simp only [onLine, List.filter_filter, Bool.and_self]
    have filtered : (onLine number (onLine number log)).Sublist (onLine number (sorted log)) :=
      inSorted.filter _
    rwa [again] at filtered
  have sameLength : (onLine number (sorted log)).length = (onLine number log).length :=
    ((sorted_perm log).filter _).length_eq
  exact (kept.eq_of_length sameLength.symm).symm

end Diagnostic

/-! ### Compiles -/

/-- What the line numbers of a compile are. Its log is what reading the script reported and then
what carrying out the statements did. -/
structure NumbersLines (source : String) (tokens : List Token) (raised : List Diagnostic)
    (log : List Diagnostic) : Prop where
  /-- The tokens of a logical line are on one line. -/
  shared : ∀ line ∈ Line.ofTokens tokens, ∀ token ∈ line.tokens, token.line = line.number
  /-- The statements are on ascending lines. -/
  ascending : ((Program.ofTokens tokens).statements.map Statement.line).Pairwise (· < ·)
  /-- Every number is that of a line that holds a token. -/
  statement_held : ∀ statement ∈ (Program.ofTokens tokens).statements,
    HoldsToken 1 source.toList statement.line
  rule_held : ∀ statement ∈ (Program.ofTokens tokens).statements,
    ∀ number ∈ statement.action.ruleLines, HoldsToken 1 source.toList number
  parsed_held : ∀ diagnostic ∈ (Program.ofTokens tokens).diagnostics,
    HoldsToken 1 source.toList diagnostic.line
  raised_held : ∀ diagnostic ∈ raised, HoldsToken 1 source.toList diagnostic.line
  log_eq : log = (Program.ofTokens tokens).diagnostics ++ raised
  /-- What the statements report comes in the order of lines. -/
  raised_ordered : (raised.map Diagnostic.line).Pairwise (· ≤ ·)
  /-- Sorting puts the log in this order, -/
  sorted_perm : (Diagnostic.sorted log).Perm log
  sorted_ordered : ((Diagnostic.sorted log).map Diagnostic.line).Pairwise (· ≤ ·)
  /-- and on each line first comes what reading reported, and then what the statements did. -/
  sorted_onLine : ∀ number, Diagnostic.onLine number (Diagnostic.sorted log)
    = Diagnostic.onLine number (Program.ofTokens tokens).diagnostics
      ++ Diagnostic.onLine number raised

/-- Line numbers can be trusted. In every compile the tokens of a logical line share one number,
statements are on ascending lines, and what they report comes in that order. Every number in a
statement, a rule or a diagnostic is that of a line of the text with a token on it. Sorted, the
log is in the order of lines, and as it was emitted on each of them. -/
theorem line_numbers_are_trustworthy (config : Config)
    (textures : List TextureQuery → TextureSource) {source : String} {tokens : List Token}
    (lexes : tokenize source = .ok tokens) :
    ∃ compiled raised, compile { config, textures } source = .ok compiled
      ∧ NumbersLines source tokens raised compiled.session.log := by
  let program := Program.ofTokens tokens
  let session : Session := { config, textures, log := program.diagnostics }
  have numbered := AreNumbered.of_tokenize lexes
  have carried : (program.statements.flatMap Statement.lineNumbers).Sublist
      ((Line.ofTokens tokens).map Line.number) := Program.lineNumbers_sublist _
  have ordered := numbered.ascending.sublist carried
  have held : ∀ number ∈ (Line.ofTokens tokens).map Line.number,
      HoldsToken 1 source.toList number := by
    intro number member
    obtain ⟨line, inScript, rfl⟩ := List.mem_map.mp member
    exact numbered.held line inScript
  have heldByStatement : ∀ statement ∈ program.statements, ∀ number ∈ statement.lineNumbers,
      HoldsToken 1 source.toList number := fun statement inProgram number inStatement =>
    held number (carried.subset (List.mem_flatMap.mpr ⟨statement, inProgram, inStatement⟩))
  obtain ⟨raised, log, raisedOrdered, onLines⟩ :=
    Construction.reportsOn_performAll (Construction.start session) ordered
  have whole : (compileStatements session program.statements).session.log
      = program.diagnostics ++ raised := by
    rw [compileStatements_eq]
    exact (Session.log_markPolygons _ _).trans log
  refine ⟨compileStatements session program.statements, raised, compile_of_lexes lexes _, ?_⟩
  constructor
  case shared => exact numbered.shared
  case ascending => exact ordered.sublist (Statement.lines_sublist_lineNumbers program.statements)
  case statement_held =>
    exact fun statement inProgram =>
      heldByStatement statement inProgram _ List.mem_cons_self
  case rule_held =>
    exact fun statement inProgram number inRules =>
      heldByStatement statement inProgram number (List.mem_cons_of_mem _ inRules)
  case parsed_held =>
    exact fun diagnostic member =>
      held _ (Program.line_of_mem_diagnostics numbered.shared member)
  case raised_held =>
    exact fun diagnostic member => held _ (carried.subset (onLines diagnostic member))
  case log_eq => exact whole
  case raised_ordered => exact raisedOrdered
  case sorted_perm => exact Diagnostic.sorted_perm _
  case sorted_ordered => exact Diagnostic.pairwise_sorted _
  case sorted_onLine =>
    intro number
    rw [Diagnostic.onLine_sorted, whole, Diagnostic.onLine_append]

/-- An open block is reported after its last line, and a rule only when the block is carried out,
after the first line. -/
theorem line_numbers_are_trustworthy_open_block :
    let textures : List TextureQuery → TextureSource := fun _ => ⟨fun _ => none, fun _ _ => none⟩
    let source := "cursor restore a b\n\ndefine c \x7b # d\nfloor arx e\nwall"
    (tokenize source).isOk = true
      ∧ ∃ tokens compiled raised, tokenize source = .ok tokens
        ∧ compile { config := {}, textures } source = .ok compiled
        ∧ (Program.ofTokens tokens).statements.map Statement.lineNumbers = [[1], [3, 4]]
        ∧ compiled.session.log.map Diagnostic.line = [1, 5, 3, 1, 4]
        ∧ NumbersLines source tokens raised compiled.session.log := by
  intro textures source
  have logged : (compile { config := {}, textures } source).map
      (fun compiled => compiled.session.log.map Diagnostic.line) = .ok [1, 5, 3, 1, 4] := by
    decide +kernel
  have numbers : (tokenize source).map
      (fun tokens => (Program.ofTokens tokens).statements.map Statement.lineNumbers)
        = .ok [[1], [3, 4]] := by
    decide +kernel
  obtain ⟨tokens, lexes⟩ := exists_tokens_of_compile logged
  obtain ⟨compiled, raised, found, holds⟩ := line_numbers_are_trustworthy {} textures lexes
  rw [lexes] at numbers
  rw [found] at logged
  exact ⟨by rw [lexes]; rfl, tokens, compiled, raised, lexes, found, Except.ok.inj numbers,
    Except.ok.inj logged, holds⟩

end RoomLayout

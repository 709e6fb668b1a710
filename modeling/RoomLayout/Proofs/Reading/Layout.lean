import RoomLayout.Level.Compile
import RoomLayout.Proofs.Lexing.Trailing
import RoomLayout.Proofs.Reading.Lines
import RoomLayout.Proofs.Reading.Renumbering

/-!
# The layout of a script does not matter

A script is read line by line (`linesFrom_append_lineFeed`), so what is done to the
layout of one line can be judged on that line alone. Blanks and comments at its end
leave its tokens alone, and a line without tokens is no logical line: all it does is
give later lines higher numbers, which reading carries along.
-/

namespace RoomLayout

/-- The logical lines of a text that starts at a position. -/
def linesFrom (position : Position) (text : List Char) : Except LexicalError (List Line) :=
  (tokenizeFrom position text).map Line.ofTokens

/-- A script is read line by line, up to the first fault. -/
theorem linesFrom_append_lineFeed (position : Position) (before after : List Char) :
    linesFrom position (before ++ '\n' :: after) =
      (linesFrom position before).bind fun earlier =>
        (linesFrom ⟨position.line + before.count '\n' + 1, 1⟩ after).map (earlier ++ ·) := by
  rw [linesFrom, tokenizeFrom_append_lineFeed, Position.after_lineFeed, linesFrom, linesFrom]
  cases tokenizeFrom position before with
  | error error => rfl
  | ok earlier =>
    cases tokenizeFrom ⟨position.line + before.count '\n' + 1, 1⟩ after with
    | error error => rfl
    | ok later => exact congrArg Except.ok (Line.ofTokens_append_newline rfl earlier later)

/-- Blanks and comments at the end of a text leave its lines alone. -/
theorem linesFrom_append_trailing (position : Position) (text : List Char) {trailing : List Char}
    (follows : IsTrailing trailing) :
    linesFrom position (text ++ trailing) = linesFrom position text := by
  rw [linesFrom, tokenizeFrom_append_trailing position text follows, linesFrom]

/-- A line of blanks and a comment is no logical line. -/
theorem linesFrom_trailing (position : Position) {text : List Char} (blank : IsTrailing text) :
    linesFrom position text = .ok [] := by
  rw [linesFrom, tokenizeFrom_trailing position blank]
  rfl

/-- The lines of a text under other numbers. -/
theorem linesFrom_mapLine {f : Nat → Nat} {position : Position} {text : List Char}
    (counts : CountsOn f position.line (text.count '\n')) :
    linesFrom (position.mapLine f) text =
      renumbered f (List.map (Line.mapLine f)) (linesFrom position text) := by
  rw [linesFrom, tokenizeFrom_mapLine counts, linesFrom]
  cases tokenizeFrom position text with
  | error error => rfl
  | ok tokens => exact congrArg Except.ok (Line.ofTokens_mapLine f tokens)

/-! ### Edits at the ends of lines -/

/-- A text is one line, or a line, a line feed and the text after it. -/
@[elab_as_elim] theorem line_induction {motive : List Char → Prop}
    (last : ∀ line, '\n' ∉ line → motive line)
    (line : ∀ line rest, '\n' ∉ line → motive rest → motive (line ++ '\n' :: rest))
    (text : List Char) : motive text := by
  induction length : text.length using Nat.strongRecOn generalizing text with
  | ind _ inductionHypothesis =>
    subst length
    by_cases feed : '\n' ∈ text
    · obtain ⟨first, rest, rfl, noFeed⟩ := List.eq_append_cons_of_mem feed
      refine line first rest noFeed (inductionHypothesis _ ?_ rest rfl)
      rw [List.length_append, List.length_cons]
      omega
    · exact last text feed

/-- A text with something appended to each of its lines; `trailing` tells what, by the
number of the line. The first line has the given number. -/
def withTrailing (trailing : Nat → List Char) (number : Nat) : List Char → List Char
  | [] => trailing number
  | c :: rest =>
    if c = '\n' then trailing number ++ '\n' :: withTrailing trailing (number + 1) rest
    else c :: withTrailing trailing number rest

/-- A text with a carriage return before every line feed. -/
def withCarriageReturns (text : List Char) : List Char :=
  text.flatMap fun c => if c = '\n' then ['\r', '\n'] else [c]

/-- The characters of a line stay in front of what is done to the rest. -/
theorem withTrailing_append (trailing : Nat → List Char) (number : Nat) {line : List Char}
    (noFeed : '\n' ∉ line) (rest : List Char) :
    withTrailing trailing number (line ++ rest) = line ++ withTrailing trailing number rest := by
  induction line with
  | nil => rfl
  | cons c line inductionHypothesis =>
    rw [List.mem_cons, not_or] at noFeed
    rw [List.cons_append, withTrailing, if_neg (Ne.symm noFeed.1), inductionHypothesis noFeed.2]
    rfl

/-- Carriage returns are appended to all lines but the last. -/
theorem withCarriageReturns_eq (number : Nat) (text : List Char) :
    withCarriageReturns text =
      withTrailing (fun line => if line < number + text.count '\n' then ['\r'] else []) number
        text := by
  induction text generalizing number with
  | nil => simp [withCarriageReturns, withTrailing]
  | cons c rest inductionHypothesis =>
    rw [withCarriageReturns, List.flatMap_cons, ← withCarriageReturns, withTrailing]
    split
    · next isFeed =>
      subst isFeed
      rw [List.count_cons_self, inductionHypothesis (number + 1), if_pos (by omega),
        Nat.add_right_comm, Nat.add_assoc]
      rfl
    · next other =>
      rw [List.count_cons_of_ne other, inductionHypothesis number]
      rfl

/-- What is appended to the lines of a text does not matter if it may follow a line. -/
theorem linesFrom_withTrailing {trailing : Nat → List Char}
    (follows : ∀ number, IsTrailing (trailing number)) (number : Nat) (position : Position)
    (text : List Char) :
    linesFrom position (withTrailing trailing number text) = linesFrom position text := by
  induction text using line_induction generalizing number position with
  | last line noFeed =>
    have appended := withTrailing_append trailing number noFeed []
    rw [List.append_nil] at appended
    rw [appended, withTrailing, linesFrom_append_trailing position line (follows number)]
  | line line rest noFeed inductionHypothesis =>
    have noFeeds : (trailing number).count '\n' = 0 :=
      List.count_eq_zero.mpr (follows number).no_lineFeed
    rw [withTrailing_append trailing number noFeed, withTrailing, if_pos rfl, ← List.append_assoc,
      linesFrom_append_lineFeed, linesFrom_append_lineFeed,
      linesFrom_append_trailing position line (follows number), List.count_append, noFeeds,
      inductionHypothesis]
    rfl

/-! ### Lines without tokens -/

/-- The number that a line gets when another one is put below the first `count` lines. -/
def pushedDown (count line : Nat) : Nat := if line ≤ count then line else line + 1

/-- The lines above the insertion keep their numbers. -/
theorem countsOn_pushedDown_above (count : Nat) : CountsOn (pushedDown (count + 1)) 1 count := by
  intro n _ inRange
  rw [pushedDown, pushedDown, if_pos (by omega), if_pos (by omega)]

/-- The lines below the insertion all move down by one. -/
theorem countsOn_pushedDown_below (count lines : Nat) :
    CountsOn (pushedDown count) (count + 1) lines := by
  intro n isLater _
  rw [pushedDown, pushedDown, if_neg (by omega), if_neg (by omega)]

/-- A line without tokens between two lines gives the lines below it the next
numbers and does nothing else. -/
theorem linesFrom_insert (before after : List Char) {blank : List Char}
    (isBlank : IsTrailing blank) :
    linesFrom .start (before ++ '\n' :: (blank ++ '\n' :: after)) =
      let f := pushedDown (before.count '\n' + 1)
      renumbered f (List.map (Line.mapLine f)) (linesFrom .start (before ++ '\n' :: after)) := by
  let f := pushedDown (before.count '\n' + 1)
  have start : Position.start.mapLine f = .start := by
    have first : f 1 = 1 := if_pos (Nat.le_add_left 1 _)
    exact congrArg (Position.mk · 1) first
  have above : linesFrom (Position.start.mapLine f) before = _ :=
    linesFrom_mapLine (countsOn_pushedDown_above (before.count '\n'))
  rw [start] at above
  have below : linesFrom ⟨before.count '\n' + 3, 1⟩ after =
      renumbered f (List.map (Line.mapLine f)) (linesFrom ⟨before.count '\n' + 2, 1⟩ after) := by
    have next : f (before.count '\n' + 2) = before.count '\n' + 3 := if_neg (by omega)
    rw [← linesFrom_mapLine (countsOn_pushedDown_below _ _), Position.mapLine, next]
  have noFeeds : blank.count '\n' = 0 := List.count_eq_zero.mpr isBlank.no_lineFeed
  have second : Position.start.line + before.count '\n' + 1 = before.count '\n' + 2 := by
    rw [show Position.start.line = 1 from rfl]
    omega
  rw [linesFrom_append_lineFeed, linesFrom_append_lineFeed, linesFrom_trailing _ isBlank, noFeeds,
    linesFrom_append_lineFeed, second, below]
  cases read : linesFrom .start before with
  | error error =>
    rw [read] at above
    exact above
  | ok earlier =>
    rw [read] at above
    have kept : earlier = earlier.map (Line.mapLine f) := Except.ok.inj above
    cases linesFrom ⟨before.count '\n' + 2, 1⟩ after with
    | error error => rfl
    | ok later =>
      have joined :
          earlier ++ later.map (Line.mapLine f) = (earlier ++ later).map (Line.mapLine f) := by
        rw [List.map_append, ← kept]
      exact congrArg Except.ok joined

/-! ### Whole scripts -/

/-- What a session makes of reading a script: the error, or the statements, with the
diagnostics in its log. -/
def reported (session : Session) :
    Except LexicalError Program → Except CompileError (List Statement × Session)
  | .error error => .error (.lexical error)
  | .ok program => .ok (program.statements, session.report program.diagnostics)

theorem parse_eq_reported (session : Session) (source : String) :
    parse session source = reported session ((tokenize source).map Program.ofTokens) := by
  rw [parse]
  cases tokenize source <;> rfl

theorem map_ofTokens_tokenize (source : String) :
    (tokenize source).map Program.ofTokens =
      (linesFrom .start source.toList).map Program.ofLines := by
  rw [tokenize, linesFrom]
  cases tokenizeFrom .start source.toList <;> rfl

/-- The lines of a script decide what it comes to. -/
theorem parse_congr (session : Session) {source other : String}
    (sameLines : linesFrom .start source.toList = linesFrom .start other.toList) :
    parse session source = parse session other := by
  rw [parse_eq_reported, parse_eq_reported, map_ofTokens_tokenize, map_ofTokens_tokenize,
    sameLines]

/-- The layout of a script does not matter. Carriage returns before line feeds, and
blanks and comments at the ends of lines, leave everything as it is: statements,
diagnostics, or the error with its position. A line of blanks and a comment between
two lines moves the lines below it down by one, and all else is the same. -/
theorem parse_ignores_layout (session : Session) (source : String) :
    parse session (String.ofList (withCarriageReturns source.toList)) = parse session source
      ∧ (∀ trailing : Nat → List Char, (∀ number, IsTrailing (trailing number)) →
          parse session (String.ofList (withTrailing trailing 1 source.toList))
            = parse session source)
      ∧ ∀ before blank after : String, source = before ++ "\n" ++ after →
          IsTrailing blank.toList →
          ∃ outcome, parse session source = reported session outcome
            ∧ parse session (before ++ "\n" ++ blank ++ "\n" ++ after) =
              let f := pushedDown (before.toList.count '\n' + 1)
              reported session (renumbered f (Program.mapLines f) outcome) := by
  have appended : ∀ trailing : Nat → List Char, (∀ number, IsTrailing (trailing number)) →
      parse session (String.ofList (withTrailing trailing 1 source.toList))
        = parse session source := by
    intro trailing follows
    apply parse_congr
    rw [String.toList_ofList]
    exact linesFrom_withTrailing follows 1 .start source.toList
  refine ⟨?_, appended, ?_⟩
  · rw [withCarriageReturns_eq 1]
    apply appended
    intro number
    split
    · exact .of_trivia (.inl (by decide))
    · exact .nil
  · intro before blank after split isBlank
    refine ⟨_, parse_eq_reported session source, ?_⟩
    have sourceLines : source.toList = before.toList ++ '\n' :: after.toList := by
      rw [split]
      simp
    have editedLines : (before ++ "\n" ++ blank ++ "\n" ++ after).toList =
        before.toList ++ '\n' :: (blank.toList ++ '\n' :: after.toList) := by
      simp
    rw [parse_eq_reported, map_ofTokens_tokenize, map_ofTokens_tokenize, editedLines,
      linesFrom_insert _ _ isBlank, sourceLines]
    cases linesFrom .start (before.toList ++ '\n' :: after.toList) with
    | error error => rfl
    | ok lines =>
      have renumberedProgram := Program.ofLines_mapLine
        (pushedDown (before.toList.count '\n' + 1)) lines
      exact congrArg (fun program => reported session (.ok program)) renumberedProgram

/-- A comment line inside a block, and a blank after every line of it: the rule of the
block stands one line lower, in the same definition. -/
theorem parse_ignores_layout_open_block :
    let session : Session :=
      { config := {}, textures := fun _ => ⟨fun _ => none, fun _ _ => none⟩ }
    let source := "define a\n\x7b" ++ "\n" ++ "floor off\n\x7d"
    let edited := "define a\n\x7b" ++ "\n" ++ "\t# open" ++ "\n" ++ "floor off\n\x7d"
    let f := pushedDown 2
    IsTrailing "\t# open".toList
      ∧ parse session edited = .ok ([⟨1, .define "a" [⟨4, .single .floor, .off⟩]⟩], session)
      ∧ (∃ outcome, parse session source = reported session outcome
          ∧ parse session edited = reported session (renumbered f (Program.mapLines f) outcome))
      ∧ parse session (String.ofList (withTrailing (fun _ => [' ']) 1 source.toList))
          = parse session source := by
  intro session source edited f
  have isTrailing : IsTrailing "\t# open".toList :=
    ⟨['\t'], "# open".toList, by decide, by decide, .inr (by decide)⟩
  have read : (tokenize edited).map Program.ofTokens =
      .ok ⟨[⟨1, .define "a" [⟨4, .single .floor, .off⟩]⟩], []⟩ := by
    decide +kernel
  have parsed : parse session edited =
      .ok ([⟨1, .define "a" [⟨4, .single .floor, .off⟩]⟩], session) := by
    rw [parse_eq_reported, read]
    exact congrArg Except.ok (Prod.ext rfl (by simp [Session.report]))
  have unchanged := parse_ignores_layout session source
  refine ⟨isTrailing, parsed, ?_, unchanged.2.1 _ fun _ => ⟨[' '], [], rfl, by decide, .inl rfl⟩⟩
  exact unchanged.2.2 "define a\n\x7b" "\t# open" "floor off\n\x7d" rfl isTrailing

end RoomLayout

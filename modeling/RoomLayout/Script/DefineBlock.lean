import RoomLayout.Script.Complaint
import RoomLayout.Script.Line
import RoomLayout.Script.Statement

/-!
# Define blocks

A block begins with a header line that names it and ends with the first later
line that begins with a closing brace. The opening brace stands on the header
or alone on the next line; a block may also be closed on its header. Every line
in between is a face rule of its own: a line that is none costs one warning and
nothing else.
-/

namespace RoomLayout

/-- The faces that the first token of a rule speaks of. -/
def faceTarget? : TokenKind → Option FaceTarget
  | .keyword .floor => some (.single .floor)
  | .keyword .ceiling => some (.single .ceiling)
  | .keyword .wall => some .walls
  | .keyword .wallNorth => some (.single .wallNorth)
  | .keyword .wallEast => some (.single .wallEast)
  | .keyword .wallSouth => some (.single .wallSouth)
  | .keyword .wallWest => some (.single .wallWest)
  | _ => none

/-- Read fit modes on top of those already given; other tokens are ignored. -/
def readFit (fit : Fit) : List Token → Fit × List Diagnostic
  | [] => (fit, [])
  | token :: rest =>
    match token.kind with
    | .keyword .fitX => readFit { fit with x := true } rest
    | .keyword .fitY => readFit { fit with y := true } rest
    | .keyword .stretch => readFit { x := true, y := true } rest
    | other =>
      let (fit, diagnostics) := readFit fit rest
      (fit, (LineWarning.unknownFitMode other.describe).onLine token.line :: diagnostics)

/-- The word that a token, if there is one, stands for. -/
def wordOf? (token : Option Token) : Option String := token.bind fun token => token.kind.asWord?

/-- Read the source of a covering from the tokens after the face. -/
def readFaceSource (line : Nat) : List Token → Except LineWarning (FaceSource × List Diagnostic)
  | [] => .error .textureModeMissing
  | mode :: rest =>
    match mode.kind with
    | .keyword .off =>
      .ok (.off, if rest.isEmpty then [] else [LineWarning.tokensAfterOff.onLine line])
    | .keyword .arx =>
      match wordOf? rest[0]? with
      | some name =>
        let (fit, diagnostics) := readFit {} (rest.drop 1)
        .ok (.builtin name fit, diagnostics)
      | none => .error .builtinWithoutName
    | .keyword .custom =>
      match wordOf? rest[0]?, wordOf? rest[1]? with
      | some folder, some filename =>
        let (fit, diagnostics) := readFit {} (rest.drop 2)
        .ok (.custom folder filename fit, diagnostics)
      | _, _ => .error .customWithoutFile
    | other => .error (.unknownTextureMode other.describe)

/-- Read a line of a block: the rule it is, if it is one, and its warnings. -/
def readFaceRule (line : Line) : Option FaceRule × List Diagnostic :=
  match faceTarget? line.head.kind with
  | none => (none, [(LineWarning.unknownFace line.head.kind.describe).onLine line.number])
  | some target =>
    match readFaceSource line.number line.tail with
    | .error warning => (none, [warning.onLine line.number])
    | .ok (source, diagnostics) => (some ⟨line.number, target, source⟩, diagnostics)

/-- Whether a line begins with a closing brace. -/
def Line.closesBlock (line : Line) : Bool := line.head.kind = .mark .rightBrace

/-- The rules of a block, the warnings of its lines, and the lines after it. -/
structure BlockBody where
  rules : List FaceRule
  diagnostics : List Diagnostic
  after : List Line

/-- Read lines up to the end of the block whose header has number `header`. -/
def readBody (header : Nat) : List Line → BlockBody
  | [] => ⟨[], [LineWarning.blockNeverClosed.onLine header], []⟩
  | line :: rest =>
    if line.closesBlock then
      ⟨[], if line.tail.isEmpty then []
        else [LineWarning.tokensAfterClosingBrace.onLine line.number], rest⟩
    else
      let (rule, diagnostics) := readFaceRule line
      let body := readBody header rest
      ⟨rule.toList ++ body.rules, diagnostics ++ body.diagnostics, body.after⟩

/-- Where the braces of a block stand. -/
inductive Opening where
  /-- Both stand on the header: the block has no lines. -/
  | closedOnHeader
  /-- The opening brace stands on the header. -/
  | onHeader
  /-- The opening brace stands alone on the next line. -/
  | onNextLine
  /-- There is no opening brace. -/
  | absent
  deriving BEq, DecidableEq

/-- The header of a block. -/
structure BlockHeader where
  name : Option String
  opening : Opening
  warnings : List LineWarning

/-- The name in a header, and the tokens where the brace is expected. -/
def splitHeader : List TokenKind → Option String × List TokenKind
  | [] => (none, [])
  | .mark .leftBrace :: rest => (none, .mark .leftBrace :: rest)
  | kind :: rest => (kind.asWord?, rest)

/-- Whether a line is an opening brace and nothing else. -/
def Line.isOpeningBrace (line : Line) : Bool := line.kinds = [.mark .leftBrace]

/-- Read a header from the tokens after `define` and the lines that follow. -/
def readHeader (arguments : List TokenKind) (following : List Line) : BlockHeader :=
  let (name, rest) := splitHeader arguments
  match rest with
  | [.mark .leftBrace, .mark .rightBrace] => ⟨name, .closedOnHeader, []⟩
  | .mark .leftBrace :: .mark .rightBrace :: _ =>
    ⟨name, .closedOnHeader, [.tokensAfterOpeningBrace]⟩
  | [.mark .leftBrace] => ⟨name, .onHeader, []⟩
  | .mark .leftBrace :: _ => ⟨name, .onHeader, [.tokensAfterOpeningBrace]⟩
  | _ =>
    if following.head?.any Line.isOpeningBrace then ⟨name, .onNextLine, []⟩
    else ⟨name, .absent, [.openingBraceMissing]⟩

/-- The lines and rules of a block with a given header. -/
def BlockHeader.body (header : BlockHeader) (number : Nat) (following : List Line) : BlockBody :=
  match header.opening with
  | .closedOnHeader => ⟨[], [], following⟩
  | .onNextLine => readBody number following.tail
  | .onHeader | .absent => readBody number following

/-- Reading a body uses up lines only. -/
theorem length_after_readBody_le (header : Nat) (lines : List Line) :
    (readBody header lines).after.length ≤ lines.length := by
  induction lines with
  | nil => simp [readBody]
  | cons line rest inductionHypothesis =>
    simp only [readBody]
    split
    · simp
    · simp only [List.length_cons]
      omega

/-- A block uses up lines only. -/
theorem BlockHeader.length_after_body_le (header : BlockHeader) (number : Nat)
    (following : List Line) : (header.body number following).after.length ≤ following.length := by
  unfold BlockHeader.body
  split
  · simp
  · have := length_after_readBody_le number following.tail
    simp only [List.length_tail] at this
    omega
  · exact length_after_readBody_le number following
  · exact length_after_readBody_le number following

end RoomLayout

import RoomLayout.Decimal.Basic
import RoomLayout.Script.Token
import RoomLayout.Text.Alphanumeric

/-!
# Lexemes

The patterns that a script is cut by. A buffer is held against every pattern:
it may be a whole lexeme of the pattern, the beginning of one, or neither. The
longest match grows a buffer for as long as some pattern still fits and keeps
the longest whole lexeme seen; between patterns that fit the same text, the
first one wins.
-/

namespace RoomLayout

/-- What a pattern makes of a text: blank space and comments, which are dropped,
or a token. -/
inductive Lexeme where
  | blank
  | comment
  | token (kind : TokenKind)
  deriving BEq, DecidableEq

/-- How far a text gets against one pattern. -/
inductive Fitting where
  /-- No lexeme begins with the text. -/
  | mismatch
  /-- The text is a proper beginning of a lexeme and none itself. -/
  | beginning
  /-- The text is a lexeme. -/
  | whole
  deriving BEq, ReflBEq, LawfulBEq, DecidableEq

/-- The patterns. -/
inductive Pattern where
  /-- One or more spaces, tabs and carriage returns. -/
  | blanks
  /-- A line feed. -/
  | lineFeed
  /-- A hash sign and anything up to the end of the line. -/
  | comment
  | keyword (keyword : Keyword)
  | mark (mark : Mark)
  /-- An axis letter followed by one of the suffixes of an alignment. -/
  | alignment
  /-- A dollar sign and an ASCII identifier. -/
  | variableName
  /-- Decimal digits, after a minus sign or not. -/
  | integer
  /-- Decimal digits and a percent sign. -/
  | percentage
  /-- One or more word characters. -/
  | word
  deriving BEq, DecidableEq

/-- The largest value a number of a script may have. -/
def largestInteger : Int := 9223372036854775807

/-- The smallest value a number of a script may have. -/
def smallestInteger : Int := -9223372036854775808

/-- Whether a number is in the range of a script's numbers. -/
def inIntegerRange (value : Int) : Bool :=
  smallestInteger ≤ value && value ≤ largestInteger

/-- The number written by decimal digits, after a minus sign or not. -/
def integerValue : List Char → Int
  | '-' :: digits => -(Decimal.ofDigits digits : Int)
  | digits => Decimal.ofDigits digits

/-- A number, or the largest one in range for a number out of range. -/
def saturated (value : Int) : Int :=
  if inIntegerRange value then value else largestInteger

/-- Whether a character counts as blank space inside a line. -/
def isBlankChar (c : Char) : Bool := c = ' ' || c = '\t' || c = '\r'

/-- Whether a character may begin a variable's name. -/
def isNameStart (c : Char) : Bool := c.isAlpha || c = '_'

/-- Whether a character may stand in a variable's name. -/
def isNameChar (c : Char) : Bool := c.isAlphanum || c = '_'

/-- The punctuation that may stand in a word. -/
def wordPunctuation : List Char :=
  ['_', '-', '.', '/', '\\', '[', ']', '(', ')', ':', ',', '\x27']

/-- Whether a character may stand in a word. -/
def isWordChar (c : Char) : Bool := Text.isAlphanumeric c || wordPunctuation.contains c

namespace Fitting

/-- How a text fits a pattern that has one lexeme only. -/
def literal (text : String) (buffer : List Char) : Fitting :=
  if buffer = text.toList then whole
  else if buffer.isPrefixOf text.toList then beginning
  else mismatch

/-- How a text fits a pattern whose lexemes are the nonempty runs of a class of
characters. -/
def run (test : Char → Bool) (buffer : List Char) : Fitting :=
  if !buffer.isEmpty && buffer.all test then whole else mismatch

end Fitting

namespace Pattern

/-- The patterns in the order in which they are tried. -/
def all : List Pattern :=
  [blanks, lineFeed, comment] ++ Keyword.all.map keyword ++ Mark.all.map mark ++
    [alignment, variableName, integer, percentage, word]

/-- The beginning of an alignment code is a code already, so a text is a code or
no beginning of one. -/
def fitAlignment : List Char → Fitting
  | axis :: suffix =>
    if (axis = 'x' || axis = 'y' || axis = 'z') &&
        [[], ['-'], ['-', '-'], ['+'], ['+', '+']].contains suffix
    then .whole else .mismatch
  | [] => .mismatch

/-- A lone dollar sign is the beginning of a variable. -/
def fitVariable : List Char → Fitting
  | ['$'] => .beginning
  | '$' :: first :: rest => if isNameStart first && rest.all isNameChar then .whole else .mismatch
  | _ => .mismatch

/-- A lone minus sign is the beginning of an integer. -/
def fitInteger : List Char → Fitting
  | ['-'] => .beginning
  | '-' :: digits => .run Char.isDigit digits
  | digits => .run Char.isDigit digits

/-- Digits without a percent sign are the beginning of a percentage. -/
def fitPercentage (buffer : List Char) : Fitting :=
  if buffer.isEmpty then .mismatch
  else if buffer.getLast? = some '%' then .run Char.isDigit buffer.dropLast
  else if buffer.all Char.isDigit then .beginning
  else .mismatch

/-- How far a text gets against a pattern. -/
def fit : Pattern → List Char → Fitting
  | blanks, buffer => .run isBlankChar buffer
  | lineFeed, buffer => .literal "\n" buffer
  | comment, buffer =>
    if buffer.head? = some '#' && !buffer.contains '\n' then .whole else .mismatch
  | keyword k, buffer => .literal k.text buffer
  | mark m, buffer => .literal m.text buffer
  | alignment, buffer => fitAlignment buffer
  | variableName, buffer => fitVariable buffer
  | integer, buffer => fitInteger buffer
  | percentage, buffer => fitPercentage buffer
  | word, buffer => .run isWordChar buffer

/-- What a pattern makes of a text that is one of its lexemes. -/
def lexeme : Pattern → List Char → Lexeme
  | blanks, _ => .blank
  | lineFeed, _ => .token .newline
  | comment, _ => .comment
  | keyword k, _ => .token (.keyword k)
  | mark m, _ => .token (.mark m)
  | alignment, text => .token (.alignment (String.ofList text))
  | variableName, text => .token (.variableName (String.ofList text.tail))
  | integer, text => .token (.integer (saturated (integerValue text)))
  | percentage, text => .token (.percentage (saturated (Decimal.ofDigits text.dropLast)))
  | word, text => .token (.word (String.ofList text))

end Pattern

/-- A text held against all patterns: the lexeme it is, and whether a longer
text that begins with it could still be one. -/
structure Scan where
  whole? : Option Lexeme
  isViable : Bool
  deriving BEq, DecidableEq

/-- Hold a text against all patterns. -/
def scan (buffer : List Char) : Scan where
  whole? := (Pattern.all.find? fun pattern => pattern.fit buffer == .whole).map (·.lexeme buffer)
  isViable := Pattern.all.any fun pattern => pattern.fit buffer != .mismatch

/-- Grow a buffer by the characters that follow it while it stays viable, and
keep the longest lexeme with its length. -/
def growMatch (buffer : List Char) (best : Option (Lexeme × Nat)) :
    List Char → Option (Lexeme × Nat)
  | [] => best
  | next :: rest =>
    let grown := buffer ++ [next]
    let found := scan grown
    let best := match found.whole? with
      | some lexeme => some (lexeme, grown.length)
      | none => best
    if found.isViable then growMatch grown best rest else best

/-- The longest lexeme at the beginning of a text, with its length. -/
def longestMatch (text : List Char) : Option (Lexeme × Nat) := growMatch [] none text

/-- Growing a buffer by one character replaces the best match by the grown buffer
if that is a lexeme, and goes on while the grown buffer is viable. -/
theorem growMatch_cons (buffer : List Char) (best : Option (Lexeme × Nat)) (next : Char)
    (rest : List Char) :
    growMatch buffer best (next :: rest) =
      let grown := buffer ++ [next]
      let best := ((scan grown).whole?.map fun lexeme => (lexeme, grown.length)).or best
      if (scan grown).isViable then growMatch grown best rest else best := by
  simp only [growMatch]
  cases (scan (buffer ++ [next])).whole? <;> rfl

/-- A buffer that grows ends in the match it began with, or in a part of the text
that is longer than the buffer and a lexeme as a whole. -/
theorem growMatch_eq_some {buffer rest : List Char} {best : Option (Lexeme × Nat)}
    {lexeme : Lexeme} {length : Nat} (found : growMatch buffer best rest = some (lexeme, length)) :
    best = some (lexeme, length)
      ∨ buffer.length < length ∧ length ≤ (buffer ++ rest).length
        ∧ (scan ((buffer ++ rest).take length)).whole? = some lexeme := by
  induction rest generalizing buffer best with
  | nil => exact Or.inl found
  | cons next rest inductionHypothesis =>
    have regroup : buffer ++ next :: rest = (buffer ++ [next]) ++ rest := by simp
    have grownLength : (buffer ++ [next]).length = buffer.length + 1 := List.length_append
    rw [regroup]
    -- What is best after this character is the grown buffer or was best before.
    have updated : ∀ {lexeme length},
        ((scan (buffer ++ [next])).whole?.map fun lexeme => (lexeme, (buffer ++ [next]).length)).or
          best = some (lexeme, length) →
        best = some (lexeme, length)
          ∨ buffer.length < length ∧ length ≤ ((buffer ++ [next]) ++ rest).length
            ∧ (scan (((buffer ++ [next]) ++ rest).take length)).whole? = some lexeme := by
      intro lexeme length equation
      rcases Option.or_eq_some_iff.mp equation with isGrown | ⟨_, wasBest⟩
      · obtain ⟨lexeme', whole, same⟩ := Option.map_eq_some_iff.mp isGrown
        obtain ⟨rfl, rfl⟩ := Prod.mk.inj same
        refine Or.inr ⟨by omega, (List.prefix_append _ _).length_le, ?_⟩
        rw [List.take_left]
        exact whole
      · exact Or.inl wasBest
    rw [growMatch_cons] at found
    dsimp only at found
    split at found
    · rcases inductionHypothesis found with atBest | ⟨longer, inText, whole⟩
      · exact updated atBest
      · exact Or.inr ⟨by omega, inText, whole⟩
    · exact updated found

/-- A longest match is a nonempty part of the text and a lexeme as a whole. -/
theorem longestMatch_eq_some {text : List Char} {lexeme : Lexeme} {length : Nat}
    (found : longestMatch text = some (lexeme, length)) :
    0 < length ∧ length ≤ text.length ∧ (scan (text.take length)).whole? = some lexeme := by
  rcases growMatch_eq_some found with impossible | inText
  · exact absurd impossible (by simp)
  · exact inText

/-- A longest match is not empty. -/
theorem longestMatch_length_pos {text : List Char} {lexeme : Lexeme} {length : Nat}
    (found : longestMatch text = some (lexeme, length)) : 0 < length :=
  (longestMatch_eq_some found).1

end RoomLayout

import RoomLayout.Script.Token

/-!
# Logical lines

A script is read line by line. A logical line is a nonempty run of tokens
between newlines; empty lines disappear.
-/

namespace RoomLayout

/-- The tokens of a line, at least one. -/
structure Line where
  head : Token
  tail : List Token
  deriving BEq, DecidableEq

namespace Line

/-- The number of a line: that of its first token. -/
def number (line : Line) : Nat := line.head.line

/-- The kinds of the tokens after the first one. -/
def arguments (line : Line) : List TokenKind := line.tail.map Token.kind

/-- The kinds of all tokens. -/
def kinds (line : Line) : List TokenKind := line.head.kind :: line.arguments

/-- The line of some tokens, if there are any. -/
def ofTokens? : List Token → Option Line
  | [] => none
  | head :: tail => some ⟨head, tail⟩

/-- Cut tokens at their newlines: the tokens up to the first newline, and those
between later ones. -/
def cut : List Token → List Token × List (List Token)
  | [] => ([], [])
  | token :: rest =>
    let (current, later) := cut rest
    if token.kind = .newline then ([], current :: later) else (token :: current, later)

/-- The logical lines of a script. -/
def ofTokens (tokens : List Token) : List Line :=
  ((cut tokens).1 :: (cut tokens).2).filterMap ofTokens?

end Line

end RoomLayout

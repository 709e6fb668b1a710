/-!
# Tokens

The words of a room script. A token says what it is and where it starts; blank
space and comments are not tokens. Where a script expects a name, most tokens
can be read as a bare word: keywords, alignment codes and integers are words
too.
-/

namespace RoomLayout

/-- The reserved words. -/
inductive Keyword where
  | room
  | add
  | define
  | ceiling
  | wall
  | wallNorth
  | wallSouth
  | wallEast
  | wallWest
  | floor
  | custom
  | arx
  | withClause
  | light
  | cursor
  | save
  | restore
  | off
  | fitX
  | fitY
  | stretch
  | dim
  | default
  deriving BEq, DecidableEq

namespace Keyword

/-- The reserved words in the order in which they are tried. -/
def all : List Keyword :=
  [room, add, define, ceiling, wall, wallNorth, wallSouth, wallEast, wallWest, floor, custom,
    arx, withClause, light, cursor, save, restore, off, fitX, fitY, stretch, dim, default]

/-- The spelling of a reserved word. -/
def text : Keyword → String
  | room => "room"
  | add => "add"
  | define => "define"
  | ceiling => "ceiling"
  | wall => "wall"
  | wallNorth => "wall-north"
  | wallSouth => "wall-south"
  | wallEast => "wall-east"
  | wallWest => "wall-west"
  | floor => "floor"
  | custom => "custom"
  | arx => "arx"
  | withClause => "with"
  | light => "light"
  | cursor => "cursor"
  | save => "save"
  | restore => "restore"
  | off => "off"
  | fitX => "fit-x"
  | fitY => "fit-y"
  | stretch => "stretch"
  | dim => "dim"
  | default => "default"

end Keyword

/-- The punctuation marks. -/
inductive Mark where
  | leftBrace
  | rightBrace
  | equals
  deriving BEq, DecidableEq

namespace Mark

/-- The punctuation marks in the order in which they are tried. -/
def all : List Mark := [leftBrace, rightBrace, equals]

/-- The spelling of a punctuation mark. -/
def text : Mark → String
  | leftBrace => "\x7b"
  | rightBrace => "\x7d"
  | equals => "="

end Mark

/-- What a token is. There are no kinds for blank space and for comments: a scan drops both
(`Lexeme`), so that neither comes to a reader. Lists of tokens that hold them all the same, made
by hand, are left out. -/
inductive TokenKind where
  | keyword (keyword : Keyword)
  | mark (mark : Mark)
  /-- An alignment code such as `x++`. -/
  | alignment (code : String)
  /-- A variable, named without the dollar sign. -/
  | variableName (name : String)
  | integer (value : Int)
  /-- A percentage, given by the number before the percent sign. -/
  | percentage (value : Int)
  /-- Any other word. -/
  | word (text : String)
  | newline
  deriving BEq, DecidableEq

namespace TokenKind

/-- The spelling of a keyword or punctuation mark. -/
def fixedText? : TokenKind → Option String
  | keyword k => some k.text
  | mark m => some m.text
  | _ => none

/-- The token read as a bare word, where a name is expected. -/
def asWord? : TokenKind → Option String
  | keyword k => some k.text
  | alignment code => some code
  | integer value => some (toString value)
  | word text => some text
  | _ => none

/-- How a message names a token. -/
def describe : TokenKind → String
  | keyword k => k.text
  | mark m => m.text
  | alignment code => code
  | variableName name => "$" ++ name
  | integer value => toString value
  | percentage value => toString value ++ "%"
  | word text => text
  | newline => "newline"

end TokenKind

/-- A place in a script: line and column, both counted from one. -/
structure Position where
  line : Nat
  column : Nat
  deriving BEq, DecidableEq

namespace Position

/-- Where a script begins. -/
def start : Position := ⟨1, 1⟩

/-- The position after a character: a line feed begins a line, every other
character takes one column. -/
def after (position : Position) (c : Char) : Position :=
  if c = '\n' then ⟨position.line + 1, 1⟩ else ⟨position.line, position.column + 1⟩

/-- The position after several characters. -/
def advance (position : Position) (chars : List Char) : Position := chars.foldl after position

end Position

/-- A token and where it starts. -/
structure Token where
  kind : TokenKind
  position : Position
  deriving BEq, DecidableEq

/-- The line on which a token starts. -/
def Token.line (token : Token) : Nat := token.position.line

end RoomLayout

import RoomLayout.Script.Token
import RoomLayout.Text.Extending

/-!
# Token listings

How tokens are shown to someone who looks into how a script is read: a line per
token with its position, its kind and what it holds.
-/

namespace RoomLayout

/-- The name of a keyword in a listing. -/
def Keyword.label : Keyword → String
  | room => "Room"
  | add => "Add"
  | define => "Define"
  | ceiling => "Ceiling"
  | wall => "Wall"
  | wallNorth => "WallNorth"
  | wallSouth => "WallSouth"
  | wallEast => "WallEast"
  | wallWest => "WallWest"
  | floor => "Floor"
  | custom => "Custom"
  | arx => "Arx"
  | withClause => "With"
  | light => "Light"
  | cursor => "Cursor"
  | save => "Save"
  | restore => "Restore"
  | off => "Off"
  | fitX => "FitX"
  | fitY => "FitY"
  | stretch => "Stretch"
  | dim => "Dim"
  | default => "Default"

/-- The name of a punctuation mark in a listing. -/
def Mark.label : Mark → String
  | leftBrace => "LBrace"
  | rightBrace => "RBrace"
  | equals => "Eq"

/-- The name of a kind of tokens in a listing. -/
def TokenKind.label : TokenKind → String
  | keyword k => k.label
  | mark m => m.label
  | alignment _ => "Alignment"
  | variableName _ => "Variable"
  | integer _ => "Integer"
  | percentage _ => "Percentage"
  | word _ => "String"
  | newline => "Newline"

/-- A character of a word in quotes. Backslashes and quotes are escaped, and
characters that would join the one before them are given by number. -/
def quotedWordCharacter (c : Char) : List Char :=
  if c = '\\' || c = '\x22' then ['\\', c]
  else if Text.isExtending c then
    ['\\', 'u', '\x7b'] ++ Nat.toDigits 16 c.toNat ++ ['\x7d']
  else [c]

/-- A word in quotes. -/
def quotedWord (text : String) : String :=
  String.ofList ('\x22' :: text.toList.flatMap quotedWordCharacter ++ ['\x22'])

/-- What a token holds besides its kind. -/
def TokenKind.payload? : TokenKind → Option String
  | alignment code => some (quotedWord code)
  | variableName name => some (quotedWord name)
  | integer value => some (toString value)
  | percentage value => some (toString value)
  | word text => some (quotedWord text)
  | _ => none

/-- The line of a token in a listing. -/
def Token.listing (token : Token) : String :=
  let payload := match token.kind.payload? with
    | none => ""
    | some payload => "(" ++ payload ++ ")"
  toString token.position.line ++ ":" ++ toString token.position.column ++ "\t"
    ++ token.kind.label ++ payload

end RoomLayout

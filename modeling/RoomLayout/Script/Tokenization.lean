import RoomLayout.Script.Lexeme

/-!
# Tokenization

Cuts a script into lexemes by longest match, drops blank space and comments,
and gives every token its position. Only a character that begins no lexeme and
a number out of range stop it.
-/

namespace RoomLayout

/-- Why a script cannot be cut into tokens. -/
inductive LexicalFault where
  | unexpectedCharacter (character : Char)
  | numberOutOfRange (text : String)
  deriving BEq, DecidableEq

/-- The wording of a lexical fault. -/
def LexicalFault.message : LexicalFault → String
  | .unexpectedCharacter character => "unexpected character: '" ++ character.toString ++ "'"
  | .numberOutOfRange text => "number out of range: '" ++ text ++ "'"

/-- A lexical fault and where it is. -/
structure LexicalError where
  fault : LexicalFault
  position : Position
  deriving BEq, DecidableEq

/-- Whether a lexeme, cut from `text`, is a number out of range. -/
def Lexeme.isOutOfRange (text : List Char) : Lexeme → Bool
  | .token (.integer _) => !inIntegerRange (integerValue text)
  | .token (.percentage _) => !inIntegerRange (Decimal.ofDigits text.dropLast)
  | _ => false

/-- Put the token of a lexeme, if it is one, before later tokens. -/
def Lexeme.consToken (lexeme : Lexeme) (position : Position) (tokens : List Token) : List Token :=
  match lexeme with
  | .token kind => ⟨kind, position⟩ :: tokens
  | _ => tokens

/-- A lexeme is a token, which comes before the later ones, or leaves them alone. -/
theorem Lexeme.isToken_or (lexeme : Lexeme) (position : Position) (tokens : List Token) :
    (∃ kind, lexeme = .token kind ∧ lexeme.consToken position tokens = ⟨kind, position⟩ :: tokens)
      ∨ (∀ kind, lexeme ≠ .token kind) ∧ lexeme.consToken position tokens = tokens := by
  cases lexeme with
  | token kind => exact Or.inl ⟨kind, rfl, rfl⟩
  | _ => exact Or.inr ⟨fun _ => Lexeme.noConfusion, rfl⟩

/-- Cut a text that starts at `position`. -/
def tokenizeFrom (position : Position) (text : List Char) : Except LexicalError (List Token) :=
  match text with
  | [] => .ok []
  | first :: rest =>
    match _found : longestMatch (first :: rest) with
    | none => .error ⟨.unexpectedCharacter first, position⟩
    | some (lexeme, length) =>
      let slice := (first :: rest).take length
      if lexeme.isOutOfRange slice then
        .error ⟨.numberOutOfRange (String.ofList slice), position⟩
      else
        match tokenizeFrom (position.advance slice) ((first :: rest).drop length) with
        | .error error => .error error
        | .ok tokens => .ok (lexeme.consToken position tokens)
termination_by text.length
decreasing_by
  have := longestMatch_length_pos _found
  simp only [List.length_drop, List.length_cons]
  omega

/-- Cut a script into tokens. -/
def tokenize (source : String) : Except LexicalError (List Token) :=
  tokenizeFrom .start source.toList

end RoomLayout

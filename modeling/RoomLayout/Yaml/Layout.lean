import RoomLayout.Yaml.Escape
import RoomLayout.Yaml.Node

/-!
# YAML layout

The text of a node in block style. Sequences below a key start at the column of
the key, all else is indented by two columns, and the first entry of a nested
collection stands on the line of its dash.
-/

namespace RoomLayout.Yaml

/-- A margin of spaces. -/
def spaces (count : Nat) : List Char := List.replicate count ' '

/-- Text inside single quotes. Quotes are doubled; after a line break the text
goes on at the margin. -/
def singleQuotedBody (indent : Nat) (afterBreak : Bool) : List Char → List Char
  | [] => if afterBreak then spaces indent else []
  | c :: rest =>
    if isBreak c then c :: singleQuotedBody indent true rest
    else
      (if afterBreak then spaces indent else [])
        ++ (if c = '\x27' then ['\x27', '\x27'] else [c])
        ++ singleQuotedBody indent false rest

/-- The lines of a literal block. Empty lines have no margin. -/
def literalBody (indent : Nat) (afterBreak : Bool) : List Char → List Char
  | [] => if afterBreak then [] else ['\n']
  | c :: rest =>
    if isBreak c then c :: literalBody indent true rest
    else (if afterBreak then spaces indent else []) ++ c :: literalBody indent false rest

/-- The header of a literal block: the width of the margin if the first line does
not show it, and what becomes of the breaks at the end. -/
def literalHeader (text : List Char) : List Char :=
  let margin := match text with
    | [] => []
    | c :: _ => if c = ' ' || isBreak c then ['2'] else []
  let chomping := match text.reverse with
    | [] => ['-']
    | [last] => if isBreak last then ['+'] else ['-']
    | last :: previous :: _ =>
      if !isBreak last then ['-'] else if isBreak previous then ['+'] else []
  '|' :: margin ++ chomping

/-- A scalar up to the end of its last line; further lines stand at the margin. -/
def Scalar.layout (indent : Nat) (scalar : Scalar) : List Char :=
  let text := scalar.text.toList
  match scalar.style with
  | .plain => text ++ ['\n']
  | .singleQuoted => '\x27' :: singleQuotedBody indent false text ++ ['\x27', '\n']
  | .literal => literalHeader text ++ '\n' :: literalBody indent true text
  | .doubleQuoted | .folded => '\x22' :: text.flatMap quotedCharacter ++ ['\x22', '\n']

namespace Node

/-- The text of a scalar that can stand before a colon: one line, not a block. -/
def keyText? : Node → Option (List Char)
  | .scalar value =>
    match value.style with
    | .plain => some value.text.toList
    | .doubleQuoted => some ('\x22' :: value.text.toList.flatMap quotedCharacter ++ ['\x22'])
    | _ => none
  | _ => none

mutual

/-- A node from a column of the current line on, up to the end of its last line. -/
def layout (indent : Nat) : Node → List Char
  | .scalar value => value.layout indent
  | .sequence [] => ['[', ']', '\n']
  | .sequence (item :: rest) => layoutItems 0 indent (item :: rest)
  | .mapping [] => ['\x7b', '\x7d', '\n']
  | .mapping (entry :: rest) => layoutEntries 0 indent (entry :: rest)

/-- The items of a sequence at a column, the first one after a margin of its own. -/
def layoutItems (margin indent : Nat) : List Node → List Char
  | [] => []
  | item :: rest =>
    spaces margin ++ '-' :: ' ' :: layout (indent + 2) item ++ layoutItems indent indent rest

/-- The entries of a mapping at a column, the first one after a margin of its own. -/
def layoutEntries (margin indent : Nat) : List (Node × Node) → List Char
  | [] => []
  | (key, value) :: rest =>
    spaces margin ++
      (match key.keyText? with
        | some text => text ++ ':' :: layoutValue indent value
        | none =>
          '?' :: ' ' :: layout (indent + 2) key
            ++ spaces indent ++ ':' :: ' ' :: layout (indent + 2) value)
      ++ layoutEntries indent indent rest

/-- What follows the colon of an entry at a column. -/
def layoutValue (indent : Nat) : Node → List Char
  | .scalar value => ' ' :: value.layout (indent + 2)
  | .sequence [] => [' ', '[', ']', '\n']
  | .sequence (item :: rest) => '\n' :: layoutItems indent indent (item :: rest)
  | .mapping [] => [' ', '\x7b', '\x7d', '\n']
  | .mapping (entry :: rest) => '\n' :: layoutEntries (indent + 2) (indent + 2) (entry :: rest)

end

/-- The text of a node. -/
def toText (node : Node) : String := String.ofList (node.layout 0)

end Node

end RoomLayout.Yaml

/-!
# YAML nodes

The tree that a YAML text stands for. Scalars keep the style in which they are
written, because an unquoted scalar may stand for a number or for nothing where
a quoted one is text.
-/

namespace RoomLayout.Yaml

/-- How a scalar is written. -/
inductive ScalarStyle where
  /-- Without quotes. -/
  | plain
  | singleQuoted
  | doubleQuoted
  /-- As a block of lines that keep their breaks. -/
  | literal
  /-- As a block of lines that are joined. -/
  | folded
  deriving BEq, DecidableEq

/-- A scalar: its text, how it is written, and its tag if it has one. -/
structure Scalar where
  style : ScalarStyle
  text : String
  tag : Option String := none
  deriving BEq, DecidableEq

/-- A node of a YAML tree. -/
inductive Node where
  | scalar (value : Scalar)
  | sequence (items : List Node)
  /-- Keys and their values, in the order of the text. -/
  | mapping (entries : List (Node × Node))
  deriving BEq, Inhabited

namespace Node

/-- The node that is written by writing nothing. -/
def empty : Node := .scalar { style := .plain, text := "" }

/-- A node written without quotes. -/
def plain (text : String) : Node := .scalar { style := .plain, text }

/-- A mapping whose keys are plain names. -/
def record (fields : List (String × Node)) : Node :=
  .mapping (fields.map fun (name, value) => (plain name, value))

end Node

end RoomLayout.Yaml

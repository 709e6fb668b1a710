import RoomLayout.Yaml.Node
import RoomLayout.Yaml.PlainValue

/-!
# Values of YAML nodes

Reads numbers, truth values, texts, lists and records from nodes. A number or a
truth value must not be quoted, a text may be written in any way. A node for
which nothing is written is a list without items and a record without fields.
-/

namespace RoomLayout.Yaml

/-- The standard tag of a kind of scalars. -/
def standardTag (name : String) : String := "tag:yaml.org,2002:" ++ name

/-- The text of a scalar that may stand for a value of a kind: one without
quotes, or a block with the tag of the kind. -/
def Scalar.unquoted? (scalar : Scalar) (kind : String) : Option String :=
  match scalar.style with
  | .plain => some scalar.text
  | .literal => if scalar.tag = some (standardTag kind) then some scalar.text else none
  | _ => none

/-- Whether nothing is written for a scalar. -/
def Scalar.isEmpty (scalar : Scalar) : Bool := scalar.style = .plain && scalar.text = ""

namespace Node

/-- The number that a node stands for. -/
def number? : Node → Option Float
  | .scalar value => (value.unquoted? "float").bind Yaml.number?
  | _ => none

/-- The truth value that a node stands for. -/
def truth? : Node → Option Bool
  | .scalar value => (value.unquoted? "bool").bind truthValue?
  | _ => none

/-- The text of a node. -/
def text? : Node → Option String
  | .scalar value => some value.text
  | _ => none

/-- The text of a node that may stand for nothing. -/
def optionalText? : Node → Option (Option String)
  | .scalar value =>
    if value.style != .plain then some (some value.text)
    else
      match value.tag with
      | none => some (if value.text = "" || value.text ∈ nullWords then none else some value.text)
      | some tag =>
        if tag != standardTag "null" then some (some value.text)
        else if value.text ∈ nullWords then some none
        else none
  | _ => none

/-- The items of a list. -/
def items? : Node → Option (List Node)
  | .sequence items => some items
  | .scalar value => if value.isEmpty then some [] else none
  | .mapping _ => none

/-- A list of values, each read in the same way. -/
def list? {α : Type} (read : Node → Option α) (node : Node) : Option (List α) := do
  (← node.items?).mapM read

end Node

/-- The fields of a record, by name. -/
abbrev Fields := List (String × Node)

/-- The fields of a record. -/
def Node.fields? : Node → Option Fields
  | .mapping entries => entries.mapM fun (key, value) => key.text?.map fun name => (name, value)
  | .scalar value => if value.isEmpty then some [] else none
  | .sequence _ => none

namespace Fields

/-- The values of the fields with a name. -/
def valuesOf (fields : Fields) (name : String) : List Node :=
  (fields.filter fun field => field.1 = name).map (·.2)

/-- The value of a field, which must be there once. -/
def required {α : Type} (fields : Fields) (name : String) (read : Node → Option α) : Option α :=
  match fields.valuesOf name with
  | [node] => read node
  | _ => none

/-- The value of a field, which may be missing but not be there twice. -/
def optional {α : Type} (fields : Fields) (name : String) (fallback : α)
    (read : Node → Option α) : Option α :=
  match fields.valuesOf name with
  | [] => some fallback
  | [node] => read node
  | _ => none

end Fields

end RoomLayout.Yaml

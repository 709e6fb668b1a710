import RoomLayout.Decimal.Basic

/-!
# Command line arguments

What is asked of the program: a script, and options in any order. Options with a
value take it after an equals sign or as the next argument, which then must not
look like an option. Two dashes end the options.
-/

namespace RoomLayout.Command

/-- What the program is asked to do. -/
structure Arguments where
  /-- The path of the script. -/
  input : Option String := none
  /-- Where the level bundle is written, if it is. -/
  output : Option String := none
  /-- The configuration file, if it is not the one in the home directory. -/
  config : Option String := none
  /-- The tolerance of stitching, if it is not the configured one. -/
  tolerance : Option Float := none
  /-- Whether stitching is left out. -/
  keepsAll : Bool := false
  /-- Whether the tokens of the script are listed instead of compiling it. -/
  listsTokens : Bool := false

/-- Why arguments make no sense. -/
inductive UsageError where
  | missingInput
  | unexpected (argument : String)
  | missingValue (name : String)
  | invalidValue (name value : String)
  | repeated (name : String)
  deriving BEq, DecidableEq

/-- The wording of a usage error. -/
def UsageError.message : UsageError → String
  | missingInput => "a script is required"
  | unexpected argument => "unexpected argument '" ++ argument ++ "'"
  | missingValue name => "a value is required for '" ++ name ++ "'"
  | invalidValue name value => "invalid value '" ++ value ++ "' for '" ++ name ++ "'"
  | repeated name => "'" ++ name ++ "' cannot be used multiple times"

/-- The options that take a value. -/
inductive ValueOption where
  | output
  | config
  | tolerance
  deriving BEq, DecidableEq

namespace ValueOption

/-- The options that take a value, all of them. -/
def all : List ValueOption := [output, config, tolerance]

/-- The name of an option. -/
def name : ValueOption → String
  | output => "--output"
  | config => "--config"
  | tolerance => "--epsilon"

/-- The letter of an option. -/
def letter? : ValueOption → Option Char
  | output => some 'o'
  | config => some 'c'
  | tolerance => none

end ValueOption

/-- The options that take no value. -/
inductive Switch where
  | keepAll
  | listTokens
  deriving BEq, DecidableEq

namespace Switch

/-- The options that take no value, all of them. -/
def all : List Switch := [keepAll, listTokens]

/-- The name of an option. -/
def name : Switch → String
  | keepAll => "--no-union"
  | listTokens => "--tokens"

end Switch

/-- What a single argument is. -/
inductive Argument where
  /-- The end of the options. -/
  | terminator
  | switch (name : Switch)
  /-- An option, with its value if it stands in the same argument. -/
  | valueOption (name : ValueOption) (value : Option String)
  | operand
  /-- It looks like an option and is none. -/
  | unknown

/-- The value behind the letter of an option, which may stand after an equals
sign; there is none if nothing follows the letter. -/
def valueAfterLetter : List Char → Option String
  | [] => none
  | '=' :: rest => some (String.ofList rest)
  | rest => some (String.ofList rest)

/-- What an argument is that starts with two dashes. -/
def Argument.ofName (text : List Char) : Argument :=
  let name := String.ofList (text.takeWhile (· != '='))
  let value := match text.dropWhile (· != '=') with
    | [] => none
    | _ :: rest => some (String.ofList rest)
  match ValueOption.all.find? (fun known => known.name = name), value with
  | some found, value => .valueOption found value
  | none, some _ => .unknown
  | none, none =>
    match Switch.all.find? (fun known => known.name = name) with
    | some found => .switch found
    | none => .unknown

/-- What an argument is. A single dash is no option. -/
def Argument.ofString (text : String) : Argument :=
  match text.toList with
  | ['-', '-'] => .terminator
  | '-' :: '-' :: rest => .ofName ('-' :: '-' :: rest)
  | '-' :: letter :: rest =>
    match ValueOption.all.find? (fun known => known.letter? = some letter) with
    | some found => .valueOption found (valueAfterLetter rest)
    | none => .unknown
  | _ => .operand

/-- The number that a text stands for: a decimal, or a word for an infinite or an
undefined number in any case, each with a sign or none. -/
def toleranceOf? (text : String) : Option Float :=
  let word := (match text.toList with
    | '-' :: rest => rest
    | '+' :: rest => rest
    | rest => rest).map Char.toLower
  if word = ['i', 'n', 'f'] || word = ['i', 'n', 'f', 'i', 'n', 'i', 't', 'y'] then
    some (if text.toList.head? = some '-' then -1 / 0 else 1 / 0)
  else if word = ['n', 'a', 'n'] then some (0 / 0)
  else Decimal.readSigned text.toList

namespace Arguments

/-- Add an operand: the script, which is named once. -/
def addOperand (arguments : Arguments) (text : String) : Except UsageError Arguments :=
  if arguments.input.isSome then .error (.unexpected text)
  else if text = "" then .error (.invalidValue "INPUT" text)
  else .ok { arguments with input := some text }

/-- Turn on a switch that is off. -/
def turnOn (arguments : Arguments) : Switch → Except UsageError Arguments
  | .keepAll =>
    if arguments.keepsAll then .error (.repeated Switch.keepAll.name)
    else .ok { arguments with keepsAll := true }
  | .listTokens =>
    if arguments.listsTokens then .error (.repeated Switch.listTokens.name)
    else .ok { arguments with listsTokens := true }

/-- Give a value to an option that has none. Paths must not be empty. -/
def give (arguments : Arguments) (option : ValueOption) (value : String) :
    Except UsageError Arguments :=
  match option with
  | .output =>
    if arguments.output.isSome then .error (.repeated option.name)
    else if value = "" then .error (.invalidValue option.name value)
    else .ok { arguments with output := some value }
  | .config =>
    if arguments.config.isSome then .error (.repeated option.name)
    else if value = "" then .error (.invalidValue option.name value)
    else .ok { arguments with config := some value }
  | .tolerance =>
    if arguments.tolerance.isSome then .error (.repeated option.name)
    else
      match toleranceOf? value with
      | none => .error (.invalidValue option.name value)
      | some tolerance => .ok { arguments with tolerance := some tolerance }

/-- Add arguments to those that have been read. -/
def addAll (arguments : Arguments) (optionsEnded : Bool) : List String → Except UsageError Arguments
  | [] => .ok arguments
  | text :: rest => do
    match if optionsEnded then .operand else Argument.ofString text with
    | .terminator => addAll arguments true rest
    | .switch switch => addAll (← arguments.turnOn switch) optionsEnded rest
    | .valueOption option (some value) => addAll (← arguments.give option value) optionsEnded rest
    | .valueOption option none =>
      match rest with
      | [] => .error (.missingValue option.name)
      | value :: rest =>
        match Argument.ofString value with
        | .operand => addAll (← arguments.give option value) optionsEnded rest
        | _ => .error (.missingValue option.name)
    | .operand => addAll (← arguments.addOperand text) optionsEnded rest
    | .unknown => .error (.unexpected text)

/-- What is asked of the program by some arguments, with the path of the script. -/
def ofList (texts : List String) : Except UsageError (String × Arguments) := do
  let arguments ← addAll {} false texts
  match arguments.input with
  | none => .error .missingInput
  | some input => .ok (input, arguments)

end Arguments

end RoomLayout.Command

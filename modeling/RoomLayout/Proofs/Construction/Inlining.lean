import Mathlib.Data.List.Indexes
import Mathlib.Data.List.Induction
import RoomLayout.Level.Compile
import RoomLayout.Proofs.Construction.Invariant

/-!
# Variables stand for literals

A variable means what was assigned to it last before the line that uses it. Writing that
value in its place, wherever it is one that the place takes, changes nothing about a
compile. Variables without such a value stay, and complain as before.
-/

namespace RoomLayout

/-- The value that an action gives a name. -/
def Action.assigned (name : String) : Action → Option Value
  | .assign target value => if name = target then some value else none
  | _ => none

/-- The value that the last assignment to a name gives it, in document order. -/
def lastAssigned (statements : List Statement) (name : String) : Option Value :=
  statements.reverse.findSome? fun statement => statement.action.assigned name

/-- Write a whole number in the place of a variable that holds one. -/
def Number.inlined (meaning : String → Option Value) : Number → Number
  | .literal value => .literal value
  | .named name =>
    match meaning name with
    | some (.integer value) => .literal value
    | _ => .named name

/-- Write a percentage, or the word for a dim light, in the place of a variable that holds
it. -/
def LightArgument.inlined (meaning : String → Option Value) : LightArgument → LightArgument
  | .named name =>
    match meaning name with
    | some (.percentage value) => .percentage value
    | some (.text "dim") => .dim
    | _ => .named name
  | argument => argument

/-- Write the values of variables in their place. -/
def Action.inlined (meaning : String → Option Value) : Action → Action
  | .addRoom size definition alignments =>
    .addRoom (size.map (Number.inlined meaning)) definition alignments
  | .addLight argument => .addLight (argument.inlined meaning)
  | action => action

/-- A statement with the values of variables in their place. -/
def Statement.inlined (meaning : String → Option Value) (statement : Statement) : Statement :=
  { statement with action := statement.action.inlined meaning }

/-- A program in which every statement has, in place of its variables, the values that the
statements before it gave them. -/
def inlineVariables (statements : List Statement) : List Statement :=
  statements.mapIdx fun index statement =>
    statement.inlined (lastAssigned (statements.take index))

/-- The last write wins. -/
theorem lastAssigned_append_singleton (earlier : List Statement) (statement : Statement)
    (name : String) :
    lastAssigned (earlier ++ [statement]) name
      = (statement.action.assigned name).or (lastAssigned earlier name) := by
  rw [lastAssigned, List.reverse_append, List.reverse_singleton, List.singleton_append,
    List.findSome?_cons]
  cases statement.action.assigned name with
  | some value => rfl
  | none => rfl

/-- The last statement is written with the values that all the others gave. -/
theorem inlineVariables_append_singleton (earlier : List Statement) (statement : Statement) :
    inlineVariables (earlier ++ [statement]) =
      inlineVariables earlier ++ [statement.inlined (lastAssigned earlier)] := by
  rw [inlineVariables, List.mapIdx_append_one, List.take_left' rfl, inlineVariables]
  congr 1
  refine List.ext_getElem (by simp) fun index inRange _ => ?_
  rw [List.length_mapIdx] at inRange
  rw [List.getElem_mapIdx, List.getElem_mapIdx, List.take_append_of_le_length (Nat.le_of_lt inRange)]

-- A light cannot take a whole number, and an extent cannot take what is assigned later.
example :
    inlineVariables
        [⟨1, .assign "w" (.integer 200)⟩, ⟨2, .addLight (.named "w")⟩,
          ⟨3, .addRoom ⟨.named "w", .literal 100, .named "h"⟩ "default" []⟩,
          ⟨4, .assign "h" (.integer 50)⟩, ⟨5, .assign "w" (.percentage 40)⟩,
          ⟨6, .addLight (.named "w")⟩]
      = [⟨1, .assign "w" (.integer 200)⟩, ⟨2, .addLight (.named "w")⟩,
          ⟨3, .addRoom ⟨.literal 200, .literal 100, .named "h"⟩ "default" []⟩,
          ⟨4, .assign "h" (.integer 50)⟩, ⟨5, .assign "w" (.percentage 40)⟩,
          ⟨6, .addLight (.percentage 40)⟩] := by
  rfl

namespace Construction

section Known

variable {values : NameTable Value} {meaning : String → Option Value}
  (known : ∀ name, values.get? name = meaning name)

include known

theorem resolveNumber_inlined (number : Number) :
    resolveNumber values (number.inlined meaning) = resolveNumber values number := by
  cases number with
  | literal value => rfl
  | named name =>
    rw [Number.inlined]
    split
    · next value held => rw [resolveNumber, resolveNumber, known name, held]
    · rfl

theorem resolveLight_inlined (argument : LightArgument) :
    resolveLight values (argument.inlined meaning) = resolveLight values argument := by
  cases argument with
  | named name =>
    rw [LightArgument.inlined]
    split
    · next value held => rw [resolveLight, resolveLight, known name, held]
    · next held => simp only [resolveLight, known name, held]
    · rfl
  | _ => rfl

end Known

variable {state : Construction} {meaning : String → Option Value}
  (known : ∀ name, state.values.get? name = meaning name)

include known

theorem resolveSize_inlined (size : Vec3 Number) :
    state.resolveSize (size.map (Number.inlined meaning)) = state.resolveSize size := by
  simp only [resolveSize, resolveExtent, Vec3.map, resolveNumber_inlined known]

/-- A statement does the same with the values of its variables in their place, also where
it is rejected. -/
theorem perform_inlined (statement : Statement) :
    state.perform (statement.inlined meaning) = state.perform statement := by
  obtain ⟨line, action⟩ := statement
  cases action with
  | addRoom size definition alignments =>
    simp only [perform, Statement.inlined, Action.inlined, addRoom, resolveSize_inlined known]
  | addLight argument =>
    simp only [perform, Statement.inlined, Action.inlined, addLight, resolveLight_inlined known]
  | _ => rfl

omit known

theorem keepsValues (values : NameTable Value) :
    UnnamedInvariant (fun later => later.values = values) where
  reporting kept _ := kept
  placeRoom kept _ _ _ := kept
  light kept _ := kept
  restore kept _ := kept

/-- Only an assignment gives a variable a value. -/
theorem values_perform (state : Construction) (statement : Statement) :
    (state.perform statement).values =
      match statement.action with
      | .assign name value => state.values.insert name value
      | _ => state.values := by
  obtain ⟨line, action⟩ := statement
  cases action with
  | addRoom _ _ _ | addLight _ | restoreCursor _ => exact (keepsValues state.values).perform rfl rfl
  | define _ _ | saveCursor _ | assign _ _ => rfl

theorem get?_values_perform (state : Construction) (statement : Statement) (name : String) :
    (state.perform statement).values.get? name
      = (statement.action.assigned name).or (state.values.get? name) := by
  rw [values_perform]
  cases statement.action with
  | assign target value =>
    rw [NameTable.get?_insert, Action.assigned]
    split
    · rfl
    · rfl
  | _ => rfl

/-- After a run a variable holds what was assigned to it last. -/
theorem get?_values_performAll (session : Session) (statements : List Statement) (name : String) :
    ((start session).performAll statements).values.get? name = lastAssigned statements name := by
  induction statements using List.reverseRecOn with
  | nil => rfl
  | append_singleton earlier statement inductionHypothesis =>
    have last : (start session).performAll (earlier ++ [statement])
        = ((start session).performAll earlier).perform statement := performAll_append _ _ _
    rw [last, get?_values_perform, lastAssigned_append_singleton, inductionHypothesis]

theorem performAll_inlineVariables (session : Session) (statements : List Statement) :
    (start session).performAll (inlineVariables statements)
      = (start session).performAll statements := by
  induction statements using List.reverseRecOn with
  | nil => rfl
  | append_singleton earlier statement inductionHypothesis =>
    rw [inlineVariables_append_singleton, performAll_append, inductionHypothesis,
      performAll_append]
    exact perform_inlined (get?_values_performAll session earlier) statement

end Construction

/-- Variable substitution preserves meaning. A program compiles to the same rooms, with the
same textures used and the same diagnostics in the same order, when each variable of an
extent that holds a whole number, and each variable of a light that holds a percentage or
the word for a dim light, is replaced by what was assigned to it last. -/
theorem compileStatements_inlineVariables (session : Session) (statements : List Statement) :
    compileStatements session (inlineVariables statements)
      = compileStatements session statements := by
  rw [compileStatements, compileStatements, Construction.performAll_inlineVariables]

end RoomLayout

import Mathlib.Data.List.Basic
import RoomLayout.Files.Basic

/-!
# Paths as steps

The names of a path are steps from where it starts. A joined path takes the
steps of its base and then those of the path behind it, unless that one is
absolute. Steps put together climb some directories and go down into others,
which tells where they lead from any place.
-/

namespace RoomLayout

namespace Path

/-! ### The names of a joined path -/

theorem segmentsOf_ne_nil (characters : List Char) : segmentsOf characters ≠ [] := by
  cases characters with
  | nil => exact List.cons_ne_nil _ _
  | cons c rest =>
    rw [segmentsOf]
    split
    · exact List.cons_ne_nil _ _
    · split <;> exact List.cons_ne_nil _ _

theorem segmentsOf_separator (characters : List Char) :
    segmentsOf ('/' :: characters) = [] :: segmentsOf characters := by
  rw [segmentsOf]
  split
  · next none => exact absurd none (segmentsOf_ne_nil characters)
  · next some => rw [if_pos rfl, some]

theorem segmentsOf_cons {c : Char} (notSeparator : c ≠ '/') {characters first : List Char}
    {later : List (List Char)} (segments : segmentsOf characters = first :: later) :
    segmentsOf (c :: characters) = (c :: first) :: later := by
  rw [segmentsOf, segments]
  exact if_neg notSeparator

/-- A separator ends one name and begins the next. -/
theorem segmentsOf_append_separator (characters rest : List Char) :
    segmentsOf (characters ++ '/' :: rest) = segmentsOf characters ++ segmentsOf rest := by
  induction characters with
  | nil => exact segmentsOf_separator rest
  | cons c characters inductionHypothesis =>
    rw [List.cons_append]
    by_cases separator : c = '/'
    · rw [separator, segmentsOf_separator, segmentsOf_separator, inductionHypothesis,
        List.cons_append]
    · obtain ⟨first, later, segments⟩ := List.exists_cons_of_ne_nil (segmentsOf_ne_nil characters)
      rw [segments, List.cons_append] at inductionHypothesis
      rw [segmentsOf_cons separator segments, segmentsOf_cons separator inductionHypothesis,
        List.cons_append]

theorem segments_ne_nil (path : String) : segments path ≠ [] := by
  simp only [segments, ne_eq, List.map_eq_nil_iff]
  exact segmentsOf_ne_nil path.toList

theorem segments_append_separator (path rest : String) :
    segments (path ++ "/" ++ rest) = segments path ++ segments rest := by
  have characters : (path ++ "/" ++ rest).toList = path.toList ++ '/' :: rest.toList := by simp
  rw [segments, characters, segmentsOf_append_separator, List.map_append, segments, segments]

theorem segments_empty : segments "" = [""] := rfl

/-- What ends with a separator has an empty name at its end. -/
theorem exists_segments_of_getLast? {path : String}
    (ends : path.toList.getLast? = some '/') :
    ∃ rest, path = rest ++ "/" ∧ segments path = segments rest ++ [""] := by
  obtain ⟨characters, written⟩ := List.getLast?_eq_some_iff.mp ends
  have split : path = String.ofList characters ++ "/" ++ "" := by
    rw [← String.toList_inj]
    simp [written]
  refine ⟨String.ofList characters, ?_, ?_⟩
  · rw [split, String.append_empty]
  · rw [split, segments_append_separator, segments_empty]

/-- A joined path goes through the names of its base, without the empty one that
a separator at its end leaves, and then through those of the path behind it. -/
theorem exists_segments_join (base : String) {path : String} (relative : isAbsolute path = false) :
    ∃ names, (segments base = names ∨ segments base = names ++ [""]) ∧
      segments (join base path) = names ++ segments path := by
  simp only [join, relative, Bool.false_eq_true, if_false, Bool.or_eq_true, decide_eq_true_eq]
  by_cases empty : base = ""
  · subst empty
    exact ⟨[], .inr rfl, by rw [if_pos (.inl rfl), String.empty_append, List.nil_append]⟩
  by_cases ends : base.toList.getLast? = some '/'
  · obtain ⟨rest, rfl, names⟩ := exists_segments_of_getLast? ends
    exact ⟨segments rest, .inr names, by rw [if_pos (.inr ends), segments_append_separator]⟩
  · exact ⟨segments base, .inl rfl,
      by rw [if_neg (not_or.mpr ⟨empty, ends⟩), segments_append_separator]⟩

theorem isAbsolute_append (path rest : String) :
    isAbsolute (path ++ rest) = if path = "" then isAbsolute rest else isAbsolute path := by
  split
  · next empty => rw [empty, String.empty_append]
  · next inhabited =>
    have nonempty : path.toList ≠ [] := fun empty => inhabited (String.toList_inj.mp empty)
    rw [isAbsolute, isAbsolute, String.toList_append, List.head?_append_of_ne_nil _ nonempty]

/-- A joined path starts where its base starts. -/
theorem isAbsolute_join (base : String) {path : String} (relative : isAbsolute path = false) :
    isAbsolute (join base path) = isAbsolute base := by
  simp only [join, relative, Bool.false_eq_true, if_false, Bool.or_eq_true, decide_eq_true_eq]
  by_cases empty : base = ""
  · rw [if_pos (.inl empty), isAbsolute_append, if_pos empty, relative, empty]
    rfl
  · split <;> simp only [isAbsolute_append, empty, if_false]
    rw [if_neg]
    simp [empty]

theorem join_ne_empty {base path : String} (inhabited : base ≠ "")
    (relative : isAbsolute path = false) : join base path ≠ "" := by
  have characters : base.toList ≠ [] := fun none => inhabited (String.toList_inj.mp none)
  simp only [join, relative, Bool.false_eq_true, if_false]
  intro none
  have noCharacters := congrArg String.toList none
  split at noCharacters <;> simp [characters] at noCharacters

theorem join_of_isAbsolute (base : String) {path : String} (absolute : isAbsolute path = true) :
    join base path = path :=
  if_pos absolute

/-! ### Steps -/

/-- The place that one name leads to from another place. -/
def step (location : Location) (name : String) : Location :=
  if isIdle name then location
  else if name = ".." then location.dropLast
  else location ++ [name]

/-- The place that names lead to, one after another. -/
def follow (location : Location) (names : List String) : Location := names.foldl step location

/-- The place that a path means, whether or not there is anything. -/
def place (path : String) : Location := follow (Files.startOf path) (segments path)

theorem follow_cons (location : Location) (name : String) (names : List String) :
    follow location (name :: names) = follow (step location name) names := rfl

theorem follow_append (location : Location) (names later : List String) :
    follow location (names ++ later) = follow (follow location names) later :=
  List.foldl_append

theorem step_of_isIdle (location : Location) {name : String} (idle : isIdle name = true) :
    step location name = location :=
  if_pos idle

/-- A path behind a base starts from the place that the base means. -/
theorem place_join (base : String) {path : String} (relative : isAbsolute path = false) :
    place (join base path) = follow (place base) (segments path) := by
  obtain ⟨names, inBase, joined⟩ := exists_segments_join base relative
  have starts : Files.startOf (join base path) = Files.startOf base := by
    rw [Files.startOf, Files.startOf, isAbsolute_join base relative]
  have same : place base = follow (Files.startOf base) names := by
    obtain inBase | inBase := inBase
    · rw [place, inBase]
    · rw [place, inBase, follow_append]
      rfl
  rw [place, starts, joined, follow_append, same]

end Path

/-! ### Routes -/

/-- Steps put together: out of some directories, then down along names. -/
structure Route where
  climbs : Nat
  names : List String
  deriving DecidableEq

namespace Route

/-- One more step. A climb takes back the last step down, if there is one. -/
def step (route : Route) (name : String) : Route :=
  if Path.isIdle name then route
  else if name = ".." then
    if route.names = [] then ⟨route.climbs + 1, []⟩ else ⟨route.climbs, route.names.dropLast⟩
  else ⟨route.climbs, route.names ++ [name]⟩

/-- The steps of several names. -/
def ofNames (names : List String) : Route := names.foldl step ⟨0, []⟩

/-- The place at the end of a route. Nothing climbs out of the root. -/
def endFrom (route : Route) (location : Location) : Location :=
  location.take (location.length - route.climbs) ++ route.names

theorem endFrom_step (route : Route) (location : Location) (name : String) :
    (route.step name).endFrom location = Path.step (route.endFrom location) name := by
  rw [step, Path.step]
  by_cases idle : Path.isIdle name = true
  · rw [if_pos idle, if_pos idle]
  rw [if_neg idle, if_neg idle]
  by_cases climbs : name = ".."
  · rw [if_pos climbs, if_pos climbs]
    by_cases none : route.names = []
    · rw [if_pos none, endFrom, endFrom, none, List.append_nil, List.append_nil,
        List.dropLast_eq_take, List.take_take, List.length_take]
      congr 1
      dsimp only
      omega
    · rw [if_neg none, endFrom, endFrom, List.dropLast_append_of_ne_nil none]
  · rw [if_neg climbs, if_neg climbs, endFrom, endFrom, List.append_assoc]

/-- Names lead to the end of their route. -/
theorem endFrom_ofNames (location : Location) (names : List String) :
    (ofNames names).endFrom location = Path.follow location names := by
  suffices along : ∀ route : Route,
      (names.foldl step route).endFrom location = Path.follow (route.endFrom location) names by
    rw [ofNames, along, endFrom, Nat.sub_zero, List.take_length, List.append_nil]
  induction names with
  | nil => exact fun _ => rfl
  | cons name names inductionHypothesis =>
    intro route
    rw [List.foldl_cons, inductionHypothesis, endFrom_step, Path.follow_cons]

end Route

/-- Whether a location is inside of a directory, at any depth. -/
def Location.IsBelow (location directory : Location) : Prop :=
  ∃ names, names ≠ [] ∧ location = directory ++ names

namespace Route

/-- Whether a route goes down again through all that it climbs from a directory,
and further. -/
def ReturnsInto (route : Route) (directory : Location) : Prop :=
  ∃ further, further ≠ [] ∧
    route.names = directory.drop (directory.length - route.climbs) ++ further

theorem endFrom_eq_append_iff {route : Route} {directory : Location} {further : List String} :
    route.endFrom directory = directory ++ further ↔
      route.names = directory.drop (directory.length - route.climbs) ++ further := by
  conv_lhs => rhs; lhs; rw [← List.take_append_drop (directory.length - route.climbs) directory]
  rw [endFrom, List.append_assoc, List.append_cancel_left_eq]

/-- A route ends inside of the directory in which it starts if it returns into it. -/
theorem isBelow_endFrom_iff (route : Route) (directory : Location) :
    (route.endFrom directory).IsBelow directory ↔ route.ReturnsInto directory := by
  simp only [Location.IsBelow, ReturnsInto, endFrom_eq_append_iff]

/-- A route that never climbs out of its directory ends inside of it, unless it
ends in the directory itself. -/
theorem returnsInto_of_climbs_eq_zero {route : Route} {directory : Location}
    (stays : route.climbs = 0) (leaves : route.endFrom directory ≠ directory) :
    route.ReturnsInto directory := by
  have whole : route.endFrom directory = directory ++ route.names := by
    rw [endFrom, stays, Nat.sub_zero, List.take_length]
  refine ⟨route.names, fun none => leaves ?_, endFrom_eq_append_iff.mp whole⟩
  rw [whole, none, List.append_nil]

end Route

end RoomLayout

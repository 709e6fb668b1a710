import Mathlib.Data.List.TakeWhile
import RoomLayout.Proofs.Files.Walking

/-!
# Parents of paths

The parent of a path that ends in a name takes the same steps as the path, but for that
name. So it leads to the directory in which the path names something, and making that
directory and those above it changes nothing if they are there.
-/

namespace RoomLayout

namespace Path

/-! ### The steps of a path -/

/-- The names that take a step. -/
def activeNames (names : List String) : List String := names.filter fun name => !isIdle name

theorem activeNames_append (names later : List String) :
    activeNames (names ++ later) = activeNames names ++ activeNames later :=
  List.filter_append names later

theorem activeNames_cons_of_isIdle {name : String} (idle : isIdle name = true)
    (names : List String) : activeNames (name :: names) = activeNames names :=
  List.filter_cons_of_neg (by simp [idle])

/-- Names without idle ones at the end are the names without some idle ones. -/
theorem exists_dropIdle_append (names : List String) :
    ∃ idle, names = dropIdle names ++ idle ∧ ∀ name ∈ idle, isIdle name = true := by
  refine ⟨(names.reverse.takeWhile isIdle).reverse, ?_, fun name member => ?_⟩
  · rw [dropIdle, ← List.reverse_append, List.takeWhile_append_dropWhile, List.reverse_reverse]
  · exact List.mem_takeWhile_imp (List.mem_reverse.mp member)

theorem activeNames_dropIdle (names : List String) :
    activeNames (dropIdle names) = activeNames names := by
  obtain ⟨idle, split, areIdle⟩ := exists_dropIdle_append names
  have none : activeNames idle = [] := List.filter_eq_nil_iff.mpr (by simpa using areIdle)
  conv_rhs => rw [split, activeNames_append, none, List.append_nil]

/-- Names with an active one at the end stay as they are. -/
theorem dropIdle_append_active (names : List String) {name : String}
    (active : isIdle name = false) : dropIdle (names ++ [name]) = names ++ [name] := by
  rw [dropIdle, List.reverse_append]
  simp [active]

/-! ### Paths from names -/

theorem not_mem_segmentsOf {characters segment : List Char}
    (member : segment ∈ segmentsOf characters) : '/' ∉ segment := by
  induction characters generalizing segment with
  | nil =>
    rw [List.mem_singleton.mp member]
    exact List.not_mem_nil
  | cons c characters inductionHypothesis =>
    by_cases separator : c = '/'
    · rw [separator, segmentsOf_separator] at member
      obtain rfl | later := List.mem_cons.mp member
      · exact List.not_mem_nil
      · exact inductionHypothesis later
    · obtain ⟨first, later, segments⟩ := List.exists_cons_of_ne_nil (segmentsOf_ne_nil characters)
      rw [segmentsOf_cons separator segments] at member
      rw [segments] at inductionHypothesis
      obtain rfl | later := List.mem_cons.mp member
      · exact List.not_mem_cons_of_ne_of_not_mem (Ne.symm separator)
          (inductionHypothesis List.mem_cons_self)
      · exact inductionHypothesis (List.mem_cons_of_mem _ later)

theorem segmentsOf_of_not_mem {characters : List Char} (noSeparator : '/' ∉ characters) :
    segmentsOf characters = [characters] := by
  induction characters with
  | nil => rfl
  | cons c characters inductionHypothesis =>
    obtain ⟨first, rest⟩ := not_or.mp (List.mem_cons.not.mp noSeparator)
    exact segmentsOf_cons (Ne.symm first) (inductionHypothesis rest)

/-- Whether a text is one name, without separators. -/
def IsName (name : String) : Prop := '/' ∉ name.toList

theorem isName_of_mem_segments {path name : String} (member : name ∈ segments path) :
    IsName name := by
  obtain ⟨segment, isSegment, rfl⟩ := List.mem_map.mp member
  rw [IsName, String.toList_ofList]
  exact not_mem_segmentsOf isSegment

theorem segments_of_isName {name : String} (isName : IsName name) : segments name = [name] := by
  rw [segments, segmentsOf_of_not_mem isName, List.map_singleton, String.ofList_toList]

/-- The names that are written one after another are the names of the path. -/
theorem segments_intercalate {names : List String} (nonempty : names ≠ [])
    (areNames : ∀ name ∈ names, IsName name) : segments ("/".intercalate names) = names := by
  induction names with
  | nil => exact absurd rfl nonempty
  | cons name names inductionHypothesis =>
    obtain ⟨first, later⟩ := List.forall_mem_cons.mp areNames
    cases names with
    | nil => rw [String.intercalate_singleton, segments_of_isName first]
    | cons next names =>
      rw [String.intercalate_cons_cons, segments_append_separator, segments_of_isName first,
        inductionHypothesis (List.cons_ne_nil _ _) later, List.singleton_append]

theorem activeNames_intercalate {names : List String} (areNames : ∀ name ∈ names, IsName name) :
    activeNames (segments ("/".intercalate names)) = activeNames names := by
  by_cases empty : names = []
  · subst empty
    rfl
  · rw [segments_intercalate empty areNames]

/-- A path is its names, one after another. -/
theorem intercalate_segments (path : String) : "/".intercalate (segments path) = path := by
  suffices written : ∀ characters : List Char,
      "/".intercalate ((segmentsOf characters).map String.ofList) = String.ofList characters by
    rw [segments, written, String.ofList_toList]
  intro characters
  induction characters with
  | nil => rfl
  | cons c characters inductionHypothesis =>
    obtain ⟨first, later, segments⟩ := List.exists_cons_of_ne_nil (segmentsOf_ne_nil characters)
    rw [segments, List.map_cons] at inductionHypothesis
    by_cases separator : c = '/'
    · rw [separator, segmentsOf_separator, segments, List.map_cons, List.map_cons,
        String.intercalate_cons_cons, inductionHypothesis, ← String.toList_inj]
      simp
    · have start : String.ofList (c :: first) = String.ofList [c] ++ String.ofList first := by
        rw [← String.ofList_append, List.singleton_append]
      rw [segmentsOf_cons separator segments, List.map_cons, start,
        String.intercalate_cons_append, inductionHypothesis, ← String.ofList_append,
        List.singleton_append]

theorem isAbsolute_of_isName {name : String} (isName : IsName name) : isAbsolute name = false := by
  simp only [isAbsolute, decide_eq_false_iff_not]
  exact fun first => isName (List.mem_of_mem_head? first)

/-! ### Parents -/

theorem dropIdle_cons (name : String) (names : List String) :
    dropIdle (name :: names) =
      if dropIdle names = [] then (if isIdle name = true then [] else [name])
      else name :: dropIdle names := by
  simp only [dropIdle, List.reverse_cons, List.dropWhile_append, List.reverse_eq_nil_iff,
    List.isEmpty_iff]
  split
  · rw [List.dropWhile_cons]
    split <;> rfl
  · rw [List.reverse_append]
    rfl

/-- The parent of a path whose part behind the anchor ends in a name. -/
theorem parent?_eq {path name : String} {names : List String}
    (body : segments (String.ofList (path.toList.drop (anchor path).length)) = names ++ [name])
    (active : isIdle name = false) :
    parent? path = some (anchor path ++ "/".intercalate (dropIdle names)) := by
  delta parent?
  dsimp only
  rw [body, dropIdle_append_active names active]
  split
  · next none => exact absurd none (by simp)
  · rw [List.dropLast_concat]

/-- Names without an empty one in front make a path in the current directory. -/
theorem isAbsolute_intercalate {names : List String} (areNames : ∀ name ∈ names, IsName name)
    (noRoot : names.head? ≠ some "") : isAbsolute ("/".intercalate names) = false := by
  cases names with
  | nil => rfl
  | cons first later =>
    have nonempty : first ≠ "" := fun empty => noRoot (by rw [empty, List.head?_cons])
    have relative := isAbsolute_of_isName (areNames first List.mem_cons_self)
    cases later with
    | nil => rwa [String.intercalate_singleton]
    | cons next later =>
      rw [String.intercalate_cons_cons, String.append_assoc, isAbsolute_append, if_neg nonempty,
        relative]

section Parent

variable {path name : String} {names : List String}

theorem areNames_of_segments (segments : Path.segments path = names ++ [name]) :
    ∀ part ∈ names, IsName part := fun _ member =>
  isName_of_mem_segments (segments ▸ List.mem_append_left _ member)

theorem activeNames_intercalate_dropIdle (areNames : ∀ part ∈ names, IsName part) :
    activeNames (segments ("/".intercalate (dropIdle names))) = activeNames names := by
  obtain ⟨idle, split, -⟩ := exists_dropIdle_append names
  rw [activeNames_intercalate fun part member =>
    areNames part (split ▸ List.mem_append_left idle member), activeNames_dropIdle]

/-- The parent of a path that starts with a name. -/
theorem exists_parent_of_name (segments : Path.segments path = names ++ [name])
    (active : isIdle name = false) (relative : isAbsolute path = false)
    (noRoot : (names ++ [name]).head? ≠ some "") (noDot : (names ++ [name]).head? ≠ some ".") :
    ∃ parent, parent? path = some parent ∧ isAbsolute parent = false ∧
      activeNames (Path.segments parent) = activeNames names := by
  have noAnchor : anchor path = "" := by
    rw [anchor, relative, segments, if_neg Bool.false_ne_true, if_neg noDot]
  have body : Path.segments (String.ofList (path.toList.drop (anchor path).length)) =
      names ++ [name] := by
    rw [noAnchor, ← segments]
    exact congrArg Path.segments String.ofList_toList
  have areNames := areNames_of_segments segments
  refine ⟨"/".intercalate (dropIdle names), ?_, ?_, activeNames_intercalate_dropIdle areNames⟩
  · rw [parent?_eq body active, noAnchor, String.empty_append]
  · obtain ⟨idle, split, -⟩ := exists_dropIdle_append names
    refine isAbsolute_intercalate (fun part member =>
      areNames part (split ▸ List.mem_append_left idle member)) fun root => noRoot ?_
    rw [split, List.append_assoc, List.head?_append, root]
    rfl

/-- The parent of a path that starts at the root. -/
theorem exists_parent_of_root {rest : String} (segments : Path.segments rest = names ++ [name])
    (active : isIdle name = false) :
    ∃ parent, parent? ("" ++ "/" ++ rest) = some parent ∧
      isAbsolute parent = isAbsolute ("" ++ "/" ++ rest) ∧
      activeNames (Path.segments parent) = activeNames ("" :: names) := by
  have absolute (further : String) : isAbsolute ("" ++ "/" ++ further) = true := by
    rw [String.empty_append, isAbsolute_append, if_neg (by decide)]
    rfl
  have atRoot : anchor ("" ++ "/" ++ rest) = "/" := if_pos (absolute rest)
  have body : Path.segments (String.ofList
      (("" ++ "/" ++ rest).toList.drop (anchor ("" ++ "/" ++ rest)).length)) =
      names ++ [name] := by
    rw [atRoot, String.empty_append, String.toList_append, ← segments]
    exact congrArg Path.segments String.ofList_toList
  have parent := parent?_eq body active
  rw [atRoot, ← String.empty_append (s := "/" ++ _), ← String.append_assoc] at parent
  refine ⟨_, parent, (absolute _).trans (absolute rest).symm, ?_⟩
  rw [segments_append_separator, activeNames_append,
    activeNames_intercalate_dropIdle (areNames_of_segments segments)]
  rfl

/-- The parent of a path that starts with a dot. -/
theorem exists_parent_of_dot {rest : String} (segments : Path.segments rest = names ++ [name])
    (active : isIdle name = false) :
    ∃ parent, parent? ("." ++ "/" ++ rest) = some parent ∧
      isAbsolute parent = isAbsolute ("." ++ "/" ++ rest) ∧
      activeNames (Path.segments parent) = activeNames ("." :: names) := by
  have relative (further : String) : isAbsolute ("." ++ further) = false := by
    rw [isAbsolute_append, if_neg (by decide)]
    rfl
  have atDot : anchor ("." ++ "/" ++ rest) = "." := by
    rw [anchor, String.append_assoc, relative, if_neg Bool.false_ne_true, ← String.append_assoc,
      segments_append_separator]
    rfl
  have body : Path.segments (String.ofList
      (("." ++ "/" ++ rest).toList.drop (anchor ("." ++ "/" ++ rest)).length)) =
      ("" :: names) ++ [name] := by
    have behindDot : String.ofList (("." ++ "/" ++ rest).toList.drop 1) = "" ++ "/" ++ rest := by
      rw [← String.toList_inj]
      simp
    rw [atDot]
    refine (congrArg Path.segments behindDot).trans ?_
    rw [segments_append_separator, segments]
    rfl
  have parent := parent?_eq body active
  rw [atDot, dropIdle_cons] at parent
  have sameNames := activeNames_intercalate_dropIdle (areNames_of_segments segments)
  refine ⟨_, parent, (relative _).trans (by rw [String.append_assoc, relative]), ?_⟩
  rw [activeNames_cons_of_isIdle rfl]
  by_cases none : dropIdle names = []
  · rw [if_pos none]
    rw [none] at sameNames
    exact sameNames
  · rw [if_neg none, String.intercalate_cons_of_ne_nil none, String.empty_append,
      ← String.append_assoc, segments_append_separator, activeNames_append, sameNames]
    rfl

/-- What stands behind an idle name at the start of a path. -/
theorem exists_rest_of_head? (segments : Path.segments path = names ++ [name])
    (active : isIdle name = false) {first : String} (head : (names ++ [name]).head? = some first)
    (idle : isIdle first = true) :
    ∃ later rest, names = first :: later ∧ path = first ++ "/" ++ rest ∧
      Path.segments rest = later ++ [name] := by
  cases names with
  | nil =>
    obtain rfl := Option.some.inj head
    exact absurd idle (by simp [active])
  | cons other later =>
    obtain rfl := Option.some.inj head
    have nonempty : later ++ [name] ≠ [] := by simp
    refine ⟨later, "/".intercalate (later ++ [name]), rfl, ?_, ?_⟩
    · rw [← intercalate_segments path, segments, List.cons_append,
        String.intercalate_cons_of_ne_nil nonempty]
    · refine segments_intercalate nonempty fun part member => ?_
      have inPath : part ∈ Path.segments path := by
        rw [segments]
        exact List.mem_cons_of_mem _ member
      exact isName_of_mem_segments inPath

/-- The parent of a path with a name at its end starts where the path does, and takes the
steps in front of that name. -/
theorem exists_parent (segments : Path.segments path = names ++ [name])
    (active : isIdle name = false) :
    ∃ parent, parent? path = some parent ∧ isAbsolute parent = isAbsolute path ∧
      activeNames (Path.segments parent) = activeNames names := by
  have written : path = "/".intercalate (names ++ [name]) := by
    rw [← segments, intercalate_segments]
  -- an empty name or a dot in front is the anchor, which no step takes away
  by_cases root : (names ++ [name]).head? = some ""
  · obtain ⟨later, rest, rfl, rfl, segmentsRest⟩ :=
      exists_rest_of_head? segments active root rfl
    exact exists_parent_of_root segmentsRest active
  by_cases dot : (names ++ [name]).head? = some "."
  · obtain ⟨later, rest, rfl, rfl, segmentsRest⟩ :=
      exists_rest_of_head? segments active dot rfl
    exact exists_parent_of_dot segmentsRest active
  · have relative : isAbsolute path = false := by
      rw [written]
      refine isAbsolute_intercalate (fun part member => ?_) root
      exact isName_of_mem_segments (segments ▸ member)
    rw [relative]
    exact exists_parent_of_name segments active relative root dot

end Parent

end Path

namespace Files

variable {files : Files} {location target : Location} {names : List String}

/-- A way to a directory is found without its idle names. -/
theorem walk_activeNames (walked : files.walk location names = .ok target)
    (directory : files.entry? target = some .directory) :
    files.walk location (Path.activeNames names) = .ok target := by
  induction names generalizing location with
  | nil => exact walked
  | cons name names inductionHypothesis =>
    obtain ⟨leadsOn, further⟩ | ⟨-, -, content, isFile⟩ := leadsOn_or_of_walk_cons walked
    · cases idle : Path.isIdle name with
      | true =>
        rw [Path.step_of_isIdle location idle] at further
        rw [Path.activeNames_cons_of_isIdle idle]
        exact inductionHypothesis further
      | false =>
        rw [Path.activeNames, List.filter_cons_of_pos (by simp [idle]),
          walk_cons_of_leadsOn leadsOn]
        exact inductionHypothesis further
    · cases directory.symm.trans isFile

/-- Directories that are all there are not made again. -/
theorem makeDirectories_of_walk
    (walked : files.walk location (Path.activeNames names) = .ok target)
    (directory : files.entry? target = some .directory) :
    files.makeDirectories location names = .ok files := by
  induction names generalizing location with
  | nil => rfl
  | cons name names inductionHypothesis =>
    rw [makeDirectories]
    cases idle : Path.isIdle name with
    | true =>
      rw [Path.activeNames_cons_of_isIdle idle] at walked
      exact inductionHypothesis walked
    | false =>
      rw [Path.activeNames, List.filter_cons_of_pos (by simp [idle])] at walked
      obtain ⟨leadsOn, further⟩ | ⟨-, -, content, isFile⟩ := leadsOn_or_of_walk_cons walked
      · rw [if_neg Bool.false_ne_true]
        rw [Path.step, idle, if_neg Bool.false_ne_true] at further
        split
        · next climbs =>
          rw [if_pos climbs] at further
          exact inductionHypothesis further
        · next down =>
          rw [if_neg down] at further
          rw [(leadsOn.resolve_left (by simp [idle])).resolve_left down]
          exact inductionHypothesis further
      · cases directory.symm.trans isFile

/-- A path to which something can be written has a parent that is there. -/
theorem createDirectories_parent {path : String} {content : ByteArray} {written : Files}
    (wrote : files.write path content = .ok written) :
    ∃ parent, Path.parent? path = some parent ∧ files.createDirectories parent = .ok files := by
  obtain ⟨-, names, name, directory, segments, active, -, walked, isDirectory, -⟩ :=
    exists_of_write wrote
  obtain ⟨parent, isParent, starts, sameNames⟩ := Path.exists_parent segments active
  refine ⟨parent, isParent, ?_⟩
  have start : startOf parent = startOf path := by rw [startOf, startOf, starts]
  rw [createDirectories, start]
  refine makeDirectories_of_walk ?_ isDirectory
  rw [sameNames]
  exact walk_activeNames walked isDirectory

end Files

end RoomLayout

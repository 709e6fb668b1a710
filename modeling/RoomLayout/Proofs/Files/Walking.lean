import RoomLayout.Proofs.Files.Paths

/-!
# Following paths through files

A path that leads somewhere leads where its steps lead, and every step but the
last one ends in a directory. So the way behind a base goes through the place of
that base. What is put at one location leaves the other locations, and the ways
to them, as they are, and a text that could be written is read back.
-/

namespace RoomLayout

namespace Files

variable {files : Files} {location place target : Location} {name : String}
  {names rest : List String}

/-! ### Single steps -/

/-- Whether a name leads from a location to a directory. -/
def LeadsOn (files : Files) (location : Location) (name : String) : Prop :=
  Path.isIdle name = true ∨ name = ".." ∨ files.entry? (location ++ [name]) = some .directory

theorem walk_cons_of_leadsOn (leadsOn : files.LeadsOn location name) :
    files.walk location (name :: rest) = files.walk (Path.step location name) rest := by
  rw [walk, Path.step]
  split
  · rfl
  · next active =>
    split
    · rfl
    · next down =>
      rw [(leadsOn.resolve_left active).resolve_left down]

/-- What the first name of a way does: it leads on, or it is that of a file and
the way ends. -/
theorem leadsOn_or_of_walk_cons (walked : files.walk location (name :: rest) = .ok target) :
    (files.LeadsOn location name ∧ files.walk (Path.step location name) rest = .ok target) ∨
      (rest = [] ∧ target = Path.step location name ∧
        ∃ content, files.entry? target = some (.file content)) := by
  by_cases leadsOn : files.LeadsOn location name
  · rw [walk_cons_of_leadsOn leadsOn] at walked
    exact .inl ⟨leadsOn, walked⟩
  · obtain ⟨active, down, notDirectory⟩ := by simpa only [LeadsOn, not_or] using leadsOn
    rw [walk, if_neg active, if_neg down] at walked
    split at walked
    · next directory => exact absurd directory notDirectory
    · next content isFile =>
      split at walked
      · next ends =>
        obtain rfl := Except.ok.inj walked
        refine .inr ⟨List.isEmpty_iff.mp ends, ?_, content, isFile⟩
        rw [Path.step, if_neg active, if_neg down]
      · cases walked
    · cases walked

/-! ### Ways -/

/-- Who gets somewhere gets where the steps lead. -/
theorem eq_follow_of_walk (walked : files.walk location names = .ok target) :
    target = Path.follow location names := by
  induction names generalizing location with
  | nil => exact (Except.ok.inj walked).symm
  | cons name names inductionHypothesis =>
    obtain ⟨-, further⟩ | ⟨rfl, ends, -⟩ := leadsOn_or_of_walk_cons walked
    · exact inductionHypothesis further
    · exact ends

/-- A way to a directory can be continued. -/
theorem walk_append_of_directory (walked : files.walk location names = .ok target)
    (directory : files.entry? target = some .directory) :
    files.walk location (names ++ rest) = files.walk target rest := by
  induction names generalizing location with
  | nil => rw [Except.ok.inj walked, List.nil_append]
  | cons name names inductionHypothesis =>
    obtain ⟨leadsOn, further⟩ | ⟨-, -, content, isFile⟩ := leadsOn_or_of_walk_cons walked
    · rw [List.cons_append, walk_cons_of_leadsOn leadsOn, inductionHypothesis further]
    · cases directory.symm.trans isFile

/-- A location that is a directory, as is everything above it. -/
def IsReached (files : Files) (location : Location) : Prop :=
  ∀ above, above <+: location → files.entry? above = some .directory

theorem IsReached.isDirectory (reached : files.IsReached location) :
    files.entry? location = some .directory :=
  reached location List.prefix_rfl

theorem isReached_startOf (files : Files) (path : String) : files.IsReached (startOf path) := by
  have exist : ∀ above, above = [] ∨ above = workingDirectory →
      files.entry? above = some .directory := by
    intro above places
    unfold Files.entry?
    rw [if_pos (by simpa using places)]
  intro above isAbove
  apply exist
  rw [startOf] at isAbove
  split at isAbove
  · exact .inl (List.prefix_nil.mp isAbove)
  · exact (List.prefix_concat_iff.mp isAbove).symm.imp_left List.prefix_nil.mp

theorem IsReached.step (reached : files.IsReached location)
    (leadsOn : files.LeadsOn location name) : files.IsReached (Path.step location name) := by
  intro above isAbove
  rw [Path.step] at isAbove
  split at isAbove
  · exact reached above isAbove
  · next active =>
    split at isAbove
    · exact reached above (isAbove.trans (List.dropLast_prefix location))
    · next down =>
      obtain rfl | earlier := List.prefix_concat_iff.mp isAbove
      · exact (leadsOn.resolve_left active).resolve_left down
      · exact reached above earlier

/-- A way that goes on behind some names goes through the directory to which
these lead. -/
theorem IsReached.walk_of_append (reached : files.IsReached location) (goesOn : rest ≠ [])
    (walked : files.walk location (names ++ rest) = .ok target) :
    files.walk location names = .ok (Path.follow location names) ∧
      files.IsReached (Path.follow location names) := by
  induction names generalizing location with
  | nil => exact ⟨rfl, reached⟩
  | cons name names inductionHypothesis =>
    obtain ⟨leadsOn, further⟩ | ⟨ends, -⟩ := leadsOn_or_of_walk_cons walked
    · rw [walk_cons_of_leadsOn leadsOn, Path.follow_cons]
      exact inductionHypothesis (reached.step leadsOn) further
    · exact absurd (List.append_eq_nil_iff.mp ends).2 goesOn

/-- The way that a joined path takes goes through the directory that its base
means, which the base alone leads to. -/
theorem isReached_of_resolve_join {base path : String} (relative : Path.isAbsolute path = false)
    (resolved : files.resolve (Path.join base path) = .ok target) :
    files.IsReached (Path.place base) ∧
      (base ≠ "" → files.resolve base = .ok (Path.place base)) := by
  obtain ⟨names, inBase, joined⟩ := Path.exists_segments_join base relative
  have starts : startOf (Path.join base path) = startOf base := by
    rw [startOf, startOf, Path.isAbsolute_join base relative]
  rw [resolve, starts, joined] at resolved
  split at resolved
  · cases resolved
  obtain ⟨walked, reached⟩ :=
    (files.isReached_startOf base).walk_of_append (Path.segments_ne_nil path) resolved
  obtain inBase | inBase := inBase
  · rw [← inBase] at walked reached
    exact ⟨reached, fun inhabited => by rw [resolve, if_neg inhabited, walked, Path.place]⟩
  · have place : Path.place base = Path.follow (startOf base) names := by
      rw [Path.place, inBase, Path.follow_append]
      rfl
    rw [place]
    refine ⟨reached, fun inhabited => ?_⟩
    rw [resolve, if_neg inhabited, inBase, walk_append_of_directory walked reached.isDirectory]
    rfl

theorem eq_place_of_resolve {path : String} (resolved : files.resolve path = .ok target) :
    target = Path.place path := by
  rw [resolve] at resolved
  split at resolved
  · cases resolved
  · exact eq_follow_of_walk resolved

/-! ### Changes at one location -/

theorem entry?_put_of_ne (files : Files) {place : Location} (entry : FileEntry)
    (different : location ≠ place) :
    Files.entry? (files.put place entry) location = files.entry? location := by
  have kept : ∀ entries : List (Location × FileEntry),
      (entries.filter fun other => other.1 != place).lookup location = entries.lookup location := by
    intro entries
    induction entries with
    | nil => rfl
    | cons other entries inductionHypothesis =>
      by_cases replaced : other.1 = place
      · rw [List.filter_cons_of_neg (by simp [replaced]), inductionHypothesis, List.lookup_cons,
          beq_eq_false_iff_ne.mpr (replaced ▸ different)]
      · rw [List.filter_cons_of_pos (by simp [replaced]), List.lookup_cons, List.lookup_cons,
          inductionHypothesis]
  unfold Files.entry? put
  split
  · rfl
  · rw [List.lookup_cons, beq_eq_false_iff_ne.mpr different, kept]

/-- What is put where no directory is, is there. -/
theorem entry?_put_self (notDirectory : files.entry? place ≠ some .directory)
    (entry : FileEntry) : Files.entry? (files.put place entry) place = some entry := by
  unfold Files.entry? at notDirectory ⊢
  split at notDirectory
  · exact absurd rfl notDirectory
  · next elsewhere => rw [if_neg elsewhere, put, List.lookup_cons_self]

/-- Something put where no directory is changes no way to a directory. -/
theorem walk_put (entry : FileEntry) (notDirectory : files.entry? place ≠ some .directory)
    (walked : files.walk location names = .ok target)
    (directory : files.entry? target = some .directory) :
    (files.put place entry).walk location names = .ok target := by
  induction names generalizing location with
  | nil => exact walked
  | cons name names inductionHypothesis =>
    obtain ⟨leadsOn, further⟩ | ⟨-, -, content, isFile⟩ := leadsOn_or_of_walk_cons walked
    · -- the place is no directory, so no step on the way ends there
      have stillLeadsOn : (files.put place entry).LeadsOn location name := by
        refine leadsOn.imp_right (Or.imp_right fun isDirectory => ?_)
        rwa [entry?_put_of_ne]
        rintro rfl
        exact notDirectory isDirectory
      rw [walk_cons_of_leadsOn stillLeadsOn]
      exact inductionHypothesis further
    · cases directory.symm.trans isFile

/-! ### Reading and writing -/

/-- What a path must lead to for a read. -/
theorem read_eq_ok_iff {path : String} {content : ByteArray} :
    files.read path = .ok content ↔
      ∃ location, files.resolve path = .ok location ∧
        files.entry? location = some (.file content) := by
  rw [read]
  cases files.resolve path with
  | error error => simp [bind, Except.bind]
  | ok location =>
    simp only [bind, Except.bind, Except.ok.injEq, exists_eq_left']
    cases files.entry? location with
    | none => simp
    | some entry => cases entry <;> simp

theorem isFile_iff {path : String} :
    files.isFile path = true ↔
      ∃ location content, files.resolve path = .ok location ∧
        files.entry? location = some (.file content) := by
  rw [exists_comm]
  simp only [← read_eq_ok_iff, isFile]
  cases files.read path <;> simp [Except.isOk, Except.toBool]

/-- What a write does: the way to the directory is there, and a file with the
content is put at the last name. -/
theorem exists_of_write {path : String} {content : ByteArray} {written : Files}
    (wrote : files.write path content = .ok written) :
    path ≠ "" ∧ ∃ names name directory, Path.segments path = names ++ [name] ∧
      Path.isIdle name = false ∧ name ≠ ".." ∧
      files.walk (startOf path) names = .ok directory ∧
      files.entry? directory = some .directory ∧
      files.entry? (directory ++ [name]) ≠ some .directory ∧
      written = files.put (directory ++ [name]) (.file content) := by
  rw [write] at wrote
  split at wrote
  · cases wrote
  next inhabited =>
  refine ⟨inhabited, (Path.segments path).dropLast, (Path.segments path).getLast?.getD "", ?_⟩
  cases way : files.walk (startOf path) (Path.segments path).dropLast with
  | error error => simp [way, bind, Except.bind] at wrote
  | ok directory =>
    simp only [way, bind, Except.bind] at wrote
    split at wrote
    · next isDirectory =>
      split at wrote
      · cases wrote
      · next names =>
        simp only [Bool.or_eq_true, decide_eq_true_eq, not_or, Bool.not_eq_true] at names
        split at wrote
        · cases wrote
        · next notDirectory =>
          refine ⟨directory, ?_, names.1, names.2, rfl, isDirectory, notDirectory,
            (Except.ok.inj wrote).symm⟩
          rw [List.getLast?_eq_some_getLast (Path.segments_ne_nil path), Option.getD_some,
            List.dropLast_concat_getLast]
    · cases wrote

/-- What is written to a path is read from it. -/
theorem read_of_write {path : String} {content : ByteArray} {written : Files}
    (wrote : files.write path content = .ok written) : written.read path = .ok content := by
  obtain ⟨inhabited, names, name, directory, segments, active, down, walked, isDirectory,
    notDirectory, rfl⟩ := exists_of_write wrote
  have way : (files.put (directory ++ [name]) (.file content)).walk (startOf path) names =
      .ok directory :=
    walk_put _ notDirectory walked isDirectory
  have there : Files.entry? (files.put (directory ++ [name]) (.file content))
      (directory ++ [name]) = some (.file content) :=
    entry?_put_self notDirectory _
  have stillDirectory : Files.entry? (files.put (directory ++ [name]) (.file content))
      directory = some .directory := by
    rwa [entry?_put_of_ne]
    simp
  refine read_eq_ok_iff.mpr ⟨directory ++ [name], ?_, there⟩
  rw [resolve, if_neg inhabited, segments, walk_append_of_directory way stillDirectory, walk,
    if_neg (by simp [active]), if_neg down, there]
  rfl

/-- The text that is written to a path is read from it. -/
theorem readText_of_writeText {path text : String} {written : Files}
    (wrote : files.writeText path text = .ok written) : written.readText path = .ok text := by
  have decoded : String.fromUTF8? text.toUTF8 = some text := by
    rw [String.fromUTF8?, String.toUTF8_eq_toByteArray, dif_pos text.isValidUTF8]
    rfl
  rw [readText, read_of_write wrote]
  simp only [bind, Except.bind, decoded]

end Files

end RoomLayout

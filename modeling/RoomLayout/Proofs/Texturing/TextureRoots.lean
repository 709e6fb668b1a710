import RoomLayout.Files.TextureRoot
import RoomLayout.Proofs.Files.Walking
import RoomLayout.Script.Lexeme

/-!
# The place of image files

An image file that is accepted exists, and its place follows from the root, the
folder and the file name. Without absolute names the way to it goes through the
root, and the file is below the root unless the names climb out of it and do not
come back. An absolute folder or file name leaves the root out.

All this is about file systems without symbolic links, whose working directory lies
directly below their root. Where there are links, one below the texture root can lead
to a file anywhere.
-/

namespace RoomLayout

variable {files : Files} {root folder filename : String}

/-- Where the way to an image file begins. An absolute name leaves the root out. -/
def imageStart (root folder filename : String) : Location :=
  if Path.isAbsolute folder || Path.isAbsolute filename then [] else Path.place root

/-- The names on the way to an image file. An absolute file name leaves the
folder out. -/
def imageNames (folder filename : String) : List String :=
  if Path.isAbsolute filename then Path.segments filename
  else Path.segments folder ++ Path.segments filename

theorem place_texturePath (root folder filename : String) :
    Path.place (texturePath root folder filename) =
      Path.follow (imageStart root folder filename) (imageNames folder filename) := by
  rw [texturePath, imageStart, imageNames]
  cases absolute : Path.isAbsolute filename with
  | true =>
    rw [Path.join_of_isAbsolute _ absolute, if_pos (Bool.or_true _), if_pos rfl, Path.place,
      Files.startOf, if_pos absolute]
  | false =>
    rw [Bool.or_false, if_neg Bool.false_ne_true, Path.place_join _ absolute, Path.follow_append]
    cases absoluteFolder : Path.isAbsolute folder with
    | true =>
      rw [Path.join_of_isAbsolute _ absoluteFolder, if_pos rfl, Path.place, Files.startOf,
        if_pos absoluteFolder]
    | false => rw [Path.place_join _ absoluteFolder, if_neg Bool.false_ne_true]

/-- Without absolute names, the way to an image file goes through the root. -/
theorem isReached_root_of_resolve {location : Location}
    (relativeFolder : Path.isAbsolute folder = false)
    (relativeFile : Path.isAbsolute filename = false)
    (resolved : files.resolve (texturePath root folder filename) = .ok location) :
    files.IsReached (Path.place root) ∧
      (root ≠ "" → files.resolve root = .ok (Path.place root)) := by
  obtain ⟨-, folderResolved⟩ := Files.isReached_of_resolve_join relativeFile resolved
  by_cases empty : root = ""
  · subst empty
    exact ⟨files.isReached_startOf "", fun inhabited => absurd rfl inhabited⟩
  · exact Files.isReached_of_resolve_join relativeFolder
      (folderResolved (Path.join_ne_empty empty relativeFolder))

theorem custom_eq_some_iff {texture : Texture} :
    (texturesBelow files.isFile root true).custom folder filename = some texture ↔
      texture = .custom folder filename ∧ filename ≠ "" ∧
        files.isFile (texturePath root folder filename) = true := by
  simp only [texturesBelow, Bool.true_and, Bool.not_eq_true']
  by_cases unnamed : filename = ""
  · simp [unnamed]
  · cases files.isFile (texturePath root folder filename) <;> simp [unnamed, eq_comm]

/-- Where the image file of an accepted texture is: at the place that the names lead to. If no
name is absolute, the way goes through the root, and the file is below the root exactly if the
names come down again through all that they climb, as they do if they never climb out of it. The
condition for this is a file system without symbolic links, as `Files` is. -/
theorem accepted_image_location {texture : Texture}
    (accepted : (texturesBelow files.isFile root true).custom folder filename = some texture) :
    texture = .custom folder filename ∧ filename ≠ "" ∧
      ∃ location content,
        files.resolve (texturePath root folder filename) = .ok location ∧
        files.entry? location = some (.file content) ∧
        location = Path.follow (imageStart root folder filename) (imageNames folder filename) ∧
        (Path.isAbsolute folder = false → Path.isAbsolute filename = false →
          files.IsReached (Path.place root) ∧
          (root ≠ "" → files.resolve root = .ok (Path.place root)) ∧
          (location.IsBelow (Path.place root) ↔
            (Route.ofNames (imageNames folder filename)).ReturnsInto (Path.place root)) ∧
          ((Route.ofNames (imageNames folder filename)).climbs = 0 →
            location.IsBelow (Path.place root))) := by
  obtain ⟨rfl, named, isFile⟩ := custom_eq_some_iff.mp accepted
  obtain ⟨location, content, resolved, isFileEntry⟩ := Files.isFile_iff.mp isFile
  have place := (Files.eq_place_of_resolve resolved).trans (place_texturePath root folder filename)
  refine ⟨rfl, named, location, content, resolved, isFileEntry, place,
    fun relativeFolder relativeFile => ?_⟩
  obtain ⟨reached, rootResolved⟩ :=
    isReached_root_of_resolve relativeFolder relativeFile resolved
  have route : location =
      (Route.ofNames (imageNames folder filename)).endFrom (Path.place root) := by
    rw [Route.endFrom_ofNames, place, imageStart, relativeFolder, relativeFile]
    rfl
  have isBelow : location.IsBelow (Path.place root) ↔
      (Route.ofNames (imageNames folder filename)).ReturnsInto (Path.place root) := by
    rw [route, Route.isBelow_endFrom_iff]
  refine ⟨reached, rootResolved, isBelow, fun stays => isBelow.mpr ?_⟩
  -- the root is a directory, so the file is another place
  refine Route.returnsInto_of_climbs_eq_zero stays fun same => ?_
  rw [route, same] at isFileEntry
  cases reached.isDirectory.symm.trans isFileEntry

/-- A root with one image, and images beside the root and elsewhere. -/
def scatteredImages : Files where
  entries :=
    [(["", "tex"], .directory), (["", "tex", "brick"], .directory),
     (["", "tex", "brick", "a.png"], .file ByteArray.empty),
     (["", "secret.png"], .file ByteArray.empty),
     (["srv"], .directory), (["srv", "a.png"], .file ByteArray.empty)]

/-- Climbing out of a folder below the root and back into it. -/
theorem accepted_image_location_climbing :
    (texturesBelow scatteredImages.isFile "tex" true).custom "brick/../brick" "a.png" =
        some (.custom "brick/../brick" "a.png") ∧
      scatteredImages.resolve (texturePath "tex" "brick/../brick" "a.png") =
        .ok ["", "tex", "brick", "a.png"] ∧
      Location.IsBelow ["", "tex", "brick", "a.png"] (Path.place "tex") := by
  have accepted : (texturesBelow scatteredImages.isFile "tex" true).custom
      "brick/../brick" "a.png" = some (.custom "brick/../brick" "a.png") := by decide +kernel
  have resolved : scatteredImages.resolve (texturePath "tex" "brick/../brick" "a.png") =
      .ok ["", "tex", "brick", "a.png"] := by decide +kernel
  obtain ⟨-, -, location, content, resolvedTo, -, -, belowRoot⟩ := accepted_image_location accepted
  obtain ⟨-, -, -, isBelow⟩ := belowRoot (by decide +kernel) (by decide +kernel)
  obtain rfl := Except.ok.inj (resolvedTo.symm.trans resolved)
  exact ⟨accepted, resolved, isBelow (by decide +kernel)⟩

/-- Names that the language has, with two dots or an absolute one, lead to
images that are not below the root. -/
theorem accepted_images_outside_root :
    (∀ name ∈ ["..", "secret.png", "brick", "/srv/a.png"], name.toList.all isWordChar = true) ∧
      (texturesBelow scatteredImages.isFile "tex" true).custom ".." "secret.png" =
        some (.custom ".." "secret.png") ∧
      scatteredImages.resolve (texturePath "tex" ".." "secret.png") = .ok ["", "secret.png"] ∧
      ¬ Location.IsBelow ["", "secret.png"] (Path.place "tex") ∧
      (texturesBelow scatteredImages.isFile "tex" true).custom "brick" "/srv/a.png" =
        some (.custom "brick" "/srv/a.png") ∧
      scatteredImages.resolve (texturePath "tex" "brick" "/srv/a.png") = .ok ["srv", "a.png"] ∧
      ¬ Location.IsBelow ["srv", "a.png"] (Path.place "tex") := by
  have root : Path.place "tex" = ["", "tex"] := by decide +kernel
  refine ⟨by decide +kernel, by decide +kernel, by decide +kernel, ?_, by decide +kernel,
    by decide +kernel, ?_⟩ <;>
  · rw [root]
    rintro ⟨names, -, same⟩
    simp at same

end RoomLayout

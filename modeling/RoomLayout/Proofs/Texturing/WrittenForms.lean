import Mathlib.Data.Finset.Card
import RoomLayout.Files.TextureRoot
import RoomLayout.Proofs.Texturing.Used
import RoomLayout.Script.Lexeme

/-!
# Written forms of textures

A bundle knows a texture by its written form. Two textures have the same one if they
are equal, or if they cut the same characters into folder and file name in different
places, which a file name with a separator in it makes possible. So a bundle has at most
as many texture names as there are textures on its polygons, and fewer exactly if two of
them are such cuts.
-/

namespace RoomLayout

namespace Texture

/-- Whether an image file has a part of its path in the folder that another one has in
the file name. -/
def CutsLaterThan (later earlier : Texture) : Prop :=
  ∃ folder between filename, later = .custom (folder ++ "/" ++ between) filename ∧
    earlier = .custom folder (between ++ "/" ++ filename)

/-- One text in two parts around a separator: the same parts, or one separator is
inside of a part of the other. -/
theorem append_separator_eq_iff {before after before' after' : List Char} {separator : Char} :
    before ++ separator :: after = before' ++ separator :: after' ↔
      (before = before' ∧ after = after') ∨
      (∃ between, before' = before ++ separator :: between ∧
        after = between ++ separator :: after') ∨
      (∃ between, before = before' ++ separator :: between ∧
        after' = between ++ separator :: after) := by
  constructor
  · intro same
    obtain ⟨_ | ⟨first, between⟩, rfl, rest⟩ | ⟨_ | ⟨first, between⟩, rfl, rest⟩ :=
      List.append_eq_append_iff.mp same
    · exact .inl (by simpa using rest)
    · obtain ⟨rfl, rfl⟩ := List.cons.inj rest
      exact .inr (.inl ⟨between, rfl, rfl⟩)
    · exact .inl (by simpa [eq_comm] using rest)
    · obtain ⟨rfl, rfl⟩ := List.cons.inj rest
      exact .inr (.inr ⟨between, rfl, rfl⟩)
  · rintro (⟨rfl, rfl⟩ | ⟨between, rfl, rfl⟩ | ⟨between, rfl, rfl⟩) <;> simp

theorem cutsLaterThan_custom_iff {folder filename folder' filename' : String} :
    (custom folder filename).CutsLaterThan (custom folder' filename') ↔
      ∃ between, folder.toList = folder'.toList ++ '/' :: between ∧
        filename'.toList = between ++ '/' :: filename.toList := by
  constructor
  · rintro ⟨folder, between, filename, ⟨⟩, ⟨⟩⟩
    exact ⟨between.toList, by simp, by simp⟩
  · rintro ⟨between, inFolder, inFile⟩
    have folderIs : folder = folder' ++ "/" ++ String.ofList between := by
      rw [← String.toList_inj, inFolder]
      simp
    have fileIs : filename' = String.ofList between ++ "/" ++ filename := by
      rw [← String.toList_inj, inFile]
      simp
    exact ⟨folder', String.ofList between, filename, by rw [folderIs], by rw [fileIs]⟩

/-- Image files with the same written form are cuts of the same characters. -/
theorem display_custom_eq_iff {folder filename folder' filename' : String} :
    (custom folder filename).display = (custom folder' filename').display ↔
      custom folder filename = custom folder' filename' ∨
      (custom folder filename).CutsLaterThan (custom folder' filename') ∨
      (custom folder' filename').CutsLaterThan (custom folder filename) := by
  have characters : ∀ folder filename : String, (custom folder filename).display.toList =
      "custom:".toList ++ (folder.toList ++ '/' :: filename.toList) := by
    intro folder filename
    simp [display]
  rw [← String.toList_inj, characters, characters, List.append_cancel_left_eq,
    append_separator_eq_iff, cutsLaterThan_custom_iff, cutsLaterThan_custom_iff, custom.injEq,
    String.toList_inj, String.toList_inj]
  exact or_congr_right Or.comm

theorem display_builtin_ne_custom (name folder filename : String) :
    (builtin name).display ≠ (custom folder filename).display := by
  intro same
  have firsts := congrArg (fun text => text.toList.head?) same
  simp [display] at firsts

/-- What has the same written form. -/
theorem display_eq_iff {a b : Texture} :
    a.display = b.display ↔ a = b ∨ a.CutsLaterThan b ∨ b.CutsLaterThan a := by
  cases a with
  | missing =>
    rw [eq_comm, display_eq_missing_iff]
    simp [CutsLaterThan, eq_comm]
  | builtin name =>
    cases b with
    | missing => simp [display_eq_missing_iff, CutsLaterThan]
    | builtin name' => simp [display, CutsLaterThan, ← String.toList_inj]
    | custom folder filename => simp [display_builtin_ne_custom, CutsLaterThan]
  | custom folder filename =>
    cases b with
    | missing => simp [display_eq_missing_iff, CutsLaterThan]
    | builtin name => simp [(display_builtin_ne_custom name folder filename).symm, CutsLaterThan]
    | custom folder' filename' => exact display_custom_eq_iff

/-- An image file is no later cut of itself. -/
theorem CutsLaterThan.ne {a b : Texture} (cuts : a.CutsLaterThan b) : a ≠ b := by
  rintro rfl
  obtain ⟨folder, between, filename, rfl, same⟩ := cuts
  have lengths := congrArg (fun text => text.toList.length) (custom.inj same).1
  simp at lengths

end Texture

/-- The textures on the polygons of a level, but for the placeholder. -/
def Level.shownTextures (level : Level Float) : Finset Texture :=
  (level.polygons.map Polygon.texture).toFinset.erase .missing

/-- A compile that starts without textures in use counts those on its polygons. -/
theorem length_used_compileStatements {session : Session} (fresh : session.used = [])
    (statements : List Statement) :
    (compileStatements session statements).session.used.length =
      (compileStatements session statements).level.shownTextures.card := by
  rw [used_compileStatements fresh, Catalogue.length_ofList, List.toFinset_filter,
    Level.shownTextures]
  congr 1
  ext texture
  simp [and_comm]

/-- The texture names of a bundle, but for that of the placeholder, are the written forms of
the textures on its polygons. -/
theorem Bundle.length_shown_textures (level : Level Float) :
    ((Bundle.ofLevel level).textures.filter fun name => name ≠ "<missing>").length =
      (level.shownTextures.image Texture.display).card := by
  rw [← List.toFinset_card_of_nodup, List.toFinset_filter]
  · congr 1
    ext name
    rw [Bundle.textures_ofLevel]
    simp only [Finset.mem_filter, Finset.mem_image, Finset.mem_erase, Level.shownTextures,
      List.mem_toFinset, Catalogue.mem_ofList, List.mem_map (f := Texture.display),
      decide_eq_true_eq]
    constructor
    · rintro ⟨⟨texture, onPolygon, rfl⟩, shown⟩
      exact ⟨texture, ⟨fun placeholder => shown (placeholder ▸ rfl), onPolygon⟩, rfl⟩
    · rintro ⟨texture, ⟨shown, onPolygon⟩, rfl⟩
      exact ⟨⟨texture, onPolygon, rfl⟩, Texture.display_eq_missing_iff.not.mpr shown⟩
  · rw [Bundle.textures_ofLevel]
    exact (Catalogue.nodup_ofList _).filter _

/-- Different textures have different written forms unless they are cuts of the same characters. -/
theorem Level.card_image_display_eq_iff (level : Level Float) :
    (level.shownTextures.image Texture.display).card = level.shownTextures.card ↔
      ∀ a ∈ level.shownTextures, ∀ b ∈ level.shownTextures, ¬ a.CutsLaterThan b := by
  rw [Finset.card_image_iff]
  constructor
  · intro injective a onA b onB cuts
    exact cuts.ne (injective onA onB (Texture.display_eq_iff.mpr (.inr (.inl cuts))))
  · intro noCuts a onA b onB same
    obtain same | cuts | cuts := Texture.display_eq_iff.mp same
    · exact same
    · exact absurd cuts (noCuts a onA b onB)
    · exact absurd cuts (noCuts b onB a onA)

/-- Which textures a bundle keeps apart: two have the same written form exactly if they are
equal or cuts of the same characters. A compile counts the textures on its polygons, and its
bundle has as many names for them unless two of them are such cuts; then it has fewer. -/
theorem textures_written_apart (session : Session) (statements : List Statement) :
    (∀ a b : Texture,
      a.display = b.display ↔ a = b ∨ a.CutsLaterThan b ∨ b.CutsLaterThan a) ∧
    let compiled := compileStatements { session with used := [] } statements
    let shown := compiled.level.shownTextures
    let names := (Bundle.ofLevel compiled.level).textures.filter fun name => name ≠ "<missing>"
    compiled.session.used.length = shown.card ∧ names.length ≤ shown.card ∧
      (names.length = shown.card ↔ ∀ a ∈ shown, ∀ b ∈ shown, ¬ a.CutsLaterThan b) := by
  refine ⟨fun a b => Texture.display_eq_iff, ?_⟩
  intro compiled shown names
  have named : names.length = (shown.image Texture.display).card :=
    Bundle.length_shown_textures compiled.level
  refine ⟨length_used_compileStatements rfl statements, ?_, ?_⟩
  · rw [named]
    exact Finset.card_image_le
  · rw [named]
    exact compiled.level.card_image_display_eq_iff

/-- A floor and a ceiling with different image files, which the bundle does not tell apart. -/
theorem textures_written_alike :
    let floor : Texture := .custom "a/" "b"
    let ceiling : Texture := .custom "a" "/b"
    let rules : List FaceRule :=
      [⟨2, .single .floor, .custom "a/" "b" {}⟩, ⟨3, .single .ceiling, .custom "a" "/b" {}⟩,
        ⟨4, .walls, .off⟩]
    let compiled := compileStatements (Session.below (fun _ => true) "tex" {})
      [⟨1, .define "hall" rules⟩,
        ⟨6, .addRoom ⟨.literal 10, .literal 10, .literal 10⟩ "hall" []⟩]
    (∀ name ∈ ["a/", "b", "a", "/b"], name ≠ "" ∧ name.toList.all isWordChar = true) ∧
      floor ≠ ceiling ∧ floor.display = ceiling.display ∧
      texturePath "tex" "a/" "b" = "tex/a/b" ∧ texturePath "tex" "a" "/b" = "/b" ∧
      compiled.session.used = [ceiling, floor] ∧
      (Bundle.ofLevel compiled.level).textures = ["custom:a//b"] := by
  decide +kernel

end RoomLayout

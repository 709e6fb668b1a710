import RoomLayout.Proofs.Export.RoundTrip
import RoomLayout.Proofs.Files.Parents
import RoomLayout.Session.ConfigFile

/-!
# Settings in files

A file of settings gives the settings that are in it; all others have their defaults. In
which order the fields come, and what other fields are among them, makes no difference. A
file that was written holds all settings, so that reading it gives them back.
-/

namespace RoomLayout

open Yaml (Node Fields)

/-! ## Settings -/

/-- The settings by name. -/
inductive Setting where
  | tileSize
  | tolerance
  | stitchRooms
  | lightIntensity
  | dimFactor
  | lightRadiusScale
  | textureRoot
  | checkTextures
  deriving DecidableEq

namespace Setting

/-- All settings, in the order in which they are written. -/
def all : List Setting :=
  [tileSize, tolerance, stitchRooms, lightIntensity, dimFactor, lightRadiusScale, textureRoot,
    checkTextures]

theorem mem_all (setting : Setting) : setting ∈ all := by
  cases setting <;> decide

/-- The name of a setting in a file. -/
def name : Setting → String
  | tileSize => "tile_size"
  | tolerance => "union_epsilon"
  | stitchRooms => "stitch_rooms"
  | lightIntensity => "light_intensity"
  | dimFactor => "dim_factor"
  | lightRadiusScale => "light_radius_scale"
  | textureRoot => "texture_root"
  | checkTextures => "check_textures"

theorem name_injective : Function.Injective name := by
  intro setting other same
  cases setting <;> cases other <;> first | rfl | simp [name] at same

/-- What is written for a setting. -/
def node (config : Config) : Setting → Node
  | tileSize => .number config.tileSize
  | tolerance => .number config.tolerance
  | stitchRooms => .truth config.stitchRooms
  | lightIntensity => .number config.lightIntensity
  | dimFactor => .number config.dimFactor
  | lightRadiusScale => .number config.lightRadiusScale
  | textureRoot => .optionalText config.textureRoot
  | checkTextures => .truth config.checkTextures

/-- Whether a node stands for the value that a setting has. -/
def IsRead (config : Config) (value : Node) : Setting → Prop
  | tileSize => value.number? = some config.tileSize
  | tolerance => value.number? = some config.tolerance
  | stitchRooms => value.truth? = some config.stitchRooms
  | lightIntensity => value.number? = some config.lightIntensity
  | dimFactor => value.number? = some config.dimFactor
  | lightRadiusScale => value.number? = some config.lightRadiusScale
  | textureRoot => value.optionalText? = some config.textureRoot
  | checkTextures => value.truth? = some config.checkTextures

end Setting

namespace Config

/-- The numbers among the settings. -/
def numbers (config : Config) : List Float :=
  [config.tileSize, config.tolerance, config.lightIntensity, config.dimFactor,
    config.lightRadiusScale]

/-- Some settings of a configuration, and the defaults of the others. -/
def only (config : Config) (given : List Setting) : Config :=
  let base : Config := {}
  { tileSize := if .tileSize ∈ given then config.tileSize else base.tileSize
    tolerance := if .tolerance ∈ given then config.tolerance else base.tolerance
    stitchRooms := if .stitchRooms ∈ given then config.stitchRooms else base.stitchRooms
    lightIntensity :=
      if .lightIntensity ∈ given then config.lightIntensity else base.lightIntensity
    dimFactor := if .dimFactor ∈ given then config.dimFactor else base.dimFactor
    lightRadiusScale :=
      if .lightRadiusScale ∈ given then config.lightRadiusScale else base.lightRadiusScale
    textureRoot := if .textureRoot ∈ given then config.textureRoot else base.textureRoot
    checkTextures := if .checkTextures ∈ given then config.checkTextures else base.checkTextures }

theorem only_all (config : Config) : config.only Setting.all = config := by
  simp only [only, Setting.mem_all, if_true]

theorem toNode_eq (config : Config) :
    config.toNode = .record (Setting.all.map fun setting => (setting.name, setting.node config)) :=
  rfl

/-- The fields of some settings, in any order and with any fields among them that are not
settings. Each of the given settings is written once, in any way that can be read. -/
structure Gives (config : Config) (given : List Setting) (fields : Fields) : Prop where
  once : given.Nodup
  fields : ∃ (written : Setting → Node) (others : Fields),
    fields.Perm ((given.map fun setting => (setting.name, written setting)) ++ others) ∧
    (∀ setting ∈ given, setting.IsRead config (written setting)) ∧
    ∀ field ∈ others, ∀ setting : Setting, field.1 ≠ setting.name

end Config

/-! ## Fields of a name -/

theorem Yaml.Fields.valuesOf_append (fields further : Fields) (name : String) :
    (fields ++ further).valuesOf name = fields.valuesOf name ++ further.valuesOf name := by
  rw [valuesOf, List.filter_append, List.map_append]
  rfl

theorem Yaml.Fields.valuesOf_perm {fields fields' : Fields} (perm : fields.Perm fields')
    (name : String) : (fields.valuesOf name).Perm (fields'.valuesOf name) :=
  (perm.filter _).map _

theorem Yaml.Fields.valuesOf_eq_nil {fields : Fields} {name : String}
    (absent : ∀ field ∈ fields, field.1 ≠ name) : fields.valuesOf name = [] := by
  rw [valuesOf, List.filter_eq_nil_iff.mpr (by simpa using absent), List.map_nil]

/-- A setting that is written once has one value. -/
theorem Setting.valuesOf_map {given : List Setting} (once : given.Nodup)
    (written : Setting → Node) (setting : Setting) :
    Fields.valuesOf (given.map fun setting => (setting.name, written setting)) setting.name =
      if setting ∈ given then [written setting] else [] := by
  have named : given.filter (fun other => decide (other.name = setting.name)) =
      List.replicate (if setting ∈ given then 1 else 0) setting := by
    simp only [name_injective.eq_iff]
    rw [List.filter_eq, once.count]
  rw [Fields.valuesOf, List.filter_map]
  change ((given.filter fun other => decide (other.name = setting.name)).map _).map _ = _
  rw [named]
  split <;> rfl

namespace Config.Gives

variable {config : Config} {given : List Setting} {fields : Fields}

/-- The values of a setting among the fields: one that can be read, if it is given. -/
theorem valuesOf (gives : config.Gives given fields) (setting : Setting) :
    (setting ∈ given → ∃ value, fields.valuesOf setting.name = [value] ∧
      setting.IsRead config value) ∧
    (setting ∉ given → fields.valuesOf setting.name = []) := by
  obtain ⟨once, written, others, perm, isRead, apart⟩ := gives
  have values := Fields.valuesOf_perm perm setting.name
  rw [Fields.valuesOf_append, Setting.valuesOf_map once,
    Fields.valuesOf_eq_nil fun field member => apart field member setting,
    List.append_nil] at values
  refine ⟨fun member => ⟨written setting, ?_, isRead setting member⟩, fun absent => ?_⟩
  · rw [if_pos member] at values
    exact List.perm_singleton.mp values
  · rw [if_neg absent] at values
    exact List.perm_nil.mp values

/-- A setting comes from the fields if it is given, and is the default otherwise. -/
theorem optional {α : Type} (gives : config.Gives given fields) (setting : Setting)
    (fallback value : α) (read : Node → Option α)
    (reads : ∀ node, setting.IsRead config node → read node = some value) :
    fields.optional setting.name fallback read =
      some (if setting ∈ given then value else fallback) := by
  obtain ⟨present, absent⟩ := gives.valuesOf setting
  rw [Fields.optional]
  by_cases member : setting ∈ given
  · obtain ⟨node, values, isRead⟩ := present member
    rw [values, if_pos member]
    exact reads node isRead
  · rw [absent member, if_neg member]

/-- The settings in fields that give some of them. -/
theorem ofFields? (gives : config.Gives given fields) :
    Config.ofFields? fields = some (config.only given) := by
  let base : Config := {}
  have tileSize := gives.optional .tileSize base.tileSize _ Node.number? fun _ => id
  have tolerance := gives.optional .tolerance base.tolerance _ Node.number? fun _ => id
  have stitchRooms := gives.optional .stitchRooms base.stitchRooms _ Node.truth? fun _ => id
  have lightIntensity :=
    gives.optional .lightIntensity base.lightIntensity _ Node.number? fun _ => id
  have dimFactor := gives.optional .dimFactor base.dimFactor _ Node.number? fun _ => id
  have lightRadiusScale :=
    gives.optional .lightRadiusScale base.lightRadiusScale _ Node.number? fun _ => id
  have textureRoot := gives.optional .textureRoot base.textureRoot _ Node.optionalText? fun _ => id
  have checkTextures := gives.optional .checkTextures base.checkTextures _ Node.truth? fun _ => id
  simp only [Setting.name] at *
  rw [Config.ofFields?]
  simp only [base, tileSize, tolerance, stitchRooms, lightIntensity, dimFactor, lightRadiusScale,
    textureRoot, checkTextures, Option.bind_eq_bind, Option.bind_some]
  rfl

end Config.Gives

/-! ## What is written -/

/-- What is written for a setting stands for its value. -/
theorem Setting.isRead_node {config : Config} (readsBack : ∀ x ∈ config.numbers, ReadsBack x)
    (setting : Setting) : setting.IsRead config (setting.node config) := by
  simp only [Config.numbers, List.forall_mem_cons] at readsBack
  obtain ⟨tileSize, tolerance, lightIntensity, dimFactor, lightRadiusScale, -⟩ := readsBack
  cases setting with
  | tileSize => exact number?_number tileSize
  | tolerance => exact number?_number tolerance
  | stitchRooms => exact Yaml.truth?_truth config.stitchRooms
  | lightIntensity => exact number?_number lightIntensity
  | dimFactor => exact number?_number dimFactor
  | lightRadiusScale => exact number?_number lightRadiusScale
  | textureRoot => exact Yaml.optionalText?_optionalText config.textureRoot
  | checkTextures => exact Yaml.truth?_truth config.checkTextures

/-- What is written for a setting is legible. -/
theorem Setting.legible_node (config : Config) (setting : Setting) :
    (setting.node config).Legible := by
  cases setting with
  | textureRoot => exact Yaml.legible_optionalText config.textureRoot
  | stitchRooms => exact Yaml.legible_truth config.stitchRooms
  | checkTextures => exact Yaml.legible_truth config.checkTextures
  | _ => exact Yaml.legible_number _

/-- Fields that can be written: names that can stand as keys, and legible values. -/
def Yaml.Fields.Legible (fields : Fields) : Prop :=
  ∀ field ∈ fields, (Yaml.fitsPlain field.1.toList = true ∧ field.1.toList.length ≤ 1024) ∧
    field.2.Legible

/-- The text of legible fields holds these fields. -/
theorem Yaml.Fields.Legible.ofText?_toText {fields : Fields} (legible : fields.Legible) :
    Node.ofText? (Node.record fields).toText = some (Node.record fields) := by
  by_cases empty : fields = []
  · subst empty
    rfl
  · refine Node.ofText?_toText (Yaml.legible_record _ rfl ?_ fun field member =>
      (legible field member).2) (List.map_eq_nil_iff.not.mpr empty)
    intro name member
    obtain ⟨field, isField, rfl⟩ := List.mem_map.mp member
    exact (legible field isField).1

namespace Config

/-- Some settings as they are written, and others. -/
theorem gives_of_perm {config : Config} (readsBack : ∀ x ∈ config.numbers, ReadsBack x)
    {given : List Setting} (once : given.Nodup) {fields others : Fields}
    (apart : ∀ field ∈ others, ∀ setting : Setting, field.1 ≠ setting.name)
    (perm : fields.Perm
      ((given.map fun setting => (setting.name, setting.node config)) ++ others)) :
    config.Gives given fields where
  once := once
  fields := ⟨_, others, perm, fun setting _ => setting.isRead_node readsBack, apart⟩

theorem legible_fields (config : Config) (given : List Setting) :
    Fields.Legible (given.map fun setting => (setting.name, setting.node config)) := by
  intro field member
  obtain ⟨setting, -, rfl⟩ := List.mem_map.mp member
  have names : ∀ setting : Setting, Yaml.fitsPlain setting.name.toList = true ∧
      setting.name.toList.length ≤ 1024 := by
    intro setting
    cases setting <;> decide +kernel
  exact ⟨names setting, setting.legible_node config⟩

/-- The text of a file from which fields are read. -/
theorem ofText?_of_gives {config : Config} {given : List Setting} {fields : Fields}
    (gives : config.Gives given fields) {text : String}
    (holds : (Node.ofText? text).bind Node.fields? = some fields) :
    Config.ofText? text = some (config.only given) := by
  obtain ⟨node, tree, isFields⟩ := Option.bind_eq_some_iff.mp holds
  rw [Config.ofText?, tree, Option.bind_eq_bind, Option.bind_some, ofNode?, isFields]
  exact gives.ofFields?

/-- What is written holds the settings. -/
theorem ofText?_toText {config : Config} (readsBack : ∀ x ∈ config.numbers, ReadsBack x) :
    Config.ofText? config.toText = some config := by
  let written : Fields := Setting.all.map fun setting => (setting.name, setting.node config)
  have perm : written.Perm (written ++ []) := by rw [List.append_nil]
  have gives : config.Gives Setting.all written :=
    gives_of_perm readsBack (by decide) (List.forall_mem_nil _) perm
  rw [ofText?_of_gives gives, only_all]
  rw [toText, toNode_eq, (config.legible_fields Setting.all).ofText?_toText, Option.bind_some,
    Yaml.fields?_record]

end Config

/-! ## Files of settings -/

section Files

variable {files saved : Files} {path text : String} {config : Config}

/-- A file that holds settings is loaded as these. -/
theorem run_loadConfig (read : files.readText path = .ok text)
    (means : Config.ofText? text = some config) :
    (loadConfig path : StateM Files (Except FileError Config)).run files = (.ok config, files) := by
  have leads : files.leadsSomewhere path = true := by
    rw [Files.leadsSomewhere]
    cases resolved : files.resolve path with
    | ok location => rfl
    | error error =>
      simp [Files.readText, Files.read, resolved, bind, Except.bind] at read
  simp only [loadConfig, FileAccess.leadsSomewhere, FileAccess.readText, StateT.run, bind,
    StateT.bind, leads, if_true, read, means]
  rfl

/-- Changing files works if the change does. -/
theorem changeFiles_eq_ok_iff {change : Files → Except FileError Files} :
    changeFiles change files = (.ok (), saved) ↔ change files = .ok saved := by
  rw [changeFiles]
  cases change files with
  | error error => exact ⟨nofun, nofun⟩
  | ok changed =>
    constructor
    · rintro ⟨⟩
      rfl
    · rintro ⟨⟩
      rfl

/-- What saving does: it makes the directories above the path, if there can be any, and
writes the text where this has worked. -/
theorem run_saveConfig_eq_ok_iff :
    (saveConfig path config : StateM Files (Except FileError Unit)).run files = (.ok (), saved) ↔
      ∃ made : Files,
        (∀ parent, Path.parent? path = some parent → files.createDirectories parent = .ok made) ∧
        (Path.parent? path = none → made = files) ∧
        made.writeText path config.toText = .ok saved := by
  delta saveConfig
  cases Path.parent? path with
  | none =>
    change changeFiles (fun files => files.writeText path config.toText) files = _ ↔ _
    rw [changeFiles_eq_ok_iff]
    simp
  | some parent =>
    simp only [reduceCtorEq, false_implies, true_and, Option.some.injEq, forall_eq',
      FileAccess.createDirectories, FileAccess.writeText, StateT.run, bind, StateT.bind,
      changeFiles]
    cases created : files.createDirectories parent with
    | error error => exact ⟨nofun, nofun⟩
    | ok made =>
      simp only [Except.ok.injEq, exists_eq_left']
      exact changeFiles_eq_ok_iff

end Files

/-- A file whose fields give some settings is loaded as these settings, with the defaults of
the others. Any settings can be given so, in any order and with other fields among them. What
is saved is loaded as it was, and wherever a text can be written it can be saved. -/
theorem settings_in_files (config : Config) :
    (∀ (given : List Setting) (fields : Fields), config.Gives given fields →
      ∀ (files : Files) (path text : String), files.readText path = .ok text →
        (Node.ofText? text).bind Node.fields? = some fields →
        (loadConfig path : StateM Files (Except FileError Config)).run files =
          (.ok (config.only given), files)) ∧
    ((∀ x ∈ config.numbers, ReadsBack x) →
      (∀ (given : List Setting) (fields others : Fields), given.Nodup → others.Legible →
        (∀ field ∈ others, ∀ setting : Setting, field.1 ≠ setting.name) →
        fields.Perm ((given.map fun setting => (setting.name, setting.node config)) ++ others) →
        config.Gives given fields ∧
          (Node.ofText? (Node.record fields).toText).bind Node.fields? = some fields) ∧
      ∀ (files saved : Files) (path : String),
        (files.writeText path config.toText = .ok saved →
          (saveConfig path config : StateM Files (Except FileError Unit)).run files =
            (.ok (), saved)) ∧
        ((saveConfig path config : StateM Files (Except FileError Unit)).run files =
            (.ok (), saved) →
          (loadConfig path : StateM Files (Except FileError Config)).run saved =
            (.ok config, saved))) := by
  refine ⟨?given, fun readsBack => ⟨?written, fun files saved path => ⟨?wrote, ?saved⟩⟩⟩
  case given =>
    intro given fields gives files path text read holds
    exact run_loadConfig read (Config.ofText?_of_gives gives holds)
  case written =>
    intro given fields others once legible apart perm
    refine ⟨Config.gives_of_perm readsBack once apart perm, ?_⟩
    have legibleFields : fields.Legible := by
      intro field member
      obtain isGiven | isOther := List.mem_append.mp (perm.mem_iff.mp member)
      · exact config.legible_fields given field isGiven
      · exact legible field isOther
    rw [legibleFields.ofText?_toText, Option.bind_some, Yaml.fields?_record]
  case wrote =>
    intro wrote
    obtain ⟨parent, isParent, created⟩ := Files.createDirectories_parent wrote
    refine run_saveConfig_eq_ok_iff.mpr ⟨files, fun other same => ?_, fun _ => rfl, wrote⟩
    obtain rfl := Option.some.inj (isParent.symm.trans same)
    exact created
  case saved =>
    intro done
    obtain ⟨made, -, -, wrote⟩ := run_saveConfig_eq_ok_iff.mp done
    exact run_loadConfig (Files.readText_of_writeText wrote) (Config.ofText?_toText readsBack)

/-- A texture root that spells nothing and numbers that are none of the usual ones, saved to
a directory that is not there and loaded; and two of these settings behind each other. -/
theorem settings_in_files_odd_root :
    let config : Config :=
      { tileSize := 1 / 0, tolerance := -0.0, stitchRooms := false, dimFactor := 0.1,
        textureRoot := some "null" }
    let fields : Fields :=
      [("texture_root", .text "null"), ("zoom", .number 2), ("tile_size", .number (1 / 0))]
    (∃ saved,
      (saveConfig "conf/own.yaml" config : StateM Files (Except FileError Unit)).run Files.empty =
        (.ok (), saved) ∧
      (loadConfig "conf/own.yaml" : StateM Files (Except FileError Config)).run saved =
        (.ok config, saved)) ∧
    ∃ files, Files.empty.writeText "own.yaml" (Node.record fields).toText = .ok files ∧
      (loadConfig "own.yaml" : StateM Files (Except FileError Config)).run files =
        (.ok { tileSize := 1 / 0, textureRoot := some "null" }, files) := by
  intro config fields
  obtain ⟨loads, withNumbers⟩ := settings_in_files config
  have readsBack : ∀ x ∈ ([1 / 0, -0.0, 1, 0.1, 1] : List Float), ReadsBack x := by decide +kernel
  obtain ⟨giving, saving⟩ := withNumbers readsBack
  constructor
  · let after := (saveConfig "conf/own.yaml" config : StateM Files (Except FileError Unit)).run
      Files.empty
    have done : after = (.ok (), after.2) := Prod.ext (by decide +kernel) rfl
    exact ⟨after.2, done, (saving Files.empty after.2 "conf/own.yaml").2 done⟩
  · have zoomIsOther : ∀ setting : Setting, "zoom" ≠ setting.name := by
      intro setting
      cases setting <;> decide
    have legible : Fields.Legible [("zoom", .number 2)] := by
      rintro field ⟨⟩
      · exact ⟨by decide +kernel, Yaml.legible_number 2⟩
      · next impossible => cases impossible
    obtain ⟨gives, holds⟩ := giving [.textureRoot, .tileSize] fields [("zoom", .number 2)]
      (by decide) legible (by simpa using zoomIsOther)
      (List.Perm.cons _ (List.Perm.swap _ _ []))
    obtain ⟨files, wrote⟩ : ∃ files,
        Files.empty.writeText "own.yaml" (Node.record fields).toText = .ok files := ⟨_, rfl⟩
    exact ⟨files, wrote, loads _ fields gives files "own.yaml" _
      (Files.readText_of_writeText wrote) holds⟩

end RoomLayout

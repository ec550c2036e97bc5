import Godzilla.Config.Modes
import Godzilla.Core.Platform
import Godzilla.Misc.Dict
import Godzilla.Misc.Raises

/-!
# Loading a configuration

`load_settings` (`config/loader.py:29-76`) layers YAML files, and the sources of `Settings`
(`config/models.py:156-202`) put the process environment over the result. What
pydantic-settings reads of the environment for fields other than the mode, and how pydantic
validates the merged values, are parameters.
-/

namespace Godzilla.Config
open Godzilla Misc

/-- The content of a YAML layer: strings, mappings, and other values by their `str`. Keys that
    are no strings are left out, since `Settings(**merged)` does not take them. -/
inductive Yaml where
  | text (value : String)
  | other (str : String)
  | mapping (members : List (String × Yaml))

/-- A mapping by its members, in order. -/
abbrev Mapping := List (String × Yaml)

mutual

/-- What `_deep_merge` makes of a value over an old one (`config/loader.py:71-74`). -/
def mergeValue : Option Yaml → Yaml → Yaml
  | some (.mapping old), .mapping new => .mapping (deepMerge old new)
  | _, value => value

/-- `_deep_merge` (`config/loader.py:68-75`). -/
def deepMerge : Mapping → Mapping → Mapping
  | result, [] => result
  | result, (key, value) :: rest =>
    deepMerge (Dict.assign key (mergeValue (Dict.assoc key result) value) result) rest

end

/-- `_PROFILE_BY_MODE` (`config/loader.py:21-26`). -/
def profileByMode : TradingMode → String
  | .research => "research.yaml"
  | .backtest => "research.yaml"
  | .paper => "paper.yaml"
  | .live => "production.yaml"

/-- `TradingMode(value)`. -/
def TradingMode.ofValue? (value : String) : Option TradingMode :=
  [TradingMode.research, .backtest, .paper, .live].find? fun mode => mode.value == value

/-- The process environment: names, which differ, and values. -/
abbrev Environ := Dict String String

variable [Platform]

/-- `_mode_from_environment` (`config/loader.py:49-56`). -/
def modeFromEnvironment (environ : Environ) : Except PyError (Option TradingMode) :=
  match environ.get? "GODZILLA_MODE" with
  | none => .ok none
  | some value =>
    match TradingMode.ofValue? (Platform.upper value) with
    | some mode => .ok (some mode)
    | none => .error (.runtimeError ("invalid GODZILLA_MODE: " ++ value))

/-- `str(value)`. -/
def Yaml.str (strOfMapping : Mapping → String) : Yaml → String
  | .text value => value
  | .other str => str
  | .mapping members => strOfMapping members

/-- `_mode_from_mapping` (`config/loader.py:59-64`). -/
def modeFromMapping (strOfMapping : Mapping → String) (config : Mapping) :
    Except PyError TradingMode :=
  let value := ((Dict.assoc "mode" config).getD (.text TradingMode.paper.value)).str strOfMapping
  match TradingMode.ofValue? (Platform.upper value) with
  | some mode => .ok mode
  | none => .error (.runtimeError ("invalid base mode: " ++ value))

/-- The mode that the loader selects (`config/loader.py:32`). -/
def selectMode (strOfMapping : Mapping → String) (environ : Environ) (mode : Option TradingMode)
    (base : Mapping) : Except PyError TradingMode :=
  match mode with
  | some mode => .ok mode
  | none => do
    match ← modeFromEnvironment environ with
    | some mode => .ok mode
    | none => modeFromMapping strOfMapping base

/-- The layers that the loader merged: the mode it selected, the profile file that it read for
    it, and the values that it hands to `Settings`. -/
structure Layers where
  selected : TradingMode
  profile : String
  merged : Mapping

/-- `load_settings` up to the values of `Settings` (`config/loader.py:29-35`); `loadYaml` is
    what `_load_yaml` makes of a file of the directory. -/
def loadLayers (loadYaml : String → Except PyError Mapping) (strOfMapping : Mapping → String)
    (environ : Environ) (mode : Option TradingMode) : Except PyError Layers := do
  let base ← loadYaml "base.yaml"
  let selected ← selectMode strOfMapping environ mode base
  let profile ← loadYaml (profileByMode selected)
  let compliance ← loadYaml "compliance.yaml"
  let merged := deepMerge (deepMerge base profile) compliance
  return {
    selected := selected
    profile := profileByMode selected
    merged := Dict.assign "mode" (.text selected.value) merged }

/-- The value that pydantic-settings reads for the field `mode`: names are compared without
    case, and of several the last one counts. -/
def environmentMode (environ : Environ) : Option String :=
  (environ.entries.findRev? fun entry => entry.1.toLower == "godzilla_mode").map Prod.snd

/-- What pydantic and pydantic-settings do for `Settings` besides the mode. -/
structure SettingsReader (S : Type) where
  /-- The environment as a source of fields. -/
  environment : Environ → Dict String Yaml
  environment_mode : ∀ environ,
    (environment environ).get? "mode" = (environmentMode environ).map Yaml.text
  /-- The other fields of the merged sources, validated. -/
  fields : TradingMode → Mapping → Except PyError S

/-- `Settings` (`config/models.py:156-187`): its mode and its other fields. -/
structure Settings (S : Type) where
  mode : TradingMode
  fields : S
  deriving DecidableEq

variable {S : Type}

/-- `Settings(**merged)`: the environment is the first source, so that its values are merged
    over the arguments (`config/models.py:192-202`), and the mode is compared in upper case
    (`config/models.py:187-190`). -/
def SettingsReader.construct (reader : SettingsReader S) (environ : Environ) (merged : Mapping) :
    Except PyError (Settings S) :=
  let sources := deepMerge merged (reader.environment environ).entries
  match (Dict.assoc "mode" sources).getD (.text TradingMode.paper.value) with
  | .text value =>
    match TradingMode.ofValue? (Platform.upper value) with
    | some mode => (reader.fields mode sources).map fun fields => ⟨mode, fields⟩
    | none => .error (invalid "Settings" "mode")
  | _ => .error (invalid "Settings" "mode")

/-- `load_settings` (`config/loader.py:29-36`). -/
def loadSettings (reader : SettingsReader S) (loadYaml : String → Except PyError Mapping)
    (strOfMapping : Mapping → String) (environ : Environ) (mode : Option TradingMode) :
    Except PyError (Settings S) := do
  let layers ← loadLayers loadYaml strOfMapping environ mode
  reader.construct environ layers.merged

section Merging

omit [Platform] in
/-- What a merge holds under a key. -/
theorem assoc_deepMerge (key : String) : ∀ (new base : Mapping), (new.map Prod.fst).Nodup →
    Dict.assoc key (deepMerge base new) =
      match Dict.assoc key new with
      | none => Dict.assoc key base
      | some value => some (mergeValue (Dict.assoc key base) value) := by
  intro new
  induction new with
  | nil => intro base _; rw [deepMerge]; rfl
  | cons entry rest ih =>
    intro base hnodup
    obtain ⟨k, value⟩ := entry
    rw [List.map_cons, List.nodup_cons] at hnodup
    rw [deepMerge, ih _ hnodup.2, Dict.assoc]
    by_cases hk : k = key
    · subst hk
      have hrest : Dict.assoc k rest = none := Dict.assoc_eq_none.mpr hnodup.1
      rw [hrest, if_pos rfl]
      simp only [Dict.assoc_assign, if_true]
    · have hne : key ≠ k := fun h => hk h.symm
      rw [if_neg hk]
      simp only [Dict.assoc_assign, if_neg hne]

omit [Platform] in
/-- A string in the later source replaces what the earlier one holds. -/
theorem assoc_deepMerge_text {key value : String} {new base : Mapping}
    (hnodup : (new.map Prod.fst).Nodup) (h : Dict.assoc key new = some (.text value)) :
    Dict.assoc key (deepMerge base new) = some (.text value) := by
  rw [assoc_deepMerge key new base hnodup, h]
  cases Dict.assoc key base with
  | none => rfl
  | some old => cases old <;> rfl

end Merging

omit [Platform] in
@[simp] theorem TradingMode.ofValue?_value (mode : TradingMode) :
    TradingMode.ofValue? mode.value = some mode := by
  cases mode <;> rfl

section Modes

variable {reader : SettingsReader S} {loadYaml : String → Except PyError Mapping}
  {strOfMapping : Mapping → String} {environ : Environ} {mode : Option TradingMode}
  {layers : Layers} {settings : Settings S}

/-- The layers are the base, the profile of the selected mode and the compliance file, under
    the value of that mode. -/
theorem loadLayers_ok (h : loadLayers loadYaml strOfMapping environ mode = .ok layers) :
    ∃ base profile compliance, loadYaml "base.yaml" = .ok base ∧
      selectMode strOfMapping environ mode base = .ok layers.selected ∧
      layers.profile = profileByMode layers.selected ∧
      loadYaml layers.profile = .ok profile ∧ loadYaml "compliance.yaml" = .ok compliance ∧
      layers.merged = Dict.assign "mode" (.text layers.selected.value)
        (deepMerge (deepMerge base profile) compliance) := by
  obtain ⟨base, hbase, h⟩ := bind_ok h
  obtain ⟨selected, hselected, h⟩ := bind_ok h
  obtain ⟨profile, hprofile, h⟩ := bind_ok h
  obtain ⟨compliance, hcompliance, h⟩ := bind_ok h
  obtain rfl := Except.ok.inj h
  exact ⟨base, profile, compliance, hbase, hselected, rfl, hprofile, hcompliance, rfl⟩

/-- The mode of the settings is the one the environment names, else the one in the arguments. -/
theorem construct_mode {merged : Mapping} {selected : TradingMode}
    (hupper : ∀ mode : TradingMode, Platform.upper mode.value = mode.value)
    (hmerged : Dict.assoc "mode" merged = some (.text selected.value))
    (h : reader.construct environ merged = .ok settings) :
    match environmentMode environ with
    | none => settings.mode = selected
    | some value => TradingMode.ofValue? (Platform.upper value) = some settings.mode := by
  have hread : ∀ value, Dict.assoc "mode" (deepMerge merged (reader.environment environ).entries) =
      some (.text value) → TradingMode.ofValue? (Platform.upper value) = some settings.mode := by
    intro value hvalue
    rw [SettingsReader.construct, hvalue] at h
    simp only [Option.getD_some] at h
    split at h
    · next found hfound =>
      rw [hfound]
      cases hfields : reader.fields found
          (deepMerge merged (reader.environment environ).entries) with
      | error e => rw [hfields] at h; cases h
      | ok fields =>
        rw [hfields] at h
        exact congrArg (fun s => some s.mode) (Except.ok.inj h)
    · cases h
  have hsource := reader.environment_mode environ
  rw [Dict.get?] at hsource
  have hnodup := (reader.environment environ).nodup
  cases henvironment : environmentMode environ with
  | none =>
    rw [henvironment, Option.map_none] at hsource
    have hvalue := hread selected.value (by
      rw [assoc_deepMerge _ _ _ hnodup, hsource, hmerged])
    rw [hupper, TradingMode.ofValue?_value] at hvalue
    exact (Option.some.inj hvalue).symm
  | some value =>
    rw [henvironment, Option.map_some] at hsource
    exact hread value (assoc_deepMerge_text hnodup hsource)

/-- The mode that the environment names, however its name is written, is the mode argument, and
    has the profile of the mode that the loader selects. -/
def EnvironmentAgrees (strOfMapping : Mapping → String) (environ : Environ)
    (mode : Option TradingMode) (base : Mapping) : Prop :=
  ∀ value read, environmentMode environ = some value →
    TradingMode.ofValue? (Platform.upper value) = some read →
      (∀ argument, mode = some argument → read = argument) ∧
      ∀ selected, selectMode strOfMapping environ mode base = .ok selected →
        profileByMode read = profileByMode selected

/-- The settings run in the mode whose profile was merged, and in the mode of the argument,
    exactly when the environment agrees. -/
theorem loadSettings_mode_iff (reader : SettingsReader S)
    (loadYaml : String → Except PyError Mapping) (strOfMapping : Mapping → String)
    (environ : Environ) (mode : Option TradingMode) (settings : Settings S)
    (hupper : ∀ mode : TradingMode, Platform.upper mode.value = mode.value)
    (h : loadSettings reader loadYaml strOfMapping environ mode = .ok settings) :
    ∃ base layers, loadYaml "base.yaml" = .ok base ∧
      loadLayers loadYaml strOfMapping environ mode = .ok layers ∧
      ((layers.profile = profileByMode settings.mode ∧
          ∀ argument, mode = some argument → settings.mode = argument) ↔
        EnvironmentAgrees strOfMapping environ mode base) := by
  obtain ⟨layers, hlayers, hconstruct⟩ := bind_ok h
  obtain ⟨base, profile, compliance, hbase, hselected, hprofile, -, -, hmerged⟩ :=
    loadLayers_ok hlayers
  refine ⟨base, layers, hbase, hlayers, ?_⟩
  have hmode := construct_mode hupper (by rw [hmerged, Dict.assoc_assign, if_pos rfl]) hconstruct
  have hargument : ∀ argument, mode = some argument → layers.selected = argument := by
    rintro argument rfl
    exact (Except.ok.inj hselected).symm
  cases henvironment : environmentMode environ with
  | none =>
    rw [henvironment] at hmode
    rw [hprofile, hmode]
    refine ⟨fun _ value read hvalue => ?_, fun _ => ⟨rfl, hargument⟩⟩
    rw [henvironment] at hvalue
    cases hvalue
  | some value =>
    rw [henvironment] at hmode
    constructor
    · rintro ⟨hsame, hasked⟩ value' read hvalue hread
      rw [henvironment] at hvalue
      obtain rfl := Option.some.inj hvalue
      obtain rfl := Option.some.inj (hmode.symm.trans hread)
      refine ⟨hasked, fun selected hother => ?_⟩
      obtain rfl := Except.ok.inj (hselected.symm.trans hother)
      rw [← hsame, hprofile]
    · intro hagrees
      obtain ⟨hasked, hsame⟩ := hagrees value settings.mode henvironment hmode
      exact ⟨by rw [hprofile, hsame _ hselected], hasked⟩

end Modes

end Godzilla.Config

namespace Godzilla.Config.Sample
open Misc Godzilla.Sample

/-- A reader of an environment that sets nothing but the mode, and settings with no other field. -/
def reader : SettingsReader Unit where
  environment environ :=
    match environmentMode environ with
    | some value => Dict.empty.insert "mode" (.text value)
    | none => Dict.empty
  environment_mode environ := by
    cases environmentMode environ <;> rfl
  fields _ _ := .ok ()

/-- Layers that hold the name of their file. -/
def loadYaml (file : String) : Except PyError Mapping := .ok [("file", .text file)]

def environ (name value : String) : Environ := Dict.empty.insert name value

theorem upper_value (mode : TradingMode) : Platform.upper mode.value = mode.value := rfl

/-- `--mode RESEARCH` where the environment says PAPER: the research profile is merged and the
    settings run as PAPER. -/
theorem loadSettings_mode_paper :
    (loadSettings reader loadYaml (fun _ => "{}") (environ "GODZILLA_MODE" "PAPER")
        (some .research)).toOption.map (·.mode) = some .paper ∧
      (loadLayers loadYaml (fun _ => "{}") (environ "GODZILLA_MODE" "PAPER")
        (some .research)).toOption.map (·.profile) = some "research.yaml" ∧
      profileByMode .paper = "paper.yaml" := by
  decide +kernel

/-- An environment that names the mode of the argument. -/
theorem loadSettings_mode_iff_research :
    ∃ base layers, loadYaml "base.yaml" = .ok base ∧
      loadLayers loadYaml (fun _ => "{}") (environ "GODZILLA_MODE" "RESEARCH") (some .research) =
        .ok layers ∧
      ((layers.profile = profileByMode .research ∧
          ∀ argument, some TradingMode.research = some argument → .research = argument) ↔
        EnvironmentAgrees (fun _ => "{}") (environ "GODZILLA_MODE" "RESEARCH")
          (some .research) base) :=
  loadSettings_mode_iff reader loadYaml (fun _ => "{}") (environ "GODZILLA_MODE" "RESEARCH")
    (some .research) ⟨.research, ()⟩ upper_value (by decide +kernel)

end Godzilla.Config.Sample

import Mathlib.Data.List.Basic
import MarkedRoutes.Command.Run
import MarkedRoutes.Proofs.Command.Options
import MarkedRoutes.Source.ItemGrammar

/-!
# Layers of settings

A configuration is put together from layers: the flags of a command line, the environment,
a document and the defaults.  Every setting comes from the first layer that speaks about it.
The settings are checked twice, without the flags and with them, so what a lower layer says
must be valid even where a flag replaces it.
-/

namespace MarkedRoutes

open MarkedRoutes.Source (SourceParser)

/-! ### Layers -/

/-- What one layer says.  It leaves a setting that it does not speak about to others. -/
structure SettingLayer where
  modulePath : Option String
  runtimePath : Option String
  entryFunction : Option String
  formats : Option Bool

def Setting.text? : Setting → Option String
  | text value => some value
  | flag _ => none

def Setting.flag? : Setting → Option Bool
  | text _ => none
  | flag value => some value

/-- The value of an option, when the command has this option and it is given. -/
def Invocation.given {α : Type} (invocation : Invocation) (name : OptionName)
    (value : Option α) : Option α :=
  if name ∈ knownOptions (some invocation.command) then value else none

namespace SettingLayer

/-- One layer over another. -/
def above (upper lower : SettingLayer) : SettingLayer where
  modulePath := upper.modulePath.or lower.modulePath
  runtimePath := upper.runtimePath.or lower.runtimePath
  entryFunction := upper.entryFunction.or lower.entryFunction
  formats := upper.formats.or lower.formats

def onto (layer : SettingLayer) (configuration : Configuration) : Configuration where
  modulePath := layer.modulePath.getD configuration.modulePath
  runtimePath := layer.runtimePath.getD configuration.runtimePath
  entryFunction := layer.entryFunction.getD configuration.entryFunction
  formats := layer.formats.getD configuration.formats

def ofDocument (settings : List (String × Setting)) : SettingLayer where
  modulePath := (settings.lookup "module_path").bind Setting.text?
  runtimePath := (settings.lookup "runtime_path").bind Setting.text?
  entryFunction := (settings.lookup "register_fn").bind Setting.text?
  formats := (settings.lookup "format").bind Setting.flag?

def ofEnvironment (lookup : String → Option String) : SettingLayer where
  modulePath := lookup "ROUTECRAFT_MODULE_PATH"
  runtimePath := lookup "ROUTECRAFT_RUNTIME_PATH"
  entryFunction := lookup "ROUTECRAFT_REGISTER_FN"
  formats := (lookup "ROUTECRAFT_FORMAT").map Configuration.isAffirmative

/-- What the flags of an invocation say.  The flag for formatting cannot be denied. -/
def ofFlags (invocation : Invocation) : SettingLayer where
  modulePath := invocation.given .modulePath invocation.modulePath
  runtimePath := invocation.given .runtimePath invocation.runtimePath
  entryFunction := invocation.given .registerFn invocation.entryFunction
  formats := invocation.given .fmt (if invocation.formats then some true else none)

/-- A layer over a layer over a configuration. -/
theorem onto_above (upper lower : SettingLayer) (configuration : Configuration) :
    (upper.above lower).onto configuration = upper.onto (lower.onto configuration) := by
  simp only [onto, above, Option.getD_or]

end SettingLayer

/-! ### Documents -/

/-- A setting of a document goes over the configuration that it is applied to. -/
theorem Configuration.applySetting_eq_some {configuration applied : Configuration}
    {setting : String × Setting} (happly : configuration.applySetting setting = some applied) :
    applied = (SettingLayer.ofDocument [setting]).onto configuration := by
  rw [applySetting.eq_def] at happly
  split at happly <;> cases happly <;> rfl

/-- The key of a setting is not set again behind it. -/
theorem lookup_eq_none_of_distinctKeys {first : String × Setting}
    {rest : List (String × Setting)}
    (hdistinct : Configuration.distinctKeys (first :: rest) = true) :
    rest.lookup first.1 = none := by
  rw [Configuration.distinctKeys, Bool.and_eq_true, Bool.not_eq_true', List.any_eq_false]
    at hdistinct
  rw [List.lookup_eq_none_iff]
  intro other hmem
  rw [bne_iff_ne]
  intro heq
  exact hdistinct.1 other hmem (beq_iff_eq.mpr heq.symm)

/-- The settings behind the first one go over it. -/
theorem SettingLayer.ofDocument_cons_onto {first : String × Setting}
    {rest : List (String × Setting)} (hfresh : rest.lookup first.1 = none)
    (configuration : Configuration) :
    (ofDocument (first :: rest)).onto configuration =
      (ofDocument rest).onto ((ofDocument [first]).onto configuration) := by
  have hlookup : ∀ {α : Type} (key : String) (read : Setting → Option α) (value : α),
      (((first :: rest).lookup key).bind read).getD value =
        ((rest.lookup key).bind read).getD ((([first].lookup key).bind read).getD value) := by
    intro α key read value
    rw [List.lookup_cons, List.lookup_cons]
    by_cases hkey : key = first.1
    · rw [hkey, hfresh, beq_self_eq_true]
      rfl
    · rw [beq_eq_false_iff_ne.mpr hkey]
      rfl
  simp only [onto, ofDocument, hlookup]

theorem foldlM_applySetting {settings : List (String × Setting)}
    {configuration applied : Configuration}
    (hdistinct : Configuration.distinctKeys settings = true)
    (happly : settings.foldlM Configuration.applySetting configuration = some applied) :
    applied = (SettingLayer.ofDocument settings).onto configuration := by
  induction settings generalizing configuration with
  | nil =>
      cases happly
      rfl
  | cons first rest ih =>
      rw [List.foldlM_cons, Option.bind_eq_bind, Option.bind_eq_some_iff] at happly
      obtain ⟨between, hfirst, hrest⟩ := happly
      have hkeys := hdistinct
      rw [Configuration.distinctKeys, Bool.and_eq_true] at hkeys
      rw [SettingLayer.ofDocument_cons_onto (lookup_eq_none_of_distinctKeys hdistinct),
        ← Configuration.applySetting_eq_some hfirst]
      exact ih hkeys.2 hrest

/-- A text is a document that holds some settings: it reads as these settings, and they set a
configuration. -/
structure IsDocument (text : String) (settings : List (String × Setting)) : Prop where
  reads : settingsOfText? text = some settings
  sets : (Configuration.ofDocument? text).isSome = true

/-- A document gives what it says over the defaults. -/
theorem IsDocument.ofDocument?_eq {text : String} {settings : List (String × Setting)}
    (hdocument : IsDocument text settings) :
    Configuration.ofDocument? text =
      some ((SettingLayer.ofDocument settings).onto .standard) := by
  obtain ⟨configuration, hsets⟩ := Option.isSome_iff_exists.mp hdocument.sets
  rw [hsets]
  rw [Configuration.ofDocument?, hdocument.reads, Option.bind_eq_bind, Option.bind_some] at hsets
  split_ifs at hsets with hdistinct
  rw [foldlM_applySetting hdistinct hsets]

/-- The settings of the document that is read: of the named one, or of the default one when it
is there.  Without a document there are none. -/
inductive Workplace.Finds (place : Workplace) : Option String → List (String × Setting) → Prop
  | named {path text : String} {settings : List (String × Setting)}
      (hread : place.files.read path = .ok text) (hdocument : IsDocument text settings) :
      place.Finds (some path) settings
  | standard {text : String} {settings : List (String × Setting)}
      (hread : place.files.read defaultConfigurationPath = .ok text)
      (hdocument : IsDocument text settings) : place.Finds none settings
  | nothing (hmissing : place.files.isFile defaultConfigurationPath = false) :
      place.Finds none []

theorem readConfiguration_eq {files : FileTree} {path text : String}
    {settings : List (String × Setting)} (hread : files.read path = .ok text)
    (hdocument : IsDocument text settings) :
    readConfiguration files path = .ok ((SettingLayer.ofDocument settings).onto .standard) := by
  rw [readConfiguration, hread]
  dsimp only
  rw [hdocument.ofDocument?_eq]

/-! ### Environment and flags -/

theorem SettingLayer.onto_ofEnvironment (lookup : String → Option String)
    (configuration : Configuration) :
    (ofEnvironment lookup).onto configuration = configuration.withEnvironment lookup :=
  rfl

/-- The settings without the flags. -/
def settingsBelowFlags (place : Workplace) (settings : List (String × Setting)) : Configuration :=
  ((SettingLayer.ofEnvironment place.environment).above (.ofDocument settings)).onto .standard

/-- The settings of all layers: flags over the environment over a document over the
defaults. -/
def layeredSettings (place : Workplace) (settings : List (String × Setting))
    (invocation : Invocation) : Configuration :=
  ((SettingLayer.ofFlags invocation).above
    ((SettingLayer.ofEnvironment place.environment).above (.ofDocument settings))).onto .standard

theorem loadConfiguration_eq [SourceParser] {place : Workplace} {path : Option String}
    {settings : List (String × Setting)} (hfinds : place.Finds path settings) :
    loadConfiguration place path = checkConfiguration (settingsBelowFlags place settings) := by
  have hlayers : settingsBelowFlags place settings =
      ((SettingLayer.ofDocument settings).onto .standard).withEnvironment place.environment := by
    rw [settingsBelowFlags, SettingLayer.onto_above, SettingLayer.onto_ofEnvironment]
  rw [hlayers]
  cases hfinds with
  | named hread hdocument =>
      rw [loadConfiguration, readConfiguration_eq hread hdocument]
      rfl
  | standard hread hdocument =>
      have hfile : place.files.isFile defaultConfigurationPath = true := by
        rw [FileTree.isFile, hread]
        rfl
      rw [loadConfiguration]
      dsimp only
      rw [if_pos hfile, readConfiguration_eq hread hdocument]
      rfl
  | nothing hmissing =>
      rw [loadConfiguration]
      dsimp only
      rw [if_neg (by rw [hmissing]; decide)]
      rfl

theorem Invocation.given_eq {α : Type} {invocation : Invocation} {name : OptionName}
    {value : Option α}
    (hknown : value.isSome = true → name ∈ knownOptions (some invocation.command)) :
    invocation.given name value = value := by
  rw [given]
  split_ifs with hname
  · rfl
  · cases value with
    | none => rfl
    | some value => exact absurd (hknown rfl) hname

/-- The flags of an invocation go over the configuration. -/
theorem SettingLayer.onto_ofFlags {invocation : Invocation} (hkeeps : invocation.KeepsToOptions)
    (configuration : Configuration) :
    (ofFlags invocation).onto configuration = configuration.withFlags invocation := by
  have hformats : invocation.given .fmt (if invocation.formats then some true else none) =
      if invocation.formats then some true else none := by
    apply Invocation.given_eq
    intro hgiven
    apply hkeeps.formats
    by_contra hnot
    rw [if_neg hnot] at hgiven
    cases hgiven
  rw [onto, ofFlags, Invocation.given_eq hkeeps.modulePath, Invocation.given_eq hkeeps.runtimePath,
    Invocation.given_eq hkeeps.entryFunction, hformats, Configuration.withFlags]
  cases invocation.formats with
  | false => simp
  | true => simp

/-! ### Resolved configurations -/

theorem checkConfiguration_eq_ok_iff [SourceParser] {configuration checked : Configuration} :
    checkConfiguration configuration = .ok checked ↔
      checked = configuration ∧ configuration.fault? = none := by
  rw [checkConfiguration]
  cases hfault : configuration.fault? with
  | none => simp [eq_comm]
  | some fault => simp

theorem checkConfiguration_eq_error_iff [SourceParser] {configuration : Configuration}
    {fault : CommandFault} :
    checkConfiguration configuration = .error fault ↔
      ∃ reason, configuration.fault? = some reason ∧ fault = .invalidConfiguration reason := by
  rw [checkConfiguration]
  cases hfault : configuration.fault? with
  | none => simp
  | some reason => simp [eq_comm]

theorem resolveConfiguration_eq [SourceParser] {place : Workplace} {invocation : Invocation}
    {settings : List (String × Setting)} (hkeeps : invocation.KeepsToOptions)
    (hfinds : place.Finds invocation.configPath settings) :
    resolveConfiguration place invocation =
      checkConfiguration (settingsBelowFlags place settings) >>= fun _ =>
        checkConfiguration (layeredSettings place settings invocation) := by
  have hflags : layeredSettings place settings invocation =
      (settingsBelowFlags place settings).withFlags invocation := by
    rw [layeredSettings, SettingLayer.onto_above, SettingLayer.onto_ofFlags hkeeps,
      settingsBelowFlags]
  rw [resolveConfiguration, loadConfiguration_eq hfinds, hflags]
  cases hcheck : checkConfiguration (settingsBelowFlags place settings) with
  | error fault => rfl
  | ok configuration =>
      rw [(checkConfiguration_eq_ok_iff.mp hcheck).1]
      rfl

/-- An invocation runs with the settings of all layers, flags first, exactly when these are
valid and those without the flags are valid too.  Otherwise it fails with what is wrong with
the settings without the flags, or else with the settings of all layers. -/
theorem resolveConfiguration_layered [SourceParser] {place : Workplace} {invocation : Invocation}
    {settings : List (String × Setting)} (hkeeps : invocation.KeepsToOptions)
    (hfinds : place.Finds invocation.configPath settings) :
    (∀ configuration, resolveConfiguration place invocation = .ok configuration ↔
      configuration = layeredSettings place settings invocation ∧
        (layeredSettings place settings invocation).fault? = none ∧
        (settingsBelowFlags place settings).fault? = none) ∧
    ∀ fault, resolveConfiguration place invocation = .error fault ↔
      ∃ reason, fault = .invalidConfiguration reason ∧
        ((settingsBelowFlags place settings).fault? = some reason ∨
          (settingsBelowFlags place settings).fault? = none ∧
            (layeredSettings place settings invocation).fault? = some reason) := by
  rw [resolveConfiguration_eq hkeeps hfinds]
  cases hbelow : (settingsBelowFlags place settings).fault? with
  | none =>
      rw [checkConfiguration_eq_ok_iff.mpr ⟨rfl, hbelow⟩]
      constructor
      · intro configuration
        exact checkConfiguration_eq_ok_iff.trans (by simp)
      · intro fault
        exact checkConfiguration_eq_error_iff.trans (by simp [and_comm])
  | some reason =>
      rw [checkConfiguration_eq_error_iff.mpr ⟨reason, hbelow, rfl⟩]
      constructor
      · intro configuration
        exact iff_of_false nofun (fun hlayered => nomatch hlayered.2.2)
      · intro fault
        constructor
        · intro hfault
          cases hfault
          exact ⟨reason, rfl, Or.inl rfl⟩
        · rintro ⟨other, rfl, hother | ⟨hnone, -⟩⟩
          · cases hother
            rfl
          · cases hnone

/-- A document that sets everything. -/
def fullDocument : String :=
  "module_path = 'crate::from_file'\nruntime_path = '::from_file'\n" ++
    "register_fn = 'from_file' # the entry point\nformat = true\n"

def fullSettings : List (String × Setting) :=
  [("module_path", .text "crate::from_file"), ("runtime_path", .text "::from_file"),
    ("register_fn", .text "from_file"), ("format", .flag true)]

/-- A workplace in which a document sets everything and the environment all but one setting. -/
def layeredPlace : Workplace where
  files := .ofFiles [("routecraft.toml", fullDocument)]
  environment := fun name =>
    match name with
    | "ROUTECRAFT_MODULE_PATH" => some "crate::from_environment"
    | "ROUTECRAFT_REGISTER_FN" => some "from_environment"
    | "ROUTECRAFT_FORMAT" => some "off"
    | _ => none
  formatter := fun _ _ _ => .missing

/-- The invocation of `generate --input routes.rs --module-path crate::from_flag`. -/
def layeredInvocation : Invocation where
  command := .generate
  isVerbose := false
  logFormat := .text
  configPath := none
  input := "routes.rs"
  modulePath := some "crate::from_flag"
  output := none
  runtimePath := none
  entryFunction := none
  formats := false
  asJson := false

section Standard

attribute [local instance] SourceParser.standard

theorem resolveConfiguration_from_layers :
    parseArguments none ["generate", "--input", "routes.rs", "--module-path", "crate::from_flag"] =
        .ok layeredInvocation ∧
      layeredPlace.Finds none fullSettings ∧
      resolveConfiguration layeredPlace layeredInvocation =
        .ok ⟨"crate::from_flag", "::from_file", "from_environment", false⟩ := by
  have hparse : parseArguments none
      ["generate", "--input", "routes.rs", "--module-path", "crate::from_flag"] =
        .ok layeredInvocation := by
    decide +kernel
  have hread : layeredPlace.files.read defaultConfigurationPath = .ok fullDocument := by
    decide +kernel
  have hfinds : layeredPlace.Finds none fullSettings :=
    .standard hread ⟨by decide +kernel, by decide +kernel⟩
  refine ⟨hparse, hfinds, ?_⟩
  apply ((resolveConfiguration_layered (keepsToOptions_of_parseArguments hparse) hfinds).1 _).mpr
  exact ⟨by decide +kernel, by decide +kernel, by decide +kernel⟩

/-- A workplace whose environment holds a module path that is none. -/
def brokenPlace : Workplace where
  files := .ofFiles [("routes.rs", "")]
  environment := fun name => if name = "ROUTECRAFT_MODULE_PATH" then some "not a path" else none
  formatter := fun _ _ _ => .missing

/-- The invocation of `check --input routes.rs --module-path crate::api`. -/
def replacingInvocation : Invocation :=
  { layeredInvocation with command := .check, modulePath := some "crate::api" }

/-- A flag replaces the module path of the environment, and all settings are valid, but the
invocation fails with the replaced one. -/
theorem resolveConfiguration_replaced :
    parseArguments none ["check", "--input", "routes.rs", "--module-path", "crate::api"] =
        .ok replacingInvocation ∧
      brokenPlace.Finds none [] ∧
      layeredSettings brokenPlace [] replacingInvocation =
        { Configuration.standard with modulePath := "crate::api" } ∧
      (layeredSettings brokenPlace [] replacingInvocation).fault? = none ∧
      resolveConfiguration brokenPlace replacingInvocation =
        .error (.invalidConfiguration (.modulePath "not a path")) :=
  ⟨by decide +kernel, .nothing (by decide +kernel), by decide +kernel, by decide +kernel,
    by decide +kernel⟩

end Standard

end MarkedRoutes

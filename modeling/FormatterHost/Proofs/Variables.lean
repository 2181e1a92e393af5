import FormatterHost.Proofs.References
import FormatterHost.Proofs.VariableNames
import FormatterHost.Settings.Loading

/-!
# Settings in variables

Each setting can be given by a variable of the environment, whose name spells the way to the
setting.  Where a document is open to these ways, loading it gives what it gives without the
variables, except that their settings have their values.
-/

namespace FormatterHost

/-! ## Records -/

theorem GlobalPatch.recordType_independent : GlobalPatch.recordType.Independent := by
  constructor <;> simp [recordType, Field.omissible]

theorem PluginPatch.recordType_independent : PluginPatch.recordType.Independent := by
  constructor <;> simp [recordType, Field.omissible]

theorem Patch.recordType_independent : Patch.recordType.Independent := by
  constructor <;> simp [recordType, Field.defaulted]

theorem PluginOptions.recordType_independent : PluginOptions.recordType.Independent := by
  constructor <;> simp [recordType, Field.defaulted]

theorem HostSettings.recordType_independent : HostSettings.recordType.Independent := by
  constructor <;> simp [recordType, Field.defaulted]

/-! ## The names of choices as settings -/

theorem OptimizationLevel.convert_name (level : OptimizationLevel) :
    schema.convert (.scalar (Environment.settingValue level.name) .environment) = .ok level := by
  cases level <;> rfl

theorem ContractPolicy.convert_name (policy : ContractPolicy) :
    schema.convert (.scalar (Environment.settingValue policy.name) .environment) = .ok policy := by
  cases policy <;> rfl

theorem NewlineKind.convert_name (kind : NewlineKind) :
    schema.convert (.scalar (Environment.settingValue kind.name) .environment) = .ok kind := by
  cases kind <;> rfl

theorem SemicolonUse.convert_name (use : SemicolonUse) :
    schema.convert (.scalar (Environment.settingValue use.name) .environment) = .ok use := by
  cases use <;> rfl

theorem QuoteStyle.convert_name (style : QuoteStyle) :
    schema.convert (.scalar (Environment.settingValue style.name) .environment) = .ok style := by
  cases style <;> rfl

/-! ## The settings -/

/-- The settings that a variable can give. -/
inductive Setting where
  | pluginPath
  | optimization
  | debugInfo
  | parallelCompilation
  | maxMemoryPages
  | trapUnknownImports
  | contractPolicy
  | lineWidth
  | indentWidth
  | useTabs
  | newlineKind
  | semicolons
  | quotes
deriving Repr, DecidableEq

namespace Setting

/-- The ways to a setting, in lower case.  Overridden settings have two spellings there, and a third
one with capitals. -/
def paths : Setting → List TreePath
  | pluginPath => [[⟨"plugin_path", []⟩]]
  | optimization => option "optimization_level"
  | debugInfo => option "debug_info"
  | parallelCompilation => option "parallel_compilation"
  | maxMemoryPages => option "max_memory_pages"
  | trapUnknownImports => option "trap_unknown_imports"
  | contractPolicy => option "contract_policy"
  | lineWidth => overridden "global" "lineWidth" "line_width" "linewidth"
  | indentWidth => overridden "global" "indentWidth" "indent_width" "indentwidth"
  | useTabs => overridden "global" "useTabs" "use_tabs" "usetabs"
  | newlineKind => overridden "global" "newLineKind" "new_line_kind" "newlinekind"
  | semicolons => overridden "plugin" "semiColons" "semi_colons" "semicolons"
  | quotes => overridden "plugin" "quoteStyle" "quote_style" "quotestyle"
where
  option (key : String) : List TreePath :=
    [[⟨"runtime", []⟩, ⟨key, []⟩]]
  overridden (table name snake plain : String) : List TreePath :=
    [[⟨"defaults", []⟩, ⟨table, []⟩, ⟨snake, [name, plain]⟩],
      [⟨"defaults", []⟩, ⟨table, []⟩, ⟨plain, [name, snake]⟩]]

/-- The type of the values of a setting. -/
def Value : Setting → Type
  | pluginPath => String
  | optimization => OptimizationLevel
  | debugInfo | parallelCompilation | trapUnknownImports | useTabs => Bool
  | maxMemoryPages | lineWidth | indentWidth => UInt32
  | contractPolicy => ContractPolicy
  | newlineKind => NewlineKind
  | semicolons => SemicolonUse
  | quotes => QuoteStyle

/-- The settings with one of them replaced. -/
def set : (setting : Setting) → setting.Value → HostSettings → HostSettings
  | pluginPath, value, s => { s with pluginPath := some value }
  | optimization, value, s => { s with options := { s.options with optimization := value } }
  | debugInfo, value, s => { s with options := { s.options with debugInfo := value } }
  | parallelCompilation, value, s =>
    { s with options := { s.options with parallelCompilation := value } }
  | maxMemoryPages, value, s => { s with options := { s.options with maxMemoryPages := value } }
  | trapUnknownImports, value, s =>
    { s with options := { s.options with trapUnknownImports := value } }
  | contractPolicy, value, s => { s with options := { s.options with contractPolicy := value } }
  | lineWidth, value, s => setGlobal (fun p => { p with lineWidth := some value }) s
  | indentWidth, value, s => setGlobal (fun p => { p with indentWidth := some value }) s
  | useTabs, value, s => setGlobal (fun p => { p with useTabs := some value }) s
  | newlineKind, value, s => setGlobal (fun p => { p with newlineKind := some value }) s
  | semicolons, value, s => setPlugin (fun p => { p with semicolons := some value }) s
  | quotes, value, s => setPlugin (fun p => { p with quotes := some value }) s
where
  setGlobal (change : GlobalPatch → GlobalPatch) (s : HostSettings) : HostSettings :=
    { s with defaults := { s.defaults with global := change s.defaults.global } }
  setPlugin (change : PluginPatch → PluginPatch) (s : HostSettings) : HostSettings :=
    { s with defaults := { s.defaults with plugin := change s.defaults.plugin } }

/-- How the value of a variable is written: truth values as words in any case, numbers in digits,
choices by their names, and paths as they are.  A path that looks like a number or a truth value has
to be the text of that. -/
def WrittenAs : (setting : Setting) → setting.Value → String → Prop
  | pluginPath, value, text => text = value ∧ (Environment.settingValue text).text = text
  | optimization, value, text => text = OptimizationLevel.name value
  | debugInfo, value, text | parallelCompilation, value, text | trapUnknownImports, value, text
  | useTabs, value, text => WritesBool value text
  | maxMemoryPages, value, text | lineWidth, value, text | indentWidth, value, text =>
    WritesNatural value text
  | contractPolicy, value, text => text = ContractPolicy.name value
  | newlineKind, value, text => text = NewlineKind.name value
  | semicolons, value, text => text = SemicolonUse.name value
  | quotes, value, text => text = QuoteStyle.name value
where
  WritesBool (value : Bool) (text : String) : Prop :=
    Text.lower text = toString value
  WritesNatural (value : UInt32) (text : String) : Prop :=
    Scientific.natural? text.toList = some value.toNat

/-! ### What the values of variables are read as -/

theorem convert_of_writesBool {value : Bool} {text : String}
    (written : WrittenAs.WritesBool value text) :
    Schema.bool.convert (.scalar (Environment.settingValue text) .environment) = .ok value := by
  rw [WrittenAs.WritesBool] at written
  rw [Environment.settingValue, written]
  cases value <;> rfl

/-- Digits are their own lower-case form. -/
theorem lower_of_isDigit {text : String} (digital : ∀ c ∈ text.toList, Decimal.isDigit c = true) :
    Text.lower text = text := by
  apply Text.lower_eq_self
  intro c mem
  have small := (Text.toNat_of_isDigit (digital c mem)).2
  omega

theorem settingValue_of_natural? {text : String} {n : Nat}
    (number : Scientific.natural? text.toList = some n) (small : n < Width.count 63) :
    Environment.settingValue text = .integer n := by
  have digits : text.toList ≠ [] ∧ text.toList.all Decimal.isDigit = true := by
    by_contra other
    rw [Scientific.natural?, if_neg other] at number
    cases number
  have digital : ∀ c ∈ text.toList, Decimal.isDigit c = true := List.all_eq_true.mp digits.2
  have noWord : ∀ word : String, word.toList.all Decimal.isDigit = false → text ≠ word := by
    rintro word other rfl
    rw [digits.2] at other
    cases other
  have unsigned : Scientific.readSign text.toList = (false, text.toList) := by
    unfold Scientific.readSign
    split
    · rename_i starts
      exact absurd (digital '-' (starts ▸ List.mem_cons_self)) (by decide)
    · rename_i starts
      exact absurd (digital '+' (starts ▸ List.mem_cons_self)) (by decide)
    · rfl
  have integer : Scientific.signed? text = some (n : Int) := by
    rw [Scientific.signed?, unsigned]
    simp only [number, Bool.false_eq_true, if_false, if_pos small]
  rw [Environment.settingValue, lower_of_isDigit digital, if_neg (noWord "true" (by decide)),
    if_neg (noWord "false" (by decide)), integer]

theorem convert_of_writesNatural {value : UInt32} {text : String}
    (written : WrittenAs.WritesNatural value text) :
    Schema.uint32.convert (.scalar (Environment.settingValue text) .environment) = .ok value := by
  have small : value.toNat < Width.count 32 := value.toNat_lt
  have wide : Width.count 32 < Width.count 63 := by decide
  rw [settingValue_of_natural? written (by omega)]
  simp only [Schema.uint32, Schema.natural, Schema.convertNatural]
  rw [if_pos (Int.natCast_nonneg _)]
  simp only [Int.toNat_natCast]
  rw [if_pos small, UInt32.ofNat_toNat]

theorem convert_option {α : Type} {schema : Schema α} {scalar : Scalar} {origin : Origin}
    {value : α} (converted : schema.convert (.scalar scalar origin) = .ok value) :
    schema.option.convert (.scalar scalar origin) = .ok (some value) := by
  have same : schema.option.convert (.scalar scalar origin) =
      (schema.convert (.scalar scalar origin)).map some := rfl
  rw [same, converted]
  rfl

/-! ### What laying a variable over a tree changes -/

section Overlays

variable {scalar : Scalar} {origin : Origin}

theorem overlays_option (key : String) {field : Field PluginOptions}
    (named : PluginOptions.recordType.field? key = some field) {value : field.Value}
    (converted : field.schema.convert (.scalar scalar origin) = .ok value) :
    Overlays HostSettings.schema {} [⟨"runtime", []⟩, field.spelled key] (.scalar scalar origin)
      fun s => { s with options := field.set value s.options } :=
  @Overlays.inside _ _ HostSettings.recordType_independent "runtime" _ rfl _ _ _ _
    (.inside PluginOptions.recordType_independent named (.value converted))

theorem overlays_global (key : String) {field : Field GlobalPatch}
    (named : GlobalPatch.recordType.field? key = some field) {value : field.Value}
    (converted : field.schema.convert (.scalar scalar origin) = .ok value) :
    Overlays HostSettings.schema {} [⟨"defaults", []⟩, ⟨"global", []⟩, field.spelled key]
      (.scalar scalar origin) (set.setGlobal (field.set value)) :=
  @Overlays.inside _ _ HostSettings.recordType_independent "defaults" _ rfl _ _ _ _
    (@Overlays.inside _ _ Patch.recordType_independent "global" _ rfl _ _ _ _
      (.inside GlobalPatch.recordType_independent named (.value converted)))

theorem overlays_plugin (key : String) {field : Field PluginPatch}
    (named : PluginPatch.recordType.field? key = some field) {value : field.Value}
    (converted : field.schema.convert (.scalar scalar origin) = .ok value) :
    Overlays HostSettings.schema {} [⟨"defaults", []⟩, ⟨"plugin", []⟩, field.spelled key]
      (.scalar scalar origin) (set.setPlugin (field.set value)) :=
  @Overlays.inside _ _ HostSettings.recordType_independent "defaults" _ rfl _ _ _ _
    (@Overlays.inside _ _ Patch.recordType_independent "plugin" _ rfl _ _ _ _
      (.inside PluginPatch.recordType_independent named (.value converted)))

end Overlays

/-- A variable that gives a setting replaces it. -/
theorem overlays {setting : Setting} {value : setting.Value} {text : String}
    (written : setting.WrittenAs value text) {path : TreePath} (mem : path ∈ setting.paths) :
    Overlays HostSettings.schema {} path (.scalar (Environment.settingValue text) .environment)
      (setting.set value) := by
  cases setting with
  | pluginPath =>
      obtain ⟨rfl, unchanged⟩ := written
      obtain rfl := List.mem_singleton.mp mem
      have converted : (Schema.option .string).convert
          (.scalar (Environment.settingValue text) .environment) = .ok (some text) :=
        congrArg (Except.ok ∘ some) unchanged
      exact @Overlays.inside _ _ HostSettings.recordType_independent "plugin_path" _ rfl _ _ _ _
        (.value converted)
  | optimization =>
      obtain rfl := List.mem_singleton.mp mem
      obtain rfl := written
      exact overlays_option "optimization_level" rfl (OptimizationLevel.convert_name value)
  | debugInfo =>
      obtain rfl := List.mem_singleton.mp mem
      exact overlays_option "debug_info" rfl (convert_of_writesBool written)
  | parallelCompilation =>
      obtain rfl := List.mem_singleton.mp mem
      exact overlays_option "parallel_compilation" rfl (convert_of_writesBool written)
  | maxMemoryPages =>
      obtain rfl := List.mem_singleton.mp mem
      exact overlays_option "max_memory_pages" rfl (convert_of_writesNatural written)
  | trapUnknownImports =>
      obtain rfl := List.mem_singleton.mp mem
      exact overlays_option "trap_unknown_imports" rfl (convert_of_writesBool written)
  | contractPolicy =>
      obtain rfl := List.mem_singleton.mp mem
      obtain rfl := written
      exact overlays_option "contract_policy" rfl (ContractPolicy.convert_name value)
  | lineWidth =>
      have converted := convert_option (convert_of_writesNatural written)
      rcases List.mem_pair.mp mem with rfl | rfl
      · exact overlays_global "line_width" rfl converted
      · exact overlays_global "linewidth" rfl converted
  | indentWidth =>
      have converted := convert_option (convert_of_writesNatural written)
      rcases List.mem_pair.mp mem with rfl | rfl
      · exact overlays_global "indent_width" rfl converted
      · exact overlays_global "indentwidth" rfl converted
  | useTabs =>
      have converted := convert_option (convert_of_writesBool written)
      rcases List.mem_pair.mp mem with rfl | rfl
      · exact overlays_global "use_tabs" rfl converted
      · exact overlays_global "usetabs" rfl converted
  | newlineKind =>
      obtain rfl := written
      have converted := convert_option (NewlineKind.convert_name value)
      rcases List.mem_pair.mp mem with rfl | rfl
      · exact overlays_global "new_line_kind" rfl converted
      · exact overlays_global "newlinekind" rfl converted
  | semicolons =>
      obtain rfl := written
      have converted := convert_option (SemicolonUse.convert_name value)
      rcases List.mem_pair.mp mem with rfl | rfl
      · exact overlays_plugin "semi_colons" rfl converted
      · exact overlays_plugin "semicolons" rfl converted
  | quotes =>
      obtain rfl := written
      have converted := convert_option (QuoteStyle.convert_name value)
      rcases List.mem_pair.mp mem with rfl | rfl
      · exact overlays_plugin "quote_style" rfl converted
      · exact overlays_plugin "quotestyle" rfl converted

/-- A path of digits is read as a number, whose text is the path. -/
example : pluginPath.WrittenAs "123" "123" :=
  ⟨rfl, by decide +kernel⟩

/-- All settings. -/
def all : List Setting :=
  [pluginPath, optimization, debugInfo, parallelCompilation, maxMemoryPages, trapUnknownImports,
    contractPolicy, lineWidth, indentWidth, useTabs, newlineKind, semicolons, quotes]

theorem mem_all (setting : Setting) : setting ∈ all := by
  cases setting <;> decide

/-- The ways to different settings part. -/
theorem apart_of_ne {setting other : Setting} (different : setting ≠ other) {path way : TreePath}
    (mem : path ∈ setting.paths) (mem' : way ∈ other.paths) : path.apart way = true := by
  have every : ∀ setting ∈ all, ∀ other ∈ all, setting ≠ other →
      ∀ path ∈ setting.paths, ∀ way ∈ other.paths, path.apart way = true := by
    decide +kernel
  exact every setting (mem_all setting) other (mem_all other) different path mem way mem'

end Setting

theorem Setting.plain_of_mem {setting : Setting} {path : TreePath} (mem : path ∈ setting.paths) :
    path.Plain ∧ path ≠ [] := by
  have every : ∀ setting ∈ Setting.all, ∀ path ∈ setting.paths,
      (∀ spelling ∈ path, TreePath.isPlain spelling.key.toList = true) ∧ path ≠ [] := by
    decide +kernel
  exact every setting setting.mem_all path mem

/-! ## Environments -/

/-- A variable that gives a setting: its name spells one of the ways there, whatever the case of its
letters, and its text is how the value is written. -/
structure SettingVariable where
  setting : Setting
  value : setting.Value
  path : TreePath
  mem : path ∈ setting.paths
  name : String
  named : Text.lower name = path.variableName
  text : String
  written : setting.WrittenAs value text

namespace SettingVariable

/-- The variable with its value, as the environment has them. -/
def pair (source : SettingVariable) : String × String :=
  (source.name, source.text)

/-- What the variable adds to a settings tree. -/
def entry (source : SettingVariable) : String × Node :=
  (source.path.key, .scalar (Environment.settingValue source.text) .environment)

/-- What the variable makes of settings. -/
def apply (source : SettingVariable) (settings : HostSettings) : HostSettings :=
  source.setting.set source.value settings

theorem settingKey?_name (source : SettingVariable) :
    Environment.settingKey? source.name = some source.path.key := by
  obtain ⟨plain, something⟩ := Setting.plain_of_mem source.mem
  exact TreePath.settingKey?_of_lower plain something source.named

/-- Variables for different settings have different keys. -/
theorem key_ne {source other : SettingVariable} (different : source.setting ≠ other.setting) :
    source.path.key ≠ other.path.key := by
  intro same
  obtain ⟨plain, something⟩ := Setting.plain_of_mem source.mem
  obtain ⟨plain', something'⟩ := Setting.plain_of_mem other.mem
  apply TreePath.steps_ne_of_apart (Setting.apart_of_ne different source.mem other.mem)
  rw [← TreePath.ofKey_key plain something, ← TreePath.ofKey_key plain' something', same]

/-- Laying the entry over a tree sets what its path leads to. -/
theorem set_entry (source : SettingVariable) (tree : Node) :
    Overlay.set source.entry.1 source.entry.2 tree =
      Overlay.setSteps source.entry.2 source.path.steps tree := by
  obtain ⟨plain, something⟩ := Setting.plain_of_mem source.mem
  rw [← TreePath.ofKey_key plain something]
  rfl

end SettingVariable

namespace Environment

/-- Whether a variable holds a setting. -/
def holdsSetting (binding : String × String) : Bool :=
  (settingKey? binding.1).isSome

/-- The other variables do not count. -/
theorem settings_filter (environment : Environment) :
    settings (environment.filter holdsSetting) = settings environment := by
  rw [settings, settings, List.foldl_filter]
  apply congrArg fun step => environment.foldl step []
  funext entries binding
  obtain ⟨name, value⟩ := binding
  cases key : settingKey? name with
  | none => simp only [holdsSetting, key, Option.isSome_none, Bool.false_eq_true, if_false]
  | some key => simp only [holdsSetting, key, Option.isSome_some, if_true]

/-- Variables for different settings are put behind what is there, one by one. -/
theorem foldl_put_sources {sources : List SettingVariable}
    (distinct : sources.Pairwise fun source other => source.setting ≠ other.setting)
    (entries : List (String × Node))
    (new : ∀ source ∈ sources, ∀ entry ∈ entries, entry.1 ≠ source.path.key) :
    sources.foldl (fun entries source => Entries.put source.path.key
        (.scalar (settingValue source.text) .environment) entries) entries =
      entries ++ sources.map SettingVariable.entry := by
  induction sources generalizing entries with
  | nil => exact (List.append_nil entries).symm
  | cons source sources ih =>
      obtain ⟨here, later⟩ := List.forall_mem_cons.mp new
      obtain ⟨unlike, distinct⟩ := List.pairwise_cons.mp distinct
      rw [List.foldl_cons, Entries.put, Entries.update_of_ne here, ih distinct]
      · rw [List.map_cons, List.append_assoc, List.singleton_append, SettingVariable.entry]
      · intro other mem entry mem'
        rcases List.mem_append.mp mem' with old | added
        · exact later other mem entry old
        · rw [List.mem_singleton.mp added]
          exact SettingVariable.key_ne (unlike other mem)

/-- Variables for different settings make up the settings one by one. -/
theorem settings_pairs {sources : List SettingVariable}
    (distinct : sources.Pairwise fun source other => source.setting ≠ other.setting) :
    settings (sources.map SettingVariable.pair) = sources.map SettingVariable.entry := by
  have new : ∀ source ∈ sources, ∀ entry ∈ ([] : List (String × Node)),
      entry.1 ≠ source.path.key :=
    fun _ _ _ mem => absurd mem List.not_mem_nil
  rw [settings, List.foldl_map]
  simp only [SettingVariable.pair, SettingVariable.settingKey?_name]
  rw [foldl_put_sources distinct [] new, List.nil_append]

end Environment

namespace HostSettings

/-- The settings tree of a document, before anything is laid over it. -/
def documentTree? (form : DocumentNotation) (text : String) : Option Node :=
  match form.node? text with
  | some (.table entries) => some (Overlay.setAll entries (.table []))
  | _ => none

/-- Settings from a text without references. -/
theorem ofText_of_not_mem {environment : Environment} {form : DocumentNotation} {text : String}
    (plain : '$' ∉ text.toList) :
    ofText environment form text =
      match documentTree? form text with
      | some tree =>
        (schema.convert (Overlay.setAll environment.settings tree)).mapError .mismatch
      | none => .error .malformed := by
  rw [ofText, Substitution.substitute_of_not_mem plain, documentTree?]
  cases read : form.node? text with
  | none => rfl
  | some node =>
      cases node with
      | nil => rfl
      | scalar value origin => rfl
      | sequence items => rfl
      | table entries =>
          simp only [combine]
          cases schema.convert
              (Overlay.setAll environment.settings (Overlay.setAll entries (.table []))) with
          | ok settings => rfl
          | error mismatch => rfl

theorem ok_of_toOption {ε α : Type} {outcome : Except ε α} {value : α}
    (given : outcome.toOption = some value) : outcome = .ok value := by
  cases outcome with
  | error failure => cases given
  | ok result =>
      cases given
      rfl

/-- Each variable changes its setting and keeps the tree open to those that follow. -/
theorem convert_setAll {sources : List SettingVariable}
    (distinct : sources.Pairwise fun source other => source.setting ≠ other.setting) {tree : Node}
    {settings : HostSettings} (admitted : ∀ source ∈ sources, source.path.Admitted tree)
    (converted : schema.convert tree = .ok settings) :
    schema.convert (Overlay.setAll (sources.map SettingVariable.entry) tree) =
      .ok (sources.foldl (fun settings source => source.apply settings) settings) := by
  induction sources generalizing tree settings with
  | nil => exact converted
  | cons source sources ih =>
      obtain ⟨here, later⟩ := List.forall_mem_cons.mp admitted
      obtain ⟨unlike, distinct⟩ := List.pairwise_cons.mp distinct
      have laid := (Setting.overlays source.written source.mem).changed here converted
      have kept : ∀ other ∈ sources, other.path.Admitted
          (Overlay.setSteps source.entry.2 source.path.steps tree) := by
        intro other mem
        have parts := Setting.apart_of_ne (unlike other mem) source.mem other.mem
        exact Overlay.admitted_setSteps parts (later other mem)
      have goesOn := ih distinct kept laid
      rw [← source.set_entry] at goesOn
      exact goesOn

/-- Variables that give settings win over the document, setting by setting, if the document is open
to their paths.  `quiet` is an environment in which no variable holds a setting. -/
theorem ofText_of_variables {quiet environment : Environment} {form : DocumentNotation}
    {text : String} {settings : HostSettings} {sources : List SettingVariable}
    (plain : '$' ∉ text.toList) (silent : quiet.filter Environment.holdsSetting = [])
    (loaded : ofText quiet form text = .ok settings)
    (present : environment.filter Environment.holdsSetting = sources.map SettingVariable.pair)
    (distinct : sources.Pairwise fun source other => source.setting ≠ other.setting)
    (admitted : ∀ tree ∈ documentTree? form text, ∀ source ∈ sources, source.path.Admitted tree) :
    ofText environment form text =
      .ok (sources.foldl (fun settings source => source.apply settings) settings) := by
  have nothing : Environment.settings quiet = [] := by
    rw [← Environment.settings_filter, silent]
    rfl
  have entries : Environment.settings environment = sources.map SettingVariable.entry := by
    rw [← Environment.settings_filter, present, Environment.settings_pairs distinct]
  rw [ofText_of_not_mem plain, nothing] at loaded
  rw [ofText_of_not_mem plain, entries]
  cases document : documentTree? form text with
  | none =>
      rw [document] at loaded
      cases loaded
  | some tree =>
      simp only [document, Overlay.setAll, List.foldl_nil] at loaded
      have converted : schema.convert tree = .ok settings := by
        cases outcome : schema.convert tree with
        | error mismatch =>
            rw [outcome] at loaded
            cases loaded
        | ok result =>
            rw [outcome] at loaded
            cases loaded
            rfl
      have result := convert_setAll distinct (admitted tree document) converted
      simp only [result, Except.mapError]

/-- A width that the document spells as the variable does, whatever the capitals, and a truth value
that is not in the document. -/
theorem ofText_of_variables_width_and_debugInfo :
    ofText [("HOME", "/root"), ("DPRINT_BRIDGE__DEFAULTS__GLOBAL__LINEWIDTH", "100"),
        ("DPRINT_BRIDGE__RUNTIME__DEBUG_INFO", "true")] .json
      "\x7b\"defaults\": \x7b\"global\": \x7b\"lineWidth\": 80, \"use_tabs\": true\x7d\x7d\x7d" =
      .ok { options := { debugInfo := true },
            defaults := { global := { lineWidth := some 100, useTabs := some true } } } := by
  let width : SettingVariable :=
    ⟨.lineWidth, (100 : UInt32), [⟨"defaults", []⟩, ⟨"global", []⟩,
      ⟨"linewidth", ["lineWidth", "line_width"]⟩], by decide,
      "DPRINT_BRIDGE__DEFAULTS__GLOBAL__LINEWIDTH", by decide +kernel, "100",
      (by decide +kernel : Scientific.natural? "100".toList = some 100)⟩
  let debug : SettingVariable :=
    ⟨.debugInfo, true, [⟨"runtime", []⟩, ⟨"debug_info", []⟩], by decide,
      "DPRINT_BRIDGE__RUNTIME__DEBUG_INFO", by decide +kernel, "true",
      (by decide +kernel : Text.lower "true" = "true")⟩
  have loaded : ofText [("HOME", "/root")] .json
      "\x7b\"defaults\": \x7b\"global\": \x7b\"lineWidth\": 80, \"use_tabs\": true\x7d\x7d\x7d" =
      .ok { defaults := { global := { lineWidth := some 80, useTabs := some true } } } := by
    apply ok_of_toOption
    decide +kernel
  have distinct : [width, debug].Pairwise fun source other => source.setting ≠ other.setting := by
    decide
  have present : List.filter Environment.holdsSetting
      [("HOME", "/root"), ("DPRINT_BRIDGE__DEFAULTS__GLOBAL__LINEWIDTH", "100"),
        ("DPRINT_BRIDGE__RUNTIME__DEBUG_INFO", "true")] =
      [width, debug].map SettingVariable.pair := by
    decide +kernel
  exact ofText_of_variables (by decide +kernel) (by decide +kernel) loaded present distinct
    (by decide +kernel)

/-- A width that the document spells otherwise than the variable is given twice. -/
theorem ofText_spelled_twice :
    (ofText [] .json
        "\x7b\"defaults\": \x7b\"global\": \x7b\"lineWidth\": 80\x7d\x7d\x7d").toOption =
        some { defaults := { global := { lineWidth := some 80 } } } ∧
      (ofText [("DPRINT_BRIDGE__DEFAULTS__GLOBAL__LINE_WIDTH", "100")] .json
        "\x7b\"defaults\": \x7b\"global\": \x7b\"lineWidth\": 80\x7d\x7d\x7d").toOption = none := by
  decide +kernel

end HostSettings

end FormatterHost

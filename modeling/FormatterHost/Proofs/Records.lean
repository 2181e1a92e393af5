import FormatterHost.Instance.Metrics
import FormatterHost.Plugin.Info
import FormatterHost.Proofs.Config
import FormatterHost.Settings.Basic

/-!
# Records as texts

Every value that is stored or sent as text is read back from that text.  The text of a complete
configuration can also be read as a patch; it is the patch that says everything, and turns any
configuration into that one.
-/

namespace FormatterHost

/-! ## Patches -/

theorem GlobalPatch.recordType_complete : GlobalPatch.recordType.Complete := by
  refine .of_sound ?_ (by decide) ?_
  · simp only [recordType, List.forall_mem_cons]
    exact ⟨.omissible Schema.uint32_faithful nofun, .omissible Schema.uint32_faithful nofun,
      .omissible Schema.bool_faithful nofun, .omissible NewlineKind.schema_faithful nofun, nofun⟩
  · -- Each field is carried over whether it is there or not.
    rintro ⟨_ | _, _ | _, _ | _, _ | _⟩ <;> rfl

theorem PluginPatch.recordType_complete : PluginPatch.recordType.Complete := by
  refine .of_sound ?_ (by decide) ?_
  · simp only [recordType, List.forall_mem_cons]
    exact ⟨.omissible SemicolonUse.schema_faithful nofun,
      .omissible QuoteStyle.schema_faithful nofun, nofun⟩
  · rintro ⟨_ | _, _ | _⟩ <;> rfl

theorem GlobalPatch.schema_faithful : GlobalPatch.schema.Faithful :=
  RecordType.schema_faithful GlobalPatch.recordType_complete

theorem PluginPatch.schema_faithful : PluginPatch.schema.Faithful :=
  RecordType.schema_faithful PluginPatch.recordType_complete

theorem Patch.schema_faithful : Patch.schema.Faithful := by
  refine RecordType.schema_faithful (.of_sound ?_ (by decide) fun _ => rfl)
  simp only [recordType, List.forall_mem_cons]
  exact ⟨.defaulted GlobalPatch.schema_faithful, .defaulted PluginPatch.schema_faithful, nofun⟩

/-- The patch that sets everything as a configuration has it. -/
def GlobalPatch.ofConfig (config : GlobalConfig) : GlobalPatch where
  lineWidth := some config.lineWidth
  indentWidth := some config.indentWidth
  useTabs := some config.useTabs
  newlineKind := some config.newlineKind

/-- The patch that sets everything as a configuration has it. -/
def PluginPatch.ofConfig (config : PluginConfig) : PluginPatch where
  semicolons := some config.semicolons
  quotes := some config.quotes

/-- A patch that sets everything is written as the configuration that it sets. -/
theorem GlobalPatch.print_ofConfig (config : GlobalConfig) :
    schema.print (ofConfig config) = GlobalConfig.schema.print config := rfl

theorem PluginPatch.print_ofConfig (config : PluginConfig) :
    schema.print (ofConfig config) = PluginConfig.schema.print config := rfl

theorem GlobalPatch.applyTo_ofConfig (config base : GlobalConfig) :
    (ofConfig config).applyTo base = config := rfl

theorem PluginPatch.applyTo_ofConfig (config base : PluginConfig) :
    (ofConfig config).applyTo base = config := rfl

/-! ## Requests, outputs and metrics -/

theorem Request.schema_faithful : Request.schema.Faithful := by
  refine RecordType.schema_faithful (.of_sound ?_ (by decide) fun _ => rfl)
  simp only [recordType, List.forall_mem_cons]
  exact ⟨.mandatory Schema.string_faithful, .mandatory Schema.string_faithful,
    .defaulted Patch.schema_faithful, nofun⟩

theorem OutputStatus.schema_faithful : OutputStatus.schema.Faithful :=
  Schema.choice_faithful fun status => by cases status <;> decide

theorem Output.schema_faithful : Output.schema.Faithful := by
  refine RecordType.schema_faithful (.of_sound ?_ (by decide) fun _ => rfl)
  simp only [recordType, List.forall_mem_cons]
  exact ⟨.mandatory Schema.string_faithful, .mandatory OutputStatus.schema_faithful, nofun⟩

theorem Metrics.schema_faithful : Metrics.schema.Faithful := by
  refine RecordType.schema_faithful (.of_sound ?_ (by decide) fun metrics => by cases metrics; rfl)
  simp only [recordType, List.forall_mem_cons]
  exact ⟨.mandatory Schema.uint64_faithful, .mandatory Schema.uint64_faithful,
    .mandatory Schema.uint64_faithful, .mandatory Schema.uint64_faithful,
    .mandatory Schema.uint64_faithful, .mandatory Schema.uint64_faithful,
    .mandatory Schema.uint64_faithful, .mandatory Schema.uint64_faithful, nofun⟩

/-! ## Plugins and settings -/

theorem OptimizationLevel.schema_faithful : OptimizationLevel.schema.Faithful :=
  Schema.choice_faithful fun level => by cases level <;> decide

theorem ContractPolicy.schema_faithful : ContractPolicy.schema.Faithful :=
  Schema.choice_faithful fun policy => by cases policy <;> decide

theorem PluginOptions.schema_faithful : PluginOptions.schema.Faithful := by
  refine RecordType.schema_faithful (.of_sound ?_ (by decide) fun _ => rfl)
  simp only [recordType, List.forall_mem_cons]
  exact ⟨.defaulted OptimizationLevel.schema_faithful, .defaulted Schema.bool_faithful,
    .defaulted Schema.bool_faithful, .defaulted Schema.uint32_faithful,
    .defaulted Schema.bool_faithful, .defaulted ContractPolicy.schema_faithful, nofun⟩

theorem ModuleInfo.schema_faithful : ModuleInfo.schema.Faithful := by
  refine RecordType.schema_faithful (.of_sound ?_ (by decide) fun _ => rfl)
  simp only [recordType, List.forall_mem_cons]
  exact ⟨.mandatory Schema.string_faithful, .mandatory Schema.uint64_faithful,
    .mandatory (Schema.list_faithful Schema.string_faithful),
    .mandatory Schema.uint64_faithful, nofun⟩

theorem HostSettings.schema_faithful : HostSettings.schema.Faithful := by
  refine RecordType.schema_faithful (.of_sound ?_ (by decide) fun _ => rfl)
  simp only [recordType, List.forall_mem_cons]
  exact ⟨.defaulted (Schema.option_faithful Schema.string_faithful nofun),
    .defaulted PluginOptions.schema_faithful, .defaulted Patch.schema_faithful, nofun⟩

/-! ## Every type -/

/-- Each value is read back from its text. -/
def Schema.RoundTrips {α : Type} (schema : Schema α) : Prop :=
  ∀ value, schema.parse (schema.print value) = .ok value

/-- Values of every type that has a text are read back from it.  The text of a complete
configuration is also that of a patch, which sets every field and turns any configuration into the
one that was written. -/
theorem values_round_trip :
    NewlineKind.schema.RoundTrips ∧ SemicolonUse.schema.RoundTrips ∧
      QuoteStyle.schema.RoundTrips ∧ GlobalConfig.schema.RoundTrips ∧
      PluginConfig.schema.RoundTrips ∧ GlobalPatch.schema.RoundTrips ∧
      PluginPatch.schema.RoundTrips ∧ Patch.schema.RoundTrips ∧ Request.schema.RoundTrips ∧
      OutputStatus.schema.RoundTrips ∧ Output.schema.RoundTrips ∧ Metrics.schema.RoundTrips ∧
      OptimizationLevel.schema.RoundTrips ∧ ContractPolicy.schema.RoundTrips ∧
      PluginOptions.schema.RoundTrips ∧ ModuleInfo.schema.RoundTrips ∧
      HostSettings.schema.RoundTrips ∧
    (∀ config : GlobalConfig,
      GlobalPatch.schema.parse (GlobalConfig.schema.print config) =
        .ok ⟨some config.lineWidth, some config.indentWidth, some config.useTabs,
          some config.newlineKind⟩ ∧
      ∀ patch, GlobalPatch.schema.parse (GlobalConfig.schema.print config) = .ok patch →
        ∀ base, patch.applyTo base = config) ∧
    ∀ config : PluginConfig,
      PluginPatch.schema.parse (PluginConfig.schema.print config) =
        .ok ⟨some config.semicolons, some config.quotes⟩ ∧
      ∀ patch, PluginPatch.schema.parse (PluginConfig.schema.print config) = .ok patch →
        ∀ base, patch.applyTo base = config := by
  refine ⟨NewlineKind.schema_faithful.parse_print, SemicolonUse.schema_faithful.parse_print,
    QuoteStyle.schema_faithful.parse_print, GlobalConfig.schema_faithful.parse_print,
    PluginConfig.schema_faithful.parse_print, GlobalPatch.schema_faithful.parse_print,
    PluginPatch.schema_faithful.parse_print, Patch.schema_faithful.parse_print,
    Request.schema_faithful.parse_print, OutputStatus.schema_faithful.parse_print,
    Output.schema_faithful.parse_print, Metrics.schema_faithful.parse_print,
    OptimizationLevel.schema_faithful.parse_print, ContractPolicy.schema_faithful.parse_print,
    PluginOptions.schema_faithful.parse_print, ModuleInfo.schema_faithful.parse_print,
    HostSettings.schema_faithful.parse_print, fun config => ?_, fun config => ?_⟩
  · have read := GlobalPatch.schema_faithful.parse_print (.ofConfig config)
    rw [GlobalPatch.print_ofConfig] at read
    refine ⟨read, fun patch read' base => ?_⟩
    cases read.symm.trans read'
    exact GlobalPatch.applyTo_ofConfig config base
  · have read := PluginPatch.schema_faithful.parse_print (.ofConfig config)
    rw [PluginPatch.print_ofConfig] at read
    refine ⟨read, fun patch read' base => ?_⟩
    cases read.symm.trans read'
    exact PluginPatch.applyTo_ofConfig config base

end FormatterHost

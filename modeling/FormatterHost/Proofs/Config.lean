import FormatterHost.Config.Push
import FormatterHost.Proofs.Schema
import FormatterHost.Proofs.Utf8

/-!
# Configurations as texts

Complete configurations are read back from their texts, and those texts are short.
-/

namespace FormatterHost

theorem NewlineKind.schema_faithful : NewlineKind.schema.Faithful :=
  Schema.choice_faithful fun kind => by cases kind <;> decide

theorem SemicolonUse.schema_faithful : SemicolonUse.schema.Faithful :=
  Schema.choice_faithful fun use => by cases use <;> decide

theorem QuoteStyle.schema_faithful : QuoteStyle.schema.Faithful :=
  Schema.choice_faithful fun style => by cases style <;> decide

theorem GlobalConfig.recordType_complete : GlobalConfig.recordType.Complete := by
  refine .of_sound ?_ (by decide) fun _ => rfl
  simp only [recordType, List.forall_mem_cons]
  exact ⟨.mandatory Schema.uint32_faithful, .mandatory Schema.uint32_faithful,
    .mandatory Schema.bool_faithful, .mandatory NewlineKind.schema_faithful, nofun⟩

theorem PluginConfig.recordType_complete : PluginConfig.recordType.Complete := by
  refine .of_sound ?_ (by decide) fun _ => rfl
  simp only [recordType, List.forall_mem_cons]
  exact ⟨.mandatory SemicolonUse.schema_faithful, .mandatory QuoteStyle.schema_faithful, nofun⟩

theorem GlobalConfig.schema_faithful : GlobalConfig.schema.Faithful :=
  RecordType.schema_faithful GlobalConfig.recordType_complete

theorem PluginConfig.schema_faithful : PluginConfig.schema.Faithful :=
  RecordType.schema_faithful PluginConfig.recordType_complete

/-- A printed value of few characters has few bytes. -/
theorem Schema.length_encode_print_le {α : Type} {schema : Schema α} {value : α} {bound : Nat}
    (le : (Json.print (schema.write value)).length ≤ bound) :
    (Utf8.encode (schema.print value)).length ≤ 4 * bound := by
  have bytes := Utf8.length_encode_le (schema.print value)
  rw [print, Json.render, String.toList_ofList] at bytes
  exact Nat.le_trans bytes (Nat.mul_le_mul_left 4 le)

namespace GlobalConfig

theorem write_eq (config : GlobalConfig) :
    schema.write config = .object [("lineWidth", .natural config.lineWidth.toNat),
      ("indentWidth", .natural config.indentWidth.toNat), ("useTabs", .bool config.useTabs),
      ("newLineKind", .string config.newlineKind.name)] := rfl

theorem length_encode_print_le (config : GlobalConfig) :
    (Utf8.encode (schema.print config)).length ≤ Transport.maxPayload := by
  have number : ∀ n : UInt32, (Json.print (.natural n.toNat)).length ≤ 10 :=
    fun n => Json.length_print_natural_le 9 (Nat.lt_trans n.toNat_lt (by decide))
  have truth : (Json.print (.bool config.useTabs)).length ≤ 5 := by
    cases config.useTabs <;> decide
  have kind : (Json.print (.string config.newlineKind.name)).length ≤ 8 := by
    cases config.newlineKind <;> decide
  have first := Json.length_printMember_le "lineWidth" _ (number config.lineWidth)
  have second := Json.length_printMember_le "indentWidth" _ (number config.indentWidth)
  have third := Json.length_printMember_le "useTabs" _ truth
  have fourth := Json.length_printMember_le "newLineKind" _ kind
  have names : "lineWidth".toList.length = 9 ∧ "indentWidth".toList.length = 11 ∧
      "useTabs".toList.length = 7 ∧ "newLineKind".toList.length = 11 := by decide
  have short : (Json.print (schema.write config)).length ≤ 300 := by
    rw [write_eq]
    simp only [Json.print, Json.printMembers, List.length_append, List.length_cons,
      List.length_nil]
    omega
  exact Nat.le_trans (Schema.length_encode_print_le short) (by decide)

/-- What keeps a configuration from being sent is a width of zero. -/
theorem zero_of_problem {config : GlobalConfig} {problem : String}
    (known : config.problem? = some problem) : config.lineWidth = 0 ∨ config.indentWidth = 0 := by
  refine Decidable.byContradiction fun positive => ?_
  rw [(problem?_eq_none_iff config).mpr (not_or.mp positive)] at known
  cases known

end GlobalConfig

namespace PluginConfig

theorem write_eq (config : PluginConfig) :
    schema.write config = .object [("semiColons", .string config.semicolons.name),
      ("quoteStyle", .string config.quotes.name)] := rfl

theorem length_encode_print_le (config : PluginConfig) :
    (Utf8.encode (schema.print config)).length ≤ Transport.maxPayload := by
  have use : (Json.print (.string config.semicolons.name)).length ≤ 8 := by
    cases config.semicolons <;> decide
  have style : (Json.print (.string config.quotes.name)).length ≤ 14 := by
    cases config.quotes <;> decide
  have first := Json.length_printMember_le "semiColons" _ use
  have second := Json.length_printMember_le "quoteStyle" _ style
  have names : "semiColons".toList.length = 10 ∧ "quoteStyle".toList.length = 10 := by decide
  have short : (Json.print (schema.write config)).length ≤ 300 := by
    rw [write_eq]
    simp only [Json.print, Json.printMembers, List.length_append, List.length_cons,
      List.length_nil]
    omega
  exact Nat.le_trans (Schema.length_encode_print_le short) (by decide)

end PluginConfig

end FormatterHost

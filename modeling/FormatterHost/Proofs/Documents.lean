import FormatterHost.Proofs.Records
import FormatterHost.Proofs.Variables

/-!
# Settings written and loaded

The text that settings are written as is itself a settings document.  Loading goes another way than
parsing, by an untyped tree whose keys are in lower case, and still it arrives at the settings that
were written.  Members that are taken out of the document leave their settings as they are in the
blank record, at whatever level they were.
-/

namespace FormatterHost

/-! ## Fewer members -/

namespace Json

mutual

/-- A value without the members that are gone; they are told by their paths. -/
def without (gone : List String → Bool) : Json → Json
  | .null => .null
  | .bool value => .bool value
  | .integer value => .integer value
  | .string value => .string value
  | .array items => .array items
  | .object members => .object (membersWithout gone members)

/-- The members that are not gone, and what is left of their values. -/
def membersWithout (gone : List String → Bool) : List (String × Json) → List (String × Json)
  | [] => []
  | (name, value) :: members =>
    if gone [name] then membersWithout gone members
    else
      (name, without (fun path => gone (name :: path)) value) :: membersWithout gone members

end

mutual

/-- Where nothing is gone, everything is left. -/
theorem without_nothing : (value : Json) → without (fun _ => false) value = value
  | .null | .bool _ | .integer _ | .string _ | .array _ => rfl
  | .object members => congrArg Json.object (membersWithout_nothing members)

theorem membersWithout_nothing :
    (members : List (String × Json)) → membersWithout (fun _ => false) members = members
  | [] => rfl
  | (name, value) :: members => by
    rw [membersWithout, if_neg Bool.false_ne_true, without_nothing value,
      membersWithout_nothing members]

end

theorem mem_names_of_membersWithout {gone : List String → Bool} {members : List (String × Json)}
    {member : String × Json} (mem : member ∈ membersWithout gone members) :
    member.1 ∈ members.map Prod.fst := by
  induction members with
  | nil => cases mem
  | cons first members ih =>
      obtain ⟨name, value⟩ := first
      rw [membersWithout] at mem
      rw [List.map_cons, List.mem_cons]
      split at mem
      · exact .inr (ih mem)
      · rcases List.mem_cons.mp mem with rfl | later
        · exact .inl rfl
        · exact .inr (ih later)

/-- The commas and braces of an object are not counted: they change with the number of members. -/
theorem mem_print_object {c : Char} (other : c ≠ ',' ∧ c ≠ '\x7b' ∧ c ≠ '\x7d')
    (members : List (String × Json)) :
    c ∈ print (.object members) ↔ c ∈ printMembers members := by
  obtain ⟨comma, opening, closing⟩ := other
  cases members with
  | nil => simp [print, printMembers, opening, closing]
  | cons member members => simp [print, printMembers, comma, opening]

mutual

/-- What is left of a value has no characters of its own, apart from commas and braces. -/
theorem mem_print_of_without {c : Char} (other : c ≠ ',' ∧ c ≠ '\x7b' ∧ c ≠ '\x7d')
    (gone : List String → Bool) :
    (value : Json) → c ∈ print (value.without gone) → c ∈ print value
  | .null, mem | .bool _, mem | .integer _, mem | .string _, mem | .array _, mem => mem
  | .object members, mem => by
    rw [without, mem_print_object other] at mem
    exact (mem_print_object other members).mpr (mem_printMembers_of_without other gone members mem)

theorem mem_printMembers_of_without {c : Char} (other : c ≠ ',' ∧ c ≠ '\x7b' ∧ c ≠ '\x7d')
    (gone : List String → Bool) :
    (members : List (String × Json)) →
      c ∈ printMembers (membersWithout gone members) → c ∈ printMembers members
  | [], mem => mem
  | (name, value) :: members, mem => by
    have later := mem_printMembers_of_without other gone members
    have here := mem_print_of_without other (fun path => gone (name :: path)) value
    rw [membersWithout] at mem
    split at mem
    · rw [printMembers, List.cons_append]
      exact List.mem_cons_of_mem _ (List.mem_append_right _ (later mem))
    · simp only [printMembers, printMember, List.mem_cons, List.mem_append] at mem ⊢
      exact mem.imp (Or.imp_right (Or.imp_right (Or.imp_right here))) later

end

end Json

/-! ## From documents to trees -/

namespace JsonDocument

/-- A tree has no keys that its document does not have. -/
theorem mem_names_of_entriesOf? {depth : Nat} {members : List (String × Json)}
    {before entries : List (String × Node)}
    (opened : entriesOf? depth before (Json.readingOfMembers members) = some entries)
    {entry : String × Node} (mem : entry ∈ entries) :
    entry.1 ∈ before.map Prod.fst ∨ entry.1 ∈ members.map Prod.fst := by
  induction members generalizing before with
  | nil =>
      cases opened
      exact .inl (List.mem_map_of_mem mem)
  | cons member members ih =>
      obtain ⟨name, value⟩ := member
      rw [Json.readingOfMembers, entriesOf?] at opened
      split at opened
      · rw [List.map_cons, List.mem_cons]
        rcases ih opened with old | later
        · obtain ⟨known, among, same⟩ := List.mem_map.mp old
          rw [← same]
          rcases Entries.mem_update among with old | ⟨_, _, rfl⟩
          · exact .inl (List.mem_map_of_mem old)
          · exact .inr (.inl rfl)
        · exact .inr (.inr later)
      · cases opened

/-- The text of a value is a document of its tree. -/
theorem node?_render {value : Json} (exact : value.Exact) :
    node? value.render = nodeOf? depthLimit (Json.reading value) := by
  rw [node?, Json.render, String.toList_ofList, Json.ofChars_print _ exact]
  rfl

end JsonDocument

namespace Overlay

/-- A tree laid over nothing. -/
def opened (node : Node) : Node :=
  lay node (.table [])

/-- An entry laid over nothing. -/
def openedEntry (entry : String × Node) : String × Node :=
  (Text.lower entry.1, opened entry.2)

theorem opened_nil : opened .nil = .nil := by
  rw [opened, lay]
  intro entries same
  cases same

theorem opened_scalar (scalar : Scalar) (origin : Origin) :
    opened (.scalar scalar origin) = .scalar scalar origin := by
  rw [opened, lay]
  intro entries same
  cases same

/-- Entries whose keys stay apart in lower case are added one by one. -/
theorem layEntries_of_distinct {entries before : List (String × Node)}
    (distinct : (entries.map fun entry => Text.lower entry.1).Nodup)
    (new : ∀ entry ∈ entries, ∀ old ∈ before, old.1 ≠ Text.lower entry.1) :
    layEntries entries (.table before) = .table (before ++ entries.map openedEntry) := by
  induction entries generalizing before with
  | nil => rw [layEntries, List.map_nil, List.append_nil]
  | cons first entries ih =>
      obtain ⟨key, node⟩ := first
      obtain ⟨unlike, distinct⟩ := List.nodup_cons.mp distinct
      obtain ⟨here, later⟩ := List.forall_mem_cons.mp new
      rw [layEntries, entriesOf, Entries.update_of_ne here, ih distinct, List.append_assoc]
      · rfl
      · intro entry mem old among
        rcases List.mem_append.mp among with old' | added
        · exact later entry mem old old'
        · rw [List.mem_singleton.mp added]
          exact fun same => unlike (List.mem_map.mpr ⟨entry, mem, same.symm⟩)

theorem opened_table {entries : List (String × Node)}
    (distinct : (entries.map fun entry => Text.lower entry.1).Nodup) :
    opened (.table entries) = .table (entries.map openedEntry) := by
  have new : ∀ entry ∈ entries, ∀ old ∈ ([] : List (String × Node)),
      old.1 ≠ Text.lower entry.1 := fun _ _ => nofun
  rw [opened, lay, layEntries_of_distinct distinct new, List.nil_append]

/-- Where every key is a mere name, setting the parts of a tree is laying entries over it. -/
theorem setAll_eq_layEntries {entries : List (String × Node)}
    (names : ∀ entry ∈ entries, KeyPath.ofKey entry.1 = (Text.lower entry.1, []))
    (root : Node) (before : List (String × Node)) (table : root = .table before) :
    setAll entries root = layEntries entries root := by
  induction entries generalizing root before with
  | nil => rw [setAll, List.foldl_nil, layEntries]
  | cons first entries ih =>
      obtain ⟨key, node⟩ := first
      obtain ⟨here, later⟩ := List.forall_mem_cons.mp names
      have one : set key node root =
          .table (Entries.update (Text.lower key) (.table []) (lay node) (entriesOf root)) := by
        rw [set, here]
        rfl
      have rest := ih later _ _ one
      rw [setAll] at rest ⊢
      rw [List.foldl_cons, rest, one, layEntries]

end Overlay

/-! ## Single values -/

namespace Schema

variable {α : Type} {schema : Schema α}

/-- A JSON value with less than `levels + 1` levels of nesting is taken for a value when it stands
in a settings document. -/
structure Loads (schema : Schema α) (levels : Nat) (json : Json) (value : α) : Prop where
  exact : json.Exact
  taken : ∀ depth, levels < depth → ∃ node,
    JsonDocument.nodeOf? depth (Json.reading json) = some node ∧
      schema.convert (Overlay.opened node) = .ok value

/-- Whatever is taken out of a written value, what is left of it is taken for what `trim` says. -/
def Trims (schema : Schema α) (levels : Nat) (trim : (List String → Bool) → α → α) : Prop :=
  ∀ gone value, schema.Loads levels ((schema.write value).without gone) (trim gone value)

theorem Trims.mono {levels levels' : Nat} {trim : (List String → Bool) → α → α}
    (trims : schema.Trims levels trim) (le : levels ≤ levels') : schema.Trims levels' trim :=
  fun gone value => ⟨(trims gone value).exact, fun depth deep =>
    (trims gone value).taken depth (Nat.lt_of_le_of_lt le deep)⟩

theorem bool_trims : bool.Trims 0 fun _ value => value := fun _ value =>
  ⟨trivial, fun _ _ => ⟨_, rfl, by rw [Overlay.opened_scalar]; rfl⟩⟩

theorem string_trims : string.Trims 0 fun _ value => value := fun _ value =>
  ⟨trivial, fun _ _ => ⟨_, rfl, by rw [Overlay.opened_scalar]; rfl⟩⟩

theorem uint32_trims : uint32.Trims 0 fun _ value => value := fun _ value => by
  have small : value.toNat < Width.count 32 := value.toNat_lt
  have wide : Width.count 32 < Width.count 63 := by decide
  have number : JsonDocument.scalarOfNumber (.integer value.toNat) = .integer value.toNat := by
    rw [JsonDocument.scalarOfNumber, if_pos (by omega)]
  refine ⟨uint32_faithful.exact value, fun depth _ =>
    ⟨.scalar (.integer value.toNat) .document, ?_, ?_⟩⟩
  · simp only [uint32, natural, Json.natural, Json.without, Json.reading, JsonDocument.nodeOf?,
      number]
  · rw [Overlay.opened_scalar]
    simp only [uint32, natural, convertNatural]
    rw [if_pos (Int.natCast_nonneg _)]
    simp only [Int.toNat_natCast]
    rw [if_pos small, UInt32.ofNat_toNat]

theorem choice_trims {title : String} {alternatives : List α} {name : α → String}
    (found : ∀ value, (choice title alternatives name).convert
      (.scalar (.string (name value)) .document) = .ok value) :
    (choice title alternatives name).Trims 0 fun _ value => value := fun _ value =>
  ⟨trivial, fun _ _ => ⟨_, rfl, by rw [Overlay.opened_scalar]; exact found value⟩⟩

/-- Values that may be absent are taken from what they are written as, if nothing is not taken for
one that is there. -/
theorem option_trims {levels : Nat} (trims : schema.Trims levels fun _ value => value)
    (present : ∀ value, schema.convert .nil ≠ .ok value) :
    schema.option.Trims levels fun _ value => value := by
  rintro gone (_ | value)
  · exact ⟨trivial, fun _ _ => ⟨.nil, rfl, by rw [Overlay.opened_nil]; rfl⟩⟩
  · refine ⟨(trims gone value).exact, fun depth deep => ?_⟩
    obtain ⟨node, read, converted⟩ := (trims gone value).taken depth deep
    refine ⟨node, read, ?_⟩
    cases here : Overlay.opened node with
    | nil =>
        rw [here] at converted
        exact absurd converted (present value)
    | _ =>
        rw [here] at converted
        simp only [option, converted, Except.map]

end Schema

/-! ## Records -/

namespace RecordType

variable {ρ : Type} {type : RecordType ρ}

/-- The fields of a record type are found by their names in lower case too. -/
structure Loadable (type : RecordType ρ) : Prop where
  independent : type.Independent
  found : ∀ field ∈ type.fields, type.field? (Text.lower field.name) = some field
  distinct : (type.fields.map fun field => Text.lower field.name).Nodup
  set_get : ∀ field ∈ type.fields, ∀ record, field.set (field.get record) record = record

/-- A field, and what is left of its values when members are taken out of them. -/
structure Trimming (type : RecordType ρ) (levels : Nat) where
  field : Field ρ
  mem : field ∈ type.fields
  trim : (List String → Bool) → field.Value → field.Value
  trims : field.schema.Trims levels trim
  omitted : ∀ gone value, field.omits value = true → trim gone value = field.get type.blank

namespace Trimming

variable {levels : Nat}

/-- The field of a name. -/
def named (name : String) {field : Field ρ} (found : type.field? name = some field)
    {trim : (List String → Bool) → field.Value → field.Value}
    (trims : field.schema.Trims levels trim)
    (omitted : ∀ gone value, field.omits value = true → trim gone value = field.get type.blank) :
    Trimming type levels :=
  ⟨field, mem_of_field? found, trim, trims, omitted⟩

/-- What is left of the field of a record. -/
def rest (gone : List String → Bool) (record : ρ) (trimming : Trimming type levels) :
    trimming.field.Value :=
  if gone [trimming.field.name] then trimming.field.get type.blank
  else trimming.trim (fun path => gone (trimming.field.name :: path)) (trimming.field.get record)

/-- The record begun, with what is left of a field. -/
def carry (gone : List String → Bool) (record start : ρ) (trimming : Trimming type levels) : ρ :=
  trimming.field.set (trimming.rest gone record) start

/-- The members that fields are written as, apart from those that are gone. -/
def written (gone : List String → Bool) (record : ρ) (trimmings : List (Trimming type levels)) :
    List (String × Json) :=
  Json.membersWithout gone ((trimmings.map (·.field)).filterMap (·.write? record))

variable (gone : List String → Bool) (record : ρ)

/-- A field that is gone, or that is not written in the first place, leaves no member. -/
theorem written_of_skipped {trimming : Trimming type levels}
    (skipped : gone [trimming.field.name] = true ∨
      trimming.field.omits (trimming.field.get record) = true)
    (trimmings : List (Trimming type levels)) :
    written gone record (trimming :: trimmings) = written gone record trimmings := by
  rw [written, List.map_cons]
  cases omitted : trimming.field.omits (trimming.field.get record) with
  | true =>
      rw [Field.filterMap_write?_of_omits omitted]
      rfl
  | false =>
      rw [Field.filterMap_write?_of_not_omits omitted, Json.membersWithout,
        if_pos (skipped.resolve_right (by rw [omitted]; exact Bool.false_ne_true))]
      rfl

theorem written_of_kept {trimming : Trimming type levels}
    (kept : gone [trimming.field.name] = false)
    (present : trimming.field.omits (trimming.field.get record) = false)
    (trimmings : List (Trimming type levels)) :
    written gone record (trimming :: trimmings) =
      (trimming.field.name, (trimming.field.schema.write (trimming.field.get record)).without
        fun path => gone (trimming.field.name :: path)) :: written gone record trimmings := by
  rw [written, List.map_cons, Field.filterMap_write?_of_not_omits present, Json.membersWithout,
    if_neg (by rw [kept]; exact Bool.false_ne_true)]
  rfl

/-- What is not written is as it is in the blank record. -/
theorem rest_of_skipped {trimming : Trimming type levels}
    (skipped : gone [trimming.field.name] = true ∨
      trimming.field.omits (trimming.field.get record) = true) :
    trimming.rest gone record = trimming.field.get type.blank := by
  rw [rest]
  split
  · rfl
  · rename_i kept
    exact trimming.omitted _ _ (skipped.resolve_left kept)

theorem exactMembers_written (trimmings : List (Trimming type levels)) :
    Json.ExactMembers (written gone record trimmings) := by
  induction trimmings with
  | nil => trivial
  | cons trimming trimmings ih =>
      by_cases skipped : gone [trimming.field.name] = true ∨
          trimming.field.omits (trimming.field.get record) = true
      · rw [written_of_skipped gone record skipped]
        exact ih
      · obtain ⟨kept, present⟩ := not_or.mp skipped
        rw [Bool.not_eq_true] at kept present
        rw [written_of_kept gone record kept present]
        exact ⟨(trimming.trims _ _).exact, ih⟩

end Trimming

/-- The members that fields are written as make up entries, and these are taken into the fields. -/
theorem Loadable.exists_entries (loadable : type.Loadable) {levels depth : Nat}
    (deep : levels < depth) (gone : List String → Bool) (record : ρ)
    {trimmings : List (Trimming type levels)}
    (distinct : (trimmings.map (·.field.name)).Nodup) {start : ρ}
    (untouched : ∀ trimming ∈ trimmings,
      trimming.field.get start = trimming.field.get type.blank)
    {before : List (String × Node)}
    (new : ∀ trimming ∈ trimmings, ∀ entry ∈ before, entry.1 ≠ trimming.field.name)
    {seen : List String}
    (unseen : ∀ trimming ∈ trimmings, seen.contains trimming.field.name = false) :
    ∃ entries seen', (entries.map Prod.fst).Sublist (trimmings.map (·.field.name)) ∧
      JsonDocument.entriesOf? depth before
          (Json.readingOfMembers (Trimming.written gone record trimmings)) =
        some (before ++ entries) ∧
      type.convertEntries seen start (entries.map Overlay.openedEntry) =
        .ok (trimmings.foldl (Trimming.carry gone record) start, seen') := by
  induction trimmings generalizing start before seen with
  | nil => exact ⟨[], seen, .slnil, by rw [List.append_nil]; rfl, rfl⟩
  | cons trimming trimmings ih =>
      obtain ⟨unlike, distinct⟩ := List.nodup_cons.mp distinct
      obtain ⟨blank, untouched⟩ := List.forall_mem_cons.mp untouched
      obtain ⟨new', newLater⟩ := List.forall_mem_cons.mp new
      obtain ⟨unseen', unseenLater⟩ := List.forall_mem_cons.mp unseen
      rw [List.foldl_cons]
      by_cases skipped : gone [trimming.field.name] = true ∨
          trimming.field.omits (trimming.field.get record) = true
      · -- No member: the field keeps the value that it begins with.
        have same : trimming.carry gone record start = start := by
          rw [Trimming.carry, Trimming.rest_of_skipped gone record skipped, ← blank]
          exact loadable.set_get _ trimming.mem start
        obtain ⟨entries, seen', sub, read, converted⟩ :=
          ih distinct untouched newLater unseenLater
        rw [Trimming.written_of_skipped gone record skipped, same]
        exact ⟨entries, seen', sub.cons _, read, converted⟩
      · -- One member: its value is taken, and nothing behind it has to do with the field.
        obtain ⟨kept, present⟩ := not_or.mp skipped
        rw [Bool.not_eq_true] at kept present
        obtain ⟨node, readValue, convertedValue⟩ := (trimming.trims
          (fun path => gone (trimming.field.name :: path))
          (trimming.field.get record)).taken depth deep
        have value : trimming.rest gone record = trimming.trim
            (fun path => gone (trimming.field.name :: path)) (trimming.field.get record) :=
          if_neg (by rw [kept]; exact Bool.false_ne_true)
        have apart : ∀ other ∈ trimmings, other.field.name ≠ trimming.field.name :=
          fun other mem same => unlike (List.mem_map.mpr ⟨other, mem, same⟩)
        have untouched' : ∀ other ∈ trimmings,
            other.field.get (trimming.carry gone record start) =
              other.field.get type.blank := by
          intro other mem
          rw [← untouched other mem]
          exact loadable.independent.get_set_other _ other.mem _ trimming.mem (apart other mem) _ _
        have new'' : ∀ other ∈ trimmings,
            ∀ entry ∈ before ++ [(trimming.field.name, node)], entry.1 ≠ other.field.name := by
          intro other mem entry among
          rcases List.mem_append.mp among with old | added
          · exact newLater other mem entry old
          · rw [List.mem_singleton.mp added]
            exact (apart other mem).symm
        have unseen'' : ∀ other ∈ trimmings,
            (trimming.field.name :: seen).contains other.field.name = false := by
          intro other mem
          rw [List.contains_cons, unseenLater other mem, Bool.or_false]
          exact beq_false_of_ne (apart other mem)
        obtain ⟨entries, seen', sub, read, converted⟩ := ih distinct untouched' new'' unseen''
        rw [Trimming.written_of_kept gone record kept present]
        refine ⟨(trimming.field.name, node) :: entries, seen', sub.cons_cons _, ?_, ?_⟩
        · rw [Json.readingOfMembers, JsonDocument.entriesOf?, readValue]
          simp only
          rw [Entries.put, Entries.update_of_ne new', read, List.append_assoc,
            List.singleton_append]
        · rw [List.map_cons, Overlay.openedEntry,
            convertEntries_cons_of_ok (loadable.found _ trimming.mem) unseen' convertedValue,
            ← value]
          exact converted

/-- What is left of a written record is taken for the record with what is left of its fields. -/
theorem Loadable.schema_trims (loadable : type.Loadable) {levels : Nat}
    (trimmings : List (Trimming type levels)) (fields : trimmings.map (·.field) = type.fields) :
    type.schema.Trims (levels + 1) fun gone record =>
      trimmings.foldl (Trimming.carry gone record) type.blank := by
  intro gone record
  have written : (type.schema.write record).without gone =
      .object (Trimming.written gone record trimmings) := by
    rw [Trimming.written, fields]
    rfl
  rw [written]
  refine ⟨Trimming.exactMembers_written gone record trimmings, fun depth deep => ?_⟩
  obtain ⟨depth, rfl⟩ : ∃ n, depth = n + 2 := ⟨depth - 2, by omega⟩
  have names : trimmings.map (·.field.name) = type.fields.map (·.name) := by
    rw [← fields, List.map_map]
    rfl
  have lowered : (trimmings.map (·.field.name)).map Text.lower =
      type.fields.map fun field => Text.lower field.name := by
    rw [names, List.map_map]
    rfl
  have nothing : ∀ trimming ∈ trimmings, ∀ entry ∈ ([] : List (String × Node)),
      entry.1 ≠ trimming.field.name := fun _ _ => nofun
  have noneSeen : ∀ trimming ∈ trimmings,
      ([] : List String).contains trimming.field.name = false := fun _ _ => rfl
  obtain ⟨entries, seen, sub, read, converted⟩ := loadable.exists_entries
    (show levels < depth + 1 by omega) gone record (names ▸ loadable.independent.distinct)
    (fun _ _ => rfl) nothing noneSeen
  have apart : (entries.map fun entry => Text.lower entry.1).Nodup := by
    have sub' := sub.map Text.lower
    rw [lowered, List.map_map] at sub'
    exact loadable.distinct.sublist sub'
  refine ⟨.table entries, ?_, ?_⟩
  · rw [Json.reading, JsonDocument.nodeOf?, read]
    · rfl
    · omega
  · rw [Overlay.opened_table apart]
    exact loadable.independent.convert_table converted

end RecordType

/-! ## Settings -/

theorem OptimizationLevel.schema_trims : OptimizationLevel.schema.Trims 0 fun _ value => value :=
  Schema.choice_trims fun level => by cases level <;> rfl

theorem ContractPolicy.schema_trims : ContractPolicy.schema.Trims 0 fun _ value => value :=
  Schema.choice_trims fun policy => by cases policy <;> rfl

theorem NewlineKind.schema_trims : NewlineKind.schema.Trims 0 fun _ value => value :=
  Schema.choice_trims fun kind => by cases kind <;> rfl

theorem SemicolonUse.schema_trims : SemicolonUse.schema.Trims 0 fun _ value => value :=
  Schema.choice_trims fun use => by cases use <;> rfl

theorem QuoteStyle.schema_trims : QuoteStyle.schema.Trims 0 fun _ value => value :=
  Schema.choice_trims fun style => by cases style <;> rfl

/-- The options without those that are gone. -/
def PluginOptions.without (gone : List String → Bool) (options : PluginOptions) :
    PluginOptions where
  optimization := if gone ["optimization_level"] then .speed else options.optimization
  debugInfo := if gone ["debug_info"] then false else options.debugInfo
  parallelCompilation :=
    if gone ["parallel_compilation"] then true else options.parallelCompilation
  maxMemoryPages := if gone ["max_memory_pages"] then 4096 else options.maxMemoryPages
  trapUnknownImports := if gone ["trap_unknown_imports"] then true else options.trapUnknownImports
  contractPolicy := if gone ["contract_policy"] then .terminate else options.contractPolicy

/-- The patch without the settings that are gone. -/
def GlobalPatch.without (gone : List String → Bool) (patch : GlobalPatch) : GlobalPatch where
  lineWidth := if gone ["lineWidth"] then none else patch.lineWidth
  indentWidth := if gone ["indentWidth"] then none else patch.indentWidth
  useTabs := if gone ["useTabs"] then none else patch.useTabs
  newlineKind := if gone ["newLineKind"] then none else patch.newlineKind

/-- The patch without the settings that are gone. -/
def PluginPatch.without (gone : List String → Bool) (patch : PluginPatch) : PluginPatch where
  semicolons := if gone ["semiColons"] then none else patch.semicolons
  quotes := if gone ["quoteStyle"] then none else patch.quotes

/-- The patches without what is gone. -/
def Patch.without (gone : List String → Bool) (patch : Patch) : Patch where
  global := if gone ["global"] then {} else patch.global.without fun path => gone ("global" :: path)
  plugin := if gone ["plugin"] then {} else patch.plugin.without fun path => gone ("plugin" :: path)

/-- The settings without those that are gone: they are as they are by default. -/
def HostSettings.without (gone : List String → Bool) (s : HostSettings) : HostSettings where
  pluginPath := if gone ["plugin_path"] then none else s.pluginPath
  options :=
    if gone ["runtime"] then {} else s.options.without fun path => gone ("runtime" :: path)
  defaults :=
    if gone ["defaults"] then {} else s.defaults.without fun path => gone ("defaults" :: path)

theorem PluginOptions.recordType_loadable : PluginOptions.recordType.Loadable where
  independent := recordType_independent
  found := by
    simp only [recordType, List.forall_mem_cons]
    exact ⟨rfl, rfl, rfl, rfl, rfl, rfl, List.forall_mem_nil _⟩
  distinct := by decide
  set_get := by simp [recordType, Field.defaulted]

theorem GlobalPatch.recordType_loadable : GlobalPatch.recordType.Loadable where
  independent := recordType_independent
  found := by
    simp only [recordType, List.forall_mem_cons]
    exact ⟨rfl, rfl, rfl, rfl, List.forall_mem_nil _⟩
  distinct := by decide
  set_get := by simp [recordType, Field.omissible]

theorem PluginPatch.recordType_loadable : PluginPatch.recordType.Loadable where
  independent := recordType_independent
  found := by
    simp only [recordType, List.forall_mem_cons]
    exact ⟨rfl, rfl, List.forall_mem_nil _⟩
  distinct := by decide
  set_get := by simp [recordType, Field.omissible]

theorem Patch.recordType_loadable : Patch.recordType.Loadable where
  independent := recordType_independent
  found := by
    simp only [recordType, List.forall_mem_cons]
    exact ⟨rfl, rfl, List.forall_mem_nil _⟩
  distinct := by decide
  set_get := by simp [recordType, Field.defaulted]

theorem HostSettings.recordType_loadable : HostSettings.recordType.Loadable where
  independent := recordType_independent
  found := by
    simp only [recordType, List.forall_mem_cons]
    exact ⟨rfl, rfl, rfl, List.forall_mem_nil _⟩
  distinct := by decide
  set_get := by simp [recordType, Field.defaulted]

theorem PluginOptions.schema_trims : PluginOptions.schema.Trims 1 without :=
  recordType_loadable.schema_trims
    [.named "optimization_level" rfl OptimizationLevel.schema_trims nofun,
      .named "debug_info" rfl Schema.bool_trims nofun,
      .named "parallel_compilation" rfl Schema.bool_trims nofun,
      .named "max_memory_pages" rfl Schema.uint32_trims nofun,
      .named "trap_unknown_imports" rfl Schema.bool_trims nofun,
      .named "contract_policy" rfl ContractPolicy.schema_trims nofun] rfl

theorem GlobalPatch.schema_trims : GlobalPatch.schema.Trims 1 without :=
  recordType_loadable.schema_trims
    [.named "lineWidth" rfl (Schema.option_trims Schema.uint32_trims nofun)
        fun _ _ => Option.isNone_iff_eq_none.mp,
      .named "indentWidth" rfl (Schema.option_trims Schema.uint32_trims nofun)
        fun _ _ => Option.isNone_iff_eq_none.mp,
      .named "useTabs" rfl (Schema.option_trims Schema.bool_trims nofun)
        fun _ _ => Option.isNone_iff_eq_none.mp,
      .named "newLineKind" rfl (Schema.option_trims NewlineKind.schema_trims nofun)
        fun _ _ => Option.isNone_iff_eq_none.mp] rfl

theorem PluginPatch.schema_trims : PluginPatch.schema.Trims 1 without :=
  recordType_loadable.schema_trims
    [.named "semiColons" rfl (Schema.option_trims SemicolonUse.schema_trims nofun)
        fun _ _ => Option.isNone_iff_eq_none.mp,
      .named "quoteStyle" rfl (Schema.option_trims QuoteStyle.schema_trims nofun)
        fun _ _ => Option.isNone_iff_eq_none.mp] rfl

theorem Patch.schema_trims : Patch.schema.Trims 2 without :=
  recordType_loadable.schema_trims
    [.named "global" rfl GlobalPatch.schema_trims nofun,
      .named "plugin" rfl PluginPatch.schema_trims nofun] rfl

theorem HostSettings.schema_trims : HostSettings.schema.Trims 3 without :=
  recordType_loadable.schema_trims
    [.named "plugin_path" rfl
        ((Schema.option_trims Schema.string_trims nofun).mono (Nat.zero_le 2)) nofun,
      .named "runtime" rfl (PluginOptions.schema_trims.mono (Nat.le_succ 1)) nofun,
      .named "defaults" rfl Patch.schema_trims nofun] rfl

namespace Environment

/-- No name of a variable starts as those do that hold settings, whatever the case of its letters.
-/
def Silent (environment : Environment) : Prop :=
  ∀ binding ∈ environment,
    ¬ (Text.lower "DPRINT_BRIDGE__").toList <+: (Text.lower binding.1).toList

instance (environment : Environment) : Decidable environment.Silent :=
  inferInstanceAs (Decidable (∀ binding ∈ environment,
    ¬ (Text.lower "DPRINT_BRIDGE__").toList <+: (Text.lower binding.1).toList))

theorem settingKey?_of_not_prefix {name : String}
    (other : ¬ (Text.lower "DPRINT_BRIDGE__").toList <+: (Text.lower name).toList) :
    settingKey? name = none := by
  have lead : (Text.lower "DPRINT_BRIDGE__").toList =
      (Text.lower namePrefix).toList ++ separator := by decide
  rw [lead, ← List.isPrefixOf_iff_prefix] at other
  rw [settingKey?]
  exact if_neg other

theorem settings_of_silent {environment : Environment} (silent : environment.Silent) :
    settings environment = [] := by
  have nothing : environment.filter holdsSetting = [] := by
    rw [List.filter_eq_nil_iff]
    intro binding mem
    rw [holdsSetting, settingKey?_of_not_prefix (silent binding mem)]
    exact Bool.false_ne_true
  rw [← settings_filter, nothing]
  rfl

end Environment

namespace HostSettings

/-- The names of the members of settings are mere names. -/
theorem ofKey_of_mem {s : HostSettings} {gone : List String → Bool} {name : String}
    (mem : name ∈ (Json.membersWithout gone
      (recordType.fields.filterMap (·.write? s))).map Prod.fst) :
    KeyPath.ofKey name = (Text.lower name, []) := by
  have plain : ∀ key ∈ ["plugin_path", "runtime", "defaults"],
      KeyPath.ofKey key = (Text.lower key, []) := by decide +kernel
  have names : (recordType.fields.filterMap (·.write? s)).map Prod.fst =
      ["plugin_path", "runtime", "defaults"] := rfl
  obtain ⟨member, left, rfl⟩ := List.mem_map.mp mem
  exact plain _ (names ▸ Json.mem_names_of_membersWithout left)

/-- What is left of a document of settings is a table, and its tree is laid over nothing. -/
theorem documentTree?_without {s : HostSettings} {gone : List String → Bool} {node : Node}
    (exact : ((schema.write s).without gone).Exact)
    (read : JsonDocument.nodeOf? JsonDocument.depthLimit
      (Json.reading ((schema.write s).without gone)) = some node) :
    documentTree? .json ((schema.write s).without gone).render = some (Overlay.opened node) := by
  have document := JsonDocument.node?_render exact
  rw [read] at document
  obtain ⟨entries, opened, rfl⟩ : ∃ entries, JsonDocument.entriesOf? 127 []
      (Json.readingOfMembers (Json.membersWithout gone
        (recordType.fields.filterMap (·.write? s)))) = some entries ∧ node = .table entries := by
    obtain ⟨entries, opened, same⟩ := Option.map_eq_some_iff.mp read
    exact ⟨entries, opened, same.symm⟩
  have names : ∀ entry ∈ entries, KeyPath.ofKey entry.1 = (Text.lower entry.1, []) := by
    intro entry mem
    rcases JsonDocument.mem_names_of_entriesOf? opened mem with impossible | name
    · cases impossible
    · exact ofKey_of_mem name
  have laid := Overlay.setAll_eq_layEntries names (.table []) [] rfl
  rw [documentTree?, DocumentNotation.node?, document, Overlay.opened, Overlay.lay]
  exact congrArg some laid

/-- Settings are loaded from the text that they are written as: all of them from the whole text, and
from a text that lacks members, at any level, those that are left. -/
theorem ofText_written (s : HostSettings) {environment : Environment}
    (silent : environment.Silent) (plain : '$' ∉ (schema.print s).toList) :
    ofText environment .json (schema.print s) = .ok s ∧
      ∀ gone : List String → Bool,
        ofText environment .json ((schema.write s).without gone).render = .ok (s.without gone) := by
  have loads : ∀ gone : List String → Bool,
      ofText environment .json ((schema.write s).without gone).render = .ok (s.without gone) := by
    intro gone
    have loads := schema_trims gone s
    obtain ⟨node, read, converted⟩ := loads.taken JsonDocument.depthLimit (by decide)
    have plain' : '$' ∉ (((schema.write s).without gone).render).toList := by
      rw [Json.render, String.toList_ofList]
      rw [Schema.print, Json.render, String.toList_ofList] at plain
      exact fun mem => plain (Json.mem_print_of_without (by decide) gone _ mem)
    rw [ofText_of_not_mem plain', documentTree?_without loads.exact read,
      Environment.settings_of_silent silent]
    simp only [Overlay.setAll, List.foldl_nil, converted, Except.mapError]
  refine ⟨?_, loads⟩
  have all := loads fun _ => false
  rw [Json.without_nothing] at all
  exact all

/-- A path with quotation marks and characters of several alphabets.  Once the options and the first
of the patches are taken out of the text, their defaults are loaded. -/
theorem ofText_written_odd_path :
    ofText [("HOME", "/root"), ("DPRINT_BRIDGE_", "x")] .json
      "\x7b\"plugin_path\":\"/a \\\"b\\\"/ü\\n語\",\"defaults\":\x7b\"plugin\":\x7b\x7d\x7d\x7d" =
      .ok { pluginPath := some "/a \"b\"/ü\n語" } := by
  have silent : Environment.Silent [("HOME", "/root"), ("DPRINT_BRIDGE_", "x")] := by
    decide +kernel
  let written : HostSettings :=
    { pluginPath := some "/a \"b\"/ü\n語", options := { debugInfo := true },
      defaults := { global := { lineWidth := some 80 } } }
  have plain : '$' ∉ (schema.print written).toList := by
    rw [Schema.print, Json.render, String.toList_ofList]
    decide +kernel
  exact (ofText_written written silent plain).2
    fun path => path = ["runtime"] ∨ path = ["defaults", "global"]

end HostSettings

end FormatterHost

import FormatterHost.Proofs.JsonText
import FormatterHost.Record.Fields

/-!
# Faithful schemas

A schema is faithful if every value is read back from the text it is printed as.  The schemas of
single values are, and a record type hands faithfulness on from its fields, provided that their
names tell them apart and that together they make up the record.
-/

namespace FormatterHost

/-! ## Single values -/

namespace Schema

variable {α : Type} {schema : Schema α}

/-- Values are read back from what they are written as. -/
structure Faithful (schema : Schema α) : Prop where
  exact : ∀ value, (schema.write value).Exact
  read_write : ∀ value, schema.read (Json.reading (schema.write value)) = .ok value

/-- Parsing undoes printing. -/
theorem Faithful.parse_print (faithful : schema.Faithful) (value : α) :
    schema.parse (schema.print value) = .ok value := by
  rw [parse, Json.readAs, print, Json.render, String.toList_ofList,
    Json.ofChars_print _ (faithful.exact value)]
  simp only [faithful.read_write value]
  rfl

theorem bool_faithful : bool.Faithful where
  exact _ := trivial
  read_write _ := rfl

/-- Natural numbers are read back if they have at most 64 bits. -/
theorem natural_faithful {bits : Nat} {ofNat : Nat → α} {toNat : α → Nat}
    (narrow : Width.count bits ≤ Json.maxSignificand + 1)
    (lt : ∀ value, toNat value < Width.count bits)
    (ofNat_toNat : ∀ value, ofNat (toNat value) = value) :
    (natural bits ofNat toNat).Faithful where
  exact value := by
    have := lt value
    constructor
    · exact Int.le_trans (Int.neg_nonpos_of_nonneg (Int.natCast_nonneg _)) (Int.natCast_nonneg _)
    · exact Int.ofNat_le.mpr (by omega)
  read_write value := by
    have inside : (0 : Int) ≤ toNat value ∧ (toNat value : Int) < Width.count bits :=
      ⟨Int.natCast_nonneg _, Int.ofNat_lt.mpr (lt value)⟩
    simp only [natural, Json.natural, Json.reading, if_pos inside, Int.toNat_natCast, ofNat_toNat]

theorem uint32_faithful : uint32.Faithful :=
  natural_faithful (by decide) UInt32.toNat_lt fun _ => UInt32.ofNat_toNat

theorem uint64_faithful : uint64.Faithful :=
  natural_faithful (Nat.le_refl _) UInt64.toNat_lt fun _ => UInt64.ofNat_toNat

theorem string_faithful : string.Faithful where
  exact _ := trivial
  read_write _ := rfl

/-- Values that may be absent are read back if those that are there are not written as null. -/
theorem option_faithful (faithful : schema.Faithful)
    (present : ∀ value, schema.write value ≠ .null) : schema.option.Faithful where
  exact value := by
    cases value with
    | none => trivial
    | some value => exact faithful.exact value
  read_write value := by
    cases value with
    | none => rfl
    | some value =>
        have read := faithful.read_write value
        have here := present value
        simp only [option]
        cases written : schema.write value with
        | null => exact absurd written here
        | _ =>
            rw [written] at read
            simp only [Json.reading] at read ⊢
            rw [read]
            rfl

theorem exactItems_write (faithful : schema.Faithful) (values : List α) :
    Json.ExactItems (values.map schema.write) := by
  induction values with
  | nil => trivial
  | cons value values ih => exact ⟨faithful.exact value, ih⟩

theorem readItems_write (faithful : schema.Faithful) (values : List α) :
    schema.readItems (Json.readingOfItems (values.map schema.write)) = .ok values := by
  induction values with
  | nil => rfl
  | cons value values ih =>
      rw [List.map_cons, Json.readingOfItems, readItems, faithful.read_write, ih]
      rfl

theorem list_faithful (faithful : schema.Faithful) : schema.list.Faithful where
  exact values := exactItems_write faithful values
  read_write values := readItems_write faithful values

/-- Choices are read back if their names tell all alternatives apart. -/
theorem choice_faithful {title : String} {alternatives : List α} {name : α → String}
    (found : ∀ value, alternatives.find? (fun other => name other == name value) = some value) :
    (choice title alternatives name).Faithful where
  exact _ := trivial
  read_write value := by
    simp only [choice, Json.reading, found]

end Schema

/-! ## Records -/

namespace Field

variable {ρ : Type}

/-- What reading a written record makes of the field in a record begun. -/
def carry (record start : ρ) (field : Field ρ) : ρ :=
  if field.omits (field.get record) then start else field.set (field.get record) start

/-- A field whose values are read back, and that is written wherever it must be there. -/
structure Sound (field : Field ρ) : Prop where
  faithful : field.schema.Faithful
  written : field.required = true → ∀ value, field.omits value = false

namespace Sound

variable {α : Type} {schema : Schema α} {name : String}

theorem mandatory {get : ρ → α} {set : α → ρ → ρ} (faithful : schema.Faithful) :
    (Field.mandatory name schema get set).Sound :=
  ⟨faithful, fun _ _ => rfl⟩

theorem defaulted {get : ρ → α} {set : α → ρ → ρ} (faithful : schema.Faithful) :
    (Field.defaulted name schema get set).Sound :=
  ⟨faithful, nofun⟩

theorem omissible {aliases : List String} {get : ρ → Option α} {set : Option α → ρ → ρ}
    (faithful : schema.Faithful) (present : ∀ value, schema.write value ≠ .null) :
    (Field.omissible name aliases schema get set).Sound :=
  ⟨Schema.option_faithful faithful present, nofun⟩

end Sound

theorem answersTo_name (field : Field ρ) : field.answersTo field.name = true := by
  rw [answersTo, beq_self_eq_true, Bool.true_or]

theorem name_ne_of_not_answersTo {field other : Field ρ}
    (apart : field.answersTo other.name = false) : field.name ≠ other.name := by
  intro same
  rw [← same, answersTo_name] at apart
  cases apart

/-- If no field answers to the name of a later one, each is found by its name. -/
theorem find?_answersTo {fields : List (Field ρ)}
    (apart : fields.Pairwise fun earlier later => earlier.answersTo later.name = false)
    {field : Field ρ} (mem : field ∈ fields) :
    fields.find? (·.answersTo field.name) = some field := by
  induction fields with
  | nil => cases mem
  | cons first fields ih =>
      obtain ⟨unlike, apart⟩ := List.pairwise_cons.mp apart
      rcases List.mem_cons.mp mem with rfl | later
      · exact List.find?_cons_of_pos field.answersTo_name
      · rw [List.find?_cons_of_neg (by rw [unlike field later]; exact Bool.false_ne_true)]
        exact ih apart later

theorem filterMap_write?_of_omits {field : Field ρ} {record : ρ}
    (omitted : field.omits (field.get record) = true) (fields : List (Field ρ)) :
    (field :: fields).filterMap (·.write? record) = fields.filterMap (·.write? record) :=
  List.filterMap_cons_none (f := fun field => write? field record) (if_pos omitted)

theorem filterMap_write?_of_not_omits {field : Field ρ} {record : ρ}
    (written : field.omits (field.get record) = false) (fields : List (Field ρ)) :
    (field :: fields).filterMap (·.write? record) =
      (field.name, field.schema.write (field.get record)) ::
        fields.filterMap (·.write? record) :=
  List.filterMap_cons_some (f := fun field => write? field record)
    (if_neg (Bool.eq_false_iff.mp written))

theorem read_written {field : Field ρ} (faithful : field.schema.Faithful) (record start : ρ) :
    field.read (Json.reading (field.schema.write (field.get record))) start =
      .ok (field.set (field.get record) start) := by
  rw [read, faithful.read_write]
  rfl

end Field

namespace RecordType

variable {ρ : Type} {type : RecordType ρ}

/-- The fields of a record type describe its records completely and without ambiguity. -/
structure Complete (type : RecordType ρ) : Prop where
  found : ∀ field ∈ type.fields, type.field? field.name = some field
  distinct : (type.fields.map (·.name)).Nodup
  faithful : ∀ field ∈ type.fields, field.schema.Faithful
  written : ∀ field ∈ type.fields, field.required = true → ∀ value, field.omits value = false
  carried : ∀ record, type.fields.foldl (Field.carry record) type.blank = record

/-- It is enough that the fields are sound, that none of them takes the name of a later one for its
own, and that together they make up the record. -/
theorem Complete.of_sound (sound : ∀ field ∈ type.fields, field.Sound)
    (apart : type.fields.Pairwise fun earlier later => earlier.answersTo later.name = false)
    (carried : ∀ record, type.fields.foldl (Field.carry record) type.blank = record) :
    type.Complete where
  found _ mem := Field.find?_answersTo apart mem
  distinct := List.pairwise_map.mpr (apart.imp Field.name_ne_of_not_answersTo)
  faithful field mem := (sound field mem).faithful
  written field mem := (sound field mem).written
  carried := carried

theorem exactMembers_written (record : ρ) (fields : List (Field ρ))
    (faithful : ∀ field ∈ fields, field.schema.Faithful) :
    Json.ExactMembers (fields.filterMap (·.write? record)) := by
  induction fields with
  | nil => trivial
  | cons field fields ih =>
      have rest := ih fun other mem => faithful other (List.mem_cons_of_mem _ mem)
      cases omitted : field.omits (field.get record) with
      | true =>
          rw [Field.filterMap_write?_of_omits omitted]
          exact rest
      | false =>
          rw [Field.filterMap_write?_of_not_omits omitted]
          exact ⟨(faithful field List.mem_cons_self).exact _, rest⟩

/-- A member that is not a repetition is read into its field. -/
theorem readMembers_member {field : Field ρ} {value : Json.Reading} {seen : List String}
    {start next : ρ} (found : type.field? field.name = some field) (fresh : field.name ∉ seen)
    (read : field.read value start = .ok next) (rest : Json.Members) :
    type.readMembers seen start (.member (.ok field.name) value rest) =
      type.readMembers (field.name :: seen) next rest := by
  have new : seen.contains field.name = false := by
    rw [Bool.eq_false_iff, ne_eq, List.contains_iff_mem]
    exact fresh
  rw [readMembers, found]
  simp only [new, read]
  rfl

/-- Reading the members that some fields of a record are written as carries these fields over, and
all that are written have been seen then. -/
theorem readMembers_written (record : ρ) (fields : List (Field ρ))
    (found : ∀ field ∈ fields, type.field? field.name = some field)
    (faithful : ∀ field ∈ fields, field.schema.Faithful)
    (distinct : (fields.map (·.name)).Nodup) (start : ρ) (seen : List String)
    (fresh : ∀ field ∈ fields, field.name ∉ seen) :
    ∃ seen', type.readMembers seen start
        (Json.readingOfMembers (fields.filterMap (·.write? record))) =
        .ok (fields.foldl (Field.carry record) start, seen') ∧
      (∀ name ∈ seen, name ∈ seen') ∧
      ∀ field ∈ fields, field.omits (field.get record) = false → field.name ∈ seen' := by
  induction fields generalizing start seen with
  | nil => exact ⟨seen, rfl, fun _ mem => mem, fun _ impossible => by cases impossible⟩
  | cons field fields ih =>
      obtain ⟨unlike, distinct⟩ := List.nodup_cons.mp distinct
      have found' := fun other mem => found other (List.mem_cons_of_mem field mem)
      have faithful' := fun other mem => faithful other (List.mem_cons_of_mem field mem)
      have fresh' := fun other mem => fresh other (List.mem_cons_of_mem field mem)
      rw [List.foldl_cons, Field.carry]
      cases omitted : field.omits (field.get record) with
      | true =>
          obtain ⟨seen', read, kept, all⟩ := ih found' faithful' distinct start seen fresh'
          rw [Field.filterMap_write?_of_omits omitted, if_pos rfl]
          refine ⟨seen', read, kept, ?_⟩
          rintro other (_ | ⟨_, mem⟩) written
          · rw [omitted] at written
            cases written
          · exact all other mem written
      | false =>
          have fresh'' : ∀ other ∈ fields, other.name ∉ field.name :: seen := by
            intro other mem among
            rcases List.mem_cons.mp among with same | among
            · exact unlike (List.mem_map.mpr ⟨other, mem, same⟩)
            · exact fresh' other mem among
          obtain ⟨seen', read, kept, all⟩ := ih found' faithful' distinct
            (field.set (field.get record) start) (field.name :: seen) fresh''
          rw [Field.filterMap_write?_of_not_omits omitted, Json.readingOfMembers,
            readMembers_member (found field List.mem_cons_self) (fresh field List.mem_cons_self)
              (Field.read_written (faithful field List.mem_cons_self) record start)]
          refine ⟨seen', read, fun name mem => kept name (List.mem_cons_of_mem _ mem), ?_⟩
          rintro other (_ | ⟨_, mem⟩) written
          · exact kept _ List.mem_cons_self
          · exact all other mem written

/-- The schema of a complete record type is faithful. -/
theorem schema_faithful (complete : type.Complete) : type.schema.Faithful where
  exact record := exactMembers_written record type.fields complete.faithful
  read_write record := by
    obtain ⟨seen, read, -, all⟩ := readMembers_written record type.fields complete.found
      complete.faithful complete.distinct type.blank [] fun _ _ => List.not_mem_nil
    rw [complete.carried] at read
    have present : type.missing? seen = none := by
      rw [missing?, List.find?_eq_none]
      intro field mem demanded
      simp only [Bool.and_eq_true, Bool.not_eq_true', ← Bool.not_eq_true,
        List.contains_iff_mem] at demanded
      exact demanded.2 (all field mem (complete.written field mem demanded.1 _))
    simp only [schema, RecordType.read, RecordType.write, Json.reading, read, present]
    rfl

end RecordType

end FormatterHost

import Mathlib.Data.List.Nodup
import FormatterHost.Record.Fields
import FormatterHost.Settings.Overlay

/-!
# Laying a value over a tree

A path leads through the tables of a tree, key by key.  When a value is laid over a tree at the end
of a path, the record that the tree stands for changes in the field that the path leads to, and in
no other.  This takes a tree that is open to the path: a sequence in the way would be lost, and a
field that is there under another of its names would be given twice.
-/

namespace FormatterHost

/-! ## Entries -/

namespace Entries

variable {α : Type} {entries : List (String × α)} {key : String} {missing : α} {change : α → α}

theorem mem_update {entry : String × α} (mem : entry ∈ update key missing change entries) :
    entry ∈ entries ∨
      ∃ value, (value = missing ∨ (key, value) ∈ entries) ∧ entry = (key, change value) := by
  induction entries with
  | nil =>
      rw [update, List.mem_singleton] at mem
      exact .inr ⟨missing, .inl rfl, mem⟩
  | cons first entries ih =>
      obtain ⟨other, value⟩ := first
      rw [update] at mem
      split at mem
      · rename_i same
        subst same
        rcases List.mem_cons.mp mem with rfl | old
        · exact .inr ⟨value, .inr List.mem_cons_self, rfl⟩
        · exact .inl (List.mem_cons_of_mem _ old)
      · rcases List.mem_cons.mp mem with rfl | later
        · exact .inl List.mem_cons_self
        · rcases ih later with old | ⟨found, origin, rfl⟩
          · exact .inl (List.mem_cons_of_mem _ old)
          · exact .inr ⟨found, origin.imp_right (List.mem_cons_of_mem _), rfl⟩

/-- An entry that is replaced as a whole may be missing in any way. -/
theorem update_const (key : String) (missing value : α) (entries : List (String × α)) :
    update key missing (fun _ => value) entries = put key value entries := by
  induction entries with
  | nil => rfl
  | cons first entries ih =>
      rw [put] at ih ⊢
      rw [update, update, ih]

/-- The entry of a new key is added behind the others. -/
theorem update_of_ne (new : ∀ entry ∈ entries, entry.1 ≠ key) :
    update key missing change entries = entries ++ [(key, change missing)] := by
  induction entries with
  | nil => rfl
  | cons first entries ih =>
      obtain ⟨here, later⟩ := List.forall_mem_cons.mp new
      rw [update, if_neg here, ih later, List.cons_append]

end Entries

/-! ## Paths -/

/-- A key of a table, with the other keys that mean the same there. -/
structure Spelling where
  key : String
  others : List String
deriving DecidableEq

/-- A way through tables. -/
abbrev TreePath := List Spelling

namespace TreePath

/-- The keys of a path, as steps. -/
def steps (path : TreePath) : List KeyStep :=
  path.map fun spelling => .name spelling.key

/-- A tree is open to a path: tables or nothing at all on the way, and no key spelled otherwise. -/
def Admitted : TreePath → Node → Prop
  | [], _ => True
  | spelling :: path, node =>
    (∀ items, node ≠ .sequence items) ∧
      ∀ entry ∈ Overlay.entriesOf node,
        entry.1 ∉ spelling.others ∧ (entry.1 = spelling.key → Admitted path entry.2)

instance decidableNoSequence : (node : Node) → Decidable (∀ items, node ≠ .sequence items)
  | .nil | .scalar _ _ | .table _ => .isTrue nofun
  | .sequence items => .isFalse fun none => none items rfl

instance decidableAdmitted : (path : TreePath) → (node : Node) → Decidable (path.Admitted node)
  | [], _ => .isTrue trivial
  | spelling :: path, node =>
    have : ∀ node, Decidable (Admitted path node) := decidableAdmitted path
    inferInstanceAs (Decidable ((∀ items, node ≠ .sequence items) ∧
      ∀ entry ∈ Overlay.entriesOf node,
        entry.1 ∉ spelling.others ∧ (entry.1 = spelling.key → Admitted path entry.2)))

/-- What is laid over a tree along the first path does not get in the way of the second. -/
def apart : TreePath → TreePath → Bool
  | first :: path, second :: other =>
    !second.others.contains first.key && (first.key != second.key || apart path other)
  | _, _ => false

/-- Paths that part have different keys. -/
theorem steps_ne_of_apart {path other : TreePath} (parts : path.apart other = true) :
    path.steps ≠ other.steps := by
  induction path generalizing other with
  | nil => cases parts
  | cons first path ih =>
      cases other with
      | nil => cases parts
      | cons second other =>
          rw [apart, Bool.and_eq_true, Bool.or_eq_true, bne_iff_ne] at parts
          intro same
          simp only [steps, List.map_cons, List.cons.injEq, KeyStep.name.injEq] at same
          exact ih (parts.2.resolve_left (not_not_intro same.1)) same.2

theorem admitted_nil (path : TreePath) : path.Admitted .nil := by
  cases path with
  | nil => trivial
  | cons spelling path => exact ⟨nofun, nofun⟩

end TreePath

namespace Overlay

variable {scalar : Scalar} {origin : Origin}

/-- A single value is laid over a tree by a change to one entry. -/
theorem setSteps_cons (spelling : Spelling) (path : TreePath) (node : Node) :
    setSteps (.scalar scalar origin) (TreePath.steps (spelling :: path)) node =
      .table (Entries.update spelling.key .nil (setSteps (.scalar scalar origin) path.steps)
        (entriesOf node)) := by
  cases path with
  | nil =>
      have replaces : setSteps (.scalar scalar origin) (TreePath.steps []) =
          fun _ => .scalar scalar origin := by
        funext lower
        rw [TreePath.steps, List.map_nil, setSteps]
      have lays : lay (.scalar scalar origin) = fun _ => .scalar scalar origin := by
        funext lower
        rw [lay]
        exact nofun
      rw [replaces]
      simp only [TreePath.steps, List.map_cons, List.map_nil, setSteps, setKey, lays]
      rw [Entries.update_const, Entries.update_const]
  | cons next path => rfl

/-- A tree that is open to a path stays so when a value is laid over it elsewhere. -/
theorem admitted_setSteps {path other : TreePath} {node : Node}
    (apart : TreePath.apart path other = true) (admitted : other.Admitted node) :
    other.Admitted (setSteps (.scalar scalar origin) path.steps node) := by
  induction path generalizing other node with
  | nil => cases apart
  | cons first path ih =>
      cases other with
      | nil => cases apart
      | cons second other =>
          rw [TreePath.apart, Bool.and_eq_true, Bool.or_eq_true, bne_iff_ne] at apart
          obtain ⟨unlike, parting⟩ := apart
          obtain ⟨-, entries⟩ := admitted
          rw [setSteps_cons]
          refine ⟨nofun, fun entry mem => ?_⟩
          rcases Entries.mem_update mem with old | ⟨lower, found, rfl⟩
          · exact entries entry old
          · refine ⟨by simpa using unlike, fun same => ?_⟩
            apply ih (parting.resolve_left (not_not_intro same))
            rcases found with rfl | found
            · exact TreePath.admitted_nil other
            · exact (entries _ found).2 same

end Overlay

/-! ## Records whose fields are set one by one -/

namespace RecordType

variable {ρ : Type} {type : RecordType ρ}

/-- The fields of a record type have nothing to do with each other: each can be left out, what is
set is what is there, and the other fields stay as they are. -/
structure Independent (type : RecordType ρ) : Prop where
  optional : ∀ field ∈ type.fields, field.required = false
  distinct : (type.fields.map (·.name)).Nodup
  get_set : ∀ field ∈ type.fields, ∀ value record, field.get (field.set value record) = value
  set_set : ∀ field ∈ type.fields, ∀ value other record,
    field.set value (field.set other record) = field.set value record
  get_set_other : ∀ field ∈ type.fields, ∀ other ∈ type.fields, field.name ≠ other.name →
    ∀ value record, field.get (other.set value record) = field.get record
  set_comm : ∀ field ∈ type.fields, ∀ other ∈ type.fields, field.name ≠ other.name →
    ∀ value value' record,
      field.set value (other.set value' record) = other.set value' (field.set value record)

theorem mem_of_field? {key : String} {field : Field ρ} (named : type.field? key = some field) :
    field ∈ type.fields :=
  List.mem_of_find?_eq_some named

theorem answersTo_of_field? {key : String} {field : Field ρ}
    (named : type.field? key = some field) : field.answersTo key = true := by
  have answers := List.find?_some named
  exact answers

theorem Independent.name_ne (independent : type.Independent) {field other : Field ρ}
    (mem : field ∈ type.fields) (mem' : other ∈ type.fields) (different : field ≠ other) :
    field.name ≠ other.name :=
  fun same => different (List.inj_on_of_nodup_map independent.distinct mem mem' same)

/-- A field that is known under a key is not among the fields of other names. -/
theorem Independent.name_ne_of_field? (independent : type.Independent) {field other : Field ρ}
    {key : String} (mem : field ∈ type.fields) (named : type.field? key = some other)
    (unnamed : field.answersTo key = false) : field.name ≠ other.name := by
  apply independent.name_ne mem (mem_of_field? named)
  rintro rfl
  rw [answersTo_of_field? named] at unnamed
  cases unnamed

/-- An entry under the name of a field is taken once, and converted. -/
theorem convertEntries_cons_eq_ok {key : String} {node : Node} {entries : List (String × Node)}
    {field : Field ρ} {seen seen' : List String} {record result : ρ}
    (named : type.field? key = some field)
    (converted : type.convertEntries seen record ((key, node) :: entries) = .ok (result, seen')) :
    seen.contains field.name = false ∧ ∃ value, field.schema.convert node = .ok value ∧
      type.convertEntries (field.name :: seen) (field.set value record) entries =
        .ok (result, seen') := by
  rw [convertEntries, named] at converted
  dsimp only at converted
  split at converted
  · cases converted
  · rename_i unseen
    rw [Field.convert] at converted
    cases taken : field.schema.convert node with
    | error mismatch =>
        rw [taken] at converted
        cases converted
    | ok value =>
        rw [taken] at converted
        exact ⟨Bool.eq_false_iff.mpr unseen, value, rfl, converted⟩

theorem convertEntries_cons_of_ok {key : String} {node : Node} {entries : List (String × Node)}
    {field : Field ρ} {seen : List String} {record : ρ} {value : field.Value}
    (named : type.field? key = some field) (unseen : seen.contains field.name = false)
    (converted : field.schema.convert node = .ok value) :
    type.convertEntries seen record ((key, node) :: entries) =
      type.convertEntries (field.name :: seen) (field.set value record) entries := by
  rw [convertEntries, named]
  simp only [unseen, Bool.false_eq_true, if_false, Field.convert, converted, Except.map]

theorem convertEntries_cons_of_none {key : String} {node : Node} {entries : List (String × Node)}
    {seen : List String} {record : ρ} (unknown : type.field? key = none) :
    type.convertEntries seen record ((key, node) :: entries) =
      type.convertEntries seen record entries := by
  rw [convertEntries, unknown]

/-- Once a field has been seen, no further entry can give it. -/
theorem field?_ne_of_seen {field : Field ρ} {entries : List (String × Node)}
    {seen seen' : List String} {record result : ρ} (saw : seen.contains field.name = true)
    (converted : type.convertEntries seen record entries = .ok (result, seen')) :
    ∀ entry ∈ entries, type.field? entry.1 ≠ some field := by
  induction entries generalizing seen record with
  | nil => exact nofun
  | cons first entries ih =>
      obtain ⟨key, node⟩ := first
      rw [List.forall_mem_cons]
      cases named : type.field? key with
      | none =>
          rw [convertEntries_cons_of_none named] at converted
          exact ⟨nofun, ih saw converted⟩
      | some other =>
          obtain ⟨unseen, value, -, rest⟩ := convertEntries_cons_eq_ok named converted
          constructor
          · intro same
            cases same
            rw [saw] at unseen
            cases unseen
          · exact ih (by rw [List.contains_cons, saw, Bool.or_true]) rest

/-- If a field has been seen and none but its own key can name it, no entry does. -/
theorem answersTo_eq_false_of_seen {field : Field ρ} {key : String}
    (named : type.field? key = some field) {entries : List (String × Node)}
    (only : ∀ entry ∈ entries, entry.1 ≠ key → field.answersTo entry.1 = false)
    {seen seen' : List String} {record result : ρ} (saw : seen.contains field.name = true)
    (converted : type.convertEntries seen record entries = .ok (result, seen')) :
    ∀ entry ∈ entries, field.answersTo entry.1 = false := by
  intro entry mem
  apply only entry mem
  intro same
  apply field?_ne_of_seen saw converted entry mem
  rw [same, named]

section Independent

variable (independent : type.Independent) {field : Field ρ} (mem : field ∈ type.fields)
include independent mem

/-- Entries that do not name a field leave it as it is, and do not depend on it. -/
theorem convertEntries_set {entries : List (String × Node)}
    (unnamed : ∀ entry ∈ entries, field.answersTo entry.1 = false)
    {seen seen' other : List String} {record result : ρ}
    (converted : type.convertEntries seen record entries = .ok (result, seen'))
    (alike : ∀ name, field.name ≠ name → other.contains name = seen.contains name)
    (value : field.Value) :
    field.get result = field.get record ∧ ∃ other',
      type.convertEntries other (field.set value record) entries =
        .ok (field.set value result, other') := by
  induction entries generalizing seen other record with
  | nil =>
      cases converted
      exact ⟨rfl, other, rfl⟩
  | cons first entries ih =>
      obtain ⟨key, node⟩ := first
      obtain ⟨here, later⟩ := List.forall_mem_cons.mp unnamed
      cases named : type.field? key with
      | none =>
          rw [convertEntries_cons_of_none named] at converted ⊢
          exact ih later converted alike
      | some neighbour =>
          have unlike := independent.name_ne_of_field? mem named here
          have mem' := mem_of_field? named
          obtain ⟨unseen, value', taken, rest⟩ := convertEntries_cons_eq_ok named converted
          rw [← alike _ unlike] at unseen
          have alike' : ∀ name, field.name ≠ name →
              (neighbour.name :: other).contains name = (neighbour.name :: seen).contains name := by
            intro name different
            rw [List.contains_cons, List.contains_cons, alike name different]
          obtain ⟨kept, other', goesOn⟩ := ih later rest alike'
          rw [convertEntries_cons_of_ok named unseen taken,
            ← independent.set_comm _ mem _ mem' unlike, goesOn, kept,
            independent.get_set_other _ mem _ mem' unlike]
          exact ⟨rfl, other', rfl⟩

/-- A change to the entry of a field changes that field of the record. -/
theorem convertEntries_update {key : String} (named : type.field? key = some field)
    {entries : List (String × Node)}
    (only : ∀ entry ∈ entries, entry.1 ≠ key → field.answersTo entry.1 = false)
    {missing : Node} {change : Node → Node} {modify : field.Value → field.Value}
    (changed : ∀ entry ∈ entries, entry.1 = key → ∀ value,
      field.schema.convert entry.2 = .ok value →
        field.schema.convert (change entry.2) = .ok (modify value))
    {seen seen' : List String} {record result : ρ}
    (fresh : field.schema.convert (change missing) = .ok (modify (field.get record)))
    (unseen : seen.contains field.name = false)
    (converted : type.convertEntries seen record entries = .ok (result, seen')) :
    ∃ other, type.convertEntries seen record (Entries.update key missing change entries) =
      .ok (field.set (modify (field.get result)) result, other) := by
  induction entries generalizing seen record with
  | nil =>
      cases converted
      rw [Entries.update, convertEntries_cons_of_ok named unseen fresh]
      exact ⟨_, rfl⟩
  | cons first entries ih =>
      obtain ⟨other, node⟩ := first
      obtain ⟨here, later⟩ := List.forall_mem_cons.mp only
      obtain ⟨changed', changedLater⟩ := List.forall_mem_cons.mp changed
      rw [Entries.update]
      split
      · -- The entry of the field: no other entry behind it can name the field.
        rename_i same
        subst same
        obtain ⟨-, value, taken, rest⟩ := convertEntries_cons_eq_ok named converted
        have saw : (field.name :: seen).contains field.name = true := by simp
        have unnamed := answersTo_eq_false_of_seen named later saw rest
        obtain ⟨kept, other, goesOn⟩ :=
          convertEntries_set independent mem unnamed rest (fun _ _ => rfl) (modify value)
        rw [independent.get_set _ mem] at kept
        rw [independent.set_set _ mem] at goesOn
        rw [convertEntries_cons_of_ok named unseen (changed' rfl value taken), goesOn, kept]
        exact ⟨other, rfl⟩
      · -- Another entry, which leaves the field alone.
        rename_i different
        cases named' : type.field? other with
        | none =>
            rw [convertEntries_cons_of_none named'] at converted ⊢
            exact ih later changedLater fresh unseen converted
        | some neighbour =>
            have unlike := independent.name_ne_of_field? mem named' (here different)
            obtain ⟨unseen', value, taken, rest⟩ := convertEntries_cons_eq_ok named' converted
            rw [convertEntries_cons_of_ok named' unseen' taken]
            apply ih later changedLater ?_ ?_ rest
            · rw [independent.get_set_other _ mem _ (mem_of_field? named') unlike]
              exact fresh
            · rw [List.contains_cons, unseen, Bool.or_false]
              exact beq_false_of_ne unlike

end Independent

/-- Nothing is missing where every field can be left out. -/
theorem Independent.missing?_eq_none (independent : type.Independent) (seen : List String) :
    type.missing? seen = none := by
  apply List.find?_eq_none.mpr
  intro field mem
  rw [independent.optional field mem, Bool.false_and]
  exact Bool.false_ne_true

theorem Independent.convert_table (independent : type.Independent)
    {entries : List (String × Node)} {seen : List String} {record : ρ}
    (converted : type.convertEntries [] type.blank entries = .ok (record, seen)) :
    type.convert (.table entries) = .ok record := by
  rw [convert, converted]
  simp only [independent.missing?_eq_none]

/-- A record that is taken from something else than a sequence is taken from a table. -/
theorem exists_entries_of_convert {node : Node} {record : ρ}
    (noItems : ∀ items, node ≠ .sequence items) (converted : type.convert node = .ok record) :
    ∃ entries seen, node = .table entries ∧
      type.convertEntries [] type.blank entries = .ok (record, seen) := by
  unfold convert at converted
  split at converted
  · rename_i entries
    split at converted
    · cases converted
    · rename_i result seen taken
      split at converted
      · cases converted
      · cases converted
        exact ⟨entries, seen, rfl, taken⟩
  · exact absurd rfl (noItems _)
  · cases converted

end RecordType

/-! ## Values laid over trees -/

/-- A field under one of its names. -/
def Field.spelled {ρ : Type} (field : Field ρ) (key : String) : Spelling :=
  ⟨key, (field.name :: field.aliases).filter (· != key)⟩

/-- Laying a tree over another one at the end of a path changes the values that trees stand for; a
tree that is not there counts as `blank`. -/
structure Overlays {α : Type} (schema : Schema α) (blank : α) (path : TreePath) (upper : Node)
    (modify : α → α) : Prop where
  changed : ∀ {node value}, path.Admitted node → schema.convert node = .ok value →
    schema.convert (Overlay.setSteps upper path.steps node) = .ok (modify value)
  fresh : schema.convert (Overlay.setSteps upper path.steps .nil) = .ok (modify blank)

namespace Overlays

/-- At the end of its path a tree replaces what was there. -/
theorem value {α : Type} {schema : Schema α} {blank value : α} {upper : Node}
    (converted : schema.convert upper = .ok value) :
    Overlays schema blank [] upper fun _ => value where
  changed _ _ := by
    rw [TreePath.steps, List.map_nil, Overlay.setSteps]
    exact converted
  fresh := by
    rw [TreePath.steps, List.map_nil, Overlay.setSteps]
    exact converted

/-- What changes a field changes the record. -/
theorem inside {ρ : Type} {type : RecordType ρ} (independent : type.Independent) {key : String}
    {field : Field ρ} (named : type.field? key = some field) {path : TreePath} {scalar : Scalar}
    {origin : Origin} {modify : field.Value → field.Value}
    (overlays : Overlays field.schema (field.get type.blank) path (.scalar scalar origin) modify) :
    Overlays type.schema type.blank (field.spelled key :: path) (.scalar scalar origin)
      fun record => field.set (modify (field.get record)) record := by
  have mem := RecordType.mem_of_field? named
  have changed : ∀ {node record}, TreePath.Admitted (field.spelled key :: path) node →
      type.convert node = .ok record →
      type.convert (Overlay.setSteps (.scalar scalar origin)
        (TreePath.steps (field.spelled key :: path)) node) =
          .ok (field.set (modify (field.get record)) record) := by
    intro node record admitted converted
    obtain ⟨noItems, spelled⟩ := admitted
    obtain ⟨entries, seen, rfl, taken⟩ := RecordType.exists_entries_of_convert noItems converted
    have only : ∀ entry ∈ entries, entry.1 ≠ key → field.answersTo entry.1 = false := by
      intro entry mem' different
      have unlike := (spelled entry mem').1
      simp only [Field.spelled, List.mem_filter, bne_iff_ne, not_and, not_not] at unlike
      apply Bool.eq_false_iff.mpr
      intro answers
      apply different
      apply unlike
      simpa [Field.answersTo] using answers
    have inner : ∀ entry ∈ entries, entry.1 = key → ∀ value,
        field.schema.convert entry.2 = .ok value →
          field.schema.convert (Overlay.setSteps (.scalar scalar origin) path.steps entry.2) =
            .ok (modify value) := by
      intro entry mem' same value
      exact overlays.changed ((spelled entry mem').2 same)
    obtain ⟨seen', goesOn⟩ := RecordType.convertEntries_update independent mem named only
      inner overlays.fresh rfl taken
    rw [Overlay.setSteps_cons]
    exact independent.convert_table goesOn
  constructor
  · exact changed
  · have empty : type.convert (.table []) = .ok type.blank := independent.convert_table rfl
    have nothing : TreePath.Admitted (field.spelled key :: path) (.table []) := ⟨nofun, nofun⟩
    have laid := changed nothing empty
    rw [Overlay.setSteps_cons] at laid ⊢
    exact laid

end Overlays

end FormatterHost

import Mathlib.Logic.Relation
import FormatterHost.Proofs.JsonSource
import FormatterHost.Proofs.Records
import FormatterHost.Proofs.Variables

/-!
# What the members of an object mean

A record that may be given in parts is read from an object by what the members mean.  A member whose
key is a spelling of a field gives the value of that field, null gives what the blank record has,
and all other members are passed over.  The order of the members, the spelling of the keys and the
blanks of the text do not matter; but no field may be given twice.
-/

namespace FormatterHost

open Json (Fault Laid NumberText Piece Reading Source membersReading skipBlanks textOf)

/-! ## Texts and what is read of them -/

namespace Json

variable {α : Type} {reader : Reading → Except Fault α} {text : String}

/-- The blanks of a text do not matter. -/
theorem readAs_laid {source : Source} (laid : Laid source.tokens text.toList) :
    readAs reader text = reader source.reading := by
  obtain ⟨rest, read, blank⟩ := ofChars_laid laid
  rw [readAs, read]
  simp only [Option.map_some, blank]
  cases reader source.reading <;> rfl

/-- A text that is accepted is the layout of a source. -/
theorem exists_source_of_readAs {value : α} (accepted : readAs reader text = .ok value) :
    ∃ source : Source, Laid source.tokens text.toList := by
  rw [readAs] at accepted
  split at accepted
  rename_i reading rest read
  split at accepted
  · cases accepted
  · split at accepted
    · rename_i blank
      obtain ⟨behind, rfl, ends⟩ := Option.map_eq_some_iff.mp blank
      obtain ⟨source, -, laid⟩ := ofChars_eq_iff.mp ⟨behind, read, ends⟩
      exact ⟨source, laid⟩
    · cases accepted

/-- Only an object begins with a brace. -/
theorem exists_members_of_brace {source : Source} {cs behind : List Char}
    (laid : Laid source.tokens cs) (begins : skipBlanks cs = '\x7b' :: behind) :
    ∃ members, source = .object members := by
  obtain ⟨c, token, tokens, head, visible, -⟩ := source.tokens_head
  rw [head] at laid
  obtain ⟨rest, begins', -, -⟩ := laid.cons visible
  obtain ⟨rfl, -⟩ := List.cons.inj (begins.symm.trans begins')
  cases source with
  | object members => exact ⟨members, rfl⟩
  | number number =>
      obtain ⟨d, _, written, -, -, other⟩ := number.chars_head
      rw [Source.tokens, written] at head
      exact absurd (List.cons.inj (List.cons.inj head).1).1 other
  | bool value => cases value <;> cases head
  | array items => cases items <;> cases head
  | null => cases head
  | string pieces => cases head

end Json

/-! ## The meaning of members -/

/-- A member of an object as it is written. -/
abbrev WrittenMember := List Piece × Source

namespace RecordType

variable {ρ : Type} {type : RecordType ρ}

/-- The field that a member gives, if its key is a spelling of one. -/
def given? (type : RecordType ρ) (member : WrittenMember) : Option (Field ρ) :=
  match textOf member.1 with
  | .ok name => type.field? name
  | .error _ => none

/-- Two members that do not give the same field. -/
def Apart (type : RecordType ρ) (member other : WrittenMember) : Prop :=
  ∀ field, type.given? member = some field → type.given? other ≠ some field

/-- What the members of an object make of a record, whatever their order. -/
structure Means (type : RecordType ρ) (start : ρ) (members : List WrittenMember) (record : ρ) :
    Prop where
  spelled : ∀ member ∈ members, ∃ name, textOf member.1 = .ok name
  once : members.Pairwise type.Apart
  given : ∀ member ∈ members, ∀ field, type.given? member = some field →
    field.schema.read member.2.reading = .ok (field.get record)
  kept : ∀ field ∈ type.fields, (∀ member ∈ members, type.given? member ≠ some field) →
    field.get record = field.get start

theorem Apart.symm {member other : WrittenMember} (apart : type.Apart member other) :
    type.Apart other member :=
  fun field gives gives' => apart field gives' gives

theorem given?_of_textOf {member : WrittenMember} {name : String}
    (text : textOf member.1 = .ok name) : type.given? member = type.field? name := by
  rw [given?, text]

theorem mem_of_given? {member : WrittenMember} {field : Field ρ}
    (gives : type.given? member = some field) : field ∈ type.fields := by
  rw [given?] at gives
  split at gives
  · exact mem_of_field? gives
  · cases gives

/-- Records with the same fields are the same. -/
theorem Complete.ext (complete : type.Complete) {record other : ρ}
    (same : ∀ field ∈ type.fields, field.get record = field.get other) : record = other := by
  rw [← complete.carried record, ← complete.carried other]
  refine List.foldl_ext _ _ _ fun start field mem => ?_
  rw [Field.carry, Field.carry, same field mem]

/-- Members are read into a record; `seen` are the names of the fields read so far. -/
def Reads (type : RecordType ρ) (seen : List String) (start : ρ) (members : List WrittenMember)
    (record : ρ) : Prop :=
  ∃ seen', type.readMembers seen start (membersReading members) = .ok (record, seen')

/-- No member gives a field that has been seen. -/
def Unseen (type : RecordType ρ) (seen : List String) (members : List WrittenMember) : Prop :=
  ∀ member ∈ members, ∀ field, type.given? member = some field → field.name ∉ seen

section Cons

variable {member : WrittenMember} {members : List WrittenMember} {seen : List String}
  {start record : ρ}

/-! A member that gives no field does not matter, as long as its key is a text. -/

theorem reads_cons_of_none (none : type.given? member = none) :
    type.Reads seen start (member :: members) record ↔
      (∃ name, textOf member.1 = .ok name) ∧ type.Reads seen start members record := by
  obtain ⟨key, value⟩ := member
  cases text : textOf key with
  | error defect => simp [Reads, membersReading, text, readMembers]
  | ok name =>
      have unknown : type.field? name = .none := (given?_of_textOf text).symm.trans none
      simp [Reads, membersReading, text, readMembers, unknown, value.skip_reading]

theorem unseen_cons_of_none (none : type.given? member = none) :
    type.Unseen seen (member :: members) ↔ type.Unseen seen members := by
  simp [Unseen, none]

theorem means_cons_of_none (none : type.given? member = none) :
    type.Means start (member :: members) record ↔
      (∃ name, textOf member.1 = .ok name) ∧ type.Means start members record := by
  have noField (field : Field ρ) : type.given? member ≠ some field := by
    rw [none]
    exact (Option.some_ne_none field).symm
  constructor
  · rintro ⟨spelled, once, given, kept⟩
    obtain ⟨text, spelled⟩ := List.forall_mem_cons.mp spelled
    refine ⟨text, spelled, (List.pairwise_cons.mp once).2, (List.forall_mem_cons.mp given).2, ?_⟩
    intro field mem unnamed
    exact kept field mem (List.forall_mem_cons.mpr ⟨noField field, unnamed⟩)
  · rintro ⟨text, spelled, once, given, kept⟩
    refine ⟨List.forall_mem_cons.mpr ⟨text, spelled⟩, List.pairwise_cons.mpr ⟨?_, once⟩,
      List.forall_mem_cons.mpr ⟨?_, given⟩, ?_⟩
    · intro other _ field gives
      exact absurd gives (noField field)
    · intro field gives
      exact absurd gives (noField field)
    · intro field mem unnamed
      exact kept field mem (List.forall_mem_cons.mp unnamed).2

/-! A member that gives a field sets it, if it has not been seen, and no other member does. -/

theorem reads_cons_of_given {field : Field ρ} (gives : type.given? member = some field) :
    type.Reads seen start (member :: members) record ↔
      (∃ name, textOf member.1 = .ok name) ∧ field.name ∉ seen ∧
        ∃ value, field.schema.read member.2.reading = .ok value ∧
          type.Reads (field.name :: seen) (field.set value start) members record := by
  obtain ⟨key, value⟩ := member
  cases text : textOf key with
  | error defect => simp [Reads, membersReading, text, readMembers]
  | ok name =>
      have named : type.field? name = some field := (given?_of_textOf text).symm.trans gives
      by_cases saw : field.name ∈ seen
      · simp [Reads, membersReading, text, readMembers, named, saw]
      · cases read : field.schema.read value.reading <;>
          simp [Reads, membersReading, text, readMembers, named, saw, Field.read, read, Except.map]

theorem unseen_cons_of_given {field : Field ρ} (gives : type.given? member = some field) :
    type.Unseen seen (member :: members) ↔ field.name ∉ seen ∧ type.Unseen seen members := by
  simp [Unseen, gives]

section Independent

variable (independent : type.Independent)
include independent

theorem means_cons_of_given {field : Field ρ} (gives : type.given? member = some field) :
    type.Means start (member :: members) record ↔
      (∃ name, textOf member.1 = .ok name) ∧
        (∀ other ∈ members, type.given? other ≠ some field) ∧
        field.schema.read member.2.reading = .ok (field.get record) ∧
        type.Means (field.set (field.get record) start) members record := by
  have mem := mem_of_given? gives
  constructor
  · rintro ⟨spelled, once, given, kept⟩
    obtain ⟨text, spelled⟩ := List.forall_mem_cons.mp spelled
    obtain ⟨here, given⟩ := List.forall_mem_cons.mp given
    obtain ⟨apart, once⟩ := List.pairwise_cons.mp once
    have alone : ∀ other ∈ members, type.given? other ≠ some field :=
      fun other among => apart other among field gives
    refine ⟨text, alone, here field gives, spelled, once, given, fun other mem' unnamed => ?_⟩
    by_cases same : other = field
    · subst same
      rw [independent.get_set other mem']
    · rw [independent.get_set_other other mem' field mem (independent.name_ne mem' mem same)]
      refine kept other mem' (List.forall_mem_cons.mpr ⟨fun gives' => same ?_, unnamed⟩)
      exact Option.some.inj (gives'.symm.trans gives)
  · rintro ⟨text, alone, here, spelled, once, given, kept⟩
    refine ⟨List.forall_mem_cons.mpr ⟨text, spelled⟩, List.pairwise_cons.mpr ⟨?_, once⟩,
      List.forall_mem_cons.mpr ⟨?_, given⟩, ?_⟩
    · intro other among field' gives'
      obtain rfl := Option.some.inj (gives.symm.trans gives')
      exact alone other among
    · intro field' gives'
      obtain rfl := Option.some.inj (gives.symm.trans gives')
      exact here
    · intro other mem' unnamed
      obtain ⟨unlike, unnamed⟩ := List.forall_mem_cons.mp unnamed
      have different : other ≠ field := by
        rintro rfl
        exact unlike gives
      rw [kept other mem' unnamed,
        independent.get_set_other other mem' field mem (independent.name_ne mem' mem different)]

/-- A field that has just been seen is not given again. -/
theorem unseen_seen_iff {field : Field ρ} (mem : field ∈ type.fields) :
    type.Unseen (field.name :: seen) members ↔
      (∀ other ∈ members, type.given? other ≠ some field) ∧ type.Unseen seen members := by
  constructor
  · intro unseen
    refine ⟨fun other among gives => ?_, fun other among field' gives => ?_⟩
    · exact unseen other among field gives List.mem_cons_self
    · exact List.not_mem_of_not_mem_cons (unseen other among field' gives)
  · rintro ⟨alone, unseen⟩ other among field' gives
    have different : field' ≠ field := by
      rintro rfl
      exact alone other among gives
    exact List.not_mem_cons_of_ne_of_not_mem
      (independent.name_ne (mem_of_given? gives) mem different) (unseen other among field' gives)

/-- Members are read exactly if they mean a record and give no field that has been seen. -/
theorem reads_iff (complete : type.Complete) :
    type.Reads seen start members record ↔
      type.Means start members record ∧ type.Unseen seen members := by
  induction members generalizing seen start with
  | nil =>
      constructor
      · rintro ⟨seen', read⟩
        cases read
        exact ⟨⟨List.forall_mem_nil _, .nil, List.forall_mem_nil _, fun _ _ _ => rfl⟩,
          List.forall_mem_nil _⟩
      · rintro ⟨means, -⟩
        obtain rfl : record = start := complete.ext fun field mem =>
          means.kept field mem (List.forall_mem_nil _)
        exact ⟨seen, rfl⟩
  | cons member members ih =>
      cases gives : type.given? member with
      | none =>
          rw [reads_cons_of_none gives, means_cons_of_none gives, unseen_cons_of_none gives, ih,
            and_assoc]
      | some field =>
          have mem := mem_of_given? gives
          rw [reads_cons_of_given gives, means_cons_of_given independent gives,
            unseen_cons_of_given gives]
          simp only [ih, unseen_seen_iff independent mem]
          constructor
          · rintro ⟨text, unseen, value, read, means, alone, fresh⟩
            -- What is read is what the record has in the end: no other member sets the field.
            obtain rfl : field.get record = value :=
              (means.kept field mem alone).trans (independent.get_set field mem value start)
            exact ⟨⟨text, alone, read, means⟩, unseen, fresh⟩
          · rintro ⟨⟨text, alone, read, means⟩, unseen, fresh⟩
            exact ⟨text, unseen, field.get record, read, means, alone, fresh⟩

end Independent

end Cons

/-- The members of an object are read exactly if they mean a record. -/
theorem read_object_iff (independent : type.Independent) (complete : type.Complete)
    {members : List WrittenMember} {record : ρ} :
    type.read (.object (membersReading members)) = .ok record ↔
      type.Means type.blank members record := by
  have reads : type.read (.object (membersReading members)) = .ok record ↔
      type.Reads [] type.blank members record := by
    rw [read, Reads]
    cases found : type.readMembers [] type.blank (membersReading members) with
    | error fault => simp
    | ok outcome => simp [independent.missing?_eq_none, Prod.ext_iff]
  rw [reads, reads_iff independent complete]
  exact and_iff_left fun _ _ _ _ => List.not_mem_nil

namespace Means

variable {start record : ρ} {members others : List WrittenMember}

/-- The order of the members does not matter. -/
theorem perm (means : type.Means start members record) (same : members.Perm others) :
    type.Means start others record where
  spelled member mem := means.spelled member (same.mem_iff.mpr mem)
  once := (same.pairwise_iff fun apart => apart.symm).mp means.once
  given member mem := means.given member (same.mem_iff.mpr mem)
  kept field mem unnamed :=
    means.kept field mem fun member among => unnamed member (same.mem_iff.mp among)

/-- A member that says the blank of a field that no other member gives changes nothing. -/
theorem cons_blank {member : WrittenMember} {field : Field ρ}
    (means : type.Means start members record) (gives : type.given? member = some field)
    (text : ∃ name, textOf member.1 = .ok name)
    (alone : ∀ other ∈ members, type.given? other ≠ some field)
    (blank : field.schema.read member.2.reading = .ok (field.get start)) :
    type.Means start (member :: members) record where
  spelled := List.forall_mem_cons.mpr ⟨text, means.spelled⟩
  once := by
    refine List.pairwise_cons.mpr ⟨fun other among field' gives' => ?_, means.once⟩
    obtain rfl := Option.some.inj (gives.symm.trans gives')
    exact alone other among
  given := by
    refine List.forall_mem_cons.mpr ⟨fun field' gives' => ?_, means.given⟩
    obtain rfl := Option.some.inj (gives.symm.trans gives')
    rw [means.kept field (mem_of_given? gives) alone]
    exact blank
  kept field mem unnamed := means.kept field mem (List.forall_mem_cons.mp unnamed).2

end Means

end RecordType

/-! ## Spellings -/

/-- A name in camel case, written with underscores. -/
def snakeCase (name : String) : String :=
  String.ofList (name.toList.flatMap fun c => if c.isUpper then ['_', c.toLower] else [c])

/-- The spellings of a field's name: in camel case, with underscores, and in lower case. -/
def spellingsOf (name : String) : List String :=
  [name, snakeCase name, Text.lower name]

example : spellingsOf "newLineKind" = ["newLineKind", "new_line_kind", "newlinekind"] := by decide

/-- The key is a spelling of the name, with whatever escapes. -/
def Spells (name : String) (key : List Piece) : Prop :=
  ∃ text ∈ spellingsOf name, textOf key = .ok text

/-- What may be done to the members of an object without a change of meaning. -/
inductive Rewording (names : List String) : List WrittenMember → List WrittenMember → Prop where
  | reorder {members others : List WrittenMember} (same : members.Perm others) :
      Rewording names members others
  | respell {name : String} {key other : List Piece} (front back : List WrittenMember)
      (value : Source) (known : name ∈ names) (before : Spells name key)
      (after : Spells name other) :
      Rewording names (front ++ (key, value) :: back) (front ++ (other, value) :: back)
  | addNull {name : String} {key : List Piece} (front back : List WrittenMember)
      (known : name ∈ names) (spells : Spells name key)
      (unnamed : ∀ member ∈ front ++ back, ¬ Spells name member.1) :
      Rewording names (front ++ back) (front ++ (key, .null) :: back)
  | addUnknown {text : String} {key : List Piece} (front back : List WrittenMember)
      (value : Source) (written : textOf key = .ok text)
      (unknown : ∀ name ∈ names, text ∉ spellingsOf name) :
      Rewording names (front ++ back) (front ++ (key, value) :: back)

/-- Two of the members name the same field. -/
def NamesTwice (names : List String) (members : List WrittenMember) : Prop :=
  ∃ name ∈ names, ∃ front first middle second back,
    members = front ++ first :: (middle ++ second :: back) ∧
      Spells name first.1 ∧ Spells name second.1

/-- Objects are parsed by what their members mean.  Every object text that is accepted is a layout
of members; all layouts of all rewordings of the members are parsed as the same record; and members
that name a field twice are refused, whatever their values. -/
structure ParsesByMeaning {ρ : Type} (schema : Schema ρ) (names : List String) : Prop where
  written : ∀ text record behind, schema.parse text = .ok record →
    skipBlanks text.toList = '\x7b' :: behind →
    ∃ members, Laid (Source.object members).tokens text.toList
  reworded : ∀ text other record members others, schema.parse text = .ok record →
    Laid (Source.object members).tokens text.toList →
    Relation.ReflTransGen (Rewording names) members others →
    Laid (Source.object others).tokens other.toList →
    schema.parse other = .ok record
  single : ∀ text members, Laid (Source.object members).tokens text.toList →
    NamesTwice names members → ∃ fault, schema.parse text = .error fault

namespace RecordType

variable {ρ : Type} {type : RecordType ρ}

/-- A record type for records given in parts: the fields have nothing to do with each other and are
told apart by all their spellings, and null says what the blank record has. -/
structure Partial (type : RecordType ρ) : Prop where
  independent : type.Independent
  complete : type.Complete
  aliased : ∀ field ∈ type.fields, field.aliases = [snakeCase field.name, Text.lower field.name]
  apart : ∀ name ∈ type.fields.map (·.name), ∀ other ∈ type.fields.map (·.name),
    ∀ text ∈ spellingsOf name, text ∈ spellingsOf other → name = other
  null_blank : ∀ field ∈ type.fields, field.schema.read .null = .ok (field.get type.blank)

namespace Partial

theorem answersTo_iff (parts : type.Partial) {field : Field ρ} (mem : field ∈ type.fields)
    (text : String) : field.answersTo text = true ↔ text ∈ spellingsOf field.name := by
  rw [Field.answersTo, parts.aliased field mem, spellingsOf, List.mem_cons, Bool.or_eq_true,
    beq_iff_eq, List.contains_iff_mem]

/-- A text stands for a field exactly if it is a spelling of its name. -/
theorem field?_eq_some_iff (parts : type.Partial) {text : String} {field : Field ρ} :
    type.field? text = some field ↔ field ∈ type.fields ∧ text ∈ spellingsOf field.name := by
  constructor
  · intro named
    have mem := mem_of_field? named
    exact ⟨mem, (parts.answersTo_iff mem text).mp (answersTo_of_field? named)⟩
  · rintro ⟨mem, spelling⟩
    have answers := (parts.answersTo_iff mem text).mpr spelling
    obtain ⟨other, named⟩ : ∃ other, type.field? text = some other :=
      Option.isSome_iff_exists.mp (List.find?_isSome.mpr ⟨field, mem, answers⟩)
    have mem' := mem_of_field? named
    have spelling' := (parts.answersTo_iff mem' text).mp (answersTo_of_field? named)
    have same : other.name = field.name := parts.apart _ (List.mem_map_of_mem mem') _
      (List.mem_map_of_mem mem) text spelling' spelling
    rw [named, List.inj_on_of_nodup_map parts.independent.distinct mem' mem same]

/-- A member gives a field exactly if its key is a spelling of the field's name. -/
theorem given?_eq_some_iff (parts : type.Partial) {member : WrittenMember} {field : Field ρ} :
    type.given? member = some field ↔ field ∈ type.fields ∧ Spells field.name member.1 := by
  cases text : textOf member.1 with
  | error defect => simp [given?, Spells, text]
  | ok name => simp [given?_of_textOf text, parts.field?_eq_some_iff, Spells, text]

/-- A rewording does not change what the members mean. -/
theorem means_of_rewording (parts : type.Partial) {members others : List WrittenMember}
    {record : ρ} (rewording : Rewording (type.fields.map (·.name)) members others)
    (means : type.Means type.blank members record) : type.Means type.blank others record := by
  cases rewording with
  | reorder same => exact means.perm same
  | @respell name key other front back value known before after =>
      obtain ⟨field, mem, rfl⟩ := List.mem_map.mp known
      have gives : type.given? (key, value) = some field :=
        parts.given?_eq_some_iff.mpr ⟨mem, before⟩
      have gives' : type.given? (other, value) = some field :=
        parts.given?_eq_some_iff.mpr ⟨mem, after⟩
      obtain ⟨text, -, spelled⟩ := after
      obtain ⟨-, rest⟩ :=
        (means_cons_of_given parts.independent gives).mp (means.perm List.perm_middle)
      refine Means.perm ?_ List.perm_middle.symm
      exact (means_cons_of_given parts.independent gives').mpr ⟨⟨text, spelled⟩, rest⟩
  | @addNull name key front back known spells unnamed =>
      obtain ⟨field, mem, rfl⟩ := List.mem_map.mp known
      have gives : type.given? (key, .null) = some field :=
        parts.given?_eq_some_iff.mpr ⟨mem, spells⟩
      have alone : ∀ member ∈ front ++ back, type.given? member ≠ some field :=
        fun member among gives' => unnamed member among (parts.given?_eq_some_iff.mp gives').2
      obtain ⟨text, -, spelled⟩ := spells
      have more := means.cons_blank gives ⟨text, spelled⟩ alone (parts.null_blank field mem)
      exact more.perm List.perm_middle.symm
  | @addUnknown text key front back value spelled unknown =>
      have none : type.given? (key, value) = none := by
        refine Option.eq_none_iff_forall_ne_some.mpr fun field gives => ?_
        obtain ⟨mem, text', spelling, spelled'⟩ := parts.given?_eq_some_iff.mp gives
        obtain rfl := Except.ok.inj (spelled.symm.trans spelled')
        exact unknown field.name (List.mem_map_of_mem mem) spelling
      have more := (means_cons_of_none none).mpr ⟨⟨text, spelled⟩, means⟩
      exact more.perm List.perm_middle.symm

/-- Nor does any number of rewordings. -/
theorem means_of_rewordings (parts : type.Partial) {members others : List WrittenMember}
    {record : ρ} (means : type.Means type.blank members record)
    (rewordings :
      Relation.ReflTransGen (Rewording (type.fields.map (·.name))) members others) :
    type.Means type.blank others record := by
  induction rewordings with
  | refl => exact means
  | tail _ rewording ih => exact parts.means_of_rewording rewording ih

/-- Members that name a field twice mean nothing. -/
theorem not_means_of_namesTwice (parts : type.Partial) {members : List WrittenMember}
    (twice : NamesTwice (type.fields.map (·.name)) members) (start record : ρ) :
    ¬ type.Means start members record := by
  intro means
  obtain ⟨name, known, front, first, middle, second, back, rfl, spells, spells'⟩ := twice
  obtain ⟨field, mem, rfl⟩ := List.mem_map.mp known
  have apart : type.Apart first second := by
    have once := (List.pairwise_append.mp means.once).2.1
    exact (List.pairwise_cons.mp once).1 second (List.mem_append_right _ List.mem_cons_self)
  exact apart field (parts.given?_eq_some_iff.mpr ⟨mem, spells⟩)
    (parts.given?_eq_some_iff.mpr ⟨mem, spells'⟩)

/-- The layouts of an object are parsed exactly if its members mean a record. -/
theorem parse_eq_ok_iff (parts : type.Partial) {members : List WrittenMember} {text : String}
    (laid : Laid (Source.object members).tokens text.toList) {record : ρ} :
    type.schema.parse text = .ok record ↔ type.Means type.blank members record := by
  rw [Schema.parse, Json.readAs_laid laid, ← read_object_iff parts.independent parts.complete]
  rfl

/-- Records given in parts are parsed by what the members mean. -/
theorem parsesByMeaning (parts : type.Partial) :
    ParsesByMeaning type.schema (type.fields.map (·.name)) where
  written text record behind accepted begins := by
    obtain ⟨source, laid⟩ := Json.exists_source_of_readAs accepted
    obtain ⟨members, rfl⟩ := Json.exists_members_of_brace laid begins
    exact ⟨members, laid⟩
  reworded text other record members others accepted laid rewordings laid' := by
    have means := (parts.parse_eq_ok_iff laid).mp accepted
    exact (parts.parse_eq_ok_iff laid').mpr (parts.means_of_rewordings means rewordings)
  single text members laid twice := by
    cases parsed : type.schema.parse text with
    | error fault => exact ⟨fault, rfl⟩
    | ok record =>
        have means := (parts.parse_eq_ok_iff laid).mp parsed
        exact absurd means (parts.not_means_of_namesTwice twice type.blank record)

end Partial

end RecordType

theorem GlobalPatch.recordType_partial : GlobalPatch.recordType.Partial where
  independent := recordType_independent
  complete := recordType_complete
  aliased := by
    simp only [recordType, List.forall_mem_cons]
    exact ⟨by decide, by decide, by decide, by decide, List.forall_mem_nil _⟩
  apart := by decide
  null_blank := by
    simp only [recordType, List.forall_mem_cons]
    exact ⟨rfl, rfl, rfl, rfl, List.forall_mem_nil _⟩

theorem PluginPatch.recordType_partial : PluginPatch.recordType.Partial where
  independent := recordType_independent
  complete := recordType_complete
  aliased := by
    simp only [recordType, List.forall_mem_cons]
    exact ⟨by decide, by decide, List.forall_mem_nil _⟩
  apart := by decide
  null_blank := by
    simp only [recordType, List.forall_mem_cons]
    exact ⟨rfl, rfl, List.forall_mem_nil _⟩

/-- The pieces of a text in which every character stands for itself. -/
def Json.Piece.ofText (text : String) : List Piece :=
  text.toList.filterMap fun c =>
    if itself : c ≠ '"' ∧ c ≠ '\\' ∧ ¬ c.toNat < 32 then some (.plain c itself) else none

/-- Patches are parsed by what their members mean. -/
theorem patches_parse_by_meaning :
    ParsesByMeaning GlobalPatch.schema ["lineWidth", "indentWidth", "useTabs", "newLineKind"] ∧
      ParsesByMeaning PluginPatch.schema ["semiColons", "quoteStyle"] :=
  ⟨GlobalPatch.recordType_partial.parsesByMeaning, PluginPatch.recordType_partial.parsesByMeaning⟩

/-- Another spelling of the width and a member that is unknown do not change a patch, and a second
width is refused. -/
theorem patches_parse_by_meaning_sample :
    GlobalPatch.schema.parse "\x7b\"x\": [ ], \"line_width\": 80 \x7d" =
        .ok { lineWidth := some 80 } ∧
      ∃ fault, GlobalPatch.schema.parse "\x7b\"lineWidth\":80,\"linewidth\":80\x7d" =
        .error fault := by
  have accepted := GlobalPatch.schema_faithful.parse_print { lineWidth := some 80 }
  have print : GlobalPatch.schema.print { lineWidth := some 80 } = "\x7b\"lineWidth\":80\x7d" := by
    decide +kernel
  rw [print] at accepted
  have digital : ∀ c ∈ ['8', '0'] ++ [], Decimal.isDigit c = true :=
    List.forall_mem_cons.mpr ⟨rfl, List.forall_mem_singleton.mpr rfl⟩
  let eighty : NumberText :=
    ⟨false, ['8', '0'], [], none, List.cons_ne_nil _ _, digital, fun _ same => by cases same⟩
  let width (key : String) : WrittenMember := (Piece.ofText key, .number eighty)
  have camel : Spells "lineWidth" (width "lineWidth").1 := ⟨"lineWidth", by decide, rfl⟩
  have snake : Spells "lineWidth" (width "line_width").1 := ⟨"line_width", by decide, rfl⟩
  have lower : Spells "lineWidth" (width "linewidth").1 := ⟨"linewidth", by decide, rfl⟩
  have other : textOf (Piece.ofText "x") = .ok "x" := rfl
  have none : ∀ c ∈ [], Json.isBlank c = true := List.forall_mem_nil _
  have one : ∀ c ∈ [' '], Json.isBlank c = true := List.forall_mem_singleton.mpr rfl
  constructor
  · refine patches_parse_by_meaning.1.reworded _ _ _ [width "lineWidth"]
      ([] ++ (Piece.ofText "x", .array []) :: [width "line_width"]) accepted
      (Json.laid_flatten _) ?_ ?_
    · exact .tail (.single (.respell [] [] (.number eighty) (by decide) camel snake))
        (.addUnknown [] [width "line_width"] (.array []) other (by decide))
    · exact ⟨[], _, none, rfl, [], _, none, rfl, [], _, none, rfl, [' '], _, one, rfl,
        [' '], _, one, rfl, [], _, none, rfl, [' '], _, one, rfl, [], _, none, rfl,
        [' '], _, one, rfl, [' '], _, one, rfl, none⟩
  · exact patches_parse_by_meaning.1.single _ [width "lineWidth", width "linewidth"]
      (Json.laid_flatten _) ⟨"lineWidth", by decide, [], _, [], _, [], rfl, camel, lower⟩

end FormatterHost

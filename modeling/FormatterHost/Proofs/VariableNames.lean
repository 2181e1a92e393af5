import FormatterHost.Proofs.Overlay
import FormatterHost.Proofs.References
import FormatterHost.Settings.Environment

/-!
# Names of variables

The name of a variable spells a path through settings: behind the common prefix stand the keys of
the path, two underscores before each of them.  It is read in two stages: the underscores become
dots, and the dots part the names of a key.  Where the keys have single underscores only, and
inside, both stages together lead along the path.
-/

namespace FormatterHost

namespace Text

theorem toLower_of_not_capital {c : Char} (other : c.toNat < 65 ∨ 90 < c.toNat) :
    c.toLower = c := by
  apply dif_neg
  rintro ⟨from_A, to_Z⟩
  have large : 65 ≤ c.toNat := UInt32.le_iff_toNat_le.mp from_A
  have small : c.toNat ≤ 90 := UInt32.le_iff_toNat_le.mp to_Z
  omega

/-- A text without capitals, and without letters of other alphabets, is its own lower-case form. -/
theorem lower_eq_self {text : String}
    (plain : ∀ c ∈ text.toList, c.toNat < 65 ∨ 90 < c.toNat ∧ c.toNat < 128) :
    lower text = text := by
  rw [lower, lowerFrom_eq_self, String.ofList_toList]
  intro c mem
  have bounds := plain c mem
  exact ⟨by omega, toLower_of_not_capital (by omega)⟩

end Text

namespace TreePath

/-- The keys of a path, each behind a separator. -/
def trail (separator : List Char) (path : TreePath) : List Char :=
  path.flatMap fun spelling => separator ++ spelling.key.toList

/-- The key of a path: its names, with dots between them. -/
def key (path : TreePath) : String :=
  String.ofList (trail ['.'] path).tail

/-- The name of the variable for a path, in lower case. -/
def variableName (path : TreePath) : String :=
  String.ofList ((Text.lower Environment.namePrefix).toList ++ trail Environment.separator path)

/-- Small letters, with single underscores between them. -/
def isPlain : List Char → Bool
  | [] => false
  | [c] => c.isLower
  | c :: d :: cs => (c.isLower || c == '_' && d != '_') && isPlain (d :: cs)

/-- A path whose keys can be spelled in the name of a variable. -/
def Plain (path : TreePath) : Prop :=
  ∀ spelling ∈ path, isPlain spelling.key.toList = true

theorem isPlain_of_mem {cs : List Char} (plain : isPlain cs = true) :
    ∀ c ∈ cs, c.isLower = true ∨ c = '_' := by
  induction cs with
  | nil => exact nofun
  | cons c cs ih =>
      cases cs with
      | nil =>
          rw [isPlain] at plain
          simpa using Or.inl plain
      | cons d cs =>
          simp only [isPlain, Bool.and_eq_true, Bool.or_eq_true, beq_iff_eq] at plain
          rw [List.forall_mem_cons]
          exact ⟨plain.1.imp_right And.left, ih plain.2⟩

/-- In a plain text there is nothing to be replaced by a dot, not even at its end. -/
theorem dotted_append {cs : List Char} (plain : isPlain cs = true) (rest : List Char) :
    Environment.dotted (cs ++ rest) = cs ++ Environment.dotted rest := by
  have step : ∀ {c : Char} {tail : List Char}, (c = '_' → ∀ more, tail ≠ '_' :: more) →
      Environment.dotted (c :: tail) = c :: Environment.dotted tail := by
    intro c tail single
    rw [Environment.dotted]
    rintro more rfl rfl
    exact single rfl more rfl
  induction cs with
  | nil => rfl
  | cons c cs ih =>
      cases cs with
      | nil =>
          rw [isPlain] at plain
          apply step
          rintro rfl
          cases plain
      | cons d cs =>
          simp only [isPlain, Bool.and_eq_true, Bool.or_eq_true, beq_iff_eq, bne_iff_ne] at plain
          have first : Environment.dotted (c :: (d :: cs ++ rest)) =
              c :: Environment.dotted (d :: cs ++ rest) := by
            apply step
            rintro rfl more same
            rcases plain.1 with lower | ⟨-, other⟩
            · cases lower
            · exact other (List.cons.inj same).1
          rw [List.cons_append, first, ih plain.2]
          rfl

theorem dotted_trail {path : TreePath} (plain : path.Plain) :
    Environment.dotted (trail Environment.separator path) = trail ['.'] path := by
  induction path with
  | nil => rfl
  | cons spelling path ih =>
      obtain ⟨here, later⟩ := List.forall_mem_cons.mp plain
      have shape : trail Environment.separator (spelling :: path) =
          '_' :: '_' :: (spelling.key.toList ++ trail Environment.separator path) := by
        simp [trail, Environment.separator]
      rw [shape, Environment.dotted, dotted_append here, ih later]
      simp [trail]

/-- A variable with the name for a path holds the setting at the key of the path. -/
theorem settingKey?_of_lower {path : TreePath} (plain : path.Plain) (something : path ≠ [])
    {name : String} (named : Text.lower name = path.variableName) :
    Environment.settingKey? name = some path.key := by
  cases path with
  | nil => exact absurd rfl something
  | cons spelling path =>
      obtain ⟨here, later⟩ := List.forall_mem_cons.mp plain
      have shape : (variableName (spelling :: path)).toList =
          ((Text.lower Environment.namePrefix).toList ++ Environment.separator) ++
            (spelling.key.toList ++ trail Environment.separator path) := by
        simp [variableName, trail]
      rw [Environment.settingKey?, named, shape]
      simp only [List.isPrefixOf_iff_prefix.mpr (List.prefix_append _ _), if_true, List.drop_left]
      rw [dotted_append here, dotted_trail later]
      rfl

/-- Where a plain name ends, it is read. -/
theorem readName?_append {name : String} (plain : isPlain name.toList = true) {rest : List Char}
    (stops : rest = [] ∨ ∃ more, rest = '.' :: more) :
    KeyPath.readName? (name.toList ++ rest) = some (name, rest) := by
  have chars := isPlain_of_mem plain
  have inName : ∀ c ∈ name.toList, KeyPath.isNameChar c = true := by
    intro c mem
    rcases chars c mem with lower | rfl
    · have alpha : c.isAlphanum = true :=
        Bool.or_eq_true_iff.mpr (.inl (Bool.or_eq_true_iff.mpr (.inr lower)))
      rw [KeyPath.isNameChar, alpha, Bool.true_or, Bool.true_or, Bool.true_or]
    · decide
  have nothing : rest.takeWhile KeyPath.isNameChar = [] ∧
      rest.dropWhile KeyPath.isNameChar = rest := by
    rcases stops with rfl | ⟨more, rfl⟩
    · exact ⟨rfl, rfl⟩
    · exact ⟨rfl, rfl⟩
  have itself : Text.lower name = name := by
    apply Text.lower_eq_self
    intro c mem
    rcases chars c mem with lower | rfl
    · have bounds := Text.toNat_of_isLower lower
      omega
    · decide
  have taken : (name.toList ++ rest).takeWhile KeyPath.isNameChar = name.toList := by
    rw [List.takeWhile_append_of_pos inName, nothing.1, List.append_nil]
  have dropped : (name.toList ++ rest).dropWhile KeyPath.isNameChar = rest := by
    rw [List.dropWhile_append_of_pos inName, nothing.2]
  rw [KeyPath.readName?, taken, dropped]
  split
  · rename_i empty
    rw [empty] at plain
    cases plain
  · rw [String.ofList_toList, itself]

theorem trail_stops (path : TreePath) :
    trail ['.'] path = [] ∨ ∃ more, trail ['.'] path = '.' :: more := by
  cases path with
  | nil => exact .inl rfl
  | cons spelling path => exact .inr ⟨_, rfl⟩

theorem readSteps?_trail {path : TreePath} (plain : path.Plain) {fuel : Nat}
    (enough : (trail ['.'] path).length ≤ fuel) :
    KeyPath.readSteps? fuel (trail ['.'] path) = some path.steps := by
  induction path generalizing fuel with
  | nil => cases fuel <;> rfl
  | cons spelling path ih =>
      obtain ⟨here, later⟩ := List.forall_mem_cons.mp plain
      have shape : trail ['.'] (spelling :: path) =
          '.' :: (spelling.key.toList ++ trail ['.'] path) := by
        simp [trail]
      rw [shape] at enough ⊢
      simp only [List.length_cons, List.length_append] at enough
      cases fuel with
      | zero => omega
      | succ fuel =>
          rw [KeyPath.readSteps?, readName?_append here (trail_stops path)]
          simp only [ih later (show _ ≤ fuel by omega), Option.map_some]
          rfl

/-- The key of a path leads along the path. -/
theorem ofKey_key {path : TreePath} (plain : path.Plain) (something : path ≠ []) :
    KeyStep.name (KeyPath.ofKey path.key).1 :: (KeyPath.ofKey path.key).2 = path.steps := by
  cases path with
  | nil => exact absurd rfl something
  | cons spelling path =>
      obtain ⟨here, later⟩ := List.forall_mem_cons.mp plain
      have shape : (key (spelling :: path)).toList = spelling.key.toList ++ trail ['.'] path := by
        simp [key, trail]
      rw [KeyPath.ofKey, KeyPath.ofKey?, shape, readName?_append here (trail_stops path)]
      simp only [readSteps?_trail later (Nat.le_refl _), Option.map_some, Option.getD_some]
      rfl

end TreePath

end FormatterHost

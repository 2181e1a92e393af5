import FormatterHost.Guest.Scripted
import FormatterHost.Proofs.Conformance
import FormatterHost.Proofs.Memory
import FormatterHost.Proofs.Utf8

/-!
# Scripted plugins conform

A scripted plugin follows the protocol as long as every place and every size that its schedules name
make a buffer inside its memory, and every report that its rules make can be counted.
-/

namespace FormatterHost

namespace ScriptedPlugin

/-! ## Schedules -/

/-- All buffers that two schedules allow are usable in a memory of `size` bytes. -/
structure Usable (offsets capacities : List Int32) (size : Nat) : Prop where
  offsets_ne_nil : offsets ≠ []
  capacities_ne_nil : capacities ≠ []
  offset_nonneg : ∀ offset ∈ offsets, 0 ≤ offset.toInt
  capacity_pos : ∀ capacity ∈ capacities, 0 < capacity.toInt
  fits : ∀ offset ∈ offsets, ∀ capacity ∈ capacities, offset.toInt + capacity.toInt ≤ size

/-- The test for usable schedules. -/
def checkUsable (offsets capacities : List Int32) (size : Nat) : Bool :=
  !offsets.isEmpty && !capacities.isEmpty && offsets.all (fun offset => 0 ≤ offset.toInt) &&
    capacities.all (fun capacity => 0 < capacity.toInt) &&
    offsets.all fun offset => capacities.all fun capacity =>
      offset.toInt + capacity.toInt ≤ size

theorem checkUsable_iff (offsets capacities : List Int32) (size : Nat) :
    checkUsable offsets capacities size = true ↔ Usable offsets capacities size := by
  simp only [checkUsable, Bool.and_eq_true, Bool.not_eq_true', List.isEmpty_eq_false_iff,
    List.all_eq_true, decide_eq_true_eq]
  constructor
  · rintro ⟨⟨⟨⟨offsets, capacities⟩, nonneg⟩, positive⟩, fits⟩
    exact ⟨offsets, capacities, nonneg, positive, fits⟩
  · rintro ⟨offsets, capacities, nonneg, positive, fits⟩
    exact ⟨⟨⟨⟨offsets, capacities⟩, nonneg⟩, positive⟩, fits⟩

instance (offsets capacities : List Int32) (size : Nat) :
    Decidable (Usable offsets capacities size) :=
  decidable_of_iff _ (checkUsable_iff offsets capacities size)

/-- What a schedule says at any time is one of its entries. -/
theorem scheduled_mem {schedule : List Int32} (nonempty : schedule ≠ []) (position : Nat) :
    scheduled schedule position ∈ schedule := by
  have inside : position % schedule.length < schedule.length :=
    Nat.mod_lt _ (List.length_pos_iff.mpr nonempty)
  rw [scheduled, List.getD_eq_getElem?_getD, List.getElem?_eq_getElem inside, Option.getD_some]
  exact List.getElem_mem inside

/-! ## The view -/

/-- The staging buffer of a plugin. -/
def window (plugin : ScriptedPlugin)
    (usable : Usable plugin.offsets plugin.capacities plugin.memory.size) : Window where
  memory := plugin.memory
  offset := plugin.offset
  capacity := plugin.capacity
  offset_nonneg := usable.offset_nonneg _ (scheduled_mem usable.offsets_ne_nil _)
  capacity_pos := usable.capacity_pos _ (scheduled_mem usable.capacities_ne_nil _)
  fits := usable.fits _ (scheduled_mem usable.offsets_ne_nil _) _
    (scheduled_mem usable.capacities_ne_nil _)

/-- A plugin as it is seen from outside. -/
def outside (plugin : ScriptedPlugin)
    (usable : Usable plugin.offsets plugin.capacities plugin.memory.size) : PluginView where
  window := plugin.window usable
  shared := plugin.shared
  room := Transport.maxPayload
  kept := ⟨plugin.globalConfig, plugin.pluginConfig, plugin.path⟩
  report := plugin.shared

/-- The view of the plugins with certain rules. -/
def view (rules : List Rule) (plugin : ScriptedPlugin) : Option PluginView :=
  if usable : Usable plugin.offsets plugin.capacities plugin.memory.size then
    if plugin.rules = rules then some (plugin.outside usable) else none
  else none

theorem view_of_usable (plugin : ScriptedPlugin)
    (usable : Usable plugin.offsets plugin.capacities plugin.memory.size) :
    view plugin.rules plugin = some (plugin.outside usable) := by
  rw [view, dif_pos usable, if_pos rfl]

theorem view_eq_some_iff {rules : List Rule} {plugin : ScriptedPlugin} {p : PluginView} :
    view rules plugin = some p ↔ plugin.rules = rules ∧
      ∃ usable : Usable plugin.offsets plugin.capacities plugin.memory.size,
        p = plugin.outside usable := by
  constructor
  · intro seen
    rw [view] at seen
    split at seen
    · rename_i usable
      split at seen
      · rename_i same
        exact ⟨same, usable, (Option.some.inj seen).symm⟩
      · cases seen
    · cases seen
  · rintro ⟨rfl, usable, rfl⟩
    exact view_of_usable _ usable

/-! ## Formatting -/

end ScriptedPlugin

/-- The reply that an action makes. -/
def Action.reply (path globalConfig pluginConfig text : String) : Action → Reply
  | .unchanged => .answered 0 (Utf8.encode text)
  | .status code => .answered code (Utf8.encode text)
  | .trap detail => .trapped detail
  | .formatted bytes => .answered 1 bytes
  | .errored bytes => .answered 2 bytes
  | .append bytes => .answered 1 (Utf8.encode text ++ bytes)
  | .prepend bytes => .answered 1 (bytes ++ Utf8.encode text)
  | .upper => .answered 1 (Utf8.encode (text.map Char.toUpper))
  | .report => .answered 1 (Utf8.encode ("\n".intercalate [path, globalConfig, pluginConfig, text]))

namespace ScriptedPlugin

/-- The way to format that a list of rules describes. -/
def formatter (rules : List Rule) : Formatter :=
  fun path globalConfig pluginConfig text =>
    match rules.find? fun rule => holds path text rule.condition with
    | some rule => rule.action.reply path globalConfig pluginConfig text
    | none => .answered 0 (Utf8.encode text)

/-- Every report on a text that can be counted can be counted. -/
def Moderate (rules : List Rule) : Prop :=
  ∀ path globalConfig pluginConfig text code report,
    (Utf8.encode text).length ≤ Transport.maxPayload →
    formatter rules path globalConfig pluginConfig text = .answered code report →
    report.length ≤ Transport.maxPayload

/-- What becomes of a plugin that replies. -/
def afterReply (plugin : ScriptedPlugin) : Reply → Except Failure Int32 × ScriptedPlugin
  | .answered code report => (.ok code, { plugin with shared := report })
  | .trapped detail => (.error (.execution Export.format.name detail), plugin)

/-- A plugin that has been told everything carries out its rules by what it has been told. -/
theorem perform_eq (plugin : ScriptedPlugin) {path globalConfig pluginConfig text : String}
    (shared : plugin.shared = Utf8.encode text) (global : plugin.globalConfig = some globalConfig)
    (own : plugin.pluginConfig = some pluginConfig) (named : plugin.path = some path)
    (action : Action) :
    plugin.perform text action =
      plugin.afterReply (action.reply path globalConfig pluginConfig text) := by
  have same : plugin = { plugin with shared := Utf8.encode text } := by rw [← shared]
  cases action with
  | unchanged => exact congrArg (Prod.mk _) same
  | status code => exact congrArg (Prod.mk _) same
  | trap detail => rfl
  | formatted bytes => rfl
  | errored bytes => rfl
  | append bytes => rfl
  | prepend bytes => rfl
  | upper => rfl
  | report => simp only [perform, global, own, named, Option.getD_some]; rfl

theorem format_eq {plugin : ScriptedPlugin} {path globalConfig pluginConfig text : String}
    (shared : plugin.shared = Utf8.encode text) (global : plugin.globalConfig = some globalConfig)
    (own : plugin.pluginConfig = some pluginConfig) (named : plugin.path = some path) :
    plugin.format = afterReply { plugin with received := some text }
      (formatter plugin.rules path globalConfig pluginConfig text) := by
  have read : plugin.sharedText = text := by rw [sharedText, shared, Utf8.decodeLossy_encode]
  have asked : plugin.path.getD "" = path := by rw [named, Option.getD_some]
  have same : { plugin with received := some text } =
      ({ plugin with received := some text, shared := Utf8.encode text } : ScriptedPlugin) := by
    rw [← shared]
  rw [format, formatter, read, asked]
  cases plugin.rules.find? fun rule => holds path text rule.condition with
  | none => exact congrArg (Prod.mk _) same
  | some rule =>
      exact perform_eq { plugin with received := some text } shared global own named _

/-! ## The laws -/

/-- An operation on a plugin that leaves the schedules and the rules as they are. -/
theorem leads_of_ok {α : Type} {x : Exchange ScriptedPlugin α} {rules : List Rule} {value : α}
    {plugin plugin' : ScriptedPlugin} {good : α → PluginView → Prop} {lost : PluginView → Prop}
    (ran : x plugin = (.ok value, plugin')) (same : plugin'.rules = rules)
    (usable : Usable plugin'.offsets plugin'.capacities plugin'.memory.size)
    (holds : good value (plugin'.outside usable)) :
    Leads (view rules) never x plugin good lost :=
  .of_ok ran ⟨_, view_eq_some_iff.mpr ⟨same, usable, rfl⟩, holds⟩

section Operations

variable {plugin : ScriptedPlugin}
variable (usable : Usable plugin.offsets plugin.capacities plugin.memory.size)

/-- What the staging buffer can hold can be written. -/
theorem write_eq {offset : UInt32} {bytes : Bytes}
    (start : offset.toNat = (plugin.window usable).start)
    (le : bytes.length ≤ (plugin.window usable).size) :
    guest.write offset bytes plugin =
      (.ok (), { plugin with memory := plugin.memory.put offset.toNat bytes }) := by
  have short : bytes.length < UInt32.size :=
    Nat.lt_of_le_of_lt (Nat.le_trans le (Window.size_le_maxPayload _)) (by decide)
  have within : (plugin.window usable).start + (plugin.window usable).size ≤ plugin.memory.size :=
    Window.start_add_size_le _
  simp only [guest]
  rw [plugin.memory.write_of_le short (by omega)]

/-- What is in the staging buffer can be appended. -/
theorem appendStaged_eq {count : Int32} (nonneg : 0 ≤ count.toInt)
    (le : count.toInt.toNat ≤ (plugin.window usable).size) :
    plugin.appendStaged count = (.ok (), { plugin with
      shared := plugin.shared ++
        plugin.memory.slice (plugin.window usable).start count.toInt.toNat }.moved) := by
  have start : (plugin.window usable).start = plugin.offset.toInt.toNat := rfl
  have startNonneg : 0 ≤ plugin.offset.toInt := (plugin.window usable).offset_nonneg
  have within : (plugin.window usable).start + (plugin.window usable).size ≤ plugin.memory.size :=
    Window.start_add_size_le _
  have inside : ¬ (plugin.offset.toInt < 0 ∨ count.toInt < 0 ∨
      plugin.memory.size < plugin.offset.toInt + count.toInt) := by omega
  rw [appendStaged, if_neg inside, start]

/-- Wherever the buffer moves, there is room for what the present one can hold. -/
theorem start_moved_add_le {count : Nat} (le : count ≤ (plugin.window usable).size) :
    (plugin.moved.window usable).start + count ≤ plugin.memory.size := by
  have mem := scheduled_mem usable.offsets_ne_nil plugin.moved.cursor
  have fits := usable.fits _ mem _ (scheduled_mem usable.capacities_ne_nil plugin.cursor)
  have nonneg := usable.offset_nonneg _ mem
  have positive : 0 < plugin.capacity.toInt := (plugin.window usable).capacity_pos
  have start : (plugin.moved.window usable).start =
    (scheduled plugin.offsets plugin.moved.cursor).toInt.toNat := rfl
  have size : (plugin.window usable).size = plugin.capacity.toInt.toNat := rfl
  have capacity : plugin.capacity = scheduled plugin.capacities plugin.cursor := rfl
  rw [← capacity] at fits
  omega

/-- Shared bytes that the present buffer can hold are copied to where it moves. -/
theorem stageShared_eq {start count : Int32} (startNonneg : 0 ≤ start.toInt)
    (nonneg : 0 ≤ count.toInt) (le : count.toInt.toNat ≤ (plugin.window usable).size)
    (there : start.toInt.toNat + count.toInt.toNat ≤ plugin.shared.length) :
    plugin.stageShared start count = (.ok (), { plugin.moved with
      memory := plugin.memory.put (plugin.moved.window usable).start
        ((plugin.shared.drop start.toInt.toNat).take count.toInt.toNat) }) := by
  have target : (plugin.moved.window usable).start = plugin.moved.offset.toInt.toNat := rfl
  have targetNonneg : 0 ≤ plugin.moved.offset.toInt := (plugin.moved.window usable).offset_nonneg
  have within := start_moved_add_le usable le
  have present : ¬ (start.toInt < 0 ∨ count.toInt < 0 ∨
      plugin.shared.length < start.toInt + count.toInt) := by omega
  have inside : ¬ (plugin.moved.offset.toInt < 0 ∨
      plugin.moved.memory.size < plugin.moved.offset.toInt + count.toInt) := by
    have size : plugin.moved.memory.size = plugin.memory.size := rfl
    omega
  rw [stageShared, if_neg present]
  simp only
  rw [if_neg inside]
  rfl

end Operations

/-- Scripted plugins share bytes by the protocol. -/
theorem sharesBytes (rules : List Rule) : SharesBytes never guest (view rules) where
  capacity := by
    intro plugin p seen
    obtain ⟨same, usable, rfl⟩ := view_eq_some_iff.mp seen
    exact leads_of_ok rfl same usable ⟨rfl, rfl⟩
  offset := by
    intro plugin p seen
    obtain ⟨same, usable, rfl⟩ := view_eq_some_iff.mp seen
    exact leads_of_ok rfl same usable ⟨rfl, rfl⟩
  read := by
    intro plugin p seen offset length fits
    obtain ⟨same, usable, rfl⟩ := view_eq_some_iff.mp seen
    have ran : guest.read offset length plugin =
        (.ok (plugin.memory.slice offset.toNat length.toNat), plugin) :=
      congrArg (·, plugin) (plugin.memory.read_of_le fits)
    exact leads_of_ok ran same usable ⟨rfl, rfl⟩
  write := by
    intro plugin p seen offset bytes start le
    obtain ⟨same, usable, rfl⟩ := view_eq_some_iff.mp seen
    have usable' : Usable plugin.offsets plugin.capacities
        (plugin.memory.put offset.toNat bytes).size := by
      rw [LinearMemory.size_put]
      exact usable
    refine leads_of_ok (write_eq usable start le) same usable' ?_
    simp only [start]
    rfl
  clear := by
    intro plugin p seen total _
    obtain ⟨same, usable, rfl⟩ := view_eq_some_iff.mp seen
    have ran : guest.call .clearShared [total] plugin =
        (.ok none, { plugin with shared := [] }.moved) := rfl
    exact leads_of_ok ran same usable ⟨rfl, toNat_toInt_le_maxPayload total, rfl⟩
  append := by
    intro plugin p seen count nonneg le _
    obtain ⟨same, usable, rfl⟩ := view_eq_some_iff.mp seen
    have ran := congrArg effect (appendStaged_eq usable nonneg le)
    exact leads_of_ok ran same usable ⟨rfl, Nat.le_add_right _ _, rfl⟩
  stage := by
    intro plugin p seen start count startNonneg nonneg le there
    obtain ⟨same, usable, rfl⟩ := view_eq_some_iff.mp seen
    have ran := congrArg effect (stageShared_eq usable startNonneg nonneg le there)
    have length : ((plugin.shared.drop start.toInt.toNat).take count.toInt.toNat).length =
        count.toInt.toNat := by
      rw [List.length_take_of_le]
      rw [List.length_drop]
      exact Nat.le_sub_of_add_le (by rw [Nat.add_comm]; exact there)
    have within := start_moved_add_le usable le
    have copied := plugin.memory.slice_put (plugin.moved.window usable).start
      ((plugin.shared.drop start.toInt.toNat).take count.toInt.toNat) (by rw [length]; exact within)
    rw [length] at copied
    have usable' : Usable plugin.offsets plugin.capacities
        (plugin.memory.put (plugin.moved.window usable).start
          ((plugin.shared.drop start.toInt.toNat).take count.toInt.toNat)).size := by
      rw [LinearMemory.size_put]
      exact usable
    refine leads_of_ok ran same usable' ⟨?_, copied, rfl, rfl⟩
    exact Nat.le_trans within (Nat.le_of_eq (LinearMemory.size_put _ _ _).symm)

/-- Scripted plugins with moderate rules follow the whole protocol. -/
theorem conforms {rules : List Rule} (moderate : Moderate rules) :
    Conforms never guest (view rules) (formatter rules) where
  toSharesBytes := sharesBytes rules
  reset := by
    intro plugin p seen
    obtain ⟨same, usable, rfl⟩ := view_eq_some_iff.mp seen
    exact leads_of_ok rfl same usable rfl
  keep := by
    intro plugin p seen slot text shared
    obtain ⟨same, usable, rfl⟩ := view_eq_some_iff.mp seen
    have read : plugin.sharedText = text := by
      rw [sharedText, show plugin.shared = Utf8.encode text from shared, Utf8.decodeLossy_encode]
    subst read
    cases slot with
    | path => exact leads_of_ok rfl same usable rfl
    | config scope =>
        cases scope with
        | global => exact leads_of_ok rfl same usable rfl
        | plugin => exact leads_of_ok rfl same usable rfl
  format := by
    intro plugin p seen path globalConfig pluginConfig text kept shared short
    obtain ⟨rfl, usable, rfl⟩ := view_eq_some_iff.mp seen
    obtain ⟨global, own, named⟩ := Kept.mk.inj kept
    have ran := format_eq shared global own named
    cases reply : formatter plugin.rules path globalConfig pluginConfig text with
    | answered code report =>
        have called : guest.call .format [] plugin =
            (.ok (some code), { plugin with received := some text, shared := report }) := by
          simp only [guest, call, ran, reply, afterReply]
          rfl
        have seen' := view_of_usable { plugin with received := some text, shared := report } usable
        exact .of_ok called ⟨code, report, _, rfl, rfl, seen',
          fun _ => ⟨rfl, moderate _ _ _ _ _ _ short reply⟩⟩
    | trapped detail =>
        have called : guest.call .format [] plugin =
            (.error (.execution Export.format.name detail),
              { plugin with received := some text }) := by
          simp only [guest, call, ran, reply, afterReply]
          rfl
        have seen' := view_of_usable { plugin with received := some text } usable
        exact .of_error called (.inl ⟨detail, _, rfl, rfl, seen'⟩)
  announce := by
    intro plugin p seen short callee reports
    obtain ⟨same, usable, rfl⟩ := view_eq_some_iff.mp seen
    rcases reports with rfl | rfl
    · exact leads_of_ok rfl same usable ⟨rfl, rfl⟩
    · exact leads_of_ok rfl same usable ⟨rfl, rfl⟩

end ScriptedPlugin

end FormatterHost

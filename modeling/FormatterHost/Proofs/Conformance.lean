import FormatterHost.Bytes.Utf8
import FormatterHost.Config.Push
import FormatterHost.Format.Verdict
import FormatterHost.Memory.Linear
import FormatterHost.Proofs.Exchange

/-!
# Conforming plugins

A conforming plugin keeps shared bytes, lets them pass through a staging buffer that it may move
and resize whenever it is called, and formats by a fixed function of what it has been told.  The
laws say what each operation does as long as the host keeps to its part: it writes and appends no
more than the buffer holds, announces how much it will send, and asks for bytes that are there.

An operation may also slip: it fails, and nothing changes.  The parameter `mishap` says in which
states a slip leaves the plugin; for `never` there are none.
-/

namespace FormatterHost

/-! ## Numbers in calls -/

theorem toUInt32_of_nonneg {n : Int32} (h : 0 ≤ n.toInt) : n.toUInt32.toNat = n.toInt.toNat :=
  Int32.toNat_toUInt32_of_le (Int32.le_iff_toInt_le.mpr h)

theorem toInt_ofNat_of_le {n : Nat} (h : n ≤ Transport.maxPayload) : (Int32.ofNat n).toInt = n :=
  Int32.toInt_ofNat_of_lt (Nat.lt_of_le_of_lt h (by decide))

theorem toNat_ofNat_of_le {n : Nat} (h : n ≤ Transport.maxPayload) : (UInt32.ofNat n).toNat = n :=
  UInt32.toNat_ofNat_of_lt' (Nat.lt_of_le_of_lt h (by decide))

theorem toNat_toInt_le_maxPayload (n : Int32) : n.toInt.toNat ≤ Transport.maxPayload := by
  have := n.toInt_lt
  unfold Transport.maxPayload
  omega

/-! ## What can be seen of a plugin -/

/-- A staging buffer inside a linear memory. -/
structure Window where
  memory : LinearMemory
  offset : Int32
  capacity : Int32
  offset_nonneg : 0 ≤ offset.toInt
  capacity_pos : 0 < capacity.toInt
  fits : offset.toInt + capacity.toInt ≤ memory.size

namespace Window

/-- The index of the first byte of the buffer. -/
def start (window : Window) : Nat :=
  window.offset.toInt.toNat

/-- The number of bytes in the buffer. -/
def size (window : Window) : Nat :=
  window.capacity.toInt.toNat

theorem start_add_size_le (window : Window) : window.start + window.size ≤ window.memory.size := by
  have := window.offset_nonneg
  have := window.capacity_pos
  have := window.fits
  unfold start size
  omega

theorem size_le_maxPayload (window : Window) : window.size ≤ Transport.maxPayload :=
  toNat_toInt_le_maxPayload window.capacity

/-- The buffer after bytes have been written at its beginning. -/
def write (window : Window) (bytes : Bytes) : Window :=
  { window with
    memory := window.memory.put window.start bytes
    fits := by rw [LinearMemory.size_put]; exact window.fits }

@[simp] theorem start_write (window : Window) (bytes : Bytes) :
    (window.write bytes).start = window.start := rfl

@[simp] theorem size_write (window : Window) (bytes : Bytes) :
    (window.write bytes).size = window.size := rfl

@[simp] theorem memory_write (window : Window) (bytes : Bytes) :
    (window.write bytes).memory = window.memory.put window.start bytes := rfl

end Window

/-- What a plugin can be told to keep. -/
inductive Slot where
  | config (scope : Scope)
  | path

/-- The export that makes a plugin keep the shared bytes. -/
def Slot.callee : Slot → Export
  | config scope => scope.commitExport
  | path => .setFilePath

/-- The texts that a plugin keeps. -/
structure Kept where
  globalConfig : Option String
  pluginConfig : Option String
  path : Option String

/-- The kept texts after one more of them. -/
def Kept.put (kept : Kept) (text : String) : Slot → Kept
  | .config .global => { kept with globalConfig := some text }
  | .config .plugin => { kept with pluginConfig := some text }
  | .path => { kept with path := some text }

/-- What can be seen of a plugin. -/
structure PluginView where
  window : Window
  shared : Bytes
  /-- How many more bytes can be appended to the shared ones. -/
  room : Nat
  kept : Kept
  /-- What it has to report about the text formatted last. -/
  report : Bytes

/-! ## Conversations seen from outside -/

section Leads

variable {σ α β : Type} {view : σ → Option PluginView} {mishap : σ → Prop}

/-- Nothing ever slips. -/
def never : σ → Prop :=
  fun _ => False

/-- The conversation `x`, begun in `s`, answers, with `good` of the answer and of what is seen of
the plugin then; or it slips, with `lost` of what is seen. -/
def Leads (view : σ → Option PluginView) (mishap : σ → Prop) (x : Exchange σ α) (s : σ)
    (good : α → PluginView → Prop) (lost : PluginView → Prop) : Prop :=
  x.Ends s (fun value s' => ∃ p, view s' = some p ∧ good value p)
    (fun _ s' => mishap s' ∧ ∃ p, view s' = some p ∧ lost p)

namespace Leads

variable {x : Exchange σ α} {f : α → Exchange σ β} {s : σ}
variable {good good' : α → PluginView → Prop} {next : β → PluginView → Prop}
variable {lost lost' : PluginView → Prop}

theorem pure {value : α} {p : PluginView} (seen : view s = some p) (holds : good value p) :
    Leads view mishap (Pure.pure value) s good lost :=
  Exchange.Ends.pure ⟨p, seen, holds⟩

theorem mono (leads : Leads view mishap x s good lost)
    (better : ∀ value p, good value p → good' value p) (worse : ∀ p, lost p → lost' p) :
    Leads view mishap x s good' lost' := by
  refine Exchange.Ends.mono leads ?_ ?_
  · rintro value s' ⟨p, seen, holds⟩
    exact ⟨p, seen, better value p holds⟩
  · rintro failure s' ⟨slip, p, seen, holds⟩
    exact ⟨slip, p, seen, worse p holds⟩

/-- A conversation after another. -/
theorem andThen (first : Leads view mishap x s good lost)
    (second : ∀ value s' p, view s' = some p → good value p →
      Leads view mishap (f value) s' next lost')
    (worse : ∀ p, lost p → lost' p) : Leads view mishap (x >>= f) s next lost' := by
  refine Exchange.Ends.andThen first ?_ ?_
  · rintro value s' ⟨p, seen, holds⟩
    exact second value s' p seen holds
  · rintro failure s' ⟨slip, p, seen, holds⟩
    exact ⟨slip, p, seen, worse p holds⟩

/-- A loop whose turns come nearer to the end. -/
theorem loop {turn : Exchange.Turn σ β α} (inv : β → PluginView → Prop) (left : β → Nat)
    (step : ∀ start s p, view s = some p → inv start p →
      Leads view mishap (turn start) s (Exchange.Nearer inv left good start) lost)
    {start : β} {p : PluginView} (seen : view s = some p) (holds : inv start p) :
    Leads view mishap (Exchange.loop turn start) s good lost := by
  let held (start : β) (s : σ) : Prop := ∃ p, view s = some p ∧ inv start p
  have stepped (start : β) (s : σ) (before : held start s) : (turn start).Ends s
      (Exchange.Nearer held left (fun value s' => ∃ p, view s' = some p ∧ good value p) start)
      (fun _ s' => mishap s' ∧ ∃ p, view s' = some p ∧ lost p) := by
    obtain ⟨p, seen, holds⟩ := before
    refine Exchange.Ends.mono (step start s p seen holds) ?_ fun _ _ slipped => slipped
    rintro answer s' ⟨p', seen', nearer⟩
    cases answer with
    | inl next => exact ⟨⟨p', seen', nearer.1⟩, nearer.2⟩
    | inr value => exact ⟨p', seen', nearer⟩
  exact Exchange.Ends.loop held left stepped ⟨p, seen, holds⟩

/-- Where nothing slips, a conversation answers. -/
theorem exists_answer (leads : Leads view never x s good lost) :
    ∃ value s' p, x s = (.ok value, s') ∧ view s' = some p ∧ good value p := by
  obtain ⟨value, s', run, p, seen, holds⟩ :=
    Exchange.Ends.exists_answer leads fun _ _ slipped => slipped.1
  exact ⟨value, s', p, run, seen, holds⟩

theorem callUnit {guest : Guest σ} {callee : Export} {args : List Int32}
    {good : PluginView → Prop}
    (leads : Leads view mishap (guest.call callee args) s (fun _ p => good p) lost) :
    Leads view mishap (guest.callUnit callee args) s (fun _ p => good p) lost :=
  Guest.callUnit_ends leads

theorem callInt {guest : Guest σ} {callee : Export} {args : List Int32} {told : Int32}
    {good : PluginView → Prop}
    (leads : Leads view mishap (guest.call callee args) s
      (fun answer p => answer = some told ∧ good p) lost) :
    Leads view mishap (guest.callInt callee args) s (fun value p => value = told ∧ good p)
      lost := by
  refine Guest.callInt_ends (Exchange.Ends.mono leads ?_ fun _ _ slipped => slipped)
  rintro answer s' ⟨p, seen, given, holds⟩
  exact ⟨told, given, p, seen, rfl, holds⟩

end Leads

end Leads

/-! ## The laws -/

section Laws

variable {σ : Type}

/-- The laws of the shared bytes and the staging buffer. -/
structure SharesBytes (mishap : σ → Prop) (guest : Guest σ)
    (view : σ → Option PluginView) : Prop where
  /-- The plugin tells how much its staging buffer holds. -/
  capacity : ∀ s p, view s = some p →
    Leads view mishap (guest.call .stagingCapacity []) s
      (fun answer p' => answer = some p.window.capacity ∧ p' = p) (· = p)
  /-- The plugin tells where its staging buffer lies. -/
  offset : ∀ s p, view s = some p →
    Leads view mishap (guest.call .stagingOffset []) s
      (fun answer p' => answer = some p.window.offset ∧ p' = p) (· = p)
  /-- Memory can be read. -/
  read : ∀ s p, view s = some p → ∀ offset length : UInt32,
    offset.toNat + length.toNat ≤ p.window.memory.size →
    Leads view mishap (guest.read offset length) s
      (fun bytes p' => bytes = p.window.memory.slice offset.toNat length.toNat ∧ p' = p) (· = p)
  /-- What the staging buffer can hold can be written at its beginning. -/
  write : ∀ s p, view s = some p → ∀ (offset : UInt32) (bytes : Bytes),
    offset.toNat = p.window.start → bytes.length ≤ p.window.size →
    Leads view mishap (guest.write offset bytes) s
      (fun _ p' => p' = { p with window := p.window.write bytes }) (· = p)
  /-- Clearing empties the shared bytes, and makes room for the announced number of them. -/
  clear : ∀ s p, view s = some p → ∀ total : Int32, 0 ≤ total.toInt →
    Leads view mishap (guest.call .clearShared [total]) s
      (fun _ p' => p'.shared = [] ∧ total.toInt.toNat ≤ p'.room ∧ p'.kept = p.kept) (· = p)
  /-- Bytes at the beginning of the staging buffer are appended to the shared ones. -/
  append : ∀ s p, view s = some p → ∀ count : Int32, 0 ≤ count.toInt →
    count.toInt.toNat ≤ p.window.size → count.toInt.toNat ≤ p.room →
    Leads view mishap (guest.call .appendStaged [count]) s
      (fun _ p' => p'.shared = p.shared ++ p.window.memory.slice p.window.start count.toInt.toNat ∧
        p.room ≤ p'.room + count.toInt.toNat ∧ p'.kept = p.kept) (· = p)
  /-- A range of the shared bytes is copied to where the staging buffer is afterwards. -/
  stage : ∀ s p, view s = some p → ∀ start count : Int32, 0 ≤ start.toInt → 0 ≤ count.toInt →
    count.toInt.toNat ≤ p.window.size →
    start.toInt.toNat + count.toInt.toNat ≤ p.shared.length →
    Leads view mishap (guest.call .stageShared [start, count]) s
      (fun _ p' => p'.window.start + count.toInt.toNat ≤ p'.window.memory.size ∧
        p'.window.memory.slice p'.window.start count.toInt.toNat =
          (p.shared.drop start.toInt.toNat).take count.toInt.toNat ∧
        p'.shared = p.shared ∧ p'.kept = p.kept) (· = p)

/-- What a plugin makes of a text: a number with bytes to report, or a trap. -/
inductive Reply where
  | answered (code : Int32) (report : Bytes)
  | trapped (detail : String)

/-- A way to format: by the path, the texts of both configurations, and the text. -/
abbrev Formatter :=
  (path globalConfig pluginConfig text : String) → Reply

/-- The laws of a plugin that formats by a fixed function. -/
structure Conforms (mishap : σ → Prop) (guest : Guest σ) (view : σ → Option PluginView)
    (formatter : Formatter) : Prop extends SharesBytes mishap guest view where
  /-- Both configurations can be forgotten. -/
  reset : ∀ s p, view s = some p →
    Leads view mishap (guest.call .resetConfig []) s
      (fun _ p' => p'.kept = ⟨none, none, p.kept.path⟩) (· = p)
  /-- The shared bytes can be kept, if they are a text. -/
  keep : ∀ s p, view s = some p → ∀ slot text, p.shared = Utf8.encode text →
    Leads view mishap (guest.call (Slot.callee slot) []) s
      (fun _ p' => p'.kept = p.kept.put text slot) (· = p)
  /-- The shared bytes are formatted by what is kept, with a number as the answer; with some numbers
  goes a report.  A trap leaves anything at all in the shared bytes. -/
  format : ∀ s p, view s = some p → ∀ path globalConfig pluginConfig text,
    p.kept = ⟨some globalConfig, some pluginConfig, some path⟩ → p.shared = Utf8.encode text →
    (Utf8.encode text).length ≤ Transport.maxPayload →
    (guest.call .format []).Ends s
      (fun answer s' => ∃ code report p',
        formatter path globalConfig pluginConfig text = .answered code report ∧
        answer = some code ∧ view s' = some p' ∧
        (code = Verdict.formattedCode ∨ code = Verdict.erroredCode →
          p'.report = report ∧ report.length ≤ Transport.maxPayload))
      (fun failure s' =>
        (∃ detail p', formatter path globalConfig pluginConfig text = .trapped detail ∧
          failure = .execution Export.format.name detail ∧ view s' = some p') ∨
        (mishap s' ∧ view s' = some p))
  /-- Asked for the length of its report, the plugin has the report in the shared bytes. -/
  announce : ∀ s p, view s = some p → p.report.length ≤ Transport.maxPayload →
    ∀ callee, callee = .getFormattedText ∨ callee = .getErrorText →
    Leads view mishap (guest.call callee []) s
      (fun answer p' => answer = some (Int32.ofNat p.report.length) ∧ p'.shared = p.report) (· = p)

end Laws

end FormatterHost

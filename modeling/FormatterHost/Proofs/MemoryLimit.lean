import FormatterHost.Proofs.Growth
import FormatterHost.Proofs.Loading

/-!
# The memory limit

However a plugin is used, its memory stays within what the options grant and within what its module
declares, and it never shrinks.  A module that needs more to begin with is not brought to life.  The
runtime asks before memories grow, and the host itself only overwrites bytes.
-/

namespace FormatterHost

open Wasm (Instance Limits MemoryCell Runtime)

/-! ## What is permitted -/

/-- A size is within what the options grant and what a module declares, both in pages. -/
structure PluginOptions.Permits (options : PluginOptions) (own : Limits) (size : Nat) : Prop where
  configured : size ≤ options.maxMemoryPages.toNat * 65536
  declared : ∀ maximum, own.maximum = some maximum → size ≤ maximum * 65536

/-- The limit in bytes fits in a word, whatever number of pages is set. -/
theorem PluginOptions.maxMemoryBytes_lt (options : PluginOptions) :
    options.maxMemoryBytes < UInt64.size := by
  have pages : options.maxMemoryPages.toNat < UInt32.size := options.maxMemoryPages.toNat_lt
  have most : UInt32.size * pageSize ≤ UInt64.size := by decide
  exact Nat.lt_of_lt_of_le (Nat.mul_lt_mul_of_pos_right pages (by decide)) most

/-- The host agrees exactly to the sizes that are permitted.  A declared maximum for which a word
has no room is beyond the limit anyway. -/
theorem PluginOptions.memoryGrowing_iff {options : PluginOptions} {own : Limits} {size : Nat}
    (current : Nat) :
    options.storeLimits.memoryGrowing current size own.maximumBytes? = true ↔
      options.Permits own size := by
  rw [StoreLimits.memoryGrowing_iff]
  constructor
  · rintro ⟨granted, declared⟩
    refine ⟨granted, fun maximum stated => ?_⟩
    by_cases room : maximum * 65536 < UInt64.size
    · refine declared _ ?_
      rw [Limits.maximumBytes?, stated, Option.map_some, Option.filter_some]
      exact if_pos (decide_eq_true room)
    · exact Nat.le_trans (Nat.le_of_lt (Nat.lt_of_le_of_lt granted options.maxMemoryBytes_lt))
        (Nat.not_lt.1 room)
  · rintro ⟨configured, declared⟩
    refine ⟨configured, fun most same => ?_⟩
    obtain ⟨stated, -⟩ := Option.filter_eq_some_iff.1 same
    obtain ⟨maximum, found, rfl⟩ := Option.map_eq_some_iff.1 stated
    exact declared maximum found

namespace HostedPlugin

variable {runtime : Runtime}

/-! ## Using a plugin -/

/-- A plugin that may have come of another one: it has the same limits, and its instance has come of
that of the other. -/
structure Follows (plugin plugin' : HostedPlugin runtime) : Prop where
  memory : plugin'.memory = plugin.memory
  limits : plugin'.limits = plugin.limits
  live : plugin.live.Follows plugin.limits plugin'.live

theorem Follows.refl (plugin : HostedPlugin runtime) : plugin.Follows plugin :=
  ⟨rfl, rfl, .refl _⟩

theorem Follows.trans {plugin plugin' plugin'' : HostedPlugin runtime}
    (first : plugin.Follows plugin') (second : plugin'.Follows plugin'') :
    plugin.Follows plugin'' :=
  ⟨second.memory.trans first.memory, second.limits.trans first.limits,
    first.live.trans (first.limits ▸ second.live)⟩

/-- The plugin with another instance. -/
def withLive (plugin : HostedPlugin runtime) (live : Instance runtime.Rest) :
    HostedPlugin runtime :=
  { plugin with live }

theorem follows_withLive {plugin : HostedPlugin runtime} {live : Instance runtime.Rest}
    (follows : plugin.live.Follows plugin.limits live) : plugin.Follows (plugin.withLive live) :=
  ⟨rfl, rfl, follows⟩

theorem memorySize_of_getElem? {plugin : HostedPlugin runtime} {cell : MemoryCell}
    (found : plugin.live.memories[plugin.memory]? = some cell) :
    plugin.memorySize = cell.memory.size := by
  rw [memorySize, linearMemory, found]

/-- The memory never shrinks. -/
theorem Follows.memorySize_le {plugin plugin' : HostedPlugin runtime}
    (follows : plugin.Follows plugin') : plugin.memorySize ≤ plugin'.memorySize := by
  cases found : plugin.live.memories[plugin.memory]? with
  | none =>
      rw [memorySize, linearMemory, found]
      exact Nat.zero_le _
  | some cell =>
      obtain ⟨cell', found', follows'⟩ := follows.live.cells found
      rw [← follows.memory] at found'
      rw [memorySize_of_getElem? found, memorySize_of_getElem? found']
      exact follows'.grows

/-! ### Conversations with a plugin -/

/-- A conversation leaves a plugin that has come of the one that it began with. -/
def Evolves (runtime : Runtime) (α : Type) (x : Exchange (HostedPlugin runtime) α) : Prop :=
  ∀ plugin : HostedPlugin runtime, plugin.Follows (x plugin).2

theorem Evolves.ofExcept {α : Type} (outcome : Except Failure α) :
    Evolves runtime α (.ofExcept outcome) :=
  fun plugin => .refl plugin

theorem Evolves.bind {α β : Type} {x : Exchange (HostedPlugin runtime) α}
    {f : α → Exchange (HostedPlugin runtime) β} (first : Evolves runtime α x)
    (second : ∀ value, Evolves runtime β (f value)) : Evolves runtime β (x >>= f) :=
  Exchange.bind_keeps Follows.trans first second

theorem Evolves.mapFailure {α : Type} {x : Exchange (HostedPlugin runtime) α}
    (evolves : Evolves runtime α x) (g : Failure → Failure) :
    Evolves runtime α (x.mapFailure g) := by
  intro plugin
  have follows := evolves plugin
  rw [Exchange.mapFailure]
  split <;> rename_i run <;> rw [run] at follows <;> exact follows

theorem call_evolves (asks : runtime.AsksLimiter) (callee : Export) (args : List Int32) :
    Evolves runtime (Option Int32) (guest.call callee args) := by
  intro plugin
  cases looked : plugin.functions.lookup callee with
  | none =>
      have unchanged : (guest.call callee args plugin).2 = plugin := by
        simp only [guest, call, looked]
      rw [unchanged]
      exact .refl plugin
  | some function =>
      cases called : runtime.call plugin.limits.limiter function (args.map Wasm.Value.ofInt32)
          (if callee.hasResult then [.i32 0] else []) plugin.live with
      | mk outcome live =>
          have reached : runtime.Reaches plugin.limits.limiter plugin.live live := by
            have reaches := @asks.call plugin.limits.limiter function
              (args.map Wasm.Value.ofInt32) (if callee.hasResult then [.i32 0] else []) plugin.live
            rw [called] at reaches
            exact reaches
          have left : (guest.call callee args plugin).2 = plugin.withLive live := by
            simp only [guest, call, looked, called]
            cases outcome <;> rfl
          rw [left]
          exact follows_withLive (asks.follows reached)

theorem write_evolves (offset : UInt32) (bytes : Bytes) :
    Evolves runtime Unit (guest.write offset bytes) := by
  intro plugin
  cases written : plugin.linearMemory.write offset bytes with
  | ok memory =>
      obtain ⟨-, same⟩ := LinearMemory.eq_put_of_write written
      simp only [guest, written]
      refine ⟨rfl, rfl, .modify rfl fun cell found => MemoryCell.follows_of_bounds_eq ?_⟩
      rw [MemoryCell.bounds, MemoryCell.bounds, same, LinearMemory.size_put]
      exact congrArg (·, cell.maximum) (memorySize_of_getElem? found)
  | error failure =>
      simp only [guest, written]
      exact .refl plugin

theorem callInt_evolves (asks : runtime.AsksLimiter) (callee : Export) (args : List Int32) :
    Evolves runtime Int32 (guest.callInt callee args) := by
  refine (call_evolves asks callee args).bind fun answer => ?_
  cases answer with
  | none => exact .ofExcept (.error _)
  | some value => exact .ofExcept (.ok value)

theorem stagedLength_evolves (asks : runtime.AsksLimiter) (callee : Export) :
    Evolves runtime UInt32 (Verdict.stagedLength guest callee) := by
  refine (callInt_evolves asks callee []).bind fun length => ?_
  split
  · exact .ofExcept (.ok _)
  · exact .ofExcept (.error _)

theorem evolves_inherited (asks : runtime.AsksLimiter) : Inherited guest (Evolves runtime) where
  pure value := .ofExcept (.ok value)
  fail failure _ := .ofExcept (.error failure)
  bind := .bind
  pointwise runs plugin := by
    obtain ⟨y, evolves, same⟩ := runs plugin
    rw [same]
    exact evolves plugin
  callUnit callee args _ := (call_evolves asks callee args).bind fun _ => .ofExcept (.ok ())
  query :=
    (callInt_evolves asks _ _).bind fun _ => (callInt_evolves asks _ _).bind fun _ => .ofExcept _
  read _ _ plugin := .refl plugin
  write := write_evolves

theorem formatWith_evolves (asks : runtime.AsksLimiter) (request : Request) :
    Evolves runtime Output (formatWith guest request) :=
  (evolves_inherited asks).formatWith ((callInt_evolves asks _ _).mapFailure _)
    (fun callee _ => stagedLength_evolves asks callee) request

/-- However a plugin is used, it comes of the one that was loaded. -/
theorem Follows.of_used (asks : runtime.AsksLimiter) {loaded plugin : HostedPlugin runtime}
    (used : guest.Used loaded plugin) : loaded.Follows plugin := by
  induction used with
  | start => exact .refl loaded
  | call callee args _ ih => exact ih.trans (call_evolves asks callee args _)
  | read offset length _ ih => exact ih
  | write offset bytes _ ih => exact ih.trans (write_evolves offset bytes _)
  | request request _ ih => exact ih.trans (formatWith_evolves asks request _)

/-! ### In the midst of a call -/

/-- A plugin comes to this instance on the way from the start of a call to its end. -/
structure Amid (plugin : HostedPlugin runtime) (callee : Export) (args : List Int32)
    (live : Instance runtime.Rest) : Prop where
  reached : runtime.Reaches plugin.limits.limiter plugin.live live
  goesOn : runtime.Reaches plugin.limits.limiter live (guest.call callee args plugin).2.live

theorem Amid.follows (asks : runtime.AsksLimiter) {plugin : HostedPlugin runtime}
    {callee : Export} {args : List Int32} {live : Instance runtime.Rest}
    (amid : plugin.Amid callee args live) : plugin.Follows (plugin.withLive live) :=
  follows_withLive (asks.follows amid.reached)

/-- What a call leaves has come of every instance on the way. -/
theorem Amid.call_follows (asks : runtime.AsksLimiter) {plugin : HostedPlugin runtime}
    {callee : Export} {args : List Int32} {live : Instance runtime.Rest}
    (amid : plugin.Amid callee args live) :
    (plugin.withLive live).Follows (guest.call callee args plugin).2 := by
  have whole := call_evolves asks callee args plugin
  exact ⟨whole.memory, whole.limits, asks.follows amid.goesOn⟩

/-! ## The limit -/

variable {bytes : Bytes} {options : PluginOptions} {engine : runtime.Engine} {m : runtime.Module}
variable {loaded : HostedPlugin runtime}

/-- A plugin that has been loaded is a module that has been brought to life, with the limits of the
options, the index of a memory, and functions that have been resolved. -/
theorem of_ofBytes (creates : runtime.createEngine options.engineSettings = .ok engine)
    (compiles : runtime.compile engine bytes = .ok m)
    (loads : ofBytes runtime bytes options = .ok loaded) :
    instantiate engine m options = .ok loaded.live ∧ loaded.limits = options.storeLimits ∧
      runtime.memory? loaded.live Export.memoryName = some loaded.memory ∧
      ∀ callee, ∃ function, loaded.functions.lookup callee = some function ∧
        resolveIn loaded.live callee = .ok function := by
  cases instantiates : instantiate engine m options with
  | error detail =>
      simp only [ofBytes, creates, compiles, instantiates] at loads
      cases loads
  | ok live =>
      rw [ofBytes_eq creates compiles instantiates] at loads
      obtain ⟨rfl, limits, found, functions⟩ := of_ofInstance loads
      exact ⟨rfl, limits, found, functions⟩

/-- A memory that is kept within its limits is permitted to be as large as it is. -/
theorem permits_memorySize {plugin : HostedPlugin runtime} {declared : List Limits} {own : Limits}
    (keeps : plugin.live.Keeps options.storeLimits declared)
    (stated : declared[plugin.memory]? = some own) : options.Permits own plugin.memorySize := by
  obtain ⟨cell, found, maximum, obeys⟩ := keeps.cells stated
  rw [memorySize_of_getElem? found]
  refine (PluginOptions.memoryGrowing_iff 0).1 ?_
  rw [← maximum]
  exact StoreLimits.memoryGrowing_iff.2 ⟨obeys.granted, obeys.declared⟩

/-- Growing beyond what is permitted changes no memory. -/
theorem memories_eq_of_not_permits (asks : runtime.AsksLimiter) {plugin : HostedPlugin runtime}
    {declared : List Limits} {own : Limits} {extra : Nat} {next : Instance runtime.Rest}
    (keeps : plugin.live.Keeps options.storeLimits declared)
    (stated : declared[plugin.memory]? = some own)
    (stepped :
      runtime.Step options.storeLimits.limiter plugin.live (.grow plugin.memory extra) next)
    (exceeds : ¬ options.Permits own (plugin.memorySize + extra * 65536)) :
    next.memories = plugin.live.memories := by
  refine asks.memories_eq_of_refused stepped fun cell found => ?_
  obtain ⟨cell', found', maximum, -⟩ := keeps.cells stated
  cases found.symm.trans found'
  rw [memorySize_of_getElem? found, ← PluginOptions.memoryGrowing_iff cell.memory.size,
    ← maximum] at exceeds
  exact Bool.eq_false_iff.2 exceeds

/-- On a runtime that asks the limiter, the memory of a plugin that has been loaded is never larger
than the options and its module permit, in the midst of a call or between calls, and it never
shrinks.  Growing beyond that changes no memory, and a module that needs more to begin with is not
brought to life. -/
theorem ofBytes_limits_memory (links : runtime.LinksExports) (asks : runtime.AsksLimiter)
    (creates : runtime.createEngine options.engineSettings = .ok engine)
    (compiles : runtime.compile engine bytes = .ok m) :
    (∀ own ∈ runtime.memoryTypes m,
      options.maxMemoryPages.toNat * 65536 < own.minimum * 65536 →
        ∃ detail, ofBytes runtime bytes options = .error (.instantiation detail)) ∧
    ∀ loaded, ofBytes runtime bytes options = .ok loaded →
      ∃ own, (Export.memoryName, .memory own) ∈ runtime.exports m ∧
        ∀ plugin, guest.Used loaded plugin →
          options.Permits own plugin.memorySize ∧
          (∀ later, guest.Used plugin later → plugin.memorySize ≤ later.memorySize) ∧
          ∀ callee args live, plugin.Amid callee args live →
            options.Permits own (plugin.withLive live).memorySize ∧
            plugin.memorySize ≤ (plugin.withLive live).memorySize ∧
            (plugin.withLive live).memorySize ≤ (guest.call callee args plugin).2.memorySize ∧
            ∀ extra next,
              runtime.Step plugin.limits.limiter live (.grow plugin.memory extra) next →
              ¬ options.Permits own ((plugin.withLive live).memorySize + extra * 65536) →
              next.memories = live.memories := by
  constructor
  · intro own mem large
    cases instantiates : instantiate engine m options with
    | error detail => exact ⟨detail, by simp only [ofBytes, creates, compiles, instantiates]⟩
    | ok live =>
        obtain ⟨linker, brings⟩ := exists_of_instantiate instantiates
        obtain ⟨agreed, -⟩ := asks.create brings
        have permits := (PluginOptions.memoryGrowing_iff 0).1 (agreed own mem)
        exact absurd permits.configured (Nat.not_le.2 large)
  · intro loaded loads
    obtain ⟨instantiates, limits, found, -⟩ := of_ofBytes creates compiles loads
    obtain ⟨linker, brings⟩ := exists_of_instantiate instantiates
    obtain ⟨own, exported, stated⟩ := links.exported brings found
    refine ⟨own, exported, fun plugin used => ?_⟩
    have follows := Follows.of_used asks used
    have limits' : plugin.limits = options.storeLimits := follows.limits.trans limits
    have keeps := (asks.keeps brings).of_follows (limits ▸ follows.live)
    rw [← follows.memory] at stated
    refine ⟨permits_memorySize keeps stated,
      fun later used' => (Follows.of_used asks used').memorySize_le, ?_⟩
    intro callee args live amid
    have keeps' : (plugin.withLive live).live.Keeps options.storeLimits (runtime.memoryTypes m) :=
      keeps.of_follows (limits' ▸ (amid.follows asks).live)
    refine ⟨permits_memorySize keeps' stated,
      (amid.follows asks).memorySize_le, (amid.call_follows asks).memorySize_le, ?_⟩
    intro extra next stepped exceeds
    exact memories_eq_of_not_permits asks keeps' stated (limits' ▸ stepped) exceeds

end HostedPlugin

/-! ### A plugin whose memory grows -/

namespace WasmPlugin

open Wasm (Limiter Store)

/-- The growing plugin between calls, with its limits and its store. -/
structure Growing (limits : StoreLimits) (plugin : WasmPlugin) (store : Store) : Prop where
  memory : plugin.memory = 0
  limits : plugin.limits = limits
  looked : plugin.functions.lookup .format = some ⟨4, ⟨[], [.i32]⟩⟩
  live : plugin.live = .ofStore growingModule store

theorem exportedIndex?_growing {kind : Wasm.ItemKind} {name : String} {index : Nat}
    (mem : ⟨name, kind, index⟩ ∈ growingModule.exports) :
    growingModule.exportedIndex? kind name = some index :=
  Wasm.Module.exportedIndex?_of_mem (Wasm.Module.hasDistinctExports_of_isValid isValid_growing) mem

theorem resolveIn_growing :
    @HostedPlugin.resolveIn Wasm.engine growingLive .format = .ok ⟨4, ⟨[], [.i32]⟩⟩ := by
  have index : growingModule.exportedIndex? .function Export.format.name = some 4 :=
    exportedIndex?_growing (List.mem_cons_of_mem _ (List.mem_map.2 ⟨.format, by decide, rfl⟩))
  have found : Wasm.engine.function? growingLive Export.format.name =
      some ⟨4, ⟨[], [.i32]⟩⟩ := by
    simp only [Wasm.engine, Instance.function?, growingLive, Instance.ofStore, index]
    rfl
  simp only [HostedPlugin.resolveIn, found]
  rfl

theorem exists_growing {options : PluginOptions} (roomy : 65536 ≤ options.maxMemoryBytes) :
    ∃ loaded, ofBytes growing options = .ok loaded ∧
      Growing options.storeLimits loaded ⟨[.fresh ⟨1, some 3⟩], []⟩ := by
  have instantiates := instantiate_growing roomy
  obtain ⟨loaded, loads⟩ := exists_ofBytes_growing roomy
  obtain ⟨lives, limits, memory, functions⟩ :=
    HostedPlugin.of_ofBytes rfl (compile_growing _) loads
  have live : loaded.live = growingLive := Except.ok.inj (lives.symm.trans instantiates)
  rw [live] at memory functions
  have first : growingModule.exportedIndex? .memory Export.memoryName = some 0 :=
    exportedIndex?_growing List.mem_cons_self
  obtain ⟨function, looked, resolved⟩ := functions .format
  cases resolveIn_growing.symm.trans resolved
  exact ⟨loaded, loads, Option.some.inj (memory.symm.trans first), limits, looked, live⟩

variable {limits : StoreLimits} {plugin : WasmPlugin} {store : Store}

/-- Formatting grows the memory by a page, if the limiter agrees. -/
theorem call_format (growing : Growing limits plugin store) :
    guest.call .format [] plugin =
      let (answer, store) := store.growMemory limits.limiter 1
      (.ok (some answer.toInt32), plugin.withLive (.ofStore growingModule store)) := by
  obtain ⟨-, rfl, looked, live⟩ := growing
  simp only [guest, HostedPlugin.guest, HostedPlugin.call, looked, live]
  rfl

/-- The plugin in the midst of formatting, when the memory is about to grow. -/
def aboutToGrow (store : Store) : Instance Wasm.Machine :=
  (Instance.ofStore growingModule store).withStore store [⟨[.memoryGrow], [.i32 1], [], [], 1⟩]

theorem exists_step_aboutToGrow (limiter : Limiter) (store : Store) :
    ∃ next, Wasm.engine.Step limiter (aboutToGrow store) (.grow 0 1) next :=
  ⟨_, @Instance.Step.next limiter (aboutToGrow store) ⟨[.memoryGrow], [.i32 1], [], [], 1⟩ [] rfl⟩

theorem amid_aboutToGrow (growing : Growing limits plugin store) :
    plugin.Amid .format [] (aboutToGrow store) := by
  let limiter := limits.limiter
  let idle := Instance.ofStore growingModule store
  have entered : Wasm.engine.Reaches limiter idle
      (idle.withStore store [.ofCall growingFormat []]) :=
    Instance.reaches_of_step (.enter growingFormat [] rfl)
  have pushed : Wasm.engine.Reaches limiter (idle.withStore store [.ofCall growingFormat []])
      (aboutToGrow store) :=
    Instance.reaches_of_step (@Instance.Step.next limiter
      (idle.withStore store [.ofCall growingFormat []]) (.ofCall growingFormat []) [] rfl)
  have rest : Wasm.engine.Reaches limiter (aboutToGrow store)
      (guest.call .format [] plugin).2.live := by
    rw [call_format growing]
    exact Instance.reaches_run limiter idle 2 store _
  constructor
  · rw [growing.live, growing.limits]
    exact entered.trans pushed
  · rw [growing.limits]
    exact rest

theorem memorySize_growing (growing : Growing limits plugin store) {cell : MemoryCell}
    (first : store.memories[0]? = some cell) : plugin.memorySize = cell.memory.size := by
  refine HostedPlugin.memorySize_of_getElem? ?_
  rw [growing.live, growing.memory]
  exact first

theorem memorySize_aboutToGrow (growing : Growing limits plugin store) :
    (plugin.withLive (aboutToGrow store)).memorySize = plugin.memorySize := by
  simp only [HostedPlugin.memorySize, HostedPlugin.linearMemory, growing.live]
  rfl

/-- The memory of the plugin when it is loaded. -/
def onePageStore : Store :=
  ⟨[.fresh ⟨1, some 3⟩], []⟩

/-- The memory of the plugin when it has grown. -/
def twoPageStore : Store :=
  ⟨[(MemoryCell.fresh ⟨1, some 3⟩).grow 1], []⟩

/-- The options that grant two pages. -/
def grantsTwo : PluginOptions :=
  { maxMemoryPages := 2 }

/-- With two pages granted, formatting makes the memory grow once, and then no more. -/
theorem call_format_twice (growing : Growing grantsTwo.storeLimits plugin onePageStore) :
    ∃ grown, guest.call .format [] plugin = (.ok (some 1), grown) ∧
      Growing grantsTwo.storeLimits grown twoPageStore ∧
      guest.call .format [] grown = (.ok (some (-1)), grown) := by
  have once : onePageStore.growMemory grantsTwo.storeLimits.limiter 1 = (1, twoPageStore) := by rfl
  have again : twoPageStore.growMemory grantsTwo.storeLimits.limiter 1 = (0 - 1, twoPageStore) := by
    rfl
  have growing' : Growing grantsTwo.storeLimits
      (plugin.withLive (.ofStore growingModule twoPageStore)) twoPageStore :=
    ⟨growing.memory, growing.limits, growing.looked, rfl⟩
  refine ⟨_, ?_, growing', ?_⟩
  · rw [call_format growing, once]
    rfl
  · rw [call_format growing', again]
    rfl

/-- With two pages the memory of the plugin grows once.  Growing again is refused in the midst of a
call, and nothing comes of it.  Without any pages the plugin is not brought to life. -/
theorem ofBytes_limits_memory_growing :
    Wasm.engine.LinksExports ∧ Wasm.engine.AsksLimiter ∧
      (∃ detail, ofBytes growing { maxMemoryPages := 0 } = .error (.instantiation detail)) ∧
      ∃ loaded grown, ofBytes growing grantsTwo = .ok loaded ∧ loaded.memorySize = 65536 ∧
        guest.call .format [] loaded = (.ok (some 1), grown) ∧ grown.memorySize = 131072 ∧
        guest.call .format [] grown = (.ok (some (-1)), grown) ∧
        (∃ live next, grown.Amid .format [] live ∧
          Wasm.engine.Step grown.limits.limiter live (.grow grown.memory 1) next ∧
          next.memories = live.memories) ∧
        ∀ plugin, guest.Used loaded plugin → plugin.memorySize ≤ 131072 := by
  have roomy : 65536 ≤ grantsTwo.maxMemoryBytes := by decide
  obtain ⟨loaded, loads, growing⟩ := exists_growing roomy
  obtain ⟨grown, called, growing', refused⟩ := call_format_twice growing
  have size : loaded.memorySize = 65536 := memorySize_growing growing rfl
  have size' : grown.memorySize = 131072 := memorySize_growing growing' rfl
  have used : guest.Used loaded grown := by
    have used : guest.Used loaded (guest.call .format [] loaded).2 := .call .format [] .start
    rw [called] at used
    exact used
  obtain ⟨next, stepped⟩ := exists_step_aboutToGrow grown.limits.limiter twoPageStore
  rw [← growing'.memory] at stepped
  have law (options : PluginOptions) := HostedPlugin.ofBytes_limits_memory
    Wasm.engine_linksExports Wasm.engine_asksLimiter rfl (compile_growing options.engineSettings)
  obtain ⟨own, -, bounds⟩ := (law grantsTwo).2 loaded loads
  have amid := amid_aboutToGrow growing'
  obtain ⟨-, -, -, refuses⟩ := (bounds grown used).2.2 .format [] _ amid
  refine ⟨Wasm.engine_linksExports, Wasm.engine_asksLimiter, ?_, loaded, grown, loads, size, called,
    size', refused, ⟨_, next, amid, stepped, refuses 1 next stepped fun permits => ?_⟩, ?_⟩
  · exact (law { maxMemoryPages := 0 }).1 ⟨1, some 3⟩ List.mem_cons_self (by decide)
  · rw [memorySize_aboutToGrow growing', size'] at permits
    exact absurd permits.configured (by decide)
  · exact fun plugin used => (bounds plugin used).1.configured

end WasmPlugin

end FormatterHost

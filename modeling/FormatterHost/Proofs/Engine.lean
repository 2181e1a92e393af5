import Mathlib.Data.List.Nodup
import FormatterHost.Proofs.Runtime
import FormatterHost.Wasm.Engine

/-!
# The engine keeps the laws

The engine is a runtime that a host can rely on.  Its instances export what their modules do, its
calls give values of the types declared, and its machine asks the limiter before a memory grows: of
the store, every other instruction changes the contents of memories and the globals only.
-/

namespace FormatterHost.Wasm

/-! ## Exports -/

namespace Module

variable {m : Module}

theorem export?_eq_some_iff (distinct : m.hasDistinctExports = true) {name : String}
    {item : Exported} : m.export? name = some item ↔ item ∈ m.exports ∧ item.name = name := by
  have nodup : (m.exports.map (·.name)).Nodup := of_decide_eq_true distinct
  have named {other : Exported} (found : m.export? name = some other) :
      other ∈ m.exports ∧ other.name = name := by
    rw [export?] at found
    exact ⟨List.mem_of_find?_eq_some found, by simpa using List.find?_some found⟩
  refine ⟨named, fun ⟨mem, same⟩ => ?_⟩
  cases found : m.export? name with
  | none => exact absurd (beq_iff_eq.2 same) (List.find?_eq_none.1 found item mem)
  | some other =>
      obtain ⟨mem', same'⟩ := named found
      rw [List.inj_on_of_nodup_map nodup mem' mem (same'.trans same.symm)]

/-- An item is looked up by its name, and used if it is of the right kind. -/
theorem exportedIndex?_eq_some_iff (distinct : m.hasDistinctExports = true) {kind : ItemKind}
    {name : String} {index : Nat} : m.exportedIndex? kind name = some index ↔
      ∃ item ∈ m.exports, item.name = name ∧ item.kind = kind ∧ item.index = index := by
  rw [exportedIndex?]
  constructor
  · intro found
    split at found
    · rename_i item exported
      obtain ⟨mem, same⟩ := (export?_eq_some_iff distinct).1 exported
      split at found
      · exact ⟨item, mem, same, ‹_›, Option.some.inj found⟩
      · cases found
    · cases found
  · rintro ⟨item, mem, same, rfl, rfl⟩
    rw [(export?_eq_some_iff distinct).2 ⟨mem, same⟩]
    exact if_pos rfl

theorem hasDistinctExports_of_isValid (valid : m.isValid = true) : m.hasDistinctExports = true := by
  simp only [isValid, Bool.and_eq_true] at valid
  exact valid.1.1.2

theorem isExportValid_of_isValid (valid : m.isValid = true) {item : Exported}
    (mem : item ∈ m.exports) : m.isExportValid item = true := by
  simp only [isValid, Bool.and_eq_true] at valid
  exact List.all_eq_true.1 valid.1.1.1.2 item mem

theorem mem_externs_iff {name : String} {type : ExternType} :
    (name, type) ∈ m.externs ↔ ∃ item ∈ m.exports, item.name = name ∧ m.externType item = type := by
  simp only [externs, List.mem_map, Prod.mk.injEq]

/-- An item of a kind is found if one is exported. -/
theorem exportedIndex?_of_mem (distinct : m.hasDistinctExports = true) {item : Exported}
    (mem : item ∈ m.exports) : m.exportedIndex? item.kind item.name = some item.index :=
  (exportedIndex?_eq_some_iff distinct).2 ⟨item, mem, rfl, rfl, rfl⟩

theorem kind_of_externType_eq_memory {item : Exported} {limits : Limits}
    (type : m.externType item = .memory limits) : item.kind = .memory := by
  rw [externType] at type
  split at type <;> first | assumption | cases type

/-- An exported memory is found by its name. -/
theorem exportedIndex?_of_mem_externs (valid : m.isValid = true) {name : String} {limits : Limits}
    (mem : (name, .memory limits) ∈ m.externs) :
    ∃ index, m.exportedIndex? .memory name = some index := by
  obtain ⟨item, exported, rfl, type⟩ := mem_externs_iff.1 mem
  rw [← kind_of_externType_eq_memory type]
  exact ⟨_, exportedIndex?_of_mem (hasDistinctExports_of_isValid valid) exported⟩

/-- What is found is a memory that is exported with the limits declared for it. -/
theorem mem_externs_of_exportedIndex? (valid : m.isValid = true) {name : String} {index : Nat}
    (found : m.exportedIndex? .memory name = some index) :
    ∃ limits, (name, .memory limits) ∈ m.externs ∧ m.memoryLimits[index]? = some limits := by
  have distinct := hasDistinctExports_of_isValid valid
  obtain ⟨item, mem, rfl, kind, rfl⟩ := (exportedIndex?_eq_some_iff distinct).1 found
  have inRange := isExportValid_of_isValid valid mem
  simp only [isExportValid, kind, decide_eq_true_eq] at inRange
  have declared : m.memoryLimits[item.index]? = some _ := List.getElem?_eq_getElem inRange
  refine ⟨_, mem_externs_iff.2 ⟨item, mem, rfl, ?_⟩, declared⟩
  simp only [externType, kind, List.getD_eq_getElem?_getD, declared, Option.getD_some]

/-- The functions among the exports, with their types. -/
theorem mem_externs_function_iff (valid : m.isValid = true) {name : String} {type : FunctionType} :
    (name, .function type) ∈ m.externs ↔ ∃ index, m.exportedIndex? .function name = some index ∧
      m.functionTypes.getD index {} = type := by
  have distinct := hasDistinctExports_of_isValid valid
  rw [mem_externs_iff]
  constructor
  · rintro ⟨item, mem, same, found⟩
    cases kind : item.kind with
    | function =>
        simp only [externType, kind, ExternType.function.injEq] at found
        exact ⟨item.index, (exportedIndex?_eq_some_iff distinct).2 ⟨item, mem, same, kind, rfl⟩,
          found⟩
    | _ => simp [externType, kind] at found
  · rintro ⟨index, found, rfl⟩
    obtain ⟨item, mem, same, kind, rfl⟩ := (exportedIndex?_eq_some_iff distinct).1 found
    exact ⟨item, mem, same, by simp only [externType, kind]⟩

end Module

/-- How a module is brought to life: its memories are created, its data is placed in them, and the
function to start with, if there is one, has been called. -/
theorem Instance.exists_of_create {m : Module} {stubs : Bool} {limiter : Limiter}
    {live : Instance Machine} (creates : create m stubs limiter = .ok live) :
    m.unmetImport? stubs = none ∧ ∃ cells store,
      m.memories.mapM (createMemory limiter) = some cells ∧
      placeSegments ⟨cells, m.globals.map (·.initial)⟩ m.segments = some store ∧
      (live = .ofStore m store ∨ ∃ index, m.start = some index ∧
        live = .ofStore m (invoke limiter m.callables store index []).2) := by
  rw [create] at creates
  split at creates
  · cases creates
  · rename_i met
    split at creates
    · cases creates
    · rename_i cells created
      split at creates
      · split at creates
        · cases creates
        · rename_i store placed
          refine ⟨met, cells, store, created, placed, ?_⟩
          split at creates
          · cases creates
            exact .inl rfl
          · rename_i index starts
            split at creates
            · rename_i ran
              cases creates
              exact .inr ⟨index, starts, by rw [ran]⟩
            · cases creates
      · cases creates

/-- What is brought to life is the module. -/
theorem Instance.source_of_create {m : Module} {stubs : Bool} {limiter : Limiter}
    {live : Instance Machine} (creates : create m stubs limiter = .ok live) :
    live.rest.source = m := by
  obtain ⟨-, _, _, -, -, rfl | ⟨_, -, rfl⟩⟩ := exists_of_create creates
  · rfl
  · rfl

/-- What the engine brings to life is an instance of the module. -/
theorem create_of_instantiate {linker : StubLinker} {limiter : Limiter} {m : ValidModule}
    {live : Instance Machine} (instantiates : engine.instantiate linker limiter m = .ok live) :
    Instance.create m.1 linker.stubs limiter = .ok live := by
  simp only [engine] at instantiates
  cases creates : Instance.create m.1 linker.stubs limiter with
  | error fault =>
      rw [creates] at instantiates
      cases instantiates
  | ok live' =>
      rw [creates] at instantiates
      cases instantiates
      rfl

theorem engine_linksExports : engine.LinksExports where
  memory := by
    intro linker limiter m live instantiates name limits
    have source := Instance.source_of_create (create_of_instantiate instantiates)
    simp only [engine, source]
    exact Module.exportedIndex?_of_mem_externs m.2
  exported := by
    intro linker limiter m live instantiates name index
    have source := Instance.source_of_create (create_of_instantiate instantiates)
    simp only [engine, source]
    exact Module.mem_externs_of_exportedIndex? m.2
  function := by
    intro linker limiter m live instantiates name type
    have source := Instance.source_of_create (create_of_instantiate instantiates)
    simp only [engine, Instance.function?, source, Option.map_eq_some_iff]
    rw [Module.mem_externs_function_iff m.2]
    constructor
    · rintro ⟨index, found, same⟩
      exact ⟨_, ⟨index, found, rfl⟩, same⟩
    · rintro ⟨_, ⟨index, found, rfl⟩, same⟩
      exact ⟨index, found, same⟩

/-! ## Results -/

theorem FunctionType.map_type_of_outcome {type : FunctionType} {result : RunResult}
    {values : List Value} (returned : type.outcome result = .ok values) :
    values.map Value.type = type.results := by
  cases result with
  | finished results =>
      rw [outcome] at returned
      split at returned
      · cases returned
        assumption
      · cases returned
  | trapped => cases returned
  | exhausted => cases returned

theorem engine_returnsDeclared : engine.ReturnsDeclared := by
  intro limiter function params places live values live' called
  simp only [engine, Instance.call] at called
  split at called
  · cases called
  · exact FunctionType.map_type_of_outcome (congrArg Prod.fst called)

/-! ## Steps -/

namespace Store

variable {store store' : Store}

/-- The bounds of the memories. -/
def bounds (store : Store) : List (Nat × Option Nat) :=
  store.memories.map MemoryCell.bounds

theorem bounds_setMemory (store : Store) {memory : LinearMemory}
    (same : memory.size = store.memory.size) : (store.setMemory memory).bounds = store.bounds := by
  obtain ⟨memories, globals⟩ := store
  cases memories with
  | nil => rfl
  | cons cell cells =>
      change memory.size = cell.memory.size at same
      simp only [bounds, setMemory, List.map_cons, MemoryCell.bounds, same]

/-- Bytes are put into a memory without another size. -/
theorem bounds_of_putBytes? {start : Nat} {bytes : Bytes}
    (put : store.putBytes? start bytes = some store') : store'.bounds = store.bounds := by
  rw [putBytes?] at put
  split at put
  · cases put
    exact store.bounds_setMemory (LinearMemory.size_put _ _ _)
  · cases put

/-- What an act can do to a store. -/
inductive Changes (limiter : Limiter) (store : Store) : Act → Store → Prop where
  | work {store' : Store} (same : store'.bounds = store.bounds) : Changes limiter store .work store'
  | grow (extra : UInt32) :
      Changes limiter store (.grow 0 extra.toNat) (store.growMemory limiter extra).2

end Store

/-- The store that a step leaves. -/
def StepResult.store : StepResult → Store
  | running store _ => store
  | finished store _ => store
  | trapped store => store

section Machine

variable {limiter : Limiter} {functions : List Callable} {store store' : Store}
variable {activation : Activation} {callers activations : List Activation}

theorem store_finish (activation : Activation) (store : Store) (operands : List Value)
    (callers : List Activation) : (activation.finish store operands callers).store = store := by
  cases callers <;> rfl

theorem store_branch (activation : Activation) (store : Store) (operands : List Value)
    (depth : Nat) (callers : List Activation) :
    (activation.branch store operands depth callers).store = store := by
  rw [Activation.branch]
  split
  · rfl
  · exact store_finish _ _ _ _

theorem store_callFunction (functions : List Callable) (store : Store) (activation : Activation)
    (code : List Instruction) (operands : List Value) (index : Nat) (callers : List Activation) :
    (callFunction functions store activation code operands index callers).store = store := by
  rw [callFunction]
  split
  · split <;> rfl
  · rfl

/-- An instruction that has an effect, or traps, keeps the bounds if its effect does. -/
theorem bounds_of_effect {outcome : Option Store} {activations : List Activation}
    (same : ∀ store', outcome = some store' → store'.bounds = store.bounds) :
    (match outcome with
      | some store' => StepResult.running store' activations
      | none => StepResult.trapped store).store.bounds = store.bounds := by
  cases outcome with
  | none => rfl
  | some store' => exact same store' rfl

theorem bounds_of_copyBytes? {target source count : Nat}
    (copied : store.copyBytes? target source count = some store') :
    store'.bounds = store.bounds := by
  rw [Store.copyBytes?] at copied
  split at copied
  · exact Store.bounds_of_putBytes? copied
  · cases copied

/-- Every act but growth keeps the bounds of the memories. -/
theorem bounds_step_of_work (act : activation.act = .work) :
    (step limiter functions store activation callers).store.bounds = store.bounds := by
  unfold step
  split
  · split
    · rfl
    · rw [store_finish]
  · rename_i instruction code next
    dsimp only
    -- Most instructions only go on with other code and operands.  What follows are the others:
    -- leaving, the two branches, calls, loads, stores, growing and copying.
    split <;> try rfl
    · rw [store_finish]
    · rw [store_branch]
    · split
      · rw [store_branch]
      · rfl
    · rw [store_callFunction]
    · split <;> rfl
    · exact bounds_of_effect fun _ put => Store.bounds_of_putBytes? put
    · rename_i extra operands top
      rw [Activation.act, next, top] at act
      cases act
    · exact bounds_of_effect fun _ copied => bounds_of_copyBytes? copied

/-- Growth is asked for by one instruction, with its operand. -/
theorem act_eq_grow {index extra : Nat} (act : activation.act = .grow index extra) :
    ∃ code value operands, activation.code = .memoryGrow :: code ∧
      activation.operands = value :: operands ∧ index = 0 ∧ extra = value.word.toNat := by
  rw [Activation.act] at act
  split at act
  · rename_i code value operands next top
    cases act
    exact ⟨code, value, operands, next, top, rfl, rfl⟩
  · cases act

/-- Every step changes the store as its act allows. -/
theorem step_changes (limiter : Limiter) (functions : List Callable) (store : Store)
    (activation : Activation) (callers : List Activation) :
    store.Changes limiter activation.act
      (step limiter functions store activation callers).store := by
  cases act : activation.act with
  | work => exact .work (bounds_step_of_work act)
  | grow index extra =>
      obtain ⟨code, value, operands, next, top, rfl, rfl⟩ := act_eq_grow act
      have grown : (step limiter functions store activation callers).store =
          (store.growMemory limiter value.word).2 := by
        simp only [step, next, top, StepResult.store]
      rw [grown]
      exact .grow value.word

end Machine

/-- A memory grows with the consent of the limiter. -/
theorem MemoryCell.of_grow? {cell cell' : MemoryCell} {limiter : Limiter} {extra : Nat}
    (grown : cell.grow? limiter extra = some cell') :
    limiter.memoryGrowing cell.memory.size (cell.memory.size + extra * pageBytes)
      cell.maximum = true ∧ cell' = cell.grow extra := by
  simp only [grow?] at grown
  split at grown
  · rename_i admitted
    cases grown
    simp only [Bool.and_eq_true] at admitted
    exact ⟨admitted.1.1, rfl⟩
  · cases grown

/-- The store stays as it is, or its memory grows with the consent of the limiter. -/
theorem Store.growMemory_cases (limiter : Limiter) (store : Store) (extra : UInt32) :
    (store.growMemory limiter extra).2.memories = store.memories ∨
      ∃ cell, store.memories[0]? = some cell ∧
        limiter.memoryGrowing cell.memory.size (cell.memory.size + extra.toNat * pageBytes)
          cell.maximum = true ∧
        (store.growMemory limiter extra).2.memories =
          store.memories.modify 0 (·.grow extra.toNat) := by
  obtain ⟨memories, globals⟩ := store
  cases memories with
  | nil => exact .inl rfl
  | cons cell cells =>
      simp only [growMemory]
      cases grown : cell.grow? limiter extra.toNat with
      | none => exact .inl rfl
      | some cell' =>
          obtain ⟨agreed, rfl⟩ := MemoryCell.of_grow? grown
          exact .inr ⟨cell, rfl, agreed, rfl⟩

namespace Instance

variable {limiter : Limiter} {live next : Instance Machine}

theorem memories_after (live : Instance Machine) (result : StepResult) :
    (live.after result).memories = result.store.memories := by
  cases result <;> rfl

/-- A step changes the memories of an instance as its act allows. -/
theorem Step.changes {act : Act} (stepped : Step limiter live act next) :
    ∃ store, live.store.Changes limiter act store ∧ next.memories = store.memories := by
  cases stepped with
  | place idle mem placed => exact ⟨_, .work (Store.bounds_of_putBytes? placed), rfl⟩
  | enter function arguments idle => exact ⟨live.store, .work rfl, rfl⟩
  | next top => exact ⟨_, step_changes _ _ _ _ _, live.memories_after _⟩
  | abandon => exact ⟨live.store, .work rfl, rfl⟩

/-! ## Runs -/

/-- One more step. -/
theorem reaches_of_step {act : Act} (stepped : Step limiter live act next) :
    engine.Reaches limiter live next :=
  .single ⟨act, stepped⟩

/-- A machine that runs goes from step to step.  When it stops, no calls are under way. -/
theorem reaches_run (limiter : Limiter) (live : Instance Machine) (fuel : Nat) (store : Store)
    (activations : List Activation) : engine.Reaches limiter (live.withStore store activations)
      (live.withStore (run limiter live.rest.functions fuel store activations).2 []) := by
  induction fuel generalizing store activations with
  | zero => exact reaches_of_step .abandon
  | succ fuel ih =>
      cases activations with
      | nil => exact .refl
      | cons activation callers =>
          have first : engine.Reaches limiter (live.withStore store (activation :: callers))
              ((live.withStore store (activation :: callers)).after
                (step limiter live.rest.functions store activation callers)) :=
            reaches_of_step (.next rfl)
          rw [run]
          cases stepped : step limiter live.rest.functions store activation callers with
          | running store' activations =>
              rw [stepped] at first
              exact first.trans (ih store' activations)
          | finished store' results =>
              rw [stepped] at first
              exact first
          | trapped store' =>
              rw [stepped] at first
              exact first

theorem reaches_invoke (limiter : Limiter) (live : Instance Machine) (index : Nat)
    (arguments : List Value) : engine.Reaches limiter live
      (live.withStore (invoke limiter live.rest.functions live.store index arguments).2 []) := by
  have idle : engine.Reaches limiter live (live.withStore live.store []) :=
    reaches_of_step .abandon
  rw [invoke]
  split
  · rename_i function _
    have entered : engine.Reaches limiter (live.withStore live.store [])
        (live.withStore live.store [.ofCall function arguments]) :=
      reaches_of_step (.enter function arguments rfl)
    exact (idle.trans entered).trans (reaches_run limiter live _ _ _)
  · exact idle

theorem reaches_call (limiter : Limiter) (function : FunctionHandle) (params places : List Value)
    (live : Instance Machine) :
    engine.Reaches limiter live (live.call limiter function params places).2 := by
  rw [call]
  split
  · exact .refl
  · exact reaches_invoke limiter live function.index params

end Instance

/-! ## Bringing a module to life -/

/-- Memories are created as they are declared, if the limiter agrees to every one of them. -/
theorem mapM_createMemory {limiter : Limiter} {declared : List Limits} {cells : List MemoryCell}
    (created : declared.mapM (createMemory limiter) = some cells) :
    (∀ limits ∈ declared,
      limiter.memoryGrowing 0 limits.minimumBytes limits.maximumBytes? = true) ∧
      cells = declared.map .fresh := by
  induction declared generalizing cells with
  | nil =>
      cases created
      exact ⟨List.forall_mem_nil _, rfl⟩
  | cons first declared ih =>
      rw [List.mapM_cons] at created
      obtain ⟨cell, made, rest⟩ := Option.bind_eq_some_iff.1 created
      obtain ⟨others, madeOthers, same⟩ := Option.bind_eq_some_iff.1 rest
      cases same
      obtain ⟨agreed, rfl⟩ := ih madeOthers
      rw [createMemory] at made
      split at made
      · rename_i consent
        cases made
        exact ⟨List.forall_mem_cons.2 ⟨consent, agreed⟩, rfl⟩
      · cases made

/-- The data is put into memory step by step. -/
theorem reaches_placeSegments {m : Module} {limiter : Limiter} {segments : List Segment}
    (own : ∀ segment ∈ segments, segment ∈ m.segments) {store store' : Store}
    (placed : placeSegments store segments = some store') :
    engine.Reaches limiter (.ofStore m store) (.ofStore m store') := by
  induction segments generalizing store with
  | nil =>
      cases placed
      exact .refl
  | cons segment segments ih =>
      obtain ⟨mem, others⟩ := List.forall_mem_cons.1 own
      rw [placeSegments] at placed
      split at placed
      · rename_i between put
        have first : engine.Reaches limiter (.ofStore m store) (.ofStore m between) :=
          Instance.reaches_of_step (.place rfl mem put)
        exact first.trans (ih others placed)
      · cases placed

/-- Without imports but functions, all memories are the module's own. -/
theorem Module.memoryLimits_eq_memories {m : Module} {stubs : Bool}
    (met : m.unmetImport? stubs = none) : m.memoryLimits = m.memories := by
  rw [memoryLimits, List.filterMap_eq_nil_iff.2, List.nil_append]
  rintro ⟨source, name, item⟩ mem
  have isFunction := List.find?_eq_none.1 met _ mem
  cases item with
  | memory limits => exact absurd rfl isFunction
  | _ => rfl

/-- What is brought to life has come of fresh memories, to each of which the limiter has agreed. -/
theorem Instance.reaches_of_create {m : Module} {stubs : Bool} {limiter : Limiter}
    {live : Instance Machine} (creates : create m stubs limiter = .ok live) :
    (∀ limits ∈ m.memoryLimits,
      limiter.memoryGrowing 0 limits.minimumBytes limits.maximumBytes? = true) ∧
    ∃ rest, engine.Reaches limiter ⟨m.memoryLimits.map .fresh, rest⟩ live := by
  obtain ⟨met, cells, store, created, placed, brought⟩ := exists_of_create creates
  obtain ⟨agreed, rfl⟩ := mapM_createMemory created
  rw [Module.memoryLimits_eq_memories met]
  refine ⟨agreed, ⟨m, m.callables, m.globals.map (·.initial), []⟩, ?_⟩
  have filled : engine.Reaches limiter
      (.ofStore m ⟨m.memories.map .fresh, m.globals.map (·.initial)⟩) (.ofStore m store) :=
    reaches_placeSegments (fun _ mem => mem) placed
  obtain rfl | ⟨index, -, rfl⟩ := brought
  · exact filled
  · exact filled.trans (reaches_invoke limiter (.ofStore m store) index [])

theorem engine_asksLimiter : engine.AsksLimiter where
  create instantiates := Instance.reaches_of_create (create_of_instantiate instantiates)
  call := Instance.reaches_call _ _ _ _ _
  work stepped := by
    obtain ⟨store, changes, same⟩ := Instance.Step.changes stepped
    rw [same]
    cases changes with
    | work bounds => exact bounds
  grow stepped := by
    obtain ⟨store, changes, same⟩ := Instance.Step.changes stepped
    rw [same]
    cases changes with
    | grow extra => exact Store.growMemory_cases _ _ extra

end FormatterHost.Wasm

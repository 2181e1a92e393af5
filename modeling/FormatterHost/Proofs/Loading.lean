import FormatterHost.Plugin.Wasm
import FormatterHost.Proofs.Conversation
import FormatterHost.Proofs.Engine

/-!
# Loading a plugin

A module that can be brought to life is a plugin if it exports the memory and every function of the
protocol with the type that it must have.  Otherwise the first of them that is lacking is named.  A
check at the start is enough: no request to a loaded plugin ever finds a function missing or of
another type.  All this holds on every runtime that links exports and returns what is declared.
-/

namespace FormatterHost

open Wasm (ExternType FunctionType Instance Module Runtime Value ValueType)

/-! ## What a module offers -/

/-- A type that takes as many 32-bit integers as the function has parameters, and gives one if it
has a result. -/
structure Export.Fits (callee : Export) (type : FunctionType) : Prop where
  params : type.params.length = callee.paramCount
  allWords : ∀ param ∈ type.params, param = .i32
  results : type.results = if callee.hasResult then [.i32] else []

/-- The check of a type is exact. -/
theorem Export.accepts_iff {callee : Export} {type : FunctionType} :
    callee.accepts type = true ↔ callee.Fits type := by
  have results : (if callee.hasResult then
        decide (type.results.length = 1) && type.results.all (· = .i32)
      else decide (type.results.length = 0)) = true ↔
      type.results = if callee.hasResult then [.i32] else [] := by
    cases callee.hasResult with
    | true =>
        change _ ↔ type.results = List.replicate 1 .i32
        rw [List.eq_replicate_iff]
        simp
    | false => simp
  rw [accepts, Bool.and_eq_true, results, Bool.and_eq_true, decide_eq_true_eq, List.all_eq_true]
  simp only [decide_eq_true_eq]
  exact ⟨fun ⟨⟨count, words⟩, fits⟩ => ⟨count, words, fits⟩,
    fun fits => ⟨⟨fits.params, fits.allWords⟩, fits.results⟩⟩

/-- A function of the protocol is among the exports, with a type that fits. -/
def Export.ProvidedBy (callee : Export) (exports : List (String × ExternType)) : Prop :=
  ∃ type, (callee.name, .function type) ∈ exports ∧ callee.Fits type

/-- The failures that say what a plugin lacks: its memory, or the first function of the protocol
that is not there or has another type. -/
inductive Unfit (exports : List (String × ExternType)) : Failure → Prop where
  | memory (lacks : ∀ limits, (Export.memoryName, .memory limits) ∉ exports) :
      Unfit exports (.missingExport Export.memoryName)
  | missing {limits : Wasm.Limits} {before after : List Export} {callee : Export}
      (memory : (Export.memoryName, .memory limits) ∈ exports)
      (first : Export.all = before ++ callee :: after)
      (others : ∀ other ∈ before, other.ProvidedBy exports)
      (lacks : ∀ type, (callee.name, .function type) ∉ exports) :
      Unfit exports (.missingExport callee.name)
  | mismatch {limits : Wasm.Limits} {before after : List Export} {callee : Export}
      {type : FunctionType} (memory : (Export.memoryName, .memory limits) ∈ exports)
      (first : Export.all = before ++ callee :: after)
      (others : ∀ other ∈ before, other.ProvidedBy exports)
      (offers : (callee.name, .function type) ∈ exports)
      (differs : ¬ callee.ProvidedBy exports) :
      Unfit exports (.signatureMismatch callee.name callee.signature)

namespace HostedPlugin

variable {runtime : Runtime}

/-! ## Checking the exports -/

section Checking

variable {linker : runtime.Linker} {limiter : Wasm.Limiter} {m : runtime.Module}
variable {live : Instance runtime.Rest}

/-- A function is resolved if it is provided. -/
theorem exists_resolveIn_iff (links : runtime.LinksExports)
    (instantiates : runtime.instantiate linker limiter m = .ok live) {callee : Export} :
    (∃ function, resolveIn live callee = .ok function) ↔
      callee.ProvidedBy (runtime.exports m) := by
  simp only [Export.ProvidedBy, links.function instantiates, resolveIn]
  cases runtime.function? live callee.name with
  | none => simp
  | some function =>
      by_cases fits : callee.accepts (runtime.typeOf function) = true
      · simp [fits, Export.accepts_iff.1 fits]
      · simp [fits, mt Export.accepts_iff.2 fits]

/-- If it is not, the failure tells whether it is there at all. -/
theorem resolveIn_eq_error_iff (links : runtime.LinksExports)
    (instantiates : runtime.instantiate linker limiter m = .ok live) {callee : Export}
    {failure : Failure} :
    resolveIn live callee = .error failure ↔
      (∀ type, (callee.name, .function type) ∉ runtime.exports m) ∧
          failure = .missingExport callee.name ∨
        (∃ type, (callee.name, .function type) ∈ runtime.exports m) ∧
          ¬ callee.ProvidedBy (runtime.exports m) ∧
          failure = .signatureMismatch callee.name callee.signature := by
  simp only [Export.ProvidedBy, links.function instantiates, resolveIn]
  cases runtime.function? live callee.name with
  | none => simp [eq_comm]
  | some function =>
      by_cases fits : callee.accepts (runtime.typeOf function) = true
      · simp [fits, Export.accepts_iff.1 fits]
      · simp [fits, mt Export.accepts_iff.2 fits, eq_comm]

/-- What has been resolved is looked up as it was resolved. -/
theorem lookup_of_resolveAll {callees : List Export}
    {functions : List (Export × runtime.Function)}
    (resolved : resolveAll live callees = .ok functions) :
    ∀ callee ∈ callees, ∃ function, functions.lookup callee = some function ∧
      resolveIn live callee = .ok function := by
  induction callees generalizing functions with
  | nil => exact List.forall_mem_nil _
  | cons first callees ih =>
      rw [resolveAll] at resolved
      split at resolved
      · cases resolved
      · rename_i function found
        split at resolved
        · cases resolved
        · rename_i others rest
          cases resolved
          intro callee mem
          rw [List.lookup_cons]
          by_cases same : callee = first
          · subst same
            exact ⟨function, by simp, found⟩
          · have among : callee ∈ callees := (List.mem_cons.1 mem).resolve_left same
            rw [beq_false_of_ne same]
            exact ih rest callee among

theorem resolveAll_cons_of_ok {callee : Export} {function : runtime.Function}
    (found : resolveIn live callee = .ok function) (callees : List Export) {failure : Failure} :
    resolveAll live (callee :: callees) = .error failure ↔
      resolveAll live callees = .error failure := by
  simp only [resolveAll, found]
  cases resolveAll live callees <;> simp

theorem resolveAll_cons_of_error {callee : Export} {failure : Failure}
    (refused : resolveIn live callee = .error failure) (callees : List Export) :
    resolveAll live (callee :: callees) = .error failure := by
  simp only [resolveAll, refused]

/-- A check fails at the first function that cannot be resolved. -/
theorem resolveAll_eq_error_iff {callees : List Export} {failure : Failure} :
    resolveAll live callees = .error failure ↔ ∃ before callee after,
      callees = before ++ callee :: after ∧
      (∀ other ∈ before, ∃ function, resolveIn live other = .ok function) ∧
      resolveIn live callee = .error failure := by
  constructor
  · intro failed
    induction callees with
    | nil => cases failed
    | cons callee callees ih =>
        cases resolved : resolveIn live callee with
        | error refusal =>
            rw [resolveAll_cons_of_error resolved] at failed
            cases failed
            exact ⟨[], callee, callees, rfl, List.forall_mem_nil _, resolved⟩
        | ok function =>
            obtain ⟨before, other, after, rfl, others, refused⟩ :=
              ih ((resolveAll_cons_of_ok resolved callees).1 failed)
            exact ⟨callee :: before, other, after, rfl,
              List.forall_mem_cons.2 ⟨⟨function, resolved⟩, others⟩, refused⟩
  · rintro ⟨before, callee, after, rfl, others, refused⟩
    induction before with
    | nil => exact resolveAll_cons_of_error refused after
    | cons first before ih =>
        obtain ⟨⟨function, found⟩, others⟩ := List.forall_mem_cons.1 others
        exact (resolveAll_cons_of_ok found _).2 (ih others)

/-- The check succeeds if every function can be resolved. -/
theorem exists_resolveAll_iff {callees : List Export} :
    (∃ functions, resolveAll live callees = .ok functions) ↔
      ∀ callee ∈ callees, ∃ function, resolveIn live callee = .ok function := by
  constructor
  · rintro ⟨functions, resolved⟩ callee mem
    obtain ⟨function, -, found⟩ := lookup_of_resolveAll resolved callee mem
    exact ⟨function, found⟩
  · intro all
    cases resolved : resolveAll live callees with
    | ok functions => exact ⟨functions, rfl⟩
    | error failure =>
        obtain ⟨before, callee, after, rfl, -, refused⟩ := resolveAll_eq_error_iff.1 resolved
        obtain ⟨function, found⟩ := all callee (List.mem_append_right _ List.mem_cons_self)
        cases found.symm.trans refused

/-- With a memory, the check fails in the way in which the module is unfit. -/
theorem resolveAll_all_eq_error_iff (links : runtime.LinksExports)
    (instantiates : runtime.instantiate linker limiter m = .ok live) {limits : Wasm.Limits}
    (memory : (Export.memoryName, .memory limits) ∈ runtime.exports m) {failure : Failure} :
    resolveAll live Export.all = .error failure ↔ Unfit (runtime.exports m) failure := by
  rw [resolveAll_eq_error_iff]
  simp only [exists_resolveIn_iff links instantiates, resolveIn_eq_error_iff links instantiates]
  constructor
  · rintro ⟨before, callee, after, first, others, ⟨lacks, rfl⟩ | ⟨⟨type, offers⟩, differs, rfl⟩⟩
    · exact .missing memory first others lacks
    · exact .mismatch memory first others offers differs
  · intro unfit
    cases unfit with
    | memory lacks => exact absurd memory (lacks limits)
    | missing _ first others lacks => exact ⟨_, _, _, first, others, .inl ⟨lacks, rfl⟩⟩
    | mismatch _ first others offers differs =>
        exact ⟨_, _, _, first, others, .inr ⟨⟨_, offers⟩, differs, rfl⟩⟩

variable {storeLimits : StoreLimits} {info : ModuleInfo}

/-- An instance is a plugin if its module provides everything. -/
theorem exists_ofInstance_iff (links : runtime.LinksExports)
    (instantiates : runtime.instantiate linker limiter m = .ok live) :
    (∃ plugin, ofInstance live storeLimits info = .ok plugin) ↔
      (∃ limits, (Export.memoryName, .memory limits) ∈ runtime.exports m) ∧
        ∀ callee : Export, callee.ProvidedBy (runtime.exports m) := by
  have memory : (∃ index, runtime.memory? live Export.memoryName = some index) ↔
      ∃ limits, (Export.memoryName, .memory limits) ∈ runtime.exports m :=
    ⟨fun ⟨_, found⟩ => (links.exported instantiates found).imp fun _ holds => holds.1,
      fun ⟨_, mem⟩ => links.memory instantiates mem⟩
  have functions : (∃ functions, resolveAll live Export.all = .ok functions) ↔
      ∀ callee : Export, callee.ProvidedBy (runtime.exports m) := by
    rw [exists_resolveAll_iff]
    simp only [exists_resolveIn_iff links instantiates, Export.mem_all, true_implies]
  rw [← memory, ← functions, ofInstance]
  cases runtime.memory? live Export.memoryName with
  | none => simp
  | some memory => cases resolveAll live Export.all <;> simp

/-- Otherwise the failure says what it lacks first. -/
theorem ofInstance_eq_error_iff (links : runtime.LinksExports)
    (instantiates : runtime.instantiate linker limiter m = .ok live) {failure : Failure} :
    ofInstance live storeLimits info = .error failure ↔ Unfit (runtime.exports m) failure := by
  rw [ofInstance]
  cases found : runtime.memory? live Export.memoryName with
  | none =>
      have lacks : ∀ limits, (Export.memoryName, .memory limits) ∉ runtime.exports m := by
        intro limits mem
        obtain ⟨index, found'⟩ := links.memory instantiates mem
        cases found.symm.trans found'
      constructor
      · rintro ⟨⟩
        exact .memory lacks
      · intro unfit
        cases unfit with
        | memory _ => rfl
        | missing memory => exact absurd memory (lacks _)
        | mismatch memory => exact absurd memory (lacks _)
  | some index =>
      obtain ⟨limits, memory, -⟩ := links.exported instantiates found
      rw [← resolveAll_all_eq_error_iff links instantiates memory]
      cases resolveAll live Export.all <;> simp

end Checking

/-! ## Using a plugin -/

end HostedPlugin

/-- The failures that say that a function is missing or of another type. -/
inductive Failure.BlamesExport : Failure → Prop where
  | missing (name : String) : BlamesExport (.missingExport name)
  | mismatch (name expected : String) : BlamesExport (.signatureMismatch name expected)

theorem Failure.BlamesExport.isContractViolation {failure : Failure}
    (blames : failure.BlamesExport) : failure.isContractViolation = true := by
  cases blames <;> rfl

/-- The states to which a plugin comes as it is used: its functions are called, its memory is read
and written, and requests are served. -/
inductive Guest.Used {σ : Type} (guest : Guest σ) (loaded : σ) : σ → Prop where
  | start : Used guest loaded loaded
  | call {s : σ} (callee : Export) (args : List Int32) (used : Used guest loaded s) :
      Used guest loaded (guest.call callee args s).2
  | read {s : σ} (offset length : UInt32) (used : Used guest loaded s) :
      Used guest loaded (guest.read offset length s).2
  | write {s : σ} (offset : UInt32) (bytes : Bytes) (used : Used guest loaded s) :
      Used guest loaded (guest.write offset bytes s).2
  | request {s : σ} (request : Request) (used : Used guest loaded s) :
      Used guest loaded (formatWith guest request s).2

namespace HostedPlugin

variable {runtime : Runtime}

/-- Every function of the protocol is there, with a type that fits. -/
def Linked (plugin : HostedPlugin runtime) : Prop :=
  ∀ callee, ∃ function, plugin.functions.lookup callee = some function ∧
    callee.Fits (runtime.typeOf function)

/-- Functions are looked up where the check has put them. -/
theorem Linked.of_functions_eq {plugin plugin' : HostedPlugin runtime} (linked : plugin.Linked)
    (same : plugin'.functions = plugin.functions) : plugin'.Linked := by
  intro callee
  rw [same]
  exact linked callee

/-- A conversation with a plugin that has every function leaves it so, and blames no export. -/
def Spares (runtime : Runtime) (α : Type) (x : Exchange (HostedPlugin runtime) α) : Prop :=
  ∀ plugin, plugin.Linked →
    x.Ends plugin (fun _ plugin' => plugin'.Linked)
      (fun failure plugin' => ¬ failure.BlamesExport ∧ plugin'.Linked)

theorem fits_of_resolveIn {live : Instance runtime.Rest} {callee : Export}
    {function : runtime.Function} (found : resolveIn live callee = .ok function) :
    callee.Fits (runtime.typeOf function) := by
  rw [resolveIn] at found
  split at found
  · cases found
  · split at found
    · rename_i fits
      cases found
      exact Export.accepts_iff.1 fits
    · cases found

/-- A plugin that has been loaded has the instance, its memory and all its functions. -/
theorem of_ofInstance {live : Instance runtime.Rest} {limits : StoreLimits} {info : ModuleInfo}
    {plugin : HostedPlugin runtime} (loads : ofInstance live limits info = .ok plugin) :
    plugin.live = live ∧ plugin.limits = limits ∧
      runtime.memory? live Export.memoryName = some plugin.memory ∧
      ∀ callee, ∃ function, plugin.functions.lookup callee = some function ∧
        resolveIn live callee = .ok function := by
  rw [ofInstance] at loads
  split at loads
  · cases loads
  · rename_i memory found
    split at loads
    · cases loads
    · rename_i functions resolved
      cases loads
      exact ⟨rfl, rfl, found, fun callee => lookup_of_resolveAll resolved callee callee.mem_all⟩

theorem linked_of_ofInstance {live : Instance runtime.Rest} {limits : StoreLimits}
    {info : ModuleInfo} {plugin : HostedPlugin runtime}
    (loads : ofInstance live limits info = .ok plugin) : plugin.Linked := by
  intro callee
  obtain ⟨-, -, -, functions⟩ := of_ofInstance loads
  obtain ⟨function, looked, found⟩ := functions callee
  exact ⟨function, looked, fits_of_resolveIn found⟩

/-- Where a type fits a function with a result, a value of it is an integer. -/
theorem exists_int32_of_fits {callee : Export} {type : FunctionType} (fits : callee.Fits type)
    (hasResult : callee.hasResult = true) {values : List Value}
    (typed : values.map Value.type = type.results) :
    ∃ value, values.head?.bind Value.int32? = some value := by
  rw [fits.results, if_pos hasResult] at typed
  cases values with
  | nil => cases typed
  | cons value values =>
      have word : value.type = .i32 := (List.cons.inj typed).1
      exact Option.isSome_iff_exists.1 (Value.isSome_int32?_iff.2 word)

/-- A call of a function with a result gives one. -/
theorem call_ends (typed : runtime.ReturnsDeclared) {plugin : HostedPlugin runtime}
    (linked : plugin.Linked) (callee : Export) (args : List Int32) :
    (guest.call callee args).Ends plugin
      (fun answer plugin' => (callee.hasResult = true → ∃ value, answer = some value) ∧
        plugin'.Linked)
      (fun failure plugin' => ¬ failure.BlamesExport ∧ plugin'.Linked) := by
  obtain ⟨function, looked, fits⟩ := linked callee
  cases called : runtime.call plugin.limits.limiter function (args.map Value.ofInt32)
      (if callee.hasResult then [.i32 0] else []) plugin.live with
  | mk outcome live =>
      cases outcome with
      | ok values =>
          have answered : guest.call callee args plugin =
              (.ok (values.head?.bind Value.int32?), { plugin with live }) := by
            simp only [guest, call, looked, called]
          exact .of_ok answered
            ⟨fun hasResult => exists_int32_of_fits fits hasResult (typed called),
              linked.of_functions_eq rfl⟩
      | error detail =>
          have failed : guest.call callee args plugin =
              (.error (.execution callee.name detail), { plugin with live }) := by
            simp only [guest, call, looked, called]
          exact .of_error failed ⟨by rintro ⟨⟩, linked.of_functions_eq rfl⟩

/-! ### Conversations with a plugin -/

namespace Spares

variable {α β : Type} {x : Exchange (HostedPlugin runtime) α}

theorem linked (spares : Spares runtime α x) {plugin : HostedPlugin runtime}
    (linked : plugin.Linked) : (x plugin).2.Linked :=
  (spares plugin linked).state (fun _ _ holds => holds) fun _ _ holds => holds.2

theorem bind {f : α → Exchange (HostedPlugin runtime) β} (first : Spares runtime α x)
    (second : ∀ value, Spares runtime β (f value)) : Spares runtime β (x >>= f) :=
  fun plugin linked => (first plugin linked).andThen (fun value plugin' => second value plugin')
    fun _ _ holds => holds

theorem ofExcept {outcome : Except Failure α}
    (spares : ∀ failure, outcome = .error failure → ¬ failure.BlamesExport) :
    Spares runtime α (.ofExcept outcome) := by
  intro plugin linked
  cases outcome with
  | ok value => exact .of_ok rfl linked
  | error failure => exact .of_error rfl ⟨spares failure rfl, linked⟩

/-- A failure that does not blame the plugin blames no export. -/
theorem fail {failure : Failure} (blameless : failure.isContractViolation = false) :
    Spares runtime α (Exchange.fail failure) := by
  refine .ofExcept fun _ same blames => ?_
  cases same
  rw [blames.isContractViolation] at blameless
  cases blameless

end Spares

theorem call_spares (typed : runtime.ReturnsDeclared) (callee : Export) (args : List Int32) :
    Spares runtime (Option Int32) (guest.call callee args) :=
  fun _ linked =>
    (call_ends typed linked callee args).mono (fun _ _ holds => holds.2) fun _ _ holds => holds

theorem callInt_spares (typed : runtime.ReturnsDeclared) {callee : Export}
    (hasResult : callee.hasResult = true)
    (args : List Int32) : Spares runtime Int32 (guest.callInt callee args) := by
  refine fun plugin linked => Guest.callInt_ends ?_
  refine (call_ends typed linked callee args).mono ?_ fun _ _ holds => holds
  rintro answer plugin' ⟨gives, linked'⟩
  obtain ⟨value, rfl⟩ := gives hasResult
  exact ⟨value, rfl, linked'⟩

theorem read_spares (offset length : UInt32) : Spares runtime Bytes (guest.read offset length) := by
  intro plugin linked
  cases read : plugin.linearMemory.read offset length with
  | ok bytes =>
      have answered : guest.read offset length plugin = (.ok bytes, plugin) := by
        simp only [guest, read]
      exact .of_ok answered linked
  | error failure =>
      have failed : guest.read offset length plugin = (.error failure, plugin) := by
        simp only [guest, read]
      obtain rfl := LinearMemory.failure_of_read read
      exact .of_error failed ⟨nofun, linked⟩

theorem write_spares (offset : UInt32) (bytes : Bytes) :
    Spares runtime Unit (guest.write offset bytes) := by
  intro plugin linked
  cases written : plugin.linearMemory.write offset bytes with
  | ok memory =>
      have answered : guest.write offset bytes plugin =
          (.ok (), plugin.setLinearMemory memory) := by
        simp only [guest, written]
      exact .of_ok answered (linked.of_functions_eq rfl)
  | error failure =>
      have failed : guest.write offset bytes plugin = (.error failure, plugin) := by
        simp only [guest, written]
      obtain ⟨length, rfl⟩ := LinearMemory.failure_of_write written
      exact .of_error failed ⟨nofun, linked⟩

theorem query_spares (typed : runtime.ReturnsDeclared) :
    Spares runtime StagingBuffer (StagingBuffer.query guest) := by
  refine (callInt_spares typed rfl []).bind fun capacity => ?_
  refine (callInt_spares typed rfl []).bind fun offset => ?_
  refine .ofExcept fun failure refused => ?_
  rw [StagingBuffer.ofReported] at refused
  split at refused
  · cases refused
  · cases refused
    rintro ⟨⟩

theorem stagedLength_spares (typed : runtime.ReturnsDeclared) {callee : Export}
    (hasResult : callee.hasResult = true) :
    Spares runtime UInt32 (Verdict.stagedLength guest callee) := by
  refine (callInt_spares typed hasResult []).bind fun length => ?_
  split
  · exact .ofExcept nofun
  · refine .ofExcept fun failure same => ?_
    cases same
    exact nofun

/-- A trap while formatting does not blame an export either. -/
theorem format_spares (typed : runtime.ReturnsDeclared) :
    Spares runtime Int32 ((guest.callInt .format []).mapFailure recoverTrap) := by
  intro plugin linked
  refine .mapFailure ((callInt_spares typed rfl [] plugin linked).mono (fun _ _ holds => holds) ?_)
  rintro failure plugin' ⟨spares, linked'⟩
  refine ⟨fun blames => spares ?_, linked'⟩
  cases failure with
  | execution callee detail => cases blames
  | _ => exact blames

theorem spares_inherited (typed : runtime.ReturnsDeclared) : Inherited guest (Spares runtime) where
  pure _ := .ofExcept nofun
  fail _ blameless := .fail blameless
  bind := .bind
  pointwise runs plugin linked := by
    obtain ⟨y, spares, same⟩ := runs plugin
    exact .of_apply_eq same (spares plugin linked)
  callUnit callee args _ := (call_spares typed callee args).bind fun _ => .ofExcept nofun
  query := query_spares typed
  read := read_spares
  write := write_spares

theorem formatWith_spares (typed : runtime.ReturnsDeclared) (request : Request) :
    Spares runtime Output (formatWith guest request) :=
  (spares_inherited typed).formatWith (format_spares typed)
    (fun _ report => stagedLength_spares typed (by rcases report with rfl | rfl <;> rfl)) request

/-- However a plugin is used, it keeps its functions. -/
theorem Linked.of_used {loaded plugin : HostedPlugin runtime} (linked : loaded.Linked)
    (typed : runtime.ReturnsDeclared) (used : guest.Used loaded plugin) : plugin.Linked := by
  induction used with
  | start => exact linked
  | call callee args _ ih => exact (call_spares typed callee args).linked ih
  | read offset length _ ih => exact (read_spares offset length).linked ih
  | write offset bytes _ ih => exact (write_spares offset bytes).linked ih
  | request request _ ih => exact (formatWith_spares typed request).linked ih

/-! ## The check is exact and enough -/

variable {bytes : Bytes} {options : PluginOptions} {engine : runtime.Engine} {m : runtime.Module}

theorem exists_of_instantiate {live : Instance runtime.Rest}
    (instantiates : instantiate engine m options = .ok live) :
    ∃ linker, runtime.instantiate linker options.storeLimits.limiter m = .ok live := by
  rw [instantiate] at instantiates
  split at instantiates
  · cases instantiates
  · exact ⟨_, instantiates⟩

theorem ofBytes_eq {live : Instance runtime.Rest}
    (creates : runtime.createEngine options.engineSettings = .ok engine)
    (compiles : runtime.compile engine bytes = .ok m)
    (instantiates : instantiate engine m options = .ok live) :
    ofBytes runtime bytes options =
      ofInstance live options.storeLimits (.ofModule bytes (runtime.exports m)) := by
  simp only [ofBytes, creates, compiles, instantiates]

/-- On a runtime that links exports and returns what is declared, a module that can be brought to
life is loaded if it exports the memory and every function with its type; otherwise the failure says
what it lacks first.  However a plugin that has been loaded is used, no request to it finds a
function missing or of another type. -/
theorem ofBytes_checks_enough {live : Instance runtime.Rest} (links : runtime.LinksExports)
    (typed : runtime.ReturnsDeclared)
    (creates : runtime.createEngine options.engineSettings = .ok engine)
    (compiles : runtime.compile engine bytes = .ok m)
    (instantiates : instantiate engine m options = .ok live) :
    ((∃ plugin, ofBytes runtime bytes options = .ok plugin) ↔
        (∃ limits, (Export.memoryName, .memory limits) ∈ runtime.exports m) ∧
          ∀ callee : Export, callee.ProvidedBy (runtime.exports m)) ∧
      (∀ failure, ofBytes runtime bytes options = .error failure ↔
        Unfit (runtime.exports m) failure) ∧
      ∀ loaded, ofBytes runtime bytes options = .ok loaded →
        ∀ plugin, guest.Used loaded plugin → ∀ request failure,
          (formatWith guest request plugin).1 = .error failure → ¬ failure.BlamesExport := by
  obtain ⟨linker, brings⟩ := exists_of_instantiate instantiates
  rw [ofBytes_eq creates compiles instantiates]
  refine ⟨exists_ofInstance_iff links brings, fun _ => ofInstance_eq_error_iff links brings, ?_⟩
  intro loaded loads plugin used request failure failed
  have linked := (linked_of_ofInstance loads).of_used typed used
  exact ((formatWith_spares typed request plugin linked).bad_of_error (Prod.ext failed rfl)).1

end HostedPlugin

/-! ### A plugin -/

namespace WasmPlugin

/-- A plugin in binary form whose memory begins with a page and may have three.  Formatting grows
the memory by a page and answers what the growth has answered.  All else does nothing: there is one
function for each of the four types in the protocol, exported under every name that needs one of the
type. -/
def growing : Bytes :=
  Wasm.Binary.magic ++ Wasm.Binary.version ++
    -- Types, functions and one memory of a page, or up to three.
    [1, 17, 4, 0x60, 0, 0, 0x60, 1, 0x7F, 0, 0x60, 2, 0x7F, 0x7F, 0, 0x60, 0, 1, 0x7F] ++
    [3, 6, 5, 0, 1, 2, 3, 3] ++
    [5, 4, 1, 1, 1, 3] ++
    -- Exports, each with its name, its kind and its number.
    [7, 0x8D, 0x02, 13] ++
    -- memory
    [6, 0x6D, 0x65, 0x6D, 0x6F, 0x72, 0x79, 2, 0] ++
    -- set_global_config
    [17, 0x73, 0x65, 0x74, 0x5F, 0x67, 0x6C, 0x6F, 0x62, 0x61, 0x6C, 0x5F, 0x63, 0x6F, 0x6E,
      0x66, 0x69, 0x67, 0, 0] ++
    -- set_plugin_config
    [17, 0x73, 0x65, 0x74, 0x5F, 0x70, 0x6C, 0x75, 0x67, 0x69, 0x6E, 0x5F, 0x63, 0x6F, 0x6E,
      0x66, 0x69, 0x67, 0, 0] ++
    -- reset_config
    [12, 0x72, 0x65, 0x73, 0x65, 0x74, 0x5F, 0x63, 0x6F, 0x6E, 0x66, 0x69, 0x67, 0, 0] ++
    -- set_file_path
    [13, 0x73, 0x65, 0x74, 0x5F, 0x66, 0x69, 0x6C, 0x65, 0x5F, 0x70, 0x61, 0x74, 0x68, 0, 0] ++
    -- format
    [6, 0x66, 0x6F, 0x72, 0x6D, 0x61, 0x74, 0, 4] ++
    -- get_formatted_text
    [18, 0x67, 0x65, 0x74, 0x5F, 0x66, 0x6F, 0x72, 0x6D, 0x61, 0x74, 0x74, 0x65, 0x64, 0x5F,
      0x74, 0x65, 0x78, 0x74, 0, 3] ++
    -- get_error_text
    [14, 0x67, 0x65, 0x74, 0x5F, 0x65, 0x72, 0x72, 0x6F, 0x72, 0x5F, 0x74, 0x65, 0x78, 0x74, 0,
      3] ++
    -- get_wasm_memory_buffer
    [22, 0x67, 0x65, 0x74, 0x5F, 0x77, 0x61, 0x73, 0x6D, 0x5F, 0x6D, 0x65, 0x6D, 0x6F, 0x72,
      0x79, 0x5F, 0x62, 0x75, 0x66, 0x66, 0x65, 0x72, 0, 3] ++
    -- get_wasm_memory_buffer_size
    [27, 0x67, 0x65, 0x74, 0x5F, 0x77, 0x61, 0x73, 0x6D, 0x5F, 0x6D, 0x65, 0x6D, 0x6F, 0x72,
      0x79, 0x5F, 0x62, 0x75, 0x66, 0x66, 0x65, 0x72, 0x5F, 0x73, 0x69, 0x7A, 0x65, 0, 3] ++
    -- clear_shared_bytes
    [18, 0x63, 0x6C, 0x65, 0x61, 0x72, 0x5F, 0x73, 0x68, 0x61, 0x72, 0x65, 0x64, 0x5F, 0x62,
      0x79, 0x74, 0x65, 0x73, 0, 1] ++
    -- add_to_shared_bytes_from_buffer
    [31, 0x61, 0x64, 0x64, 0x5F, 0x74, 0x6F, 0x5F, 0x73, 0x68, 0x61, 0x72, 0x65, 0x64, 0x5F,
      0x62, 0x79, 0x74, 0x65, 0x73, 0x5F, 0x66, 0x72, 0x6F, 0x6D, 0x5F, 0x62, 0x75, 0x66, 0x66,
      0x65, 0x72, 0, 1] ++
    -- set_buffer_with_shared_bytes
    [28, 0x73, 0x65, 0x74, 0x5F, 0x62, 0x75, 0x66, 0x66, 0x65, 0x72, 0x5F, 0x77, 0x69, 0x74,
      0x68, 0x5F, 0x73, 0x68, 0x61, 0x72, 0x65, 0x64, 0x5F, 0x62, 0x79, 0x74, 0x65, 0x73, 0,
      2] ++
    -- Three empty bodies, one that answers zero, and that of the function that formats.
    [10, 22, 5, 2, 0, 0x0B, 2, 0, 0x0B, 2, 0, 0x0B, 4, 0, 0x41, 0, 0x0B, 6, 0, 0x41, 1, 0x40, 0,
      0x0B]

/-- The number of the function that serves as `callee`. -/
def growingIndex (callee : Export) : Nat :=
  if callee = .format then 4 else if callee.hasResult then 3 else callee.paramCount

/-- The function that formats. -/
def growingFormat : Wasm.Function :=
  ⟨⟨[], [.i32]⟩, [], [.constant (.i32 1), .memoryGrow]⟩

/-- The module of this plugin. -/
def growingModule : Module where
  functions := [⟨⟨[], []⟩, [], []⟩, ⟨⟨[.i32], []⟩, [], []⟩, ⟨⟨[.i32, .i32], []⟩, [], []⟩,
    ⟨⟨[], [.i32]⟩, [], [.constant (.i32 0)]⟩, growingFormat]
  memories := [⟨1, some 3⟩]
  exports := ⟨Export.memoryName, .memory, 0⟩ ::
    Export.all.map fun callee => ⟨callee.name, .function, growingIndex callee⟩

set_option maxRecDepth 4000 in
-- The decoder of the names recurses on the number of bytes that are left.
theorem read_growing : Module.read growing = .ok growingModule := by
  with_unfolding_all rfl

theorem isValid_growing : growingModule.isValid = true := by
  have functions : growingModule.functions.all growingModule.isFunctionValid = true := by
    simp only [growingModule, growingFormat, List.all_cons, List.all_nil, Module.isFunctionValid,
      Wasm.checkBody, Wasm.checkRow, Wasm.checkInstruction]
    rfl
  have distinct : growingModule.hasDistinctExports = true := by decide +kernel
  simp only [Module.isValid, functions, distinct]
  rfl

theorem compile_growing (settings : Wasm.EngineSettings) :
    Wasm.engine.compile settings growing = .ok ⟨growingModule, isValid_growing⟩ := by
  have compiles : Module.compile growing = .ok ⟨growingModule, isValid_growing⟩ := by
    rw [Module.compile, read_growing]
    exact dif_pos isValid_growing
  simp only [Wasm.engine, compiles]
  rfl

/-- The exports of this plugin. -/
abbrev growingExports : List (String × ExternType) :=
  Wasm.engine.exports ⟨growingModule, isValid_growing⟩

theorem memory_mem_growingExports : (Export.memoryName, .memory ⟨1, some 3⟩) ∈ growingExports :=
  Module.mem_externs_iff.2 ⟨⟨Export.memoryName, .memory, 0⟩, List.mem_cons_self, rfl, rfl⟩

theorem providedBy_growing (callee : Export) : callee.ProvidedBy growingExports := by
  let type : FunctionType :=
    ⟨List.replicate callee.paramCount .i32, if callee.hasResult then [.i32] else []⟩
  refine ⟨type, Module.mem_externs_iff.2
    ⟨⟨callee.name, .function, growingIndex callee⟩,
      List.mem_cons_of_mem _ (List.mem_map_of_mem callee.mem_all), rfl, ?_⟩, ?_⟩
  · cases callee <;> rfl
  · exact ⟨List.length_replicate, fun _ mem => List.eq_of_mem_replicate mem, rfl⟩

/-- This plugin as it is brought to life. -/
def growingLive : Instance Wasm.Machine :=
  .ofStore growingModule ⟨[.fresh ⟨1, some 3⟩], []⟩

theorem createMemory_growing {limits : StoreLimits} (roomy : 65536 ≤ limits.maxMemoryBytes) :
    Wasm.createMemory limits.limiter ⟨1, some 3⟩ = some (.fresh ⟨1, some 3⟩) := by
  have agrees : limits.memoryGrowing 0 65536 (some 196608) = true := by
    refine StoreLimits.memoryGrowing_iff.2 ⟨roomy, fun most same => ?_⟩
    cases same
    decide
  exact if_pos agrees

theorem instantiate_growing {options : PluginOptions} (roomy : 65536 ≤ options.maxMemoryBytes) :
    @HostedPlugin.instantiate Wasm.engine options.engineSettings
      ⟨growingModule, isValid_growing⟩ options = .ok growingLive := by
  have made : Wasm.createMemory options.storeLimits.limiter ⟨1, some 3⟩ =
      some (.fresh ⟨1, some 3⟩) := createMemory_growing roomy
  have created : growingModule.memories.mapM (Wasm.createMemory options.storeLimits.limiter) =
      some [.fresh ⟨1, some 3⟩] := by
    simp only [growingModule, List.mapM_cons, made]
    rfl
  have creates (stubs : Bool) :
      Instance.create growingModule stubs options.storeLimits.limiter = .ok growingLive := by
    have met : growingModule.unmetImport? stubs = none := rfl
    simp only [Instance.create, met, created]
    rfl
  unfold HostedPlugin.instantiate
  cases options.trapUnknownImports <;> simp only [Wasm.engine, creates] <;> rfl

theorem exists_ofBytes_growing {options : PluginOptions}
    (roomy : 65536 ≤ options.maxMemoryBytes) : ∃ loaded, ofBytes growing options = .ok loaded := by
  have instantiates := instantiate_growing roomy
  obtain ⟨linker, brings⟩ := HostedPlugin.exists_of_instantiate instantiates
  rw [ofBytes, HostedPlugin.ofBytes_eq rfl (compile_growing _) instantiates]
  exact (HostedPlugin.exists_ofInstance_iff Wasm.engine_linksExports brings).2
    ⟨⟨_, memory_mem_growingExports⟩, providedBy_growing⟩

/-- The bytes of the module that has nothing in it. -/
def bare : Bytes :=
  Wasm.Binary.magic ++ Wasm.Binary.version

theorem isValid_bare : ({} : Module).isValid = true := rfl

theorem compile_bare (settings : Wasm.EngineSettings) :
    Wasm.engine.compile settings bare = .ok ⟨{}, isValid_bare⟩ := rfl

theorem instantiate_bare : @HostedPlugin.instantiate Wasm.engine
    ({} : PluginOptions).engineSettings ⟨{}, isValid_bare⟩ {} = .ok (.ofStore {} ⟨[], []⟩) := rfl

/-- One module is a plugin, and one lacks a memory. -/
theorem ofBytes_checks_enough_growing :
    Wasm.engine.LinksExports ∧ Wasm.engine.ReturnsDeclared ∧
      ofBytes bare {} = .error (.missingExport Export.memoryName) ∧
      (∃ plugin, ofBytes growing {} = .ok plugin) ∧
      ∀ loaded, ofBytes growing {} = .ok loaded → ∀ plugin, guest.Used loaded plugin →
        ∀ request failure, (formatWith guest request plugin).1 = .error failure →
          ¬ failure.BlamesExport := by
  have roomy : 65536 ≤ ({} : PluginOptions).maxMemoryBytes := by decide
  obtain ⟨loads, -, spares⟩ := HostedPlugin.ofBytes_checks_enough Wasm.engine_linksExports
    Wasm.engine_returnsDeclared rfl (compile_growing _) (instantiate_growing roomy)
  obtain ⟨-, fails, -⟩ := HostedPlugin.ofBytes_checks_enough Wasm.engine_linksExports
    Wasm.engine_returnsDeclared rfl (compile_bare _) instantiate_bare
  have lacks (own : Wasm.Limits) : (Export.memoryName, .memory own) ∉ Module.externs {} :=
    List.not_mem_nil
  exact ⟨Wasm.engine_linksExports, Wasm.engine_returnsDeclared, (fails _).2 (.memory lacks),
    loads.2 ⟨⟨_, memory_mem_growingExports⟩, providedBy_growing⟩, spares⟩

end WasmPlugin

end FormatterHost

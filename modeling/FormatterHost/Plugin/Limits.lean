import FormatterHost.Plugin.Options
import FormatterHost.Wasm.Runtime

/-!
# Limits

How the options for running a plugin reach the runtime: as settings for its engine, and as the
limiter that it asks before memories and tables are created or grow.
-/

namespace FormatterHost

/-- What the host grants to a plugin. -/
structure StoreLimits where
  /-- The most bytes that a memory may have. -/
  maxMemoryBytes : Nat

namespace StoreLimits

/-- A memory may have as many bytes as its declaration allows, and no more than the host grants to
any memory. -/
def memoryGrowing (limits : StoreLimits) (_current desired : Nat) (maximum : Option Nat) : Bool :=
  let most := maximum.getD limits.maxMemoryBytes
  desired ≤ most && desired ≤ limits.maxMemoryBytes

theorem memoryGrowing_iff {limits : StoreLimits} {current desired : Nat} {maximum : Option Nat} :
    limits.memoryGrowing current desired maximum = true ↔
      desired ≤ limits.maxMemoryBytes ∧ ∀ most, maximum = some most → desired ≤ most := by
  rw [memoryGrowing, Bool.and_eq_true, decide_eq_true_eq, decide_eq_true_eq]
  cases maximum with
  | none => simp
  | some most => simp [and_comm]

/-- A table may have as many items as its declaration allows. -/
def tableGrowing (_current desired : Nat) (maximum : Option Nat) : Bool :=
  maximum.all (desired ≤ ·)

/-- The limiter that a runtime asks. -/
def limiter (limits : StoreLimits) : Wasm.Limiter where
  memoryGrowing := limits.memoryGrowing
  tableGrowing := tableGrowing

end StoreLimits

/-- What a level of optimization means to the compiler. -/
def OptimizationLevel.goal : OptimizationLevel → Wasm.CompilerGoal
  | none => .none
  | speed => .speed
  | speedAndSize => .speedAndSize

namespace PluginOptions

/-- The settings for the engine. -/
def engineSettings (options : PluginOptions) : Wasm.EngineSettings where
  debugInfo := options.debugInfo
  parallelCompilation := options.parallelCompilation
  goal := options.optimization.goal

/-- The limits for the store. -/
def storeLimits (options : PluginOptions) : StoreLimits where
  maxMemoryBytes := options.maxMemoryBytes

end PluginOptions

end FormatterHost

import FormatterHost.Record.Fields

/-!
# Options for running a plugin

How a plugin module is compiled, how much memory it may have, and what happens when it breaks the
protocol.
-/

namespace FormatterHost

/-- What the compiler aims at. -/
inductive OptimizationLevel where
  | none
  | speed
  | speedAndSize
deriving Repr, DecidableEq

/-- What to do when a plugin breaks the protocol. -/
inductive ContractPolicy where
  /-- The process ends. -/
  | terminate
  /-- The caller is told. -/
  | propagate
deriving Repr, DecidableEq

/-- Options for running a plugin. -/
structure PluginOptions where
  optimization : OptimizationLevel := .speed
  debugInfo : Bool := false
  parallelCompilation : Bool := true
  /-- The most linear memory that the plugin may have, in pages of 64 KiB. -/
  maxMemoryPages : UInt32 := 4096
  /-- Whether imported functions that nobody provides become stubs that trap. -/
  trapUnknownImports : Bool := true
  contractPolicy : ContractPolicy := .terminate
deriving Repr, DecidableEq

/-- The number of bytes in a page of linear memory. -/
def pageSize : Nat := 65536

namespace OptimizationLevel

/-- The name of a level. -/
def name : OptimizationLevel → String
  | none => "none"
  | speed => "speed"
  | speedAndSize => "speed_and_size"

def schema : Schema OptimizationLevel :=
  .choice "OptimizationLevel" [none, speed, speedAndSize] name

end OptimizationLevel

namespace ContractPolicy

/-- The name of a policy. -/
def name : ContractPolicy → String
  | terminate => "terminate"
  | propagate => "propagate"

def schema : Schema ContractPolicy :=
  .choice "ContractPolicy" [terminate, propagate] name

end ContractPolicy

namespace PluginOptions

/-- The most linear memory in bytes. -/
def maxMemoryBytes (options : PluginOptions) : Nat :=
  options.maxMemoryPages.toNat * pageSize

def recordType : RecordType PluginOptions where
  title := "RuntimeConfig"
  blank := {}
  fields := [
    .defaulted "optimization_level" OptimizationLevel.schema optimization
      fun value o => { o with optimization := value },
    .defaulted "debug_info" .bool debugInfo fun value o => { o with debugInfo := value },
    .defaulted "parallel_compilation" .bool parallelCompilation
      fun value o => { o with parallelCompilation := value },
    .defaulted "max_memory_pages" .uint32 maxMemoryPages
      fun value o => { o with maxMemoryPages := value },
    .defaulted "trap_unknown_imports" .bool trapUnknownImports
      fun value o => { o with trapUnknownImports := value },
    .defaulted "contract_policy" ContractPolicy.schema contractPolicy
      fun value o => { o with contractPolicy := value }]

def schema : Schema PluginOptions :=
  recordType.schema

end PluginOptions

end FormatterHost

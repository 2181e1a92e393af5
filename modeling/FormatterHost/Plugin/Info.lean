import FormatterHost.Record.Fields

/-!
# Facts about a loaded module
-/

namespace FormatterHost

/-- What is known of a plugin module. -/
structure ModuleInfo where
  /-- The SHA-256 digest of the module's bytes. -/
  digest : String := ""
  sizeBytes : UInt64 := 0
  /-- The names of the exported functions and memories, in the module's order. -/
  exports : List String := []
  /-- How long compilation took, in milliseconds. -/
  compileTime : UInt64 := 0
deriving Repr, DecidableEq

namespace ModuleInfo

def recordType : RecordType ModuleInfo where
  title := "ModuleInfo"
  blank := {}
  fields := [
    .mandatory "digest" .string digest fun value i => { i with digest := value },
    .mandatory "size_bytes" .uint64 sizeBytes fun value i => { i with sizeBytes := value },
    .mandatory "exports" (.list .string) exports fun value i => { i with exports := value },
    .mandatory "compile_time_ms" .uint64 compileTime
      fun value i => { i with compileTime := value }]

def schema : Schema ModuleInfo :=
  recordType.schema

end ModuleInfo

end FormatterHost

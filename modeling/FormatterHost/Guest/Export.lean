/-!
# The functions a plugin exports

A plugin is reached through twelve named functions, whose parameters and results are 32-bit
integers, and through one linear memory.
-/

namespace FormatterHost

/-- A function that every plugin provides. -/
inductive Export where
  | setGlobalConfig
  | setPluginConfig
  | resetConfig
  | setFilePath
  | format
  | getFormattedText
  | getErrorText
  /-- The current offset of the staging buffer. -/
  | stagingOffset
  /-- The current capacity of the staging buffer. -/
  | stagingCapacity
  /-- Empties the shared bytes ahead of a transfer of a stated length. -/
  | clearShared
  /-- Appends bytes of the staging buffer to the shared bytes. -/
  | appendStaged
  /-- Copies a range of the shared bytes to the staging buffer. -/
  | stageShared
deriving Repr, DecidableEq

namespace Export

/-- The name under which a plugin exports its linear memory. -/
def memoryName : String := "memory"

/-- All exports, in the order in which a plugin is checked for them. -/
def all : List Export :=
  [setGlobalConfig, setPluginConfig, resetConfig, setFilePath, format, getFormattedText,
   getErrorText, stagingOffset, stagingCapacity, clearShared, appendStaged, stageShared]

/-- The name a plugin gives the function. -/
def name : Export → String
  | setGlobalConfig => "set_global_config"
  | setPluginConfig => "set_plugin_config"
  | resetConfig => "reset_config"
  | setFilePath => "set_file_path"
  | format => "format"
  | getFormattedText => "get_formatted_text"
  | getErrorText => "get_error_text"
  | stagingOffset => "get_wasm_memory_buffer"
  | stagingCapacity => "get_wasm_memory_buffer_size"
  | clearShared => "clear_shared_bytes"
  | appendStaged => "add_to_shared_bytes_from_buffer"
  | stageShared => "set_buffer_with_shared_bytes"

/-- The number of parameters. -/
def paramCount : Export → Nat
  | clearShared => 1
  | appendStaged => 1
  | stageShared => 2
  | _ => 0

/-- Whether the function has a result. -/
def hasResult : Export → Bool
  | format => true
  | getFormattedText => true
  | getErrorText => true
  | stagingOffset => true
  | stagingCapacity => true
  | _ => false

/-- The signature as shown to people, such as `(i32, i32) -> ()`. -/
def signature (callee : Export) : String :=
  let params := ", ".intercalate (List.replicate callee.paramCount "i32")
  let result := if callee.hasResult then "i32" else "()"
  s!"({params}) -> {result}"

/-- The export with a given name. -/
def ofName? (text : String) : Option Export :=
  all.find? (·.name == text)

/-- No export is missing from `all`. -/
theorem mem_all (callee : Export) : callee ∈ all := by
  cases callee <;> decide

end Export

end FormatterHost

/-!
# Failures

Everything that can go wrong between a caller and a plugin.  A failure states its cause; `message`
is the wording.  Two classes matter to callers: a *contract violation* means that the plugin does
not speak the protocol, and a *rejection* means that the plugin refused the text it was given.
-/

namespace FormatterHost

/-- The kinds of failed file access that callers tell apart. -/
inductive AccessKind where
  | notFound
  | permissionDenied
  | isDirectory
  | invalidData
  | other (name : String)
deriving Repr, DecidableEq

/-- The name under which a kind of failed access is reported. -/
def AccessKind.name : AccessKind → String
  | .notFound => "NotFound"
  | .permissionDenied => "PermissionDenied"
  | .isDirectory => "IsADirectory"
  | .invalidData => "InvalidData"
  | .other name => name

/-- Why a request, or the loading of a plugin, did not succeed. -/
inductive Failure where
  /-- The module is not well formed. -/
  | compilation (detail : String)
  /-- The module is well formed but cannot be brought to life. -/
  | instantiation (detail : String)
  | missingExport (name : String)
  | signatureMismatch (name expected : String)
  | memoryOutOfBounds (offset size : UInt32)
  | invalidBuffer (offset capacity : Int32)
  /-- A call into the plugin failed. -/
  | execution (callee detail : String)
  /-- The plugin trapped while formatting one text; it can go on with the next. -/
  | trap (callee detail : String)
  /-- The merged configuration of a scope cannot be sent. -/
  | serialization (scope detail : String)
  /-- The plugin rejected the text; the detail is its own report. -/
  | rejected (report : String)
  | unexpectedStatus (code : Int32)
  | invalidUtf8 (detail : String)
  | alreadyInitialized
  | notInitialized
  | settings (detail : String)
  | access (kind : AccessKind) (detail : String)
  | internal (detail : String)
deriving Repr, DecidableEq

namespace Failure

/-- The wording of a failure. -/
def message : Failure → String
  | compilation detail => s!"Failed to compile plugin module: {detail}"
  | instantiation detail => s!"Failed to instantiate plugin module: {detail}"
  | missingExport name => "Plugin does not export `" ++ name ++ "`"
  | signatureMismatch name expected =>
    "Plugin export `" ++ name ++ "` has an unexpected signature, expected " ++ expected
  | memoryOutOfBounds offset size =>
    s!"Guest memory access out of bounds: offset={offset.toNat}, size={size.toNat}"
  | invalidBuffer offset capacity =>
    s!"Guest reported an unusable staging buffer: offset={offset.toInt}, capacity={capacity.toInt}"
  | execution callee detail => "Call to `" ++ callee ++ "` failed: " ++ detail
  | trap callee detail => "Plugin trapped in `" ++ callee ++ "`: " ++ detail
  | serialization scope detail => s!"Failed to serialize {scope} configuration: {detail}"
  | rejected report => report
  | unexpectedStatus code => s!"Plugin returned unexpected status code {code.toInt}"
  | invalidUtf8 detail => s!"Plugin produced invalid UTF-8: {detail}"
  | alreadyInitialized => "Formatter instance already initialized"
  | notInitialized => "Formatter instance not initialized"
  | settings detail => s!"Settings error: {detail}"
  | access _ detail => s!"IO error: {detail}"
  | internal detail => s!"Internal error: {detail}"

/-- Whether the failure shows that the loaded plugin does not speak the protocol.  Repeating the
same request against the same plugin fails the same way. -/
def isContractViolation : Failure → Bool
  | missingExport .. => true
  | signatureMismatch .. => true
  | memoryOutOfBounds .. => true
  | invalidBuffer .. => true
  | execution .. => true
  | _ => false

/-- Whether the plugin itself refused the text. -/
def isRejection : Failure → Bool
  | rejected _ => true
  | _ => false

end Failure

end FormatterHost

import FormatterHost.Wasm.Binary
import FormatterHost.Wasm.Text.Reader
import FormatterHost.Wasm.Validity

/-!
# Compiling modules

The bytes of a module are either its binary form, which they show by their first four bytes, or a
text in UTF-8.  Only valid modules compile.
-/

namespace FormatterHost.Wasm

/-- Why bytes do not compile. -/
inductive CompilationFault where
  | malformedBinary
  | notUtf8
  | malformedText
  | invalid
deriving Repr

/-- The wording of such a fault. -/
def CompilationFault.message : CompilationFault → String
  | malformedBinary => "malformed binary module"
  | notUtf8 => "input bytes are not valid UTF-8"
  | malformedText => "malformed text module"
  | invalid => "module is not valid"

/-- The module that bytes describe, whether it is valid or not. -/
def Module.read (bytes : Bytes) : Except CompilationFault Module :=
  if Binary.magic.isPrefixOf bytes then
    match Binary.module? bytes with
    | some m => .ok m
    | none => .error .malformedBinary
  else
    match Utf8.decode bytes with
    | .error _ => .error .notUtf8
    | .ok text =>
      match Text.module? text with
      | some m => .ok m
      | none => .error .malformedText

/-- A module that is known to be valid. -/
abbrev ValidModule : Type :=
  { m : Module // m.isValid = true }

/-- Compiles bytes. -/
def Module.compile (bytes : Bytes) : Except CompilationFault ValidModule :=
  match Module.read bytes with
  | .error fault => .error fault
  | .ok m => if valid : m.isValid = true then .ok ⟨m, valid⟩ else .error .invalid

end FormatterHost.Wasm

import FormatterHost.Bytes.Utf8
import FormatterHost.Settings.Basic
import FormatterHost.Settings.Environment
import FormatterHost.Settings.JsonDocument
import FormatterHost.Settings.Notation
import FormatterHost.Settings.Overlay
import FormatterHost.Toml.Document
import FormatterHost.Yaml.Document

/-!
# Loading settings

Settings come from a document and from the environment.  References in the document are replaced
first; then it is read, the environment is laid over it, and what results must hold settings.
-/

namespace FormatterHost

/-- Why settings cannot be loaded. -/
inductive SettingsFault where
  /-- There is no document that could be read. -/
  | noDocument (failure : Failure)
  /-- The document is not well formed, or it is not a table. -/
  | malformed
  | mismatch (mismatch : Mismatch)

namespace SettingsFault

/-- The failure that callers see. -/
def failure : SettingsFault → Failure
  | noDocument failure => failure
  | malformed => .settings "the document is not well formed"
  | mismatch found => .settings found.message

end SettingsFault

/-- The settings tree of a document in a given notation. -/
def DocumentNotation.node? : DocumentNotation → String → Option Node
  | toml => Toml.node?
  | yaml => Yaml.node?
  | json => JsonDocument.node?

namespace HostSettings

/-- The settings tree that a table and an environment make up. -/
def combine (environment : Environment) (entries : List (String × Node)) : Node :=
  Overlay.setAll environment.settings (Overlay.setAll entries (.table []))

/-- The settings in a document. -/
def ofText (environment : Environment) (form : DocumentNotation) (text : String) :
    Except SettingsFault HostSettings :=
  match form.node? (Substitution.substitute environment text) with
  | some (.table entries) =>
    match schema.convert (combine environment entries) with
    | .ok settings => .ok settings
    | .error mismatch => .error (.mismatch mismatch)
  | _ => .error .malformed

/-- The settings in a file: its path tells the notation, and `content` is what access to it
yields.  Files of other kinds are not touched. -/
def ofFile (environment : Environment) (path : String) (content : Except Failure Bytes) :
    Except SettingsFault HostSettings :=
  match DocumentNotation.ofPath path, content with
  | .error failure, _ => .error (.noDocument failure)
  | .ok _, .error failure => .error (.noDocument failure)
  | .ok form, .ok bytes =>
    match Utf8.decode bytes with
    | .error _ =>
      .error (.noDocument (.access .invalidData "stream did not contain valid UTF-8"))
    | .ok text => ofText environment form text

end HostSettings

end FormatterHost

import FormatterHost.Config.Schemas

/-!
# Requests and outputs

A request asks for one text to be formatted under a path.  The path only tells the plugin which
dialect to expect; nothing is read from it.
-/

namespace FormatterHost

/-- A text to format. -/
structure Request where
  path : String := ""
  text : String := ""
  patch : Patch := {}
deriving Repr, DecidableEq

/-- What formatting did to a text. -/
inductive OutputStatus where
  | unchanged
  | formatted
deriving Repr, DecidableEq

/-- The result of a request that succeeded. -/
structure Output where
  text : String
  status : OutputStatus
deriving Repr, DecidableEq

namespace Request

def recordType : RecordType Request where
  title := "FormatRequest"
  blank := {}
  fields := [
    .mandatory "file_path" .string path fun value r => { r with path := value },
    .mandatory "text" .string text fun value r => { r with text := value },
    .defaulted "overrides" Patch.schema patch fun value r => { r with patch := value }]

def schema : Schema Request :=
  recordType.schema

end Request

namespace OutputStatus

/-- The name of a status. -/
def name : OutputStatus → String
  | unchanged => "unchanged"
  | formatted => "formatted"

def schema : Schema OutputStatus :=
  .choice "FormatStatus" [unchanged, formatted] name

end OutputStatus

namespace Output

/-- Whether the text differs from what was sent. -/
def isChanged (output : Output) : Bool :=
  output.status = .formatted

def recordType : RecordType Output where
  title := "FormatOutput"
  blank := ⟨"", .unchanged⟩
  fields := [
    .mandatory "text" .string text fun value o => { o with text := value },
    .mandatory "status" OutputStatus.schema status fun value o => { o with status := value }]

def schema : Schema Output :=
  recordType.schema

end Output

end FormatterHost

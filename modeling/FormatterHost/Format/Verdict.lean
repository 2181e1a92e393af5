import FormatterHost.Guest.Basic

/-!
# Verdicts

The `format` export answers with a number.  Where the number says that bytes are staged, the plugin
is asked at once how many there are.
-/

namespace FormatterHost

/-- What the plugin made of a text. -/
inductive Verdict where
  | unchanged
  /-- Formatted text of this many bytes is staged. -/
  | formatted (length : UInt32)
  /-- An error report of this many bytes is staged. -/
  | errored (length : UInt32)
  | unknown (code : Int32)
deriving Repr, DecidableEq

namespace Verdict

/-- The numbers with a meaning. -/
def unchangedCode : Int32 := 0
def formattedCode : Int32 := 1
def erroredCode : Int32 := 2

variable {σ : Type}

/-- The number of bytes that the plugin has staged, by one of its two reports. -/
def stagedLength (guest : Guest σ) (report : Export) : Exchange σ UInt32 := do
  let length ← guest.callInt report []
  if 0 ≤ length then return length.toUInt32
  else .fail (.execution report.name s!"reported negative length {length.toInt}")

/-- The verdict that a number stands for. -/
def resolve (guest : Guest σ) (code : Int32) : Exchange σ Verdict :=
  if code = unchangedCode then return .unchanged
  else if code = formattedCode then return .formatted (← stagedLength guest .getFormattedText)
  else if code = erroredCode then return .errored (← stagedLength guest .getErrorText)
  else return .unknown code

/-- The text of a verdict in messages. -/
def describe : Verdict → String
  | unchanged => "Unchanged"
  | formatted length => s!"Formatted({length.toNat})"
  | errored length => s!"Errored({length.toNat})"
  | unknown code => s!"Unknown({code.toInt})"

end Verdict

end FormatterHost

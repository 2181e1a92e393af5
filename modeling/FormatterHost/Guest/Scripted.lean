import FormatterHost.Bytes.Utf8
import FormatterHost.Guest.Basic
import FormatterHost.Memory.Linear

/-!
# Scripted plugins

A scripted plugin keeps the shared bytes itself, moves its staging buffer along given schedules, and
formats by a list of rules: the first rule that applies decides.
-/

namespace FormatterHost

/-- When a rule applies to a text. -/
inductive Condition where
  | always
  | startsWith (part : String)
  | endsWith (part : String)
  | contains (part : String)
  | equals (whole : String)
  | pathEndsWith (part : String)
deriving Repr, DecidableEq

/-- What a rule does. -/
inductive Action where
  | unchanged
  | status (code : Int32)
  | trap (detail : String)
  /-- Reports these bytes as the formatted text. -/
  | formatted (bytes : Bytes)
  /-- Reports these bytes as an error. -/
  | errored (bytes : Bytes)
  | append (bytes : Bytes)
  | prepend (bytes : Bytes)
  /-- Puts the ASCII letters into upper case. -/
  | upper
  /-- Formats to the path, both configurations and the text, a line each. -/
  | report
deriving Repr, DecidableEq

/-- A formatting rule. -/
structure Rule where
  condition : Condition
  action : Action
deriving Repr, DecidableEq

/-- A scripted plugin.  The staging buffer is where the schedules say for the current `cursor`. -/
structure ScriptedPlugin where
  offsets : List Int32
  capacities : List Int32
  rules : List Rule
  memory : LinearMemory
  cursor : Nat := 0
  shared : Bytes := []
  globalConfig : Option String := none
  pluginConfig : Option String := none
  path : Option String := none
  received : Option String := none

namespace ScriptedPlugin

/-- The entry of a schedule at a position; schedules repeat. -/
def scheduled (schedule : List Int32) (position : Nat) : Int32 :=
  schedule.getD (position % schedule.length) 0

/-- Where the staging buffer lies now. -/
def offset (plugin : ScriptedPlugin) : Int32 :=
  scheduled plugin.offsets plugin.cursor

/-- How much the staging buffer holds now. -/
def capacity (plugin : ScriptedPlugin) : Int32 :=
  scheduled plugin.capacities plugin.cursor

/-- The shared bytes as text. -/
def sharedText (plugin : ScriptedPlugin) : String :=
  Utf8.decodeLossy plugin.shared

/-- The plugin with its staging buffer moved on. -/
def moved (plugin : ScriptedPlugin) : ScriptedPlugin :=
  { plugin with cursor := plugin.cursor + 1 }

/-- Whether one list occurs within another. -/
def occursIn (part : List Char) : List Char → Bool
  | [] => part.isEmpty
  | c :: cs => part.isPrefixOf (c :: cs) || occursIn part cs

/-- Whether a rule applies to a text under a path. -/
def holds (path text : String) : Condition → Bool
  | .always => true
  | .startsWith part => part.toList.isPrefixOf text.toList
  | .endsWith part => part.toList.isSuffixOf text.toList
  | .contains part => occursIn part.toList text.toList
  | .equals whole => text == whole
  | .pathEndsWith part => part.toList.isSuffixOf path.toList

/-- The number of bytes as a result. -/
def sizeResult (bytes : Bytes) : Int32 :=
  Int32.ofNat bytes.length

/-- The plugin after it has put `bytes` into the shared bytes, with a status code. -/
def answer (plugin : ScriptedPlugin) (bytes : Bytes) (code : Int32) :
    Except Failure Int32 × ScriptedPlugin :=
  (.ok code, { plugin with shared := bytes })

/-- Carries out a rule. -/
def perform (plugin : ScriptedPlugin) (text : String) :
    Action → Except Failure Int32 × ScriptedPlugin
  | .unchanged => (.ok 0, plugin)
  | .status code => (.ok code, plugin)
  | .trap detail => (.error (.execution Export.format.name detail), plugin)
  | .formatted bytes => plugin.answer bytes 1
  | .errored bytes => plugin.answer bytes 2
  | .append bytes => plugin.answer (Utf8.encode text ++ bytes) 1
  | .prepend bytes => plugin.answer (bytes ++ Utf8.encode text) 1
  | .upper => plugin.answer (Utf8.encode (text.map Char.toUpper)) 1
  | .report =>
    let lines := [plugin.path.getD "", plugin.globalConfig.getD "-", plugin.pluginConfig.getD "-",
      text]
    plugin.answer (Utf8.encode ("\n".intercalate lines)) 1

/-- Formats the shared bytes. -/
def format (plugin : ScriptedPlugin) : Except Failure Int32 × ScriptedPlugin :=
  let text := plugin.sharedText
  let plugin := { plugin with received := some text }
  match plugin.rules.find? fun rule => holds (plugin.path.getD "") text rule.condition with
  | some rule => plugin.perform text rule.action
  | none => (.ok 0, plugin)

/-- Appends bytes of the staging buffer to the shared bytes. -/
def appendStaged (plugin : ScriptedPlugin) (count : Int32) : Except Failure Unit × ScriptedPlugin :=
  let start := plugin.offset.toInt
  if start < 0 ∨ count.toInt < 0 ∨ plugin.memory.size < start + count.toInt then
    (.error (.execution Export.appendStaged.name "out of bounds memory access"), plugin)
  else
    let bytes := plugin.memory.slice start.toNat count.toInt.toNat
    (.ok (), { plugin with shared := plugin.shared ++ bytes }.moved)

/-- Copies a range of the shared bytes to where the staging buffer is after it has moved on. -/
def stageShared (plugin : ScriptedPlugin) (start count : Int32) :
    Except Failure Unit × ScriptedPlugin :=
  if start.toInt < 0 ∨ count.toInt < 0 ∨ plugin.shared.length < start.toInt + count.toInt then
    (.error (.execution Export.stageShared.name "shared bytes out of range"), plugin)
  else
    let plugin := plugin.moved
    let target := plugin.offset.toInt
    if target < 0 ∨ plugin.memory.size < target + count.toInt then
      (.error (.execution Export.stageShared.name "out of bounds memory access"), plugin)
    else
      let bytes := (plugin.shared.drop start.toInt.toNat).take count.toInt.toNat
      (.ok (), { plugin with memory := plugin.memory.put target.toNat bytes })

/-- The answer of an export without a result. -/
def effect (outcome : Except Failure Unit × ScriptedPlugin) :
    Except Failure (Option Int32) × ScriptedPlugin :=
  (outcome.1.map fun _ => none, outcome.2)

/-- Calls an export; arguments that are not given count as zero. -/
def call (callee : Export) (args : List Int32) : Exchange ScriptedPlugin (Option Int32) :=
  fun plugin =>
    match callee with
    | .setGlobalConfig => (.ok none, { plugin with globalConfig := some plugin.sharedText })
    | .setPluginConfig => (.ok none, { plugin with pluginConfig := some plugin.sharedText })
    | .resetConfig => (.ok none, { plugin with globalConfig := none, pluginConfig := none })
    | .setFilePath => (.ok none, { plugin with path := some plugin.sharedText })
    | .format =>
      let (outcome, plugin) := plugin.format
      (outcome.map some, plugin)
    | .getFormattedText => (.ok (some (sizeResult plugin.shared)), plugin)
    | .getErrorText => (.ok (some (sizeResult plugin.shared)), plugin)
    | .stagingOffset => (.ok (some plugin.offset), plugin)
    | .stagingCapacity => (.ok (some plugin.capacity), plugin)
    | .clearShared => (.ok none, { plugin with shared := [] }.moved)
    | .appendStaged => effect (plugin.appendStaged (args.getD 0 0))
    | .stageShared => effect (plugin.stageShared (args.getD 0 0) (args.getD 1 0))

/-- Scripted plugins as guests. -/
def guest : Guest ScriptedPlugin where
  call := call
  read offset length plugin := (plugin.memory.read offset length, plugin)
  write offset bytes plugin :=
    match plugin.memory.write offset bytes with
    | .ok memory => (.ok (), { plugin with memory })
    | .error failure => (.error failure, plugin)

end ScriptedPlugin

end FormatterHost

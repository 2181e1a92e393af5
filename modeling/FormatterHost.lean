import FormatterHost.Bytes.Basic
import FormatterHost.Bytes.Sha256
import FormatterHost.Bytes.Utf8
import FormatterHost.Config.Basic
import FormatterHost.Config.Patch
import FormatterHost.Config.Push
import FormatterHost.Config.Schemas
import FormatterHost.Failure
import FormatterHost.Format.Invocation
import FormatterHost.Format.Request
import FormatterHost.Format.Verdict
import FormatterHost.Guest.Basic
import FormatterHost.Guest.Export
import FormatterHost.Guest.Faulty
import FormatterHost.Guest.Recorded
import FormatterHost.Guest.Scripted
import FormatterHost.Guest.Sum
import FormatterHost.Instance.Basic
import FormatterHost.Instance.Identity
import FormatterHost.Instance.Metrics
import FormatterHost.Instance.Registry
import FormatterHost.Json.Basic
import FormatterHost.Json.Number
import FormatterHost.Json.Printer
import FormatterHost.Json.Quoted
import FormatterHost.Json.Reader
import FormatterHost.Json.Reading
import FormatterHost.Memory.Linear
import FormatterHost.Memory.Range
import FormatterHost.Number.Decimal
import FormatterHost.Number.Scientific
import FormatterHost.Number.Shortest
import FormatterHost.Number.Width
import FormatterHost.Plugin.Hosted
import FormatterHost.Plugin.Info
import FormatterHost.Plugin.Limits
import FormatterHost.Plugin.Options
import FormatterHost.Plugin.Sample
import FormatterHost.Plugin.Wasm
import FormatterHost.Proofs.Config
import FormatterHost.Proofs.Conformance
import FormatterHost.Proofs.Exchange
import FormatterHost.Proofs.JsonText
import FormatterHost.Proofs.Recording
import FormatterHost.Proofs.Recovery
import FormatterHost.Proofs.Request
import FormatterHost.Proofs.Schema
import FormatterHost.Proofs.Scripted
import FormatterHost.Proofs.Transport
import FormatterHost.Proofs.Utf8
import FormatterHost.Record.Fields
import FormatterHost.Record.Schema
import FormatterHost.Settings.Basic
import FormatterHost.Settings.Entries
import FormatterHost.Settings.Environment
import FormatterHost.Settings.JsonDocument
import FormatterHost.Settings.KeyPath
import FormatterHost.Settings.Loading
import FormatterHost.Settings.Mismatch
import FormatterHost.Settings.Node
import FormatterHost.Settings.Notation
import FormatterHost.Settings.Overlay
import FormatterHost.Settings.Substitution
import FormatterHost.Text.CharSet
import FormatterHost.Text.Lowercase
import FormatterHost.Text.Printable
import FormatterHost.Text.Quoted
import FormatterHost.Text.Word
import FormatterHost.Toml.Document
import FormatterHost.Toml.Number
import FormatterHost.Toml.Scanner
import FormatterHost.Toml.Table
import FormatterHost.Transport.Basic
import FormatterHost.Transport.StagingBuffer
import FormatterHost.Wasm.Binary
import FormatterHost.Wasm.Compile
import FormatterHost.Wasm.Engine
import FormatterHost.Wasm.Instance
import FormatterHost.Wasm.Machine
import FormatterHost.Wasm.Module
import FormatterHost.Wasm.Runtime
import FormatterHost.Wasm.Text.Expression
import FormatterHost.Wasm.Text.Reader
import FormatterHost.Wasm.Validity
import FormatterHost.Wasm.Value
import FormatterHost.Yaml.BlockText
import FormatterHost.Yaml.Cursor
import FormatterHost.Yaml.Document
import FormatterHost.Yaml.ScalarText
import FormatterHost.Yaml.Tag
import FormatterHost.Yaml.Token
import FormatterHost.Yaml.Value
import FormatterHost.Proofs.Protocol
import FormatterHost.Proofs.Faults
import FormatterHost.Proofs.Service
import FormatterHost.Proofs.Steps
import FormatterHost.Proofs.Watched
import FormatterHost.Proofs.InForce
import FormatterHost.Proofs.Metrics
import FormatterHost.Proofs.Clients
import FormatterHost.Proofs.Registry
import FormatterHost.Proofs.Runtime
import FormatterHost.Proofs.Engine
import FormatterHost.Proofs.Loading
import FormatterHost.Proofs.Records
import FormatterHost.Proofs.Chunks
import FormatterHost.Proofs.Accounts
import FormatterHost.Proofs.Growth
import FormatterHost.Proofs.MemoryLimit
import FormatterHost.Proofs.Retrieval
import FormatterHost.Proofs.Progress
import FormatterHost.Proofs.References
import FormatterHost.Proofs.Overlay
import FormatterHost.Proofs.Variables
import FormatterHost.Proofs.Layers
import FormatterHost.Proofs.Accesses
import FormatterHost.Proofs.Documents
import FormatterHost.Proofs.JsonTokens
import FormatterHost.Proofs.JsonSource
import FormatterHost.Proofs.Spellings

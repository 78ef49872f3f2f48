import TargetLink.Action
import TargetLink.Address
import TargetLink.ChunkMemory.Basic
import TargetLink.ChunkMemory.Flat
import TargetLink.CommandLine.Argument
import TargetLink.CommandLine.Help
import TargetLink.CommandLine.Options
import TargetLink.CommandLine.Param
import TargetLink.CommandLine.Plusarg
import TargetLink.CommandLine.UsageError
import TargetLink.Config
import TargetLink.Decimal.Binary64
import TargetLink.Decimal.Numeral
import TargetLink.Decimal.Shortest
import TargetLink.Event
import TargetLink.FileTree
import TargetLink.Host
import TargetLink.Layout
import TargetLink.Link
import TargetLink.LinkError
import TargetLink.Load
import TargetLink.LogFilter.Basic
import TargetLink.LogFilter.Directive
import TargetLink.LogFilter.FieldFilter
import TargetLink.LogFilter.LevelFilter
import TargetLink.Main
import TargetLink.Memory
import TargetLink.OsError
import TargetLink.OsString
import TargetLink.Outcome
import TargetLink.Pattern.Atom
import TargetLink.Pattern.Basic
import TargetLink.Pattern.CharSet
import TargetLink.Program
import TargetLink.Proofs.Action
import TargetLink.Proofs.Alignment
import TargetLink.Proofs.ChunkMemory.Faithful
import TargetLink.Proofs.ChunkMemory.Faulty
import TargetLink.Proofs.ChunkMemory.Flat
import TargetLink.Proofs.ChunkMemory.Guarded
import TargetLink.Proofs.ChunkMemory.Interleaved
import TargetLink.Proofs.ChunkMemory.Recorded
import TargetLink.Proofs.ChunkMemory.Steady
import TargetLink.Proofs.ChunkMemory.Stuck
import TargetLink.Proofs.ChunkMemory.Traced
import TargetLink.Proofs.CommandLine.Plusarg
import TargetLink.Proofs.CommandLine.Plusarg.LongForm
import TargetLink.Proofs.Config
import TargetLink.Proofs.Contents
import TargetLink.Proofs.Link
import TargetLink.Proofs.Load
import TargetLink.Proofs.Load.Failed
import TargetLink.Proofs.Load.Started
import TargetLink.Proofs.Memory
import TargetLink.Proofs.Operation
import TargetLink.Proofs.Placement
import TargetLink.Proofs.Placement.Limit
import TargetLink.Proofs.Placement.Overlap
import TargetLink.Proofs.Region
import TargetLink.Proofs.SelfTest.BytesChecked
import TargetLink.Proofs.SelfTest.Check
import TargetLink.Proofs.SelfTest.Coverage
import TargetLink.Proofs.SelfTest.Pattern
import TargetLink.Proofs.SelfTest.Plan
import TargetLink.Proofs.SelfTest.Stuck
import TargetLink.Proofs.SelfTest.Verdict
import TargetLink.Proofs.Session
import TargetLink.Proofs.Size
import TargetLink.Proofs.Size.Longest
import TargetLink.Proofs.Slot
import TargetLink.Proofs.Text.Blank
import TargetLink.Proofs.Text.Digit
import TargetLink.Proofs.Text.Utf8
import TargetLink.Proofs.Transfer.Alike
import TargetLink.Proofs.Transfer.Around
import TargetLink.Proofs.Transfer.Coupled
import TargetLink.Proofs.Transfer.Direct
import TargetLink.Proofs.Transfer.Exact
import TargetLink.Proofs.Transfer.Failure
import TargetLink.Proofs.Transfer.Front
import TargetLink.Proofs.Transfer.Guarded
import TargetLink.Proofs.Transfer.Interleaved
import TargetLink.Proofs.Transfer.Interval
import TargetLink.Proofs.Transfer.Kept
import TargetLink.Proofs.Transfer.Pieces
import TargetLink.Proofs.Transfer.Recorded
import TargetLink.Proofs.Transfer.Requests
import TargetLink.Proofs.Transfer.Serving
import TargetLink.Proofs.Transfer.Steps
import TargetLink.Proofs.Transfer.Stopped
import TargetLink.Proofs.Transfer.Stuck
import TargetLink.Proofs.Transfer.Zeros
import TargetLink.Proofs.Translator
import TargetLink.Proofs.Translator.Overrun
import TargetLink.Proofs.Translator.Resolve
import TargetLink.Proofs.Transport.Chunk
import TargetLink.Proofs.Transport.Coupled
import TargetLink.Proofs.Transport.Faithful
import TargetLink.Proofs.Transport.History
import TargetLink.Proofs.Transport.Interleaved
import TargetLink.Proofs.Transport.Policy
import TargetLink.Proofs.Transport.SelfTest
import TargetLink.Proofs.Transport.Split
import TargetLink.Proofs.Transport.Stores
import TargetLink.Proofs.Transport.TargetMemory
import TargetLink.Proofs.Transport.Zeros
import TargetLink.Proofs.Window.Coupled
import TargetLink.Proofs.Window.Device
import TargetLink.Proofs.Window.StandIn
import TargetLink.Proofs.Window.Stuck
import TargetLink.Region
import TargetLink.RegionMap
import TargetLink.SelfTest.Plan
import TargetLink.SelfTest.Range
import TargetLink.SelfTest.Run
import TargetLink.Session
import TargetLink.Size
import TargetLink.Text.Alphanumeric
import TargetLink.Text.Blank
import TargetLink.Text.Digit
import TargetLink.Text.Hex
import TargetLink.Text.Letter
import TargetLink.Text.Terminal
import TargetLink.Text.Utf8
import TargetLink.Transfer
import TargetLink.Translator
import TargetLink.Transport
import TargetLink.Window.Basic
import TargetLink.Window.Device
import TargetLink.Window.Recording
import TargetLink.Window.Stuck
import TargetLink.Word

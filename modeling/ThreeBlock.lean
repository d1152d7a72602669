-- State machines for hardware: lists of states and their transitions, read
-- from text, reviewed, and written in three blocks.
import ThreeBlock.Main
import ThreeBlock.Outcome
import ThreeBlock.Fault.Record
import ThreeBlock.Proofs.Hdl.Circuit
import ThreeBlock.Proofs.Identifier
import ThreeBlock.Proofs.Text.Numerals
import ThreeBlock.Proofs.Text.Segments
import ThreeBlock.Proofs.Hdl.ReadBack
import ThreeBlock.Proofs.Hdl.Machine
import ThreeBlock.Proofs.Hdl.Runs
import ThreeBlock.Proofs.Hdl.Recovery
import ThreeBlock.Proofs.Reading.Declarations
import ThreeBlock.Proofs.Generate
import ThreeBlock.Proofs.Review.Reachability
import ThreeBlock.Proofs.Review.Report
import ThreeBlock.Proofs.Acceptance
import ThreeBlock.Proofs.BreakOff
import ThreeBlock.Proofs.Regroup
import ThreeBlock.Proofs.Ring
import ThreeBlock.Proofs.Strictness
import ThreeBlock.Proofs.Hdl.Closure
import ThreeBlock.Proofs.Hdl.Entering
import ThreeBlock.Proofs.Files.FileSystem
import ThreeBlock.Proofs.Text.Encoding
import ThreeBlock.Proofs.Files.AtomicWrite
import ThreeBlock.Proofs.Files.Calls
import ThreeBlock.Proofs.WellFormed
import ThreeBlock.Proofs.CommandLine.Contract
import ThreeBlock.Proofs.Settings.Loading
import ThreeBlock.Proofs.Review.Search
import ThreeBlock.Proofs.Reading.States
import ThreeBlock.Proofs.Log.Lines
import ThreeBlock.Proofs.Log.Session
import ThreeBlock.Proofs.Log.Readings
import ThreeBlock.Proofs.Log.Trace
import ThreeBlock.Proofs.Log.Levels
import ThreeBlock.Proofs.CommandLine.LogLevel
import ThreeBlock.Proofs.Reading.Layout
import ThreeBlock.Proofs.Review.Exact
import ThreeBlock.Proofs.RingCode
import ThreeBlock.Proofs.Hdl.Flavors
import ThreeBlock.Proofs.Extension
import ThreeBlock.Proofs.Settings.Changes
import ThreeBlock.Proofs.Numbering
import ThreeBlock.Proofs.NamesAlone
import ThreeBlock.Proofs.Collisions
import ThreeBlock.Proofs.Shares
import ThreeBlock.Proofs.CommandLine.Sizes
import ThreeBlock.Proofs.CommandLine.Agreement

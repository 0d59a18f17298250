import ByteBench.Config.Numeral
import ByteBench.Config.Reader
import ByteBench.Machine.Bus
import ByteBench.Machine.Script
import ByteBench.Program.Assembly
import ByteBench.Proofs.Isa.WordFormat
import ByteBench.Proofs.Machine.Contents
import ByteBench.Proofs.Machine.History
import ByteBench.Proofs.Machine.Refusals
import ByteBench.Proofs.Program.Disassembly
import ByteBench.Proofs.Program.Editing
import ByteBench.Proofs.Program.LineEndings
import ByteBench.Proofs.Program.Report
import ByteBench.Proofs.Program.SourceMap
import ByteBench.Proofs.Session.Bookkeeping
import ByteBench.Proofs.Session.BusSession
import ByteBench.Proofs.Session.BusUntilFinish
import ByteBench.Proofs.Session.Counters
import ByteBench.Proofs.Session.FatalFailure
import ByteBench.Proofs.Session.ModelOwnership
import ByteBench.Proofs.Session.PhaseOrder
import ByteBench.Proofs.Session.PinProtocol
import ByteBench.Proofs.Session.Samples
import ByteBench.Proofs.Session.SinkOwnership
import ByteBench.Proofs.Session.Unwatched
import ByteBench.Proofs.Source.Layout
import ByteBench.Proofs.Source.Lookahead
import ByteBench.Proofs.Source.Rejection
import ByteBench.Proofs.Source.Separation
import ByteBench.Proofs.Source.Tiling
import ByteBench.Proofs.Wave.Delivery
import ByteBench.Proofs.Wave.Retention
import ByteBench.Session.Bench
import ByteBench.Session.Describe

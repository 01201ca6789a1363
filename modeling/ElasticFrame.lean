import ElasticFrame.Lib.Machine
import ElasticFrame.Lib.Serial
import ElasticFrame.Lib.Cells
import ElasticFrame.Lib.LittleEndian
import ElasticFrame.Lib.Registry
import ElasticFrame.Lib.Memory
import ElasticFrame.Lib.WriteLog
import ElasticFrame.Lib.Leases
import ElasticFrame.Lib.Simulation
import ElasticFrame.Lib.Parts
import ElasticFrame.Lib.Fairness
import ElasticFrame.Wire
import ElasticFrame.Receiver.State
import ElasticFrame.Receiver.Unpack
import ElasticFrame.Receiver.UnpackSpec
import ElasticFrame.Receiver.Delivery
import ElasticFrame.Receiver.DeliverySpec
import ElasticFrame.Receiver.Run
import ElasticFrame.Receiver.Parsing
import ElasticFrame.Receiver.Store
import ElasticFrame.Receiver.Renumbering
import ElasticFrame.Receiver.Deadline
import ElasticFrame.Receiver.Bounds
import ElasticFrame.Receiver.Accounting
import ElasticFrame.Receiver.StreamTable
import ElasticFrame.Receiver.Intact
import ElasticFrame.Receiver.Refusal
import ElasticFrame.Receiver.Modes
import ElasticFrame.Receiver.Counting
import ElasticFrame.Receiver.Drained
import ElasticFrame.Receiver.Prompt
import ElasticFrame.Threads.SuperFrameQueue
import ElasticFrame.Threads.WorkerRounds
import ElasticFrame.Threads.ThreadedReceiver
import ElasticFrame.Threads.Linearization
import ElasticFrame.Threads.Shutdown
import ElasticFrame.Threads.Termination
import ElasticFrame.Threads.Pace
import ElasticFrame.Threads.Draining
import ElasticFrame.Sender.Pack
import ElasticFrame.Sender.Fragments
import ElasticFrame.Sender.Law
import ElasticFrame.Sender.InPlace
import ElasticFrame.Sender.MtuArgument
import ElasticFrame.Sender.Program
import ElasticFrame.EndToEnd.Numbering
import ElasticFrame.EndToEnd.TooOld
import ElasticFrame.EndToEnd.Assembly
import ElasticFrame.EndToEnd.SubsetAssembly
import ElasticFrame.EndToEnd.Channel
import ElasticFrame.EndToEnd.Retention
import ElasticFrame.EndToEnd.Integrity
import ElasticFrame.EndToEnd.HeadOfLine
import ElasticFrame.EndToEnd.InOrder
import ElasticFrame.EndToEnd.Interleaved
import ElasticFrame.EndToEnd.Results
import ElasticFrame.EndToEnd.Gapless
import ElasticFrame.EndToEnd.Threaded
import ElasticFrame.EndToEnd.Tables
import ElasticFrame.EndToEnd.WireFormat
import ElasticFrame.Embedded.Sections
import ElasticFrame.Embedded.Extract
import ElasticFrame.Embedded.RoundTrip
import ElasticFrame.CApi.AddEmbeddedData
import ElasticFrame.CApi.GotData
import ElasticFrame.CApi.Callbacks
import ElasticFrame.CApi.Handles
import ElasticFrame.CApi.Isolation

import WsTestClient.CommandLine
import WsTestClient.Cost
import WsTestClient.Decimal
import WsTestClient.DevicePayloads
import WsTestClient.Fleet.Load
import WsTestClient.Fleet.Progress
import WsTestClient.Fleet.Projection
import WsTestClient.Fleet.Rounds
import WsTestClient.Fleet.System
import WsTestClient.Generate
import WsTestClient.Grouping
import WsTestClient.Lines
import WsTestClient.Log.Columns
import WsTestClient.Log.Format
import WsTestClient.Log.Program
import WsTestClient.Log.Sink
import WsTestClient.Log.Stringify
import WsTestClient.Log.Threads
import WsTestClient.Manage.Connection
import WsTestClient.Manage.Pass
import WsTestClient.Manage.Timing
import WsTestClient.Ostream
import WsTestClient.Partition
import WsTestClient.Readers
import WsTestClient.Simulation
import WsTestClient.Threads.Failure
import WsTestClient.Threads.Handoff
import WsTestClient.Threads.Mutex
import WsTestClient.Threads.Overlap
import WsTestClient.Threads.Payloads
import WsTestClient.Threads.Polling
import WsTestClient.Threads.Progress
import WsTestClient.Threads.Refinement
import WsTestClient.Threads.Slot
import WsTestClient.Threads.System
import WsTestClient.Threads.Wire
import WsTestClient.Transition
import WsTestClient.Util

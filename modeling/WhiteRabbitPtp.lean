import WhiteRabbitPtp.Model.MainLoop
import WhiteRabbitPtp.Correctness.Transitions
import WhiteRabbitPtp.Correctness.WrSteps
import WhiteRabbitPtp.Correctness.Interlock
import WhiteRabbitPtp.Correctness.Decision
import WhiteRabbitPtp.Correctness.Actions
import WhiteRabbitPtp.Correctness.Steps
import WhiteRabbitPtp.Correctness.Resync
import WhiteRabbitPtp.Correctness.ForeignTable
import WhiteRabbitPtp.Correctness.LiveMaster
import WhiteRabbitPtp.Correctness.Announcing
import WhiteRabbitPtp.Correctness.RoundTrip
import WhiteRabbitPtp.Correctness.SharedBuffer
import WhiteRabbitPtp.Correctness.WireFormat
import WhiteRabbitPtp.Correctness.Signaling
import WhiteRabbitPtp.Correctness.Reception
import WhiteRabbitPtp.Correctness.PortInvariants
import WhiteRabbitPtp.Correctness.Triggers
import WhiteRabbitPtp.Correctness.ConfiguredRole
import WhiteRabbitPtp.Correctness.PrimarySlave
import WhiteRabbitPtp.Correctness.Watching
import WhiteRabbitPtp.Correctness.ServoOffset
import WhiteRabbitPtp.Correctness.ServoRun
import WhiteRabbitPtp.Correctness.Linearize
import WhiteRabbitPtp.Correctness.DataSetOrder
import WhiteRabbitPtp.Correctness.SetupTimers
import WhiteRabbitPtp.Lib.Potential
import WhiteRabbitPtp.Correctness.SetupEnds
import WhiteRabbitPtp.Correctness.Agreement
import WhiteRabbitPtp.Correctness.GlobalUpdate
import WhiteRabbitPtp.Correctness.LinkAgreement
import WhiteRabbitPtp.Correctness.TimeArithmetic
import WhiteRabbitPtp.Correctness.CorrectionField
import WhiteRabbitPtp.Correctness.Instants
import WhiteRabbitPtp.Correctness.Selection
import WhiteRabbitPtp.Correctness.ForeignRecords
import WhiteRabbitPtp.Correctness.SecondarySlave
import WhiteRabbitPtp.Correctness.Requests
import WhiteRabbitPtp.Correctness.Senders
import WhiteRabbitPtp.Correctness.ParentRecord
import WhiteRabbitPtp.Correctness.SendFailures
import WhiteRabbitPtp.Correctness.PeerDelays
import WhiteRabbitPtp.Correctness.RequestInterval
import WhiteRabbitPtp.Correctness.ServoTotals
import WhiteRabbitPtp.Correctness.Retries
import WhiteRabbitPtp.Correctness.RxQueue
import WhiteRabbitPtp.Correctness.Minipc
import WhiteRabbitPtp.Correctness.MinipcCall
import WhiteRabbitPtp.Correctness.Timers
import WhiteRabbitPtp.Correctness.ServoLocks
import WhiteRabbitPtp.Correctness.MinipcRun
import WhiteRabbitPtp.Correctness.MinipcClients
import WhiteRabbitPtp.Correctness.Conduct
import WhiteRabbitPtp.Correctness.SyncPairs
import WhiteRabbitPtp.Correctness.ServoExchanges
import WhiteRabbitPtp.Correctness.SocketRuns
import WhiteRabbitPtp.Correctness.SyncTimes
import WhiteRabbitPtp.Correctness.RequestTimes
import WhiteRabbitPtp.Correctness.CorrectStamps

import OmpRemote.Lib.Fallible
import OmpRemote.Lib.Machine
import OmpRemote.Lib.Word
import OmpRemote.Lib.Mpsc
import OmpRemote.Lib.BufReader
import OmpRemote.Lib.SequencedLog
import OmpRemote.Lib.Table
import OmpRemote.Lib.Registers
import OmpRemote.Rpc.Message
import OmpRemote.Rpc.Chunk
import OmpRemote.Rpc.Decoder
import OmpRemote.Protocol.State
import OmpRemote.Protocol.Admission
import OmpRemote.Protocol.Convergence
import OmpRemote.Protocol.Frame
import OmpRemote.Protocol.Codec
import OmpRemote.Protocol.RoundTrip
import OmpRemote.Lib.Cbor
import OmpRemote.Lib.CborItem
import OmpRemote.Protocol.Serialize
import OmpRemote.Protocol.RequestCbor
import OmpRemote.ControlPlane.Actor
import OmpRemote.ControlPlane.History
import OmpRemote.ControlPlane.Calls
import OmpRemote.ControlPlane.Runs
import OmpRemote.ControlPlane.Replay
import OmpRemote.ControlPlane.Resume
import OmpRemote.ControlPlane.Completeness
import OmpRemote.ControlPlane.Subscription
import OmpRemote.ControlPlane.Exclusion
import OmpRemote.ControlPlane.Contiguous
import OmpRemote.ControlPlane.Atomicity
import OmpRemote.Client.Reducer
import OmpRemote.Client.FailClosed
import OmpRemote.Client.Genuine
import OmpRemote.Client.Runner
import OmpRemote.Client.RequestTable
import OmpRemote.Client.Resend
import OmpRemote.Client.News
import OmpRemote.Client.Events
import OmpRemote.Client.Handshake
import OmpRemote.Client.WrittenFrames
import OmpRemote.Client.Encoding
import OmpRemote.Runtime.Actor
import OmpRemote.Runtime.Correlation
import OmpRemote.Runtime.PromptPhase
import OmpRemote.Runtime.Terminal
import OmpRemote.Runtime.Startup
import OmpRemote.Runtime.Lines
import OmpRemote.Ompd.Records
import OmpRemote.Ompd.Store
import OmpRemote.Ompd.StoreHistory
import OmpRemote.Ompd.Pairing
import OmpRemote.Ompd.Outbound
import OmpRemote.Ompd.Requests
import OmpRemote.Ompd.AtMostOnce
import OmpRemote.Ompd.Server
import OmpRemote.Ompd.Authorization
import OmpRemote.Ompd.Revocation
import OmpRemote.Ompd.Pruning
import OmpRemote.Ompd.Outcomes
import OmpRemote.Ompd.Limits
import OmpRemote.Ompd.Heartbeat
import OmpRemote.Ompd.Delivery
import OmpRemote.Ompd.Incarnation
import OmpRemote.Ompd.Restart
import OmpRemote.Ompd.RunTable
import OmpRemote.Ompd.SingleRuntime
import OmpRemote.Ompd.UiResponse
import OmpRemote.Ompd.TodoOrder
import OmpRemote.Ompd.UiAtMostOnce
import OmpRemote.Lib.Broadcast
import OmpRemote.Lib.Base64
import OmpRemote.Lib.Text
import OmpRemote.Client.PairingLink
import OmpRemote.Runtime.Events
import OmpRemote.Ompd.Supervision
import OmpRemote.Ompd.SupervisionSteps
import OmpRemote.Ompd.LaunchOrder
import OmpRemote.Ompd.Recovery
import OmpRemote.Ompd.LifecycleMatch
import OmpRemote.Ompd.EventLoss
import OmpRemote.Ompd.RowFollows
import OmpRemote.Ompd.Rows
import OmpRemote.Ompd.AgentList
import OmpRemote.Ompd.RunHistory
import OmpRemote.Ompd.PromptEnd
import OmpRemote.Ompd.PromptFailure
import OmpRemote.Ompd.SwitchFailure
import OmpRemote.Ompd.BridgeIsolation
import OmpRemote.Ompd.RunClosed
import OmpRemote.Ompd.Credential
import OmpRemote.Ompd.PairingLink
import OmpRemote.Ompd.PairingAtomic
import OmpRemote.Lib.Utf8
import OmpRemote.Lib.IpAddr
import OmpRemote.Client.Fingerprint
import OmpRemote.Client.Loopback
import OmpRemote.App.Transcript
import OmpRemote.App.Join
import OmpRemote.App.Interactions
import OmpRemote.Replication.Feed
import OmpRemote.Replication.Handover
import OmpRemote.Ompd.ResponseLanes
import OmpRemote.Ompd.Responses
import OmpRemote.Ompd.Sources
import OmpRemote.Ompd.Executions
import OmpRemote.Replication.Requests
import OmpRemote.Lib.Duration
import OmpRemote.Client.Lifecycle
import OmpRemote.Client.Reconnects
import OmpRemote.Client.Identity
import OmpRemote.Ompd.Passages
import OmpRemote.Ompd.Welcomes
import OmpRemote.Replication.Agreement
import OmpRemote.Ompd.Columns
import OmpRemote.Ompd.Database
import OmpRemote.Ompd.DatabaseSteps
import OmpRemote.Ompd.Opening
import OmpRemote.Ompd.ReadBack
import OmpRemote.Ompd.Conflicts
import OmpRemote.Lib.Keyed
import OmpRemote.App.Profiles

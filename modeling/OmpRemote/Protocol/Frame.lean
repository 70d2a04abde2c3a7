import OmpRemote.Protocol.State

/-!
# Control frames

What a control client and the daemon send each other. Frames of the handshake
and the heartbeat carry only what some party acts on.
-/

namespace OmpRemote

open Rpc

/-! ## Identifiers -/

structure DeviceId where
  text : String
  deriving DecidableEq, Repr

structure PairingId where
  text : String
  deriving DecidableEq, Repr

structure OperationId where
  text : String
  deriving DecidableEq, Repr

/-- The transport request id of the control protocol. -/
structure RequestId where
  text : String
  deriving DecidableEq, Repr

structure ServerId where
  text : String
  deriving DecidableEq, Repr

structure ConnectionId where
  text : String
  deriving DecidableEq, Repr

structure PairingSecret where
  text : String
  deriving DecidableEq, Repr

structure DeviceToken where
  text : String
  deriving DecidableEq, Repr

/-! ## Requests and responses -/

structure DeviceScopes where
  observe : Bool
  prompt : Bool
  mutateSession : Bool
  stopAgent : Bool
  answerUi : Bool
  administerDevices : Bool
  deriving DecidableEq, Repr

inductive ClientPlatform where
  | web | mobile | desktop | cli | service
  deriving DecidableEq, Repr

structure DeviceDescriptor where
  name : String
  platform : ClientPlatform
  deriving DecidableEq, Repr

structure DeviceCredential where
  serverId : ServerId
  deviceId : DeviceId
  token : DeviceToken
  scopes : DeviceScopes
  deriving DecidableEq, Repr

structure DeviceSummary where
  deviceId : DeviceId
  name : String
  platform : ClientPlatform
  scopes : DeviceScopes
  createdAtMs : UInt64
  lastSeenAtMs : Option UInt64
  revokedAtMs : Option UInt64
  deriving DecidableEq, Repr

inductive StreamingBehavior where
  | steer | followUp
  deriving DecidableEq, Repr

/-- An image of a prompt, as its JSON text. -/
abbrev ImageContent := Json

inductive ControlRequest where
  | listAgents
  | getAgent (agentId : AgentId)
  | listDevices
  | revokeDevice (deviceId : DeviceId)
  | launchAgent (agentId : AgentId)
  | stopAgent (agentId : AgentId)
  | prompt (agentId : AgentId) (message : String) (images : List ImageContent)
      (streamingBehavior : Option StreamingBehavior)
  | steer (agentId : AgentId) (message : String) (images : List ImageContent)
  | followUp (agentId : AgentId) (message : String) (images : List ImageContent)
  | abort (agentId : AgentId)
  | switchSession (agentId : AgentId) (sessionPath : String)
  | respondToUi (agentId : AgentId) (holder : LeaseHolderId) (response : ExtensionUiResponseFrame)
  | acquireInteractionLease (agentId : AgentId) (holder : LeaseHolderId)
      (ttlMs : { ttl : UInt64 // ttl ≠ 0 })
  | releaseInteractionLease (agentId : AgentId) (holder : LeaseHolderId)
  deriving DecidableEq, Repr

def ControlRequest.isMutating : ControlRequest → Bool
  | .listAgents | .getAgent _ | .listDevices => false
  | _ => true

structure RequestEnvelope where
  requestId : RequestId
  operationId : Option OperationId
  request : ControlRequest
  deriving DecidableEq, Repr

inductive RequestValidationError where
  | missingOperationId | unexpectedOperationId
  deriving DecidableEq, Repr

namespace RequestValidationError

def message : RequestValidationError → String
  | missingOperationId => "mutating requests require an operation ID"
  | unexpectedOperationId => "read-only requests cannot carry an operation ID"

end RequestValidationError

def RequestEnvelope.validate (envelope : RequestEnvelope) : Except RequestValidationError Unit :=
  if envelope.request.isMutating && envelope.operationId.isNone then .error .missingOperationId
  else if !envelope.request.isMutating && envelope.operationId.isSome then
    .error .unexpectedOperationId
  else .ok ()

structure ProtocolError where
  code : String
  message : String
  retryable : Bool
  deriving DecidableEq, Repr

inductive ControlResponse where
  | accepted
  | agents (agents : List AgentSnapshot)
  | agent (agent : AgentSnapshot)
  | devices (devices : List DeviceSummary)
  | deviceRevoked (deviceId : DeviceId)
  | promptAccepted (runId : RunId)
  | interactionLease (lease : InteractionLease)
  | interactionReleased
  deriving DecidableEq, Repr

inductive ResponseOutcome where
  | success (response : ControlResponse)
  | error (error : ProtocolError)
  deriving DecidableEq, Repr

structure ResponseEnvelope where
  requestId : RequestId
  outcome : ResponseOutcome
  deriving DecidableEq, Repr

/-! ## Streams -/

structure SubscribeRequest where
  agentId : AgentId
  cursor : Option SubscriptionCursor
  deriving DecidableEq, Repr

structure UiResponseEnvelope where
  agentId : AgentId
  requestId : RequestId
  operationId : OperationId
  holder : LeaseHolderId
  response : ExtensionUiResponseFrame
  deriving DecidableEq, Repr

structure StateSnapshot where
  agents : List AgentSnapshot
  deriving DecidableEq, Repr

structure DeltaEnvelope where
  eventSequence : EventSequence
  delta : StateDelta
  deriving DecidableEq, Repr

structure EventEnvelope where
  agentId : AgentId
  eventSequence : EventSequence
  event : ServerMessage
  deriving DecidableEq, Repr

structure UiInteractionEnvelope where
  agentId : AgentId
  eventSequence : EventSequence
  request : ExtensionUiRequestFrame
  deriving DecidableEq, Repr

inductive ReplayGapReason where
  | bufferExpired | nonContiguousCursor | slowConsumer
  deriving DecidableEq, Repr

structure ReplayGap where
  agentId : AgentId
  currentRevision : StateRevision
  currentEventSequence : EventSequence
  reason : ReplayGapReason
  deriving DecidableEq, Repr

/-! ## The handshake -/

abbrev ProtocolVersion := UInt16

inductive ClientAuthentication where
  | pair (pairingId : PairingId) (secret : PairingSecret) (device : DeviceDescriptor)
  | device (deviceId : DeviceId) (token : DeviceToken)
  deriving DecidableEq, Repr

structure ClientHello where
  supportedVersions : List ProtocolVersion
  /-- The capabilities asked for. -/
  capabilities : List String
  authentication : ClientAuthentication
  deriving DecidableEq, Repr

structure ServerCapabilities where
  enabled : List String
  maxFrameBytes : UInt32
  deriving DecidableEq, Repr

structure ServerWelcome where
  protocolVersion : ProtocolVersion
  serverId : ServerId
  connectionId : ConnectionId
  deviceId : DeviceId
  capabilities : ServerCapabilities
  heartbeatIntervalMs : UInt64
  issuedCredential : Option DeviceCredential
  deriving DecidableEq, Repr

/-! ## Frames -/

inductive ClientFrame where
  | hello (hello : ClientHello)
  | request (envelope : RequestEnvelope)
  | subscribe (request : SubscribeRequest)
  | unsubscribe (agentId : AgentId)
  | uiResponse (envelope : UiResponseEnvelope)
  | ping (nonce : UInt64)
  deriving DecidableEq, Repr

inductive ServerFrame where
  | welcome (welcome : ServerWelcome)
  | response (envelope : ResponseEnvelope)
  | snapshot (snapshot : StateSnapshot)
  | delta (envelope : DeltaEnvelope)
  | event (envelope : EventEnvelope)
  | replayGap (gap : ReplayGap)
  | interactionRequest (envelope : UiInteractionEnvelope)
  | error (error : ProtocolError)
  | pong (nonce : UInt64)
  | serverShutdown (reason : String) (reconnectAfterMs : Option UInt64)
  deriving DecidableEq, Repr

end OmpRemote

import OmpRemote.Protocol.Frame

/-!
# Persistence records

The rows of the daemon's database as the store hands them out, and the errors of
its operations.
-/

namespace OmpRemote.Ompd

structure AgentRecord where
  agentId : AgentId
  lifecycle : AgentLifecycle
  processId : Option UInt32
  activeRunId : Option RunId
  createdAtMs : UInt64
  updatedAtMs : UInt64
  deriving DecidableEq, Repr

structure DeviceRecord where
  deviceId : DeviceId
  name : String
  platform : ClientPlatform
  scopes : DeviceScopes
  createdAtMs : UInt64
  lastSeenAtMs : Option UInt64
  revokedAtMs : Option UInt64
  deriving DecidableEq, Repr

structure PairingGrant where
  pairingId : PairingId
  secret : PairingSecret
  expiresAtMs : UInt64
  deriving DecidableEq, Repr

structure PairingRecord where
  pairingId : PairingId
  requestedName : String
  scopes : DeviceScopes
  createdAtMs : UInt64
  expiresAtMs : UInt64
  consumedAtMs : Option UInt64
  deriving DecidableEq, Repr

structure SessionResumeRecord where
  agentId : AgentId
  sessionId : String
  sessionFile : String
  revision : StateRevision
  eventSequence : EventSequence
  updatedAtMs : UInt64
  deriving DecidableEq, Repr

inductive OperationClaim where
  | execute
  | inProgress
  | completed (outcome : ResponseOutcome)
  | indeterminate
  deriving DecidableEq, Repr

structure OperationKey where
  deviceId : DeviceId
  operationId : OperationId
  deriving DecidableEq, Repr

/-! ## Errors -/

/-- Why CBOR encoding or decoding failed, as text. -/
abbrev CborCodecError := String

inductive StoreError where
  | database
  | codec (error : CborCodecError)
  | integerOverflow (field : String)
  | corruptData (message : String)
  deriving DecidableEq, Repr

inductive DeviceAuthenticationError where
  | invalidCredential
  | revoked
  | store (error : StoreError)
  deriving DecidableEq, Repr

inductive PairingError where
  | invalidCredential
  | expired
  | consumed
  | store (error : StoreError)
  deriving DecidableEq, Repr

inductive OperationError where
  | conflictingRequest
  | notPending
  | store (error : StoreError)
  deriving DecidableEq, Repr

end OmpRemote.Ompd

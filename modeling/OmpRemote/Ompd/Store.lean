import Mathlib
import OmpRemote.Lib.Fallible
import OmpRemote.Lib.Table
import OmpRemote.Lib.Word
import OmpRemote.Ompd.Records

/-!
# The store

The daemon's database: five tables and the operations on them. SHA-256 and the
CBOR codec come from elsewhere and are parameters (`Backend`); what SQLite adds
is that a statement or transaction happens entirely or not at all.

Every operation takes the index of the first of its statements that the database
refuses, if any (`fault`), and the random values it draws.
-/

namespace OmpRemote.Ompd

open Lib

/-- The library functions the store relies on, over a type of digests. -/
structure Backend (δ : Type) where
  sha256 : ByteArray → δ
  encodeRequest : ControlRequest → Except CborCodecError ByteArray
  encodeOutcome : ResponseOutcome → Except CborCodecError ByteArray
  decodeOutcome : ByteArray → Except CborCodecError ResponseOutcome

structure DeviceRow (δ : Type) where
  record : DeviceRecord
  tokenHash : δ

structure PairingRow (δ : Type) where
  record : PairingRecord
  secretHash : δ

inductive OperationStatus where
  | pending | completed | indeterminate
  deriving DecidableEq, Repr

structure OperationRow (δ : Type) where
  requestHash : δ
  status : OperationStatus
  outcomeCbor : Option ByteArray
  createdAtMs : UInt64
  completedAtMs : Option UInt64

structure Store (δ : Type) where
  serverId : ServerId
  agents : Table AgentId AgentRecord
  sessions : Table AgentId SessionResumeRecord
  devices : Table DeviceId (DeviceRow δ)
  pairingSecrets : Table PairingId (PairingRow δ)
  operations : Table OperationKey (OperationRow δ)

/-- SQLite integers are signed: a word fits when its top bit is clear. -/
def sqlU64 (value : UInt64) (field : String) : Except StoreError UInt64 :=
  if value.toNat < 2 ^ 63 then .ok value else .error (.integerOverflow field)

theorem sqlU64_ok {value result : UInt64} {field : String} :
    sqlU64 value field = .ok result ↔ value.toNat < 2 ^ 63 ∧ value = result := by
  unfold sqlU64
  split
  · rename_i h
    rw [Except.ok.injEq]
    exact ⟨fun heq => ⟨h, heq⟩, fun heq => heq.2⟩
  · rename_i h
    exact ⟨nofun, fun heq => absurd heq.1 h⟩

namespace Store

variable {δ : Type} [DecidableEq δ]

omit [DecidableEq δ] in
/-- A database as `migrate` creates it. -/
def create (serverId : ServerId) : Store δ where
  serverId := serverId
  agents := .empty
  sessions := .empty
  devices := .empty
  pairingSecrets := .empty
  operations := .empty

/-- One autocommitted statement, whose parameters are computed first. -/
def statement (store : Store δ) (fault : Option Nat) (effect : Except StoreError (Store δ)) :
    Except StoreError Unit × Store δ :=
  match effect with
  | .error error => (.error error, store)
  | .ok store' => if fault.isSome then (.error .database, store) else (.ok (), store')

/-! ## Agents and sessions -/

def upsertAgent (store : Store δ) (record : AgentRecord) (fault : Option Nat) :
    Except StoreError Unit × Store δ :=
  store.statement fault do
    let _ ← sqlU64 record.createdAtMs "agent created_at_ms"
    let _ ← sqlU64 record.updatedAtMs "agent updated_at_ms"
    .ok { store with
      agents := store.agents.upsert record.agentId record fun old =>
        { record with createdAtMs := old.createdAtMs } }

def agent (store : Store δ) (agentId : AgentId) : Option AgentRecord :=
  store.agents.lookup agentId

/-- The row references the agent's row, which must exist. -/
def upsertSession (store : Store δ) (record : SessionResumeRecord) (fault : Option Nat) :
    Except StoreError Unit × Store δ :=
  store.statement fault do
    let _ ← sqlU64 record.revision "session revision"
    let _ ← sqlU64 record.eventSequence "session event sequence"
    let _ ← sqlU64 record.updatedAtMs "session updated_at_ms"
    if (store.agents.lookup record.agentId).isNone then .error .database
    else .ok { store with
      sessions := store.sessions.upsert record.agentId record fun _ => record }

def session (store : Store δ) (agentId : AgentId) : Option SessionResumeRecord :=
  store.sessions.lookup agentId

/-! ## Devices -/

def hashSecret (backend : Backend δ) (secret : String) : δ := backend.sha256 secret.toByteArray

def insertDevice (backend : Backend δ) (store : Store δ) (record : DeviceRecord)
    (token : DeviceToken) (fault : Option Nat) : Except StoreError Unit × Store δ :=
  store.statement fault do
    let _ ← sqlU64 record.createdAtMs "device created_at_ms"
    let _ ← record.lastSeenAtMs.mapM (sqlU64 · "device last_seen_at_ms")
    let _ ← record.revokedAtMs.mapM (sqlU64 · "device revoked_at_ms")
    match store.devices.insert record.deviceId ⟨record, hashSecret backend token.text⟩ with
    | none => .error .database
    | some devices => .ok { store with devices }

def device (store : Store δ) (deviceId : DeviceId) : Option DeviceRecord :=
  (store.devices.lookup deviceId).map DeviceRow.record

/-- Three statements: read the hash, note the time, read the row back. -/
def authenticateDevice (backend : Backend δ) (store : Store δ) (deviceId : DeviceId)
    (token : DeviceToken) (nowMs : UInt64) (fault : Option Nat) :
    Except DeviceAuthenticationError DeviceRecord × Store δ :=
  if fault = some 0 then (.error (.store .database), store)
  else match store.devices.lookup deviceId with
    | none => (.error .invalidCredential, store)
    | some row =>
      if row.tokenHash ≠ hashSecret backend token.text then (.error .invalidCredential, store)
      else if row.record.revokedAtMs.isSome then (.error .revoked, store)
      else match sqlU64 nowMs "device last_seen_at_ms" with
        | .error error => (.error (.store error), store)
        | .ok nowMs =>
          if fault = some 1 then (.error (.store .database), store)
          else
            let store := { store with devices := store.devices.modify deviceId fun row =>
              { row with record := { row.record with lastSeenAtMs := some nowMs } } }
            if fault.isSome then (.error (.store .database), store)
            else match store.device deviceId with
              | none => (.error .invalidCredential, store)
              | some record => (.ok record, store)

/-- Whether the device was there and not revoked before. -/
def revokeDevice (store : Store δ) (deviceId : DeviceId) (nowMs : UInt64) (fault : Option Nat) :
    Except StoreError Bool × Store δ :=
  match sqlU64 nowMs "device revoked_at_ms" with
  | .error error => (.error error, store)
  | .ok nowMs =>
    if fault.isSome then (.error .database, store)
    else
      let unrevoked := (store.device deviceId).any fun record => record.revokedAtMs.isNone
      (.ok unrevoked, { store with devices := store.devices.modify deviceId fun row =>
        if row.record.revokedAtMs.isNone then
          { row with record := { row.record with revokedAtMs := some nowMs } }
        else row })

/-! ## Pairing -/

/-- `pairingId` and `secret` are drawn at random. -/
def createPairing (backend : Backend δ) (store : Store δ) (requestedName : String)
    (scopes : DeviceScopes) (nowMs : UInt64) (ttlMs : { ttl : UInt64 // ttl ≠ 0 })
    (pairingId : PairingId) (secret : PairingSecret) (fault : Option Nat) :
    Except StoreError PairingGrant × Store δ :=
  match checkedAdd nowMs ttlMs with
  | none => (.error (.integerOverflow "pairing expiry"), store)
  | some expiresAtMs =>
    let inserted := store.statement fault do
      let createdAtMs ← sqlU64 nowMs "pairing created_at_ms"
      let expiresAtMs ← sqlU64 expiresAtMs "pairing expires_at_ms"
      match store.pairingSecrets.insert pairingId
          ⟨⟨pairingId, requestedName, scopes, createdAtMs, expiresAtMs, none⟩,
            hashSecret backend secret.text⟩ with
      | none => .error .database
      | some pairingSecrets => .ok { store with pairingSecrets }
    (inserted.1.map fun _ => ⟨pairingId, secret, expiresAtMs⟩, inserted.2)

/-- The checks `consume_pairing` and `exchange_pairing` share, and the update
that marks the row. Both run in one transaction, so the row found unconsumed is
still so when it is marked. -/
def redeemPairing (backend : Backend δ) (store : Store δ) (pairingId : PairingId)
    (secret : PairingSecret) (nowMs : UInt64) : Except PairingError (PairingRecord × Store δ) :=
  match store.pairingSecrets.lookup pairingId with
  | none => .error .invalidCredential
  | some raw =>
    if raw.secretHash ≠ hashSecret backend secret.text then .error .invalidCredential
    else if raw.record.consumedAtMs.isSome then .error .consumed
    else if raw.record.expiresAtMs ≤ nowMs then .error .expired
    else match sqlU64 nowMs "pairing consumed_at_ms" with
      | .error error => .error (.store error)
      | .ok nowMs =>
        let pairingSecrets := store.pairingSecrets.modify pairingId fun row =>
          { row with record := { row.record with consumedAtMs := some nowMs } }
        .ok (raw.record, { store with pairingSecrets })

def consumePairing (backend : Backend δ) (store : Store δ) (pairingId : PairingId)
    (secret : PairingSecret) (nowMs : UInt64) (fault : Option Nat) :
    Except PairingError PairingRecord × Store δ :=
  if fault.isSome then (.error (.store .database), store)
  else match store.redeemPairing backend pairingId secret nowMs with
    | .error error => (.error error, store)
    | .ok (raw, store) => (.ok { raw with consumedAtMs := some nowMs }, store)

/-- `token` and `deviceId` are drawn at random. -/
def exchangePairing (backend : Backend δ) (store : Store δ) (pairingId : PairingId)
    (secret : PairingSecret) (descriptor : DeviceDescriptor) (nowMs : UInt64)
    (token : DeviceToken) (deviceId : DeviceId) (fault : Option Nat) :
    Except PairingError DeviceCredential × Store δ :=
  if fault.isSome then (.error (.store .database), store)
  else match store.redeemPairing backend pairingId secret nowMs with
    | .error error => (.error error, store)
    | .ok (raw, redeemed) =>
      let name := if raw.requestedName.isEmpty then descriptor.name else raw.requestedName
      let record : DeviceRecord :=
        ⟨deviceId, name, descriptor.platform, raw.scopes, nowMs, some nowMs, none⟩
      match redeemed.devices.insert deviceId ⟨record, hashSecret backend token.text⟩ with
      | none => (.error (.store .database), store)
      | some devices =>
        (.ok ⟨store.serverId, deviceId, token, raw.scopes⟩, { redeemed with devices })

/-! ## Operations -/

/-- `INSERT OR IGNORE`, which does not ignore a missing device, then a look at
the row that was there. -/
def claimOperation (backend : Backend δ) (store : Store δ) (key : OperationKey)
    (request : ControlRequest) (nowMs : UInt64) (fault : Option Nat) :
    Except OperationError OperationClaim × Store δ :=
  match backend.encodeRequest request with
  | .error error => (.error (.store (.codec error)), store)
  | .ok encoded =>
    let requestHash := backend.sha256 encoded
    match sqlU64 nowMs "operation created_at_ms" with
    | .error error => (.error (.store error), store)
    | .ok nowMs =>
      if fault.isSome then (.error (.store .database), store)
      else match store.operations.lookup key with
        | none =>
          if (store.devices.lookup key.deviceId).isNone then (.error (.store .database), store)
          else match store.operations.insert key ⟨requestHash, .pending, none, nowMs, none⟩ with
            | none => (.error (.store .database), store)
            | some operations => (.ok .execute, { store with operations })
        | some row =>
          if row.requestHash ≠ requestHash then (.error .conflictingRequest, store)
          else match row.status with
            | .pending => (.ok .inProgress, store)
            | .indeterminate => (.ok .indeterminate, store)
            | .completed =>
              match row.outcomeCbor with
              | none =>
                (.error (.store (.corruptData "completed operation has no outcome")), store)
              | some bytes =>
                match backend.decodeOutcome bytes with
                | .error error => (.error (.store (.codec error)), store)
                | .ok outcome => (.ok (.completed outcome), store)

def completeOperation (backend : Backend δ) (store : Store δ) (key : OperationKey)
    (outcome : ResponseOutcome) (nowMs : UInt64) (fault : Option Nat) :
    Except OperationError Unit × Store δ :=
  match backend.encodeOutcome outcome with
  | .error error => (.error (.store (.codec error)), store)
  | .ok encoded =>
    match sqlU64 nowMs "operation completed_at_ms" with
    | .error error => (.error (.store error), store)
    | .ok nowMs =>
      if fault.isSome then (.error (.store .database), store)
      else if (store.operations.lookup key).any fun row => row.status = .pending then
        (.ok (), { store with operations := store.operations.modify key fun row =>
          { row with
            status := .completed, outcomeCbor := some encoded, completedAtMs := some nowMs } })
      else (.error .notPending, store)

/-- Delete a device's operations older than the cutoff, then all but its
`maxCount` newest. -/
def pruneOperations (store : Store δ) (deviceId : DeviceId) (olderThanMs : UInt64)
    (maxCount : Nat) (fault : Option Nat) : Except StoreError Nat × Store δ :=
  match sqlU64 olderThanMs "operation prune cutoff" with
  | .error error => (.error error, store)
  | .ok olderThanMs =>
    if fault = some 0 then (.error .database, store)
    else
      let recent := store.operations.keep fun key row =>
        !(key.deviceId = deviceId && row.createdAtMs < olderThanMs)
      let old := store.operations.rows.length - recent.rows.length
      let store := { store with operations := recent }
      if 2 ^ 63 ≤ maxCount then (.error (.integerOverflow "operation max count"), store)
      else if fault.isSome then (.error .database, store)
      else
        let newest := (recent.rows.filter fun row => row.1.deviceId = deviceId).mergeSort
          fun a b => a.2.createdAtMs > b.2.createdAtMs ||
            a.2.createdAtMs = b.2.createdAtMs && b.1.operationId.text ≤ a.1.operationId.text
        let excess := (newest.drop maxCount).map Prod.fst
        let kept := recent.keep fun key _ => key ∉ excess
        (.ok (old + excess.length), { store with operations := kept })

/-! ## Opening -/

/-- What a restart does to an agent's row: processes do not survive it. -/
def interruptAgent (nowMs : UInt64) (record : AgentRecord) : AgentRecord :=
  match record.lifecycle with
  | .starting | .running | .stopping =>
    { record with
      lifecycle := .interrupted, processId := none, activeRunId := none, updatedAtMs := nowMs }
  | .idle | .stopped | .interrupted | .failed _ => record

def interruptOperation (row : OperationRow δ) : OperationRow δ :=
  if row.status = .pending then { row with status := .indeterminate } else row

/-- Two statements, not in one transaction. -/
def recoverInterrupted (store : Store δ) (nowMs : UInt64) (fault : Option Nat) :
    Except StoreError Unit × Store δ :=
  match sqlU64 nowMs "recovery timestamp" with
  | .error error => (.error error, store)
  | .ok nowMs =>
    if fault = some 0 then (.error .database, store)
    else
      let store := { store with agents := store.agents.mapRows fun _ => interruptAgent nowMs }
      if fault.isSome then (.error .database, store)
      else
        (.ok (), { store with
          operations := store.operations.mapRows fun _ => interruptOperation })

end Store

end OmpRemote.Ompd

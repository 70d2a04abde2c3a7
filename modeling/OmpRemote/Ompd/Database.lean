import OmpRemote.Ompd.Columns
import OmpRemote.Ompd.StoreHistory

/-!
# The database

The tables as SQLite holds them, and the statements that the store has it execute. Over
records this is `Store`; `Database.execute` is the same operations over columns.

- `Database.execute`: an operation of an open store.
- `Database.open`: what happens before there is one.
-/

namespace OmpRemote.Ompd

open Lib

structure Database (δ : Type) where
  /-- `PRAGMA user_version`. -/
  userVersion : Int
  /-- How many statements of the schema have been executed, from the first on. -/
  created : Nat
  metadata : Table String String
  agents : Table String RawAgent
  sessions : Table String RawSession
  devices : Table String (RawDevice δ)
  pairingSecrets : Table String (RawPairing δ)
  operations : Table (String × String) (RawOperation δ)

namespace Database

variable {δ : Type} [DecidableEq δ]

omit [DecidableEq δ] in
/-- A file that SQLite has just made. -/
def new : Database δ := ⟨0, 0, .empty, .empty, .empty, .empty, .empty, .empty⟩

/-- One autocommitted statement, whose parameters are computed first. -/
def statement (database : Database δ) (fault : Option Nat)
    (effect : Except StoreError (Database δ)) : Except StoreError Unit × Database δ :=
  match effect with
  | .error error => (.error error, database)
  | .ok database' =>
    if fault.isSome then (.error .database, database) else (.ok (), database')

/-! ## Agents and sessions -/

def upsertAgent (database : Database δ) (record : AgentRecord) (fault : Option Nat) :
    Except StoreError Unit × Database δ :=
  database.statement fault do
    let createdAtMs ← sqlI64 record.createdAtMs "agent created_at_ms"
    let updatedAtMs ← sqlI64 record.updatedAtMs "agent updated_at_ms"
    let excluded : RawAgent := ⟨record.agentId.text, (encodeLifecycle record.lifecycle).1,
      (encodeLifecycle record.lifecycle).2, record.processId.map fun process => process.toNat,
      record.activeRunId.map RunId.text, createdAtMs, updatedAtMs⟩
    .ok { database with
      agents := database.agents.upsert record.agentId.text excluded fun old =>
        { old with
          lifecycle := excluded.lifecycle
          failureReason := excluded.failureReason
          processId := excluded.processId
          activeRunId := excluded.activeRunId
          updatedAtMs := excluded.updatedAtMs } }

/-- `SELECT … FROM agents WHERE agent_id = ?1`. -/
def agent (database : Database δ) (agentId : AgentId) : Except StoreError (Option AgentRecord) :=
  match database.agents.lookup agentId.text with
  | none => .ok none
  | some raw => (decodeAgent raw).map some

/-- `SELECT … FROM agents ORDER BY agent_id`. -/
def listAgents (database : Database δ) : Except StoreError (List AgentRecord) :=
  ((database.agents.rows.map Prod.snd).mergeSort fun a b => a.agentId ≤ b.agentId).mapM decodeAgent

def upsertSession (database : Database δ) (record : SessionResumeRecord) (fault : Option Nat) :
    Except StoreError Unit × Database δ :=
  database.statement fault do
    let revision ← sqlI64 record.revision "session revision"
    let eventSequence ← sqlI64 record.eventSequence "session event sequence"
    let updatedAtMs ← sqlI64 record.updatedAtMs "session updated_at_ms"
    let excluded : RawSession := ⟨record.agentId.text, record.sessionId, record.sessionFile,
      revision, eventSequence, updatedAtMs⟩
    if (database.agents.lookup record.agentId.text).isNone then .error .database
    else .ok { database with
      sessions := database.sessions.upsert record.agentId.text excluded fun old =>
        { old with
          sessionId := excluded.sessionId
          sessionFile := excluded.sessionFile
          revision := excluded.revision
          eventSequence := excluded.eventSequence
          updatedAtMs := excluded.updatedAtMs } }

def session (database : Database δ) (agentId : AgentId) :
    Except StoreError (Option SessionResumeRecord) :=
  match database.sessions.lookup agentId.text with
  | none => .ok none
  | some raw => (decodeSession raw).map some

/-! ## Devices -/

def insertDevice (backend : Backend δ) (database : Database δ) (record : DeviceRecord)
    (token : DeviceToken) (fault : Option Nat) : Except StoreError Unit × Database δ :=
  database.statement fault do
    let createdAtMs ← sqlI64 record.createdAtMs "device created_at_ms"
    let lastSeenAtMs ← record.lastSeenAtMs.mapM (sqlI64 · "device last_seen_at_ms")
    let revokedAtMs ← record.revokedAtMs.mapM (sqlI64 · "device revoked_at_ms")
    match database.devices.insert record.deviceId.text ⟨record.deviceId.text, record.name,
        encodePlatform record.platform, record.scopes, Store.hashSecret backend token.text,
        createdAtMs, lastSeenAtMs, revokedAtMs⟩ with
    | none => .error .database
    | some devices => .ok { database with devices }

/-- `load_device`. -/
def device (database : Database δ) (deviceId : DeviceId) :
    Except StoreError (Option DeviceRecord) :=
  match database.devices.lookup deviceId.text with
  | none => .ok none
  | some raw => (decodeDevice raw).map some

def authenticateDevice (backend : Backend δ) (database : Database δ) (deviceId : DeviceId)
    (token : DeviceToken) (nowMs : UInt64) (fault : Option Nat) :
    Except DeviceAuthenticationError DeviceRecord × Database δ :=
  if fault = some 0 then (.error (.store .database), database)
  else match database.devices.lookup deviceId.text with
    | none => (.error .invalidCredential, database)
    | some raw =>
      if raw.tokenHash ≠ Store.hashSecret backend token.text then
        (.error .invalidCredential, database)
      else if raw.revokedAtMs.isSome then (.error .revoked, database)
      else match sqlI64 nowMs "device last_seen_at_ms" with
        | .error error => (.error (.store error), database)
        | .ok nowMs =>
          if fault = some 1 then (.error (.store .database), database)
          else
            let database := { database with
              devices := database.devices.modify deviceId.text fun raw =>
                { raw with lastSeenAtMs := some nowMs } }
            if fault.isSome then (.error (.store .database), database)
            else match database.device deviceId with
              | .error error => (.error (.store error), database)
              | .ok none => (.error .invalidCredential, database)
              | .ok (some record) => (.ok record, database)

def revokeDevice (database : Database δ) (deviceId : DeviceId) (nowMs : UInt64)
    (fault : Option Nat) : Except StoreError Bool × Database δ :=
  match sqlI64 nowMs "device revoked_at_ms" with
  | .error error => (.error error, database)
  | .ok nowMs =>
    if fault.isSome then (.error .database, database)
    else
      let changed := (database.devices.lookup deviceId.text).any fun raw => raw.revokedAtMs.isNone
      (.ok changed, { database with
        devices := database.devices.modify deviceId.text fun raw =>
          if raw.revokedAtMs.isNone then { raw with revokedAtMs := some nowMs } else raw })

/-! ## Pairing -/

def createPairing (backend : Backend δ) (database : Database δ) (requestedName : String)
    (scopes : DeviceScopes) (nowMs : UInt64) (ttlMs : { ttl : UInt64 // ttl ≠ 0 })
    (pairingId : PairingId) (secret : PairingSecret) (fault : Option Nat) :
    Except StoreError PairingGrant × Database δ :=
  match checkedAdd nowMs ttlMs with
  | none => (.error (.integerOverflow "pairing expiry"), database)
  | some expiresAtMs =>
    let inserted := database.statement fault do
      let createdAtMs ← sqlI64 nowMs "pairing created_at_ms"
      let expiresAtMs ← sqlI64 expiresAtMs "pairing expires_at_ms"
      match database.pairingSecrets.insert pairingId.text ⟨pairingId.text, requestedName, scopes,
          Store.hashSecret backend secret.text, createdAtMs, expiresAtMs, none⟩ with
      | none => .error .database
      | some pairingSecrets => .ok { database with pairingSecrets }
    (inserted.1.map fun _ => ⟨pairingId, secret, expiresAtMs⟩, inserted.2)

/-- What `consume_pairing` and `exchange_pairing` do alike, in one transaction. -/
def redeemPairing (backend : Backend δ) (database : Database δ) (pairingId : PairingId)
    (secret : PairingSecret) (nowMs : UInt64) : Except PairingError (PairingRecord × Database δ) :=
  match database.pairingSecrets.lookup pairingId.text with
  | none => .error .invalidCredential
  | some raw =>
    match decodePairing raw with
    | .error error => .error (.store error)
    | .ok raw =>
      if raw.secretHash ≠ Store.hashSecret backend secret.text then .error .invalidCredential
      else if raw.record.consumedAtMs.isSome then .error .consumed
      else if raw.record.expiresAtMs ≤ nowMs then .error .expired
      else match sqlI64 nowMs "pairing consumed_at_ms" with
        | .error error => .error (.store error)
        | .ok nowMs =>
          .ok (raw.record, { database with
            pairingSecrets := database.pairingSecrets.modify pairingId.text fun raw =>
              { raw with consumedAtMs := some nowMs } })

def consumePairing (backend : Backend δ) (database : Database δ) (pairingId : PairingId)
    (secret : PairingSecret) (nowMs : UInt64) (fault : Option Nat) :
    Except PairingError PairingRecord × Database δ :=
  if fault.isSome then (.error (.store .database), database)
  else match database.redeemPairing backend pairingId secret nowMs with
    | .error error => (.error error, database)
    | .ok (raw, database) => (.ok { raw with consumedAtMs := some nowMs }, database)

def exchangePairing (backend : Backend δ) (serverId : ServerId) (database : Database δ)
    (pairingId : PairingId) (secret : PairingSecret) (descriptor : DeviceDescriptor)
    (nowMs : UInt64) (token : DeviceToken) (deviceId : DeviceId) (fault : Option Nat) :
    Except PairingError DeviceCredential × Database δ :=
  if fault.isSome then (.error (.store .database), database)
  else match database.redeemPairing backend pairingId secret nowMs with
    | .error error => (.error error, database)
    | .ok (raw, redeemed) =>
      let name := if raw.requestedName.isEmpty then descriptor.name else raw.requestedName
      match sqlI64 nowMs "device created_at_ms" with
      | .error error => (.error (.store error), database)
      | .ok createdAtMs =>
        match redeemed.devices.insert deviceId.text ⟨deviceId.text, name,
            encodePlatform descriptor.platform, raw.scopes, Store.hashSecret backend token.text,
            createdAtMs, some createdAtMs, none⟩ with
        | none => (.error (.store .database), database)
        | some devices => (.ok ⟨serverId, deviceId, token, raw.scopes⟩, { redeemed with devices })

/-! ## Operations -/

def claimOperation (backend : Backend δ) (database : Database δ) (key : OperationKey)
    (request : ControlRequest) (nowMs : UInt64) (fault : Option Nat) :
    Except OperationError OperationClaim × Database δ :=
  match backend.encodeRequest request with
  | .error error => (.error (.store (.codec error)), database)
  | .ok encoded =>
    let requestHash := backend.sha256 encoded
    match sqlI64 nowMs "operation created_at_ms" with
    | .error error => (.error (.store error), database)
    | .ok nowMs =>
      if fault.isSome then (.error (.store .database), database)
      else match database.operations.lookup key.columns with
        | none =>
          if (database.devices.lookup key.deviceId.text).isNone then
            (.error (.store .database), database)
          else match database.operations.insert key.columns
              ⟨requestHash, "pending", none, nowMs, none⟩ with
            | none => (.error (.store .database), database)
            | some operations => (.ok .execute, { database with operations })
        | some raw =>
          if raw.requestHash ≠ requestHash then (.error .conflictingRequest, database)
          else match raw.status with
            | "pending" => (.ok .inProgress, database)
            | "indeterminate" => (.ok .indeterminate, database)
            | "completed" =>
              match raw.outcomeCbor with
              | none =>
                (.error (.store (.corruptData "completed operation has no outcome")), database)
              | some bytes =>
                match backend.decodeOutcome bytes with
                | .error error => (.error (.store (.codec error)), database)
                | .ok outcome => (.ok (.completed outcome), database)
            | other =>
              (.error (.store (.corruptData ("unknown operation status " ++ other))), database)

def completeOperation (backend : Backend δ) (database : Database δ) (key : OperationKey)
    (outcome : ResponseOutcome) (nowMs : UInt64) (fault : Option Nat) :
    Except OperationError Unit × Database δ :=
  match backend.encodeOutcome outcome with
  | .error error => (.error (.store (.codec error)), database)
  | .ok encoded =>
    match sqlI64 nowMs "operation completed_at_ms" with
    | .error error => (.error (.store error), database)
    | .ok nowMs =>
      if fault.isSome then (.error (.store .database), database)
      else if (database.operations.lookup key.columns).any fun raw => raw.status = "pending" then
        (.ok (), { database with
          operations := database.operations.modify key.columns fun raw =>
            { raw with
              status := "completed", outcomeCbor := some encoded, completedAtMs := some nowMs } })
      else (.error .notPending, database)

/-- `ORDER BY created_at_ms DESC, operation_id DESC`. -/
def newer (a b : (String × String) × RawOperation δ) : Bool :=
  a.2.createdAtMs > b.2.createdAtMs || a.2.createdAtMs = b.2.createdAtMs && b.1.2 ≤ a.1.2

def pruneOperations (database : Database δ) (deviceId : DeviceId) (olderThanMs : UInt64)
    (maxCount : Nat) (fault : Option Nat) : Except StoreError Nat × Database δ :=
  match sqlI64 olderThanMs "operation prune cutoff" with
  | .error error => (.error error, database)
  | .ok olderThanMs =>
    if fault = some 0 then (.error .database, database)
    else
      let recent := database.operations.keep fun key raw =>
        !(key.1 = deviceId.text && raw.createdAtMs < olderThanMs)
      let old := database.operations.rows.length - recent.rows.length
      let database := { database with operations := recent }
      if 2 ^ 63 ≤ maxCount then (.error (.integerOverflow "operation max count"), database)
      else if fault.isSome then (.error .database, database)
      else
        let newest := (recent.rows.filter fun row => row.1.1 = deviceId.text).mergeSort newer
        let excess := (newest.drop maxCount).map Prod.fst
        let kept := recent.keep fun key _ => key ∉ excess
        (.ok (old + excess.length), { database with operations := kept })

/-! ## Opening -/

def interruptAgent (nowMs : Int) (raw : RawAgent) : RawAgent :=
  if raw.lifecycle ∈ ["starting", "running", "stopping"] then
    { raw with
      lifecycle := "interrupted", failureReason := none, processId := none, activeRunId := none,
      updatedAtMs := nowMs }
  else raw

def interruptOperation (raw : RawOperation δ) : RawOperation δ :=
  if raw.status = "pending" then { raw with status := "indeterminate" } else raw

def recoverInterrupted (database : Database δ) (nowMs : UInt64) (fault : Option Nat) :
    Except StoreError Unit × Database δ :=
  match sqlI64 nowMs "recovery timestamp" with
  | .error error => (.error error, database)
  | .ok nowMs =>
    if fault = some 0 then (.error .database, database)
    else
      let database := { database with
        agents := database.agents.mapRows fun _ => interruptAgent nowMs }
      if fault.isSome then (.error .database, database)
      else
        (.ok (), { database with
          operations := database.operations.mapRows fun _ => interruptOperation })

/-- An operation of a store that was opened with a server id. -/
def execute (backend : Backend δ) (serverId : ServerId) (database : Database δ) :
    StoreOperation → StoreReply × Database δ
  | .upsertAgent record fault => (database.upsertAgent record fault).map .done id
  | .upsertSession record fault => (database.upsertSession record fault).map .done id
  | .insertDevice record token fault =>
    (database.insertDevice backend record token fault).map .done id
  | .authenticateDevice deviceId token nowMs fault =>
    (database.authenticateDevice backend deviceId token nowMs fault).map .authenticated id
  | .revokeDevice deviceId nowMs fault =>
    (database.revokeDevice deviceId nowMs fault).map .revoked id
  | .createPairing requestedName scopes nowMs ttlMs pairingId secret fault =>
    (database.createPairing backend requestedName scopes nowMs ttlMs pairingId secret fault).map
      .granted id
  | .consumePairing pairingId secret nowMs fault =>
    (database.consumePairing backend pairingId secret nowMs fault).map .consumed id
  | .exchangePairing pairingId secret descriptor nowMs token deviceId fault =>
    (database.exchangePairing backend serverId pairingId secret descriptor nowMs token deviceId
      fault).map .exchanged id
  | .claimOperation key request nowMs fault =>
    (database.claimOperation backend key request nowMs fault).map .claimed id
  | .completeOperation key outcome nowMs fault =>
    (database.completeOperation backend key outcome nowMs fault).map .completed id
  | .pruneOperations deviceId olderThanMs maxCount fault =>
    (database.pruneOperations deviceId olderThanMs maxCount fault).map .pruned id
  | .reopen nowMs fault => (database.recoverInterrupted nowMs fault).map .done id

end Database

end OmpRemote.Ompd

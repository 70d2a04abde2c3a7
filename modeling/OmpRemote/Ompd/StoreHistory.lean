import OmpRemote.Lib.Machine
import OmpRemote.Ompd.Store

/-!
# Histories of the store

The operations of the store as inputs of one machine, so that "any sequence of
store operations" is a list. Reopening the database is one of them.

`execute_frame` says which tables an operation leaves alone; what it does to the
others is the subject of the modules about them.
-/

namespace OmpRemote.Ompd

open Lib

inductive StoreOperation where
  | upsertAgent (record : AgentRecord) (fault : Option Nat)
  | upsertSession (record : SessionResumeRecord) (fault : Option Nat)
  | insertDevice (record : DeviceRecord) (token : DeviceToken) (fault : Option Nat)
  | authenticateDevice (deviceId : DeviceId) (token : DeviceToken) (nowMs : UInt64)
      (fault : Option Nat)
  | revokeDevice (deviceId : DeviceId) (nowMs : UInt64) (fault : Option Nat)
  | createPairing (requestedName : String) (scopes : DeviceScopes) (nowMs : UInt64)
      (ttlMs : { ttl : UInt64 // ttl ≠ 0 }) (pairingId : PairingId) (secret : PairingSecret)
      (fault : Option Nat)
  | consumePairing (pairingId : PairingId) (secret : PairingSecret) (nowMs : UInt64)
      (fault : Option Nat)
  | exchangePairing (pairingId : PairingId) (secret : PairingSecret)
      (descriptor : DeviceDescriptor) (nowMs : UInt64) (token : DeviceToken)
      (deviceId : DeviceId) (fault : Option Nat)
  | claimOperation (key : OperationKey) (request : ControlRequest) (nowMs : UInt64)
      (fault : Option Nat)
  | completeOperation (key : OperationKey) (outcome : ResponseOutcome) (nowMs : UInt64)
      (fault : Option Nat)
  | pruneOperations (deviceId : DeviceId) (olderThanMs : UInt64) (maxCount : Nat)
      (fault : Option Nat)
  | reopen (nowMs : UInt64) (fault : Option Nat)

inductive StoreReply where
  | done (result : Except StoreError Unit)
  | authenticated (result : Except DeviceAuthenticationError DeviceRecord)
  | revoked (result : Except StoreError Bool)
  | granted (result : Except StoreError PairingGrant)
  | consumed (result : Except PairingError PairingRecord)
  | exchanged (result : Except PairingError DeviceCredential)
  | claimed (result : Except OperationError OperationClaim)
  | completed (result : Except OperationError Unit)
  | pruned (result : Except StoreError Nat)

variable {δ : Type} [DecidableEq δ]

def Store.execute (backend : Backend δ) (store : Store δ) :
    StoreOperation → StoreReply × Store δ
  | .upsertAgent record fault => (store.upsertAgent record fault).map .done id
  | .upsertSession record fault => (store.upsertSession record fault).map .done id
  | .insertDevice record token fault => (store.insertDevice backend record token fault).map .done id
  | .authenticateDevice deviceId token nowMs fault =>
    (store.authenticateDevice backend deviceId token nowMs fault).map .authenticated id
  | .revokeDevice deviceId nowMs fault => (store.revokeDevice deviceId nowMs fault).map .revoked id
  | .createPairing requestedName scopes nowMs ttlMs pairingId secret fault =>
    (store.createPairing backend requestedName scopes nowMs ttlMs pairingId secret fault).map
      .granted id
  | .consumePairing pairingId secret nowMs fault =>
    (store.consumePairing backend pairingId secret nowMs fault).map .consumed id
  | .exchangePairing pairingId secret descriptor nowMs token deviceId fault =>
    (store.exchangePairing backend pairingId secret descriptor nowMs token deviceId fault).map
      .exchanged id
  | .claimOperation key request nowMs fault =>
    (store.claimOperation backend key request nowMs fault).map .claimed id
  | .completeOperation key outcome nowMs fault =>
    (store.completeOperation backend key outcome nowMs fault).map .completed id
  | .pruneOperations deviceId olderThanMs maxCount fault =>
    (store.pruneOperations deviceId olderThanMs maxCount fault).map .pruned id
  | .reopen nowMs fault => (store.recoverInterrupted nowMs fault).map .done id

/-- One operation of a history, with its reply and the database around it. -/
abbrev StoreEvent (δ : Type) := Mealy.Event (Store δ) StoreOperation StoreReply

/-- The operations of a history of the store, in order. -/
def storeHistory (backend : Backend δ) (store : Store δ) (operations : List StoreOperation) :
    List (StoreEvent δ) :=
  Mealy.trace (Store.execute backend) store operations

/-! ## What a statement leaves alone -/

namespace Store

omit [DecidableEq δ] in
theorem statement_cases (store : Store δ) (fault : Option Nat)
    (effect : Except StoreError (Store δ)) :
    (∃ error, store.statement fault effect = (.error error, store)) ∨
      ∃ store', effect = .ok store' ∧ store.statement fault effect = (.ok (), store') := by
  unfold statement
  cases effect with
  | error error => exact .inl ⟨error, rfl⟩
  | ok store' =>
    dsimp only
    split
    · exact .inl ⟨_, rfl⟩
    · exact .inr ⟨store', rfl, rfl⟩

omit [DecidableEq δ] in
/-- A statement changes only what its effect does. -/
theorem statement_preserves {P : Store δ → Prop} {store : Store δ} {fault : Option Nat}
    {effect : Except StoreError (Store δ)} (h : P store)
    (heffect : ∀ store', effect = .ok store' → P store') : P (store.statement fault effect).2 := by
  rcases store.statement_cases fault effect with ⟨error, hs⟩ | ⟨store', hs, hst⟩
  · rwa [hs]
  · rw [hst]
    exact heffect store' hs

/-! ## The tables each operation writes -/

omit [DecidableEq δ] in
theorem upsertAgent_writes (store : Store δ) (record : AgentRecord) (fault : Option Nat) :
    ∃ agents, (store.upsertAgent record fault).2 = { store with agents } := by
  refine statement_preserves (P := fun s => ∃ agents, s = { store with agents })
    ⟨store.agents, rfl⟩ ?_
  intro store' h
  obtain ⟨-, -, h⟩ := bind_eq_ok.mp h
  obtain ⟨-, -, h⟩ := bind_eq_ok.mp h
  cases h
  exact ⟨_, rfl⟩

omit [DecidableEq δ] in
theorem upsertSession_writes (store : Store δ) (record : SessionResumeRecord)
    (fault : Option Nat) :
    ∃ sessions, (store.upsertSession record fault).2 = { store with sessions } := by
  refine statement_preserves (P := fun s => ∃ sessions, s = { store with sessions })
    ⟨store.sessions, rfl⟩ ?_
  intro store' h
  obtain ⟨-, -, h⟩ := bind_eq_ok.mp h
  obtain ⟨-, -, h⟩ := bind_eq_ok.mp h
  obtain ⟨-, -, h⟩ := bind_eq_ok.mp h
  obtain ⟨-, h⟩ := check_eq_ok.mp h
  cases h
  exact ⟨_, rfl⟩

omit [DecidableEq δ] in
theorem insertDevice_writes (backend : Backend δ) (store : Store δ) (record : DeviceRecord)
    (token : DeviceToken) (fault : Option Nat) :
    ∃ devices, (store.insertDevice backend record token fault).2 = { store with devices } := by
  refine statement_preserves (P := fun s => ∃ devices, s = { store with devices })
    ⟨store.devices, rfl⟩ ?_
  intro store' h
  obtain ⟨-, -, h⟩ := bind_eq_ok.mp h
  obtain ⟨-, -, h⟩ := bind_eq_ok.mp h
  obtain ⟨-, -, h⟩ := bind_eq_ok.mp h
  split at h
  · cases h
  · cases h
    exact ⟨_, rfl⟩

theorem authenticateDevice_writes (backend : Backend δ) (store : Store δ) (deviceId : DeviceId)
    (token : DeviceToken) (nowMs : UInt64) (fault : Option Nat) :
    ∃ devices, (store.authenticateDevice backend deviceId token nowMs fault).2 =
      { store with devices } := by
  have hsame : ∃ devices, store = { store with devices } := ⟨store.devices, rfl⟩
  unfold authenticateDevice
  split
  · exact hsame
  split
  · exact hsame
  split
  · exact hsame
  split
  · exact hsame
  split
  · exact hsame
  split
  · exact hsame
  -- from here on the time has been noted
  dsimp only
  split
  · exact ⟨_, rfl⟩
  split <;> exact ⟨_, rfl⟩

omit [DecidableEq δ] in
theorem revokeDevice_writes (store : Store δ) (deviceId : DeviceId) (nowMs : UInt64)
    (fault : Option Nat) :
    ∃ devices, (store.revokeDevice deviceId nowMs fault).2 = { store with devices } := by
  unfold revokeDevice
  split
  · exact ⟨store.devices, rfl⟩
  split
  · exact ⟨store.devices, rfl⟩
  · exact ⟨_, rfl⟩

omit [DecidableEq δ] in
theorem createPairing_writes (backend : Backend δ) (store : Store δ) (requestedName : String)
    (scopes : DeviceScopes) (nowMs : UInt64) (ttlMs : { ttl : UInt64 // ttl ≠ 0 })
    (pairingId : PairingId) (secret : PairingSecret) (fault : Option Nat) :
    ∃ pairingSecrets,
      (store.createPairing backend requestedName scopes nowMs ttlMs pairingId secret fault).2 =
        { store with pairingSecrets } := by
  unfold createPairing
  split
  · exact ⟨store.pairingSecrets, rfl⟩
  refine statement_preserves (P := fun s => ∃ pairingSecrets, s = { store with pairingSecrets })
    ⟨store.pairingSecrets, rfl⟩ ?_
  intro store' h
  obtain ⟨_, -, h⟩ := bind_eq_ok.mp h
  obtain ⟨_, -, h⟩ := bind_eq_ok.mp h
  split at h
  · cases h
  · cases h
    exact ⟨_, rfl⟩

theorem redeemPairing_writes {backend : Backend δ} {store store' : Store δ}
    {pairingId : PairingId} {secret : PairingSecret} {nowMs : UInt64} {raw : PairingRecord}
    (h : store.redeemPairing backend pairingId secret nowMs = .ok (raw, store')) :
    ∃ pairingSecrets, store' = { store with pairingSecrets } := by
  unfold redeemPairing at h
  split at h
  · cases h
  obtain ⟨-, h⟩ := check_eq_ok.mp h
  obtain ⟨-, h⟩ := check_eq_ok.mp h
  obtain ⟨-, h⟩ := check_eq_ok.mp h
  split at h
  · cases h
  · cases h
    exact ⟨_, rfl⟩

theorem consumePairing_writes (backend : Backend δ) (store : Store δ) (pairingId : PairingId)
    (secret : PairingSecret) (nowMs : UInt64) (fault : Option Nat) :
    ∃ pairingSecrets, (store.consumePairing backend pairingId secret nowMs fault).2 =
      { store with pairingSecrets } := by
  unfold consumePairing
  split
  · exact ⟨store.pairingSecrets, rfl⟩
  split
  · exact ⟨store.pairingSecrets, rfl⟩
  · rename_i hredeem
    exact redeemPairing_writes hredeem

theorem exchangePairing_writes (backend : Backend δ) (store : Store δ) (pairingId : PairingId)
    (secret : PairingSecret) (descriptor : DeviceDescriptor) (nowMs : UInt64)
    (token : DeviceToken) (deviceId : DeviceId) (fault : Option Nat) :
    ∃ devices pairingSecrets,
      (store.exchangePairing backend pairingId secret descriptor nowMs token deviceId fault).2 =
        { store with devices, pairingSecrets } := by
  have hsame : ∃ devices pairingSecrets, store = { store with devices, pairingSecrets } :=
    ⟨store.devices, store.pairingSecrets, rfl⟩
  unfold exchangePairing
  split
  · exact hsame
  split
  · exact hsame
  · rename_i hredeem
    obtain ⟨pairingSecrets, rfl⟩ := redeemPairing_writes hredeem
    dsimp only
    split
    · exact hsame
    · exact ⟨_, _, rfl⟩

theorem claimOperation_writes (backend : Backend δ) (store : Store δ) (key : OperationKey)
    (request : ControlRequest) (nowMs : UInt64) (fault : Option Nat) :
    ∃ operations, (store.claimOperation backend key request nowMs fault).2 =
      { store with operations } := by
  have hsame : ∃ operations, store = { store with operations } := ⟨store.operations, rfl⟩
  unfold claimOperation
  split
  · exact hsame
  dsimp only
  split
  · exact hsame
  split
  · exact hsame
  split
  · split
    · exact hsame
    split
    · exact hsame
    · exact ⟨_, rfl⟩
  split
  · exact hsame
  split
  · exact hsame
  · exact hsame
  split
  · exact hsame
  split <;> exact hsame

omit [DecidableEq δ] in
theorem completeOperation_writes (backend : Backend δ) (store : Store δ) (key : OperationKey)
    (outcome : ResponseOutcome) (nowMs : UInt64) (fault : Option Nat) :
    ∃ operations, (store.completeOperation backend key outcome nowMs fault).2 =
      { store with operations } := by
  have hsame : ∃ operations, store = { store with operations } := ⟨store.operations, rfl⟩
  unfold completeOperation
  split
  · exact hsame
  split
  · exact hsame
  split
  · exact hsame
  split
  · exact ⟨_, rfl⟩
  · exact hsame

omit [DecidableEq δ] in
theorem pruneOperations_writes (store : Store δ) (deviceId : DeviceId) (olderThanMs : UInt64)
    (maxCount : Nat) (fault : Option Nat) :
    ∃ operations, (store.pruneOperations deviceId olderThanMs maxCount fault).2 =
      { store with operations } := by
  unfold pruneOperations
  split
  · exact ⟨store.operations, rfl⟩
  split
  · exact ⟨store.operations, rfl⟩
  dsimp only
  split
  · exact ⟨_, rfl⟩
  split <;> exact ⟨_, rfl⟩

omit [DecidableEq δ] in
theorem recoverInterrupted_writes (store : Store δ) (nowMs : UInt64) (fault : Option Nat) :
    ∃ agents operations, (store.recoverInterrupted nowMs fault).2 =
      { store with agents, operations } := by
  unfold recoverInterrupted
  split
  · exact ⟨store.agents, store.operations, rfl⟩
  split
  · exact ⟨store.agents, store.operations, rfl⟩
  dsimp only
  split
  · exact ⟨_, store.operations, rfl⟩
  · exact ⟨_, _, rfl⟩

end Store

inductive StoreTable where
  | agents | sessions | devices | pairingSecrets | operations
  deriving DecidableEq, Repr

/-- The tables an operation may write. -/
def StoreOperation.tables : StoreOperation → List StoreTable
  | .upsertAgent .. => [.agents]
  | .upsertSession .. => [.sessions]
  | .insertDevice .. | .authenticateDevice .. | .revokeDevice .. => [.devices]
  | .createPairing .. | .consumePairing .. => [.pairingSecrets]
  | .exchangePairing .. => [.devices, .pairingSecrets]
  | .claimOperation .. | .completeOperation .. | .pruneOperations .. => [.operations]
  | .reopen .. => [.agents, .operations]

/-- Two databases agree outside the tables given. -/
structure Store.Frame (tables : List StoreTable) (store store' : Store δ) : Prop where
  serverId : store'.serverId = store.serverId
  agents : .agents ∉ tables → store'.agents = store.agents
  sessions : .sessions ∉ tables → store'.sessions = store.sessions
  devices : .devices ∉ tables → store'.devices = store.devices
  pairingSecrets : .pairingSecrets ∉ tables → store'.pairingSecrets = store.pairingSecrets
  operations : .operations ∉ tables → store'.operations = store.operations

namespace Store

/-- **An operation writes its own tables only.** -/
theorem execute_frame (backend : Backend δ) (store : Store δ) (operation : StoreOperation) :
    store.Frame operation.tables (store.execute backend operation).2 := by
  cases operation with
  | upsertAgent record fault =>
    obtain ⟨agents, h⟩ := store.upsertAgent_writes record fault
    rw [execute, Prod.map_snd, id, h]
    constructor <;> simp [StoreOperation.tables]
  | upsertSession record fault =>
    obtain ⟨sessions, h⟩ := store.upsertSession_writes record fault
    rw [execute, Prod.map_snd, id, h]
    constructor <;> simp [StoreOperation.tables]
  | insertDevice record token fault =>
    obtain ⟨devices, h⟩ := store.insertDevice_writes backend record token fault
    rw [execute, Prod.map_snd, id, h]
    constructor <;> simp [StoreOperation.tables]
  | authenticateDevice deviceId token nowMs fault =>
    obtain ⟨devices, h⟩ := store.authenticateDevice_writes backend deviceId token nowMs fault
    rw [execute, Prod.map_snd, id, h]
    constructor <;> simp [StoreOperation.tables]
  | revokeDevice deviceId nowMs fault =>
    obtain ⟨devices, h⟩ := store.revokeDevice_writes deviceId nowMs fault
    rw [execute, Prod.map_snd, id, h]
    constructor <;> simp [StoreOperation.tables]
  | createPairing requestedName scopes nowMs ttlMs pairingId secret fault =>
    obtain ⟨pairingSecrets, h⟩ := store.createPairing_writes backend requestedName scopes nowMs
      ttlMs pairingId secret fault
    rw [execute, Prod.map_snd, id, h]
    constructor <;> simp [StoreOperation.tables]
  | consumePairing pairingId secret nowMs fault =>
    obtain ⟨pairingSecrets, h⟩ := store.consumePairing_writes backend pairingId secret nowMs fault
    rw [execute, Prod.map_snd, id, h]
    constructor <;> simp [StoreOperation.tables]
  | exchangePairing pairingId secret descriptor nowMs token deviceId fault =>
    obtain ⟨devices, pairingSecrets, h⟩ := store.exchangePairing_writes backend pairingId secret
      descriptor nowMs token deviceId fault
    rw [execute, Prod.map_snd, id, h]
    constructor <;> simp [StoreOperation.tables]
  | claimOperation key request nowMs fault =>
    obtain ⟨operations, h⟩ := store.claimOperation_writes backend key request nowMs fault
    rw [execute, Prod.map_snd, id, h]
    constructor <;> simp [StoreOperation.tables]
  | completeOperation key outcome nowMs fault =>
    obtain ⟨operations, h⟩ := store.completeOperation_writes backend key outcome nowMs fault
    rw [execute, Prod.map_snd, id, h]
    constructor <;> simp [StoreOperation.tables]
  | pruneOperations deviceId olderThanMs maxCount fault =>
    obtain ⟨operations, h⟩ := store.pruneOperations_writes deviceId olderThanMs maxCount fault
    rw [execute, Prod.map_snd, id, h]
    constructor <;> simp [StoreOperation.tables]
  | reopen nowMs fault =>
    obtain ⟨agents, operations, h⟩ := store.recoverInterrupted_writes nowMs fault
    rw [execute, Prod.map_snd, id, h]
    constructor <;> simp [StoreOperation.tables]

end Store

end OmpRemote.Ompd

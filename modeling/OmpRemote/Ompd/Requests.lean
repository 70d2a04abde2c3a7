import Mathlib.Logic.Function.Basic
import OmpRemote.Ompd.StoreHistory

/-!
# Requests

How the daemon answers requests. `execute_request` claims the operation id in the
store, runs the controller and records the outcome; the three are separate steps,
between which other connections run, the connection's task may be dropped and the
daemon may crash.

- `Task`: where one call of `execute_request` is.
- `Daemon.step`: the daemon with any number of connections, one database and any
  number of crashes.
-/

namespace OmpRemote.Ompd

open Lib

/-! ## Errors -/

/-- What the error says; the text of the database's own errors is left out. -/
def StoreError.message : StoreError → String
  | .database => "SQLite error"
  | .codec error => error
  | .integerOverflow field => field ++ " exceeds SQLite range"
  | .corruptData message => "corrupt database data: " ++ message

def OperationError.message : OperationError → String
  | .conflictingRequest => "operation ID was reused for a different request"
  | .notPending => "operation is not pending"
  | .store error => error.message

def protocolError (code message : String) (retryable : Bool) : ProtocolError :=
  ⟨code, message, retryable⟩

def permissionError : ProtocolError :=
  protocolError "permission_denied" "device credential does not grant this operation" false

def operationInProgress : ProtocolError :=
  protocolError "operation_in_progress" "the operation is still in progress" true

def operationIndeterminate : ProtocolError :=
  protocolError "operation_indeterminate"
    "the daemon restarted before recording the operation outcome" false

def operationConflict (error : OperationError) : ProtocolError :=
  protocolError "operation_conflict" error.message false

def operationOutcomeNotPersisted (error : OperationError) : ProtocolError :=
  protocolError "operation_outcome_not_persisted" error.message false

/-! ## Requests -/

def authorized (scopes : DeviceScopes) : ControlRequest → Bool
  | .listAgents | .getAgent _ => scopes.observe
  | .listDevices | .revokeDevice _ => scopes.administerDevices
  | .launchAgent _ | .switchSession .. => scopes.mutateSession
  | .stopAgent _ | .abort _ => scopes.stopAgent
  | .prompt .. | .steer .. | .followUp .. => scopes.prompt
  | .respondToUi .. | .acquireInteractionLease .. | .releaseInteractionLease .. => scopes.answerUi

/-- The request a frame asks the daemon to execute. -/
def ClientFrame.request? : ClientFrame → Option RequestEnvelope
  | .request envelope => some envelope
  | .uiResponse envelope =>
    some ⟨envelope.requestId, some envelope.operationId,
      .respondToUi envelope.agentId envelope.holder envelope.response⟩
  | _ => none

/-- Where a call of `execute_request` is. -/
inductive Task where
  | received (envelope : RequestEnvelope)
  | claimed (key : OperationKey) (request : ControlRequest)
  | executing (key : Option OperationKey) (request : ControlRequest)
  | executed (key : OperationKey) (outcome : ResponseOutcome)
  deriving DecidableEq, Repr

/-- A connection handles one request at a time, with the device record it was
opened with. -/
structure Connection where
  device : DeviceRecord
  task : Option Task
  deriving DecidableEq, Repr

structure Daemon (δ : Type) where
  up : Bool
  store : Store δ
  connections : Nat → Option Connection

/-- The daemon before its first start on a new database. -/
def Daemon.create {δ : Type} (serverId : ServerId) :
    Daemon δ := ⟨false, .create serverId, fun _ => none⟩

inductive DaemonInput where
  /-- An authenticated connection is opened, or replaced. -/
  | connect (connection : Nat) (device : DeviceRecord)
  | receive (connection : Nat) (frame : ClientFrame)
  /-- Validate, authorize and claim: nothing is awaited in between. -/
  | claim (connection : Nat) (nowMs : UInt64) (fault : Option Nat)
  | call (connection : Nat)
  /-- The controller returns. -/
  | return (connection : Nat) (outcome : ResponseOutcome)
  | complete (connection : Nat) (nowMs : UInt64) (fault : Option Nat)
  /-- The connection's task is dropped where it stands. -/
  | disconnect (connection : Nat)
  /-- The controller, pairing or authentication uses the store. -/
  | store (operation : StoreOperation)
  | crash
  | start (nowMs : UInt64) (fault : Option Nat)

/-- What a step does that others can see. -/
inductive Effect where
  | claimed (key : OperationKey) (request : ControlRequest)
  /-- `controller.execute` is called. -/
  | called (key : Option OperationKey) (request : ControlRequest)
  /-- The outcome is recorded, and is the answer. -/
  | recorded (key : OperationKey) (outcome : ResponseOutcome)
  | answered (outcome : ResponseOutcome)
  deriving DecidableEq, Repr

namespace Daemon

variable {δ : Type} [DecidableEq δ]

omit [DecidableEq δ] in
def setTask (daemon : Daemon δ) (connection : Nat) (device : DeviceRecord) (task : Option Task) :
    Daemon δ :=
  { daemon with
    connections := Function.update daemon.connections connection (some ⟨device, task⟩) }

omit [DecidableEq δ] in
@[simp] theorem setTask_connections (daemon : Daemon δ) (connection : Nat) (device : DeviceRecord)
    (task : Option Task) : (daemon.setTask connection device task).connections =
      Function.update daemon.connections connection (some ⟨device, task⟩) := rfl

/-- What a claim that does not let the request execute is answered with. -/
def claimAnswer : Except OperationError OperationClaim → Option ResponseOutcome
  | .ok .execute => none
  | .ok (.completed outcome) => some outcome
  | .ok .inProgress => some (.error operationInProgress)
  | .ok .indeterminate => some (.error operationIndeterminate)
  | .error error => some (.error (operationConflict error))

/-- The start of `execute_request`, up to the controller's turn. -/
def claim (backend : Backend δ) (daemon : Daemon δ) (connection : Nat) (device : DeviceRecord)
    (envelope : RequestEnvelope) (nowMs : UInt64) (fault : Option Nat) :
    Effect × Daemon δ :=
  match envelope.validate with
  | .error error =>
    (.answered (.error (protocolError "invalid_request" error.message false)),
      daemon.setTask connection device none)
  | .ok () =>
    if !authorized device.scopes envelope.request then
      (.answered (.error permissionError), daemon.setTask connection device none)
    else match envelope.operationId with
      | none =>
        (.called none envelope.request,
          daemon.setTask connection device (some (.executing none envelope.request)))
      | some operationId =>
        let key : OperationKey := ⟨device.deviceId, operationId⟩
        let (claim, store) := daemon.store.claimOperation backend key envelope.request nowMs fault
        let daemon := { daemon with store }
        match claimAnswer claim with
        | none =>
          (.claimed key envelope.request,
            daemon.setTask connection device (some (.claimed key envelope.request)))
        | some outcome => (.answered outcome, daemon.setTask connection device none)

/-- The end of `execute_request`. -/
def complete (backend : Backend δ) (daemon : Daemon δ) (connection : Nat) (device : DeviceRecord)
    (key : OperationKey) (outcome : ResponseOutcome) (nowMs : UInt64) (fault : Option Nat) :
    Effect × Daemon δ :=
  let (completion, store) := daemon.store.completeOperation backend key outcome nowMs fault
  let daemon := ({ daemon with store }).setTask connection device none
  match completion with
  | .error error => (.answered (.error (operationOutcomeNotPersisted error)), daemon)
  | .ok () => (.recorded key outcome, daemon)

/-- Operations of the store that other code than `execute_request` may run. -/
def leavesOperations (operation : StoreOperation) : Bool := .operations ∉ operation.tables

def step (backend : Backend δ) (daemon : Daemon δ) : DaemonInput → Option Effect × Daemon δ
  | .connect connection device =>
    if daemon.up then (none, daemon.setTask connection device none) else (none, daemon)
  | .receive connection frame =>
    match daemon.connections connection, ClientFrame.request? frame with
    | some ⟨device, none⟩, some envelope =>
      (none, daemon.setTask connection device (some (.received envelope)))
    | _, _ => (none, daemon)
  | .claim connection nowMs fault =>
    match daemon.connections connection with
    | some ⟨device, some (.received envelope)⟩ =>
      (daemon.claim backend connection device envelope nowMs fault).map some id
    | _ => (none, daemon)
  | .call connection =>
    match daemon.connections connection with
    | some ⟨device, some (.claimed key request)⟩ =>
      (some (.called (some key) request),
        daemon.setTask connection device (some (.executing (some key) request)))
    | _ => (none, daemon)
  | .return connection outcome =>
    match daemon.connections connection with
    | some ⟨device, some (.executing (some key) _)⟩ =>
      (none, daemon.setTask connection device (some (.executed key outcome)))
    | some ⟨device, some (.executing none _)⟩ =>
      (some (.answered outcome), daemon.setTask connection device none)
    | _ => (none, daemon)
  | .complete connection nowMs fault =>
    match daemon.connections connection with
    | some ⟨device, some (.executed key outcome)⟩ =>
      (daemon.complete backend connection device key outcome nowMs fault).map some id
    | _ => (none, daemon)
  | .disconnect connection =>
    (none, { daemon with connections := Function.update daemon.connections connection none })
  | .store operation =>
    if daemon.up && leavesOperations operation then
      (none, { daemon with store := (daemon.store.execute backend operation).2 })
    else (none, daemon)
  | .crash => (none, { daemon with up := false, connections := fun _ => none })
  | .start nowMs fault =>
    if daemon.up then (none, daemon)
    else
      let (opened, store) := daemon.store.recoverInterrupted nowMs fault
      (none, { daemon with up := opened.isOk, store })

/-- One step of a run of the daemon. -/
abbrev Event (δ : Type) := Mealy.Event (Daemon δ) DaemonInput (Option Effect)

/-- The steps of a run of the daemon on a new database. -/
def history (backend : Backend δ) (serverId : ServerId) (inputs : List DaemonInput) :
    List (Event δ) :=
  Mealy.trace (step backend) (create serverId) inputs

end Daemon

end OmpRemote.Ompd

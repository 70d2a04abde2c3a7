import OmpRemote.Lib.Table
import OmpRemote.Client.Reducer

/-!
# The client runner

The task that owns a client's connection and the requests the application waits
for. A request is pending from the moment the runner takes it until its reply is
sent; it is sent anew, under a new transport id, on every connection.

- `ClientRunner.step`: the application's calls, the socket and the runner, one
  `await` at a time.
- `insertPending`, `sendPending`, `completeResponse`, `markPendingDisconnected`,
  `failPending`: the two tables.

`connection`, `requests` and `replies` are not in the source: they number the
connections and log what was handed to the socket and what the application got.
-/

namespace OmpRemote.Client

open Lib Rpc

/-- A request that the handle has accepted, counted in the order of acceptance. It
stands for the sending end of the request's reply channel. -/
abbrev Ticket := Nat

/-- What is pending, with its operation id; a UI response always has one. -/
inductive PendingPayload where
  | request (request : ControlRequest) (operationId : Option OperationId)
  | uiResponse (agentId : AgentId) (holder : LeaseHolderId) (response : ExtensionUiResponseFrame)
      (operationId : OperationId)
  deriving DecidableEq, Repr

structure PendingRequest where
  payload : PendingPayload
  sentRequestId : Option RequestId
  response : Ticket
  deriving DecidableEq, Repr

def PendingPayload.frame (payload : PendingPayload) (requestId : RequestId) : ClientFrame :=
  match payload with
  | .request asked operationId => .request ⟨requestId, operationId, asked⟩
  | .uiResponse agentId holder response operationId =>
    .uiResponse ⟨agentId, requestId, operationId, holder, response⟩

inductive RequestError where
  | clientStopped
  | identifierSpaceExhausted
  | invalidRequest (message : String)
  | protocol (error : ProtocolError)
  deriving DecidableEq, Repr

def RequestError.message : RequestError → String
  | clientStopped => "control client has stopped"
  | identifierSpaceExhausted => "control client identifier space is exhausted"
  | invalidRequest message => message
  | protocol error => error.message

inductive ClientCommand where
  | request (payload : PendingPayload) (response : Ticket)
  | subscribe (agentId : AgentId)
  | unsubscribe (agentId : AgentId)
  | shutdown
  deriving DecidableEq, Repr

/-- The ticket of a command that waits for a reply. -/
def ClientCommand.ticket? : ClientCommand → Option Ticket
  | .request _ response => some response
  | _ => none

/-! ## Identifiers -/

structure IdGenerator where
  /-- The random text chosen at the start. -/
  random : String
  counter : UInt64
  deriving DecidableEq, Repr

namespace IdGenerator

/-- The id a generator makes of a count. -/
def text (ids : IdGenerator) (kind : String) (counter : UInt64) : String :=
  kind ++ "-" ++ ids.random ++ "-" ++ toString counter.toNat

def next (ids : IdGenerator) (kind : String) : Option (String × IdGenerator) :=
  (checkedAdd ids.counter 1).map fun counter => (ids.text kind ids.counter, { ids with counter })

end IdGenerator

def validateOperationId (request : ControlRequest) (operationId : Option OperationId) :
    Except RequestError Unit :=
  match request.isMutating, operationId.isSome with
  | true, false => .error (.invalidRequest "mutating requests require an operation ID")
  | false, true => .error (.invalidRequest "read-only requests cannot carry an operation ID")
  | _, _ => .ok ()

/-! ## The runner -/

/-- A frame of a pending request that was handed to the socket, whatever the socket
made of it. -/
structure Sent where
  response : Ticket
  connection : Nat
  requestId : RequestId
  payload : PendingPayload
  deriving DecidableEq, Repr

def Sent.frame (sent : Sent) : ClientFrame := sent.payload.frame sent.requestId

inductive Phase where
  /-- Connecting, authenticating, or waiting to. -/
  | offline
  /-- The server's welcome is there; these are still to be sent. -/
  | initializing (subscriptions : List AgentId) (keys : List UInt64)
  | connected
  /-- The socket is being closed, after which the runner returns. -/
  | closing
  | stopped
  deriving DecidableEq, Repr

structure ClientRunner where
  phase : Phase
  commands : List ClientCommand
  /-- A handle is left that can send commands. -/
  handles : Bool
  ids : IdGenerator
  state : ReplicatedState
  desiredSubscriptions : List AgentId
  pending : Table UInt64 PendingRequest
  responseIndex : Table RequestId UInt64
  nextPending : UInt64
  accepted : Nat
  connection : Nat
  requests : List Sent
  replies : List (Ticket × Except RequestError ControlResponse)

namespace ClientRunner

/-- A new runner; `random` is what the generator drew. -/
def new (random : String) : ClientRunner where
  phase := .offline
  commands := []
  handles := true
  ids := ⟨random, 0⟩
  state := .default
  desiredSubscriptions := []
  pending := .empty
  responseIndex := .empty
  nextPending := 0
  accepted := 0
  connection := 0
  requests := []
  replies := []

/-- The reply channel is used, or dropped, which the receiver reads as `ClientStopped`. -/
def reply (runner : ClientRunner) (response : Ticket)
    (outcome : Except RequestError ControlResponse) : ClientRunner :=
  { runner with replies := runner.replies ++ [(response, outcome)] }

/-- A pending request whose key comes up again is dropped, and its reply channel
with it. -/
def insertPending (runner : ClientRunner) (payload : PendingPayload) (response : Ticket) :
    ClientRunner :=
  let key := runner.nextPending
  { runner with
    nextPending := key + 1
    pending := runner.pending.put key ⟨payload, none, response⟩
    replies := runner.replies ++ (runner.pending.lookup key).toList.map fun replaced =>
      (replaced.response, .error .clientStopped) }

/-- Draw an id and send; the first component says whether that went well. -/
def sendPending (runner : ClientRunner) (key : UInt64) (ok : Bool) : Bool × ClientRunner :=
  match runner.ids.next "request" with
  | none => (false, runner)
  | some (text, ids) =>
    let requestId : RequestId := ⟨text⟩
    match runner.pending.lookup key with
    | none => (false, { runner with ids })
    | some pending =>
      let sent : Sent := ⟨pending.response, runner.connection, requestId, pending.payload⟩
      let runner := { runner with ids, requests := runner.requests ++ [sent] }
      if !ok then (false, runner)
      else
        (true, { runner with
          pending := runner.pending.put key { pending with sentRequestId := some requestId }
          responseIndex := runner.responseIndex.put requestId key })

def completeResponse (runner : ClientRunner) (response : ResponseEnvelope) : ClientRunner :=
  match runner.responseIndex.lookup response.requestId with
  | none => runner
  | some key =>
    let runner := { runner with responseIndex := runner.responseIndex.erase response.requestId }
    match runner.pending.lookup key with
    | none => runner
    | some pending =>
      let outcome : Except RequestError ControlResponse := match response.outcome with
        | .success response => .ok response
        | .error error => .error (.protocol error)
      { runner with pending := runner.pending.erase key }.reply pending.response outcome

def markPendingDisconnected (runner : ClientRunner) : ClientRunner :=
  { runner with
    responseIndex := .empty
    pending := runner.pending.mapRows fun _ pending => { pending with sentRequestId := none } }

def failPending (runner : ClientRunner) (error : RequestError) : ClientRunner :=
  { runner with
    responseIndex := .empty
    pending := .empty
    replies := runner.replies ++
      runner.pending.rows.map fun row => (row.2.response, .error error) }

/-- The connection is lost. -/
def disconnected (runner : ClientRunner) : ClientRunner :=
  { runner.markPendingDisconnected with phase := .offline }

/-- `run` returns: what is pending fails, and the queued commands are dropped. -/
def stop (runner : ClientRunner) : ClientRunner :=
  let runner := runner.failPending .clientStopped
  { runner with
    phase := .stopped
    commands := []
    replies := runner.replies ++
      (runner.commands.filterMap ClientCommand.ticket?).map fun response =>
        (response, .error .clientStopped) }

/-- A shutdown, or the last handle dropped: what is pending fails, and the socket
is closed. -/
def shutdown (runner : ClientRunner) : ClientRunner :=
  { runner.failPending .clientStopped with phase := .closing }

def subscribe (runner : ClientRunner) (agentId : AgentId) : ClientRunner :=
  { runner with desiredSubscriptions := agentId :: runner.desiredSubscriptions.erase agentId }

def unsubscribe (runner : ClientRunner) (agentId : AgentId) : ClientRunner :=
  { runner with desiredSubscriptions := runner.desiredSubscriptions.erase agentId }

/-- One command while there is no connection. -/
def handleOfflineCommand (runner : ClientRunner) : ClientCommand → ClientRunner
  | .request payload response => runner.insertPending payload response
  | .subscribe agentId => runner.subscribe agentId
  | .unsubscribe agentId => runner.unsubscribe agentId
  | .shutdown => runner.shutdown

/-- One command while connected; `ok` is whether the socket takes the frame. -/
def handleConnectedCommand (runner : ClientRunner) (ok : Bool) : ClientCommand → ClientRunner
  | .request payload response =>
    let key := runner.nextPending
    let (sent, runner) := (runner.insertPending payload response).sendPending key ok
    if sent then runner else runner.disconnected
  | .subscribe agentId =>
    if agentId ∈ runner.desiredSubscriptions then runner
    else if ok then runner.subscribe agentId
    else (runner.subscribe agentId).disconnected
  | .unsubscribe agentId =>
    if agentId ∉ runner.desiredSubscriptions then runner
    else if ok then runner.unsubscribe agentId
    else (runner.unsubscribe agentId).disconnected
  | .shutdown => runner.shutdown

/-- Whether a frame makes the client subscribe again. -/
def resubscribes (state : ReplicatedState) (frame : ServerFrame) : Bool :=
  match (state.apply frame).1 with
  | .ok effects => effects.any fun effect => match effect with
    | .resyncRequired _ => true
    | _ => false
  | .error _ => true

/-- One frame; `ok` is whether the socket takes the subscription it may call for. -/
def handleServerFrame (runner : ClientRunner) (frame : ServerFrame) (ok : Bool) : ClientRunner :=
  match frame with
  | .response response => runner.completeResponse response
  | .error _ | .pong _ => runner
  | .serverShutdown _ _ => runner.disconnected
  | .welcome _ => { runner with phase := .closing }
  | replicated =>
    let next := { runner with state := (runner.state.apply replicated).2 }
    if resubscribes runner.state replicated && !ok then next.disconnected else next

inductive Input where
  /-- `request_with_operation_id`. -/
  | request (request : ControlRequest) (operationId : Option OperationId)
  /-- `request`. -/
  | freshRequest (request : ControlRequest)
  | respondToUi (agentId : AgentId) (holder : LeaseHolderId) (response : ExtensionUiResponseFrame)
  | command (command : ClientCommand)
  | dropHandles
  /-- The runner takes the next command. -/
  | take (ok : Bool)
  /-- The server's welcome is accepted. -/
  | welcome
  /-- The next frame of the initialization is sent. -/
  | initializeConnection (ok : Bool)
  | frame (frame : ServerFrame) (ok : Bool)
  /-- The socket fails or is closed. -/
  | lose
  /-- Authentication, the handshake or a frame that cannot be decoded is fatal. -/
  | fail
  /-- The socket is closed and `run` returns. -/
  | closed

/-- The handle accepts a request. -/
def accept (runner : ClientRunner) (payload : PendingPayload) : ClientRunner :=
  { runner with
    commands := runner.commands ++ [.request payload runner.accepted]
    accepted := runner.accepted + 1 }

/-- A command reaches the runner. -/
def listening (runner : ClientRunner) : Bool := runner.handles && runner.phase ≠ .stopped

def call (runner : ClientRunner) : Input → ClientRunner
  | .request request operationId =>
    match validateOperationId request operationId with
    | .error _ => runner
    | .ok () => runner.accept (.request request operationId)
  | .freshRequest request =>
    if request.isMutating then
      match runner.ids.next "operation" with
      | none => runner
      | some (text, ids) => { runner with ids }.accept (.request request (some ⟨text⟩))
    else runner.accept (.request request none)
  | .respondToUi agentId holder response =>
    match runner.ids.next "operation" with
    | none => runner
    | some (text, ids) => { runner with ids }.accept (.uiResponse agentId holder response ⟨text⟩)
  | .command command =>
    if command.ticket?.isSome then runner
    else { runner with commands := runner.commands ++ [command] }
  | .dropHandles => { runner with handles := false }
  | _ => runner

/-- The runner goes on with the next command, or with the end of the channel. -/
def take (runner : ClientRunner) (ok : Bool) : ClientRunner :=
  match runner.phase, runner.commands with
  | .offline, command :: commands => { runner with commands }.handleOfflineCommand command
  | .connected, command :: commands => { runner with commands }.handleConnectedCommand ok command
  | .offline, [] | .connected, [] => if runner.handles then runner else runner.shutdown
  | _, _ => runner

def step (runner : ClientRunner) : Input → ClientRunner
  | .take ok => runner.take ok
  | .welcome =>
    if runner.phase = .offline then
      { runner with
        phase := .initializing runner.desiredSubscriptions
          ((runner.pending.rows.map Prod.fst).mergeSort (· ≤ ·))
        connection := runner.connection + 1 }
    else runner
  | .initializeConnection ok =>
    match runner.phase with
    | .initializing (_ :: subscriptions) keys =>
      if ok then { runner with phase := .initializing subscriptions keys }
      else runner.disconnected
    | .initializing [] (key :: keys) =>
      let (sent, runner) := runner.sendPending key ok
      if sent then { runner with phase := .initializing [] keys } else runner.disconnected
    | .initializing [] [] => { runner with phase := .connected }
    | _ => runner
  | .frame frame ok =>
    if runner.phase = .connected then runner.handleServerFrame frame ok else runner
  | .lose => if runner.phase = .connected then runner.disconnected else runner
  | .fail =>
    if runner.phase = .offline ∨ runner.phase = .connected then
      { runner with phase := .closing }
    else runner
  | .closed => if runner.phase = .closing then runner.stop else runner
  | input => if runner.listening then runner.call input else runner

end ClientRunner

end OmpRemote.Client

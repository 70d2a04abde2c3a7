import OmpRemote.Lib.Table
import OmpRemote.Ompd.Outbound
import OmpRemote.Ompd.Requests

/-!
# Control connections

One connection of a control client, from its first frame on: the loop that
handles what the client sends, a task for each subscription, and the writer.

- `Session.receive`: one message of the client.
- `Session.step`: whatever else the connection's tasks do, up to their next
  `await`. What agents publish comes with the input.

`received` and `written` are not in the source: they log the frames of the client
and what the socket is handed.
-/

namespace OmpRemote.Ompd

open Lib

structure ServerSessionConfig where
  frameLimits : FrameLimits
  outboundCapacity : Nat
  heartbeatIntervalMs : UInt64
  /-- How ciborium serializes. -/
  serializer : Serializer

/-- Where the loop of a connection is. -/
inductive Loop where
  /-- `authenticate_first_frame` awaits a message. -/
  | first
  | receiving
  /-- `execute_request` runs. -/
  | executing (requestId : RequestId)
  /-- A payload waits for room in a lane; `onSent` and `onClosed` say whether the
  loop then goes on. -/
  | sending (lane : Lane) (payload : OutboundPayload) (onSent onClosed : Bool)
  /-- `subscribe` awaits the actor. -/
  | subscribing (request : SubscribeRequest)
  /-- `emit_subscription_start` waits for room for the gap. -/
  | starting (agentId : AgentId) (snapshot : AgentSnapshot)
  | done
  deriving DecidableEq

/-- What the task of a subscription awaits. -/
inductive Forwarding where
  | update
  /-- The actor's snapshot, to tell of a gap. -/
  | snapshot
  /-- Room for the gap. -/
  | gap (frame : ServerFrame)
  | ended
  deriving DecidableEq

structure SubscriptionTask where
  agentId : AgentId
  forwarding : Forwarding
  deriving DecidableEq

structure Session where
  /-- The device, once the first frame has authenticated it. -/
  device : Option DeviceRecord
  loop : Loop
  outbound : Outbound
  /-- The tasks spawned so far. -/
  tasks : List SubscriptionTask
  /-- The task of each subscription, by its place in `tasks`. -/
  subscriptions : Table AgentId Nat
  /-- The writer runs. -/
  writer : Bool
  received : List ClientFrame
  written : List OutboundPayload

/-- What `subscribe` finds. -/
inductive Subscribed where
  | agentNotFound
  | failed
  | started (start : SubscriptionStart)

inductive SessionInput where
  /-- The payload that the loop waits to send gets in, or never will. -/
  | resume
  | subscribed (result : Subscribed)
  | update (task : Nat) (update : AgentUpdate)
  /-- The subscription has fallen behind. -/
  | lagged (task : Nat)
  /-- The actor is gone. -/
  | closed (task : Nat)
  | snapshot (task : Nat) (snapshot : Option AgentSnapshot)
  | resumeTask (task : Nat)
  /-- The writer writes the next payload; `ok` is whether the socket takes it in
  time. -/
  | write (ok : Bool)
  /-- No payload for long: the writer pings a client that is still active. -/
  | heartbeat (ping : List UInt8) (active ok : Bool)
  /-- The socket yields no more messages. -/
  | readerEnds
  /-- The loop notices that the writer has ended. -/
  | writerEnded

def error (error : ProtocolError) : OutboundPayload := .protocol (.error error)

def invalidFrame : ProtocolError :=
  protocolError "invalid_frame" "client frame is not valid authenticated CBOR" false

def binaryFramesRequired : ProtocolError :=
  protocolError "binary_frames_required" "control protocol accepts binary CBOR frames only" false

def unexpectedHello : ProtocolError :=
  protocolError "unexpected_hello" "hello is valid only as the first frame" false

def agentNotFound : ProtocolError :=
  protocolError "agent_not_found" "subscription agent was not found" false

def subscriptionFailed : ProtocolError :=
  protocolError "subscription_failed" "could not create agent subscription" true

namespace Session

/-- A connection that has been accepted. -/
def new (outboundCapacity : Nat) : Session where
  device := none
  loop := .first
  outbound := .new outboundCapacity
  tasks := []
  subscriptions := .empty
  writer := false
  received := []
  written := []

def setTask (session : Session) (task : Nat) (forwarding : Forwarding) : Session :=
  { session with tasks := session.tasks.modify task fun spawned => { spawned with forwarding } }

/-- The first frame is not accepted: nothing is written but a close. -/
def reject (session : Session) : Session :=
  { session with loop := .done, written := session.written ++ [.webSocket .close] }

/-- The connection is authenticated and has been handed the welcome. -/
def welcome (session : Session) (device : DeviceRecord) (welcome : ServerWelcome) (sent : Bool) :
    Session :=
  { session with
    device := some device
    loop := if sent then .receiving else .done
    writer := sent
    written := session.written ++ [.protocol (.welcome welcome)] }

/-- The loop ends: subscriptions and the writer are aborted. -/
def finish (session : Session) : Session :=
  { session with
    loop := .done
    outbound := session.outbound.close
    tasks := session.tasks.map fun task => { task with forwarding := .ended }
    subscriptions := .empty
    writer := false }

def abort (session : Session) (agentId : AgentId) : Session :=
  match session.subscriptions.lookup agentId with
  | none => session
  | some task =>
    { session.setTask task .ended with subscriptions := session.subscriptions.erase agentId }

/-- The end of `subscribe`. -/
def spawn (session : Session) (agentId : AgentId) (start : SubscriptionStart) : Session :=
  { session with
    loop := .receiving
    outbound := emitStart session.outbound start
    tasks := session.tasks ++ [⟨agentId, .update⟩]
    subscriptions := session.subscriptions.put agentId session.tasks.length }

def reply (session : Session) (payload : OutboundPayload) (onSent onClosed : Bool) : Session :=
  { session with loop := .sending .control payload onSent onClosed }

/-! ## Messages -/

def handleClientFrame (session : Session) (device : DeviceRecord) (frame : ClientFrame) :
    Session :=
  match frame with
  | .request envelope => { session with loop := .executing envelope.requestId }
  | .subscribe request =>
    if !device.scopes.observe then session.reply (error permissionError) true false
    else { session with loop := .subscribing request }
  | .unsubscribe agentId =>
    if !device.scopes.observe then session.reply (error permissionError) true false
    else session.abort agentId
  | .uiResponse envelope => { session with loop := .executing envelope.requestId }
  | .ping nonce => session.reply (.protocol (.pong nonce)) true false
  | .hello _ => session.reply (error unexpectedHello) false false

/-- The frame of a message of an authenticated client. -/
def decode (config : ServerSessionConfig) : Message → Option ClientFrame
  | .binary message =>
    match (config.frameLimits.codec .authenticated).decode message with
    | .ok frame => some frame
    | .error _ => none
  | _ => none

/-- A message, while the loop awaits one. -/
def receive (config : ServerSessionConfig) (session : Session) (device : DeviceRecord)
    (message : Message) : Session :=
  match decode config message with
  | some frame =>
    { session with received := session.received ++ [frame] }.handleClientFrame device frame
  | none =>
    match message with
    | .binary _ => session.reply (error invalidFrame) false false
    | .ping payload => session.reply (.webSocket (.pong payload)) true false
    | .pong _ => session
    | .close => session.finish
    | .text => session.reply (error binaryFramesRequired) false false

/-! ## Steps -/

def resume (session : Session) : Session :=
  match session.loop with
  | .sending lane payload onSent onClosed =>
    match session.outbound.send lane payload with
    | .sent outbound =>
      if onSent then { session with outbound, loop := .receiving }
      else { session with outbound }.finish
    | .closed => if onClosed then { session with loop := .receiving } else session.finish
    | .full => session
  | .starting agentId snapshot =>
    match session.outbound.send .control (.protocol (gapFrame snapshot .nonContiguousCursor)) with
    | .sent outbound => { session with outbound }.spawn agentId (.resyncRequired snapshot)
    | .closed => session.spawn agentId (.resyncRequired snapshot)
    | .full => session
  | _ => session

def subscribed (session : Session) (request : SubscribeRequest) : Subscribed → Session
  | .agentNotFound => session.reply (error agentNotFound) true true
  | .failed => session.reply (error subscriptionFailed) true true
  | .started (.resyncRequired snapshot) =>
    { session.abort request.agentId with loop := .starting request.agentId snapshot }
  | .started start => (session.abort request.agentId).spawn request.agentId start

/-- The task of a subscription goes on. -/
def forward (session : Session) (task : Nat) (forwarding : Forwarding) : SessionInput → Session
  | .update _ update =>
    match forwarding, emitUpdate update session.outbound with
    | .update, (true, outbound) => { session with outbound }
    | .update, (false, outbound) => { session with outbound }.setTask task .snapshot
    | _, _ => session
  | .lagged _ => if forwarding = .update then session.setTask task .snapshot else session
  | .closed _ => if forwarding = .update then session.setTask task .ended else session
  | .snapshot _ (some snapshot) =>
    if forwarding = .snapshot then session.setTask task (.gap (gapFrame snapshot .slowConsumer))
    else session
  | .snapshot _ none => if forwarding = .snapshot then session.setTask task .ended else session
  | .resumeTask _ =>
    match forwarding with
    | .gap frame =>
      match session.outbound.send .control (.protocol frame) with
      | .sent outbound => { session with outbound }.setTask task .ended
      | .closed => session.setTask task .ended
      | .full => session
    | _ => session
  | _ => session

def forwardTask (session : Session) (task : Nat) (input : SessionInput) : Session :=
  match session.tasks[task]? with
  | some spawned => session.forward task spawned.forwarding input
  | none => session

/-- The writer ends: it drops the receivers and tries to write a close. -/
def stopWriter (session : Session) : Session :=
  { session with
    writer := false
    outbound := session.outbound.close
    written := session.written ++ [.webSocket .close] }

/-- The payload can be encoded. -/
def encodes (config : ServerSessionConfig) : OutboundPayload → Bool
  | .protocol frame =>
    ((config.frameLimits.codec .authenticated).encode config.serializer frame).isOk
  | .webSocket _ => true

def write (config : ServerSessionConfig) (session : Session) (ok : Bool) : Session :=
  match session.outbound.next with
  | none => session
  | some (payload, outbound) =>
    let session := { session with outbound }
    if !encodes config payload then session.stopWriter
    else
      let session := { session with written := session.written ++ [payload] }
      if ok then session else session.stopWriter

def step (config : ServerSessionConfig) (session : Session) : SessionInput → Session
  | .resume => session.resume
  | .subscribed result =>
    match session.loop with
    | .subscribing request => session.subscribed request result
    | _ => session
  | .write ok => if session.writer then session.write config ok else session
  | .heartbeat ping active ok =>
    if session.writer && session.outbound.next.isNone then
      if !active then session.stopWriter
      else
        let session := { session with written := session.written ++ [.webSocket (.ping ping)] }
        if ok then session else session.stopWriter
    else session
  | .readerEnds => if session.loop = .receiving then session.finish else session
  | .writerEnded => if session.loop = .receiving && !session.writer then session.finish else session
  | .update task update => session.forwardTask task (.update task update)
  | .lagged task => session.forwardTask task (.lagged task)
  | .closed task => session.forwardTask task (.closed task)
  | .snapshot task snapshot => session.forwardTask task (.snapshot task snapshot)
  | .resumeTask task => session.forwardTask task (.resumeTask task)
end Session

end OmpRemote.Ompd

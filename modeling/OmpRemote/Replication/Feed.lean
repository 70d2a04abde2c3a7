import OmpRemote.Client.News
import OmpRemote.ControlPlane.Contiguous
import OmpRemote.Ompd.Delivery

/-!
# From an agent to a connection

The actor of an agent with everybody who subscribes to it, and one control connection of the
daemon, interleaved at will.

- `Feed.step`: a step of the actor, of a task that forwards its updates, or of the
  connection. What comes from other agents and from the client is an input.
- `Feed.aborted`: the tasks that the loop has let go of, and that are not gone yet.

A task that forwards updates is polled on another thread than the loop. Aborting it takes
effect when it next waits: an input says whether a task was being polled when it was aborted
(`polled`), and when it is gone (`cancelled`). A task that holds what `recv` has returned is
being polled.
-/

namespace OmpRemote.Replication

open Lib Client ControlPlane
open Ompd (Session SessionInput ServerSessionConfig Message OutboundPayload Lane DeviceRecord
  Forwarding)

structure Feed where
  /-- The agent's actor and everybody who subscribes to it. -/
  world : World
  session : Session
  /-- The subscription that the actor has returned to the loop. -/
  reply : Option SubscriptionId
  /-- The subscription to the agent that a task holds. -/
  held : Nat → Option SubscriptionId
  /-- What `recv` has returned to a task that has not gone on yet. -/
  inHand : Nat → Option (Except SubscriptionError AgentUpdate)

inductive FeedInput where
  /-- A turn of the actor, or a step of somebody else's subscription. -/
  | world (input : WorldInput)
  /-- The actor takes the loop's request for a subscription. -/
  | subscribe
  /-- The loop goes on with what the actor has returned. -/
  | subscribed (polled : Bool)
  /-- The gap of a start finds room, or never will. -/
  | started
  /-- A task asks for the next update, or waits for it. -/
  | recv (task : Nat)
  /-- A task goes on with what `recv` has returned. -/
  | forward (task : Nat)
  /-- The actor tells a task of its position. -/
  | snapshot (task : Nat)
  /-- A task that was aborted is gone. -/
  | cancelled (task : Nat)
  /-- The connection goes on; what agents have to do with it, other agents do. -/
  | session (input : SessionInput)
  /-- The loop takes a frame of the client. -/
  | receive (frame : ClientFrame) (polled : Bool)
  /-- The loop takes a message that is no frame. -/
  | message (message : Message)
  /-- The request of the client has been executed. -/
  | answer (outcome : ResponseOutcome)

/-! ## The parties -/

/-- The start says nothing of another agent. -/
def startOf (agentId : AgentId) : SubscriptionStart → Bool
  | .snapshot snapshot | .resyncRequired snapshot => snapshot.agentId = agentId
  | .replay updates => updates.all fun update => update.agentId = agentId

/-- The task belongs to another agent than the one given. -/
def otherTask (agentId : AgentId) (session : Session) (task : Nat) (allowed : AgentId → Bool) :
    Bool :=
  match session.tasks[task]? with
  | some spawned => spawned.agentId ≠ agentId && allowed spawned.agentId
  | none => false

/-- What a call of `recv` has returned meanwhile. -/
def returned (before after : World) (id : SubscriptionId) :
    Option (Except SubscriptionError AgentUpdate) :=
  match before.readers id, after.readers id with
  | some reader, some reader' => reader'.received[reader.received.length]?
  | _, _ => none

/-- What a task does with what `recv` has returned to it. -/
def resultInput (task : Nat) : Except SubscriptionError AgentUpdate → SessionInput
  | .ok update => .update task update
  | .error .resyncRequired => .lagged task
  | .error .closed => .closed task

namespace Feed

/-- A connection right after the welcome, of an actor that may have lived for long. -/
def start (world : World) (config : ServerSessionConfig) (device : DeviceRecord)
    (welcome : ServerWelcome) : Feed where
  world := world
  session := (Session.new config.outboundCapacity).welcome device welcome true
  reply := none
  held := fun _ => none
  inHand := fun _ => none

/-- A step of the connection in which the agent has no part. -/
def elsewhere (agentId : AgentId) (feed : Feed) : SessionInput → Bool
  | .subscribed result =>
    match feed.session.loop, result with
    | .subscribing _, .agentNotFound | .subscribing _, .failed => feed.reply.isNone
    | .subscribing request, .started start =>
      request.agentId ≠ agentId && startOf request.agentId start
    | _, _ => false
  | .update task update => otherTask agentId feed.session task fun other => update.agentId = other
  | .lagged task | .closed task => otherTask agentId feed.session task fun _ => true
  | .snapshot task result => otherTask agentId feed.session task fun other =>
    result.all fun snapshot => snapshot.agentId = other
  | .resume =>
    match feed.session.loop with
    | .starting other _ => other ≠ agentId
    | _ => true
  | .resumeTask _ | .write _ | .heartbeat _ _ _ | .readerEnds | .writerEnded => true

/-- The loop has let go of the agent's task, and the task is not gone yet. -/
def aborted (agentId : AgentId) (feed : Feed) (task : Nat) : Bool :=
  match feed.session.tasks[task]? with
  | some spawned => spawned.agentId = agentId && spawned.forwarding ≠ .ended &&
    feed.session.subscriptions.lookup agentId ≠ some task
  | none => false

/-- The task awaits updates. -/
def awaits (feed : Feed) (task : Nat) : Bool :=
  match feed.session.tasks[task]? with
  | some spawned => spawned.forwarding = .update
  | none => false

/-- A task that was being polled when it was aborted goes on as if it had not been. -/
def keepPolled (agentId : AgentId) (feed : Feed) (polled : Bool) (after : Session) : Session :=
  match feed.session.subscriptions.lookup agentId with
  | some task =>
    if polled || (feed.inHand task).isSome then
      match feed.session.tasks[task]? with
      | some spawned => after.setTask task spawned.forwarding
      | none => after
    else after
  | none => after

/-- The connection has changed; a task spawned on the actor's reply holds what the actor
has returned. -/
def goesOn (feed : Feed) (session : Session) : Feed :=
  match feed.reply with
  | some id =>
    if feed.session.tasks.length < session.tasks.length then
      { feed with
        session
        reply := none
        held := Function.update feed.held feed.session.tasks.length (some id) }
    else { feed with session }
  | none => { feed with session }

/-! ## Steps -/

/-- No task of the connection is about to use the subscription. -/
def leaves (feed : Feed) (id : SubscriptionId) : Bool :=
  feed.reply ≠ some id &&
    (List.range feed.session.tasks.length).all fun task =>
      feed.held task ≠ some id || !feed.awaits task

def worldStep (feed : Feed) (input : WorldInput) : Feed :=
  match input.subscriber with
  | some id => if feed.leaves id then { feed with world := feed.world.step input } else feed
  | none => { feed with world := feed.world.step input }

/-- The actor's turn on the request that the loop has made. -/
def subscribe (agentId : AgentId) (feed : Feed) : Feed :=
  match feed.session.loop, feed.reply with
  | .subscribing request, none =>
    if request.agentId = agentId && feed.world.actor.running then
      { feed with
        world := feed.world.step (.actor (.command (.subscribe request.cursor)))
        reply := some feed.world.actor.nextChannel }
    else feed
  | _, _ => feed

/-- The start that the actor has returned. -/
def replied (feed : Feed) : Option SubscriptionStart :=
  (feed.reply.bind feed.world.readers).map Reader.start

def subscribed (agentId : AgentId) (feed : Feed) (polled : Bool) : Feed :=
  match feed.session.loop, feed.replied with
  | .subscribing request, some start =>
    if request.agentId = agentId then
      feed.goesOn
        (feed.keepPolled agentId polled (feed.session.subscribed request (.started start)))
    else feed
  | _, _ => feed

def started (agentId : AgentId) (feed : Feed) : Feed :=
  match feed.session.loop with
  | .starting other _ => if other = agentId then feed.goesOn feed.session.resume else feed
  | _ => feed

/-- One poll of a task in `recv`; it waits when there is nothing for it. -/
def recv (agentId : AgentId) (feed : Feed) (task : Nat) : Feed :=
  match feed.held task, feed.inHand task with
  | some id, none =>
    match feed.world.readers id with
    | some reader =>
      if feed.awaits task then
        let world := feed.world.step (if reader.checked then .poll id else .recv id)
        match returned feed.world world id with
        | some result =>
          { feed with world, inHand := Function.update feed.inHand task (some result) }
        | none =>
          if reader.checked && feed.aborted agentId task then
            { feed with session := feed.session.setTask task .ended }
          else { feed with world }
      else feed
    | none => feed
  | _, _ => feed

def forward (config : ServerSessionConfig) (feed : Feed) (task : Nat) : Feed :=
  match feed.inHand task with
  | some result =>
    { feed with
      session := feed.session.step config (resultInput task result)
      inHand := Function.update feed.inHand task none }
  | none => feed

/-- A task that has fallen behind asks the actor where it is. -/
def snapshot (config : ServerSessionConfig) (agentId : AgentId) (feed : Feed) (task : Nat) : Feed :=
  match feed.session.tasks[task]? with
  | some spawned =>
    if spawned.agentId = agentId then
      { feed with session := feed.session.step config (.snapshot task
          (if feed.world.actor.running then some feed.world.actor.snapshot else none)) }
    else feed
  | none => feed

def cancelled (agentId : AgentId) (feed : Feed) (task : Nat) : Feed :=
  if feed.aborted agentId task && (feed.inHand task).isNone then
    { feed with session := feed.session.setTask task .ended }
  else feed

def receive (agentId : AgentId) (feed : Feed) (frame : ClientFrame) (polled : Bool) : Feed :=
  match feed.session.loop, feed.session.device with
  | .receiving, some device =>
    { feed with
      session := feed.keepPolled agentId polled
        ({ feed.session with
          received := feed.session.received ++ [frame] }.handleClientFrame device frame) }
  | _, _ => feed

def message (config : ServerSessionConfig) (feed : Feed) (message : Message) : Feed :=
  match feed.session.loop, feed.session.device, Session.decode config message with
  | .receiving, some device, none =>
    { feed with session := feed.session.receive config device message }
  | _, _, _ => feed

def answer (feed : Feed) (outcome : ResponseOutcome) : Feed :=
  match feed.session.loop with
  | .executing requestId =>
    { feed with session := { feed.session with
        loop := .sending .response (.protocol (.response ⟨requestId, outcome⟩)) true false } }
  | _ => feed

def step (config : ServerSessionConfig) (agentId : AgentId) (feed : Feed) : FeedInput → Feed
  | .world input => feed.worldStep input
  | .subscribe => feed.subscribe agentId
  | .subscribed polled => feed.subscribed agentId polled
  | .started => feed.started agentId
  | .recv task => feed.recv agentId task
  | .forward task => feed.forward config task
  | .snapshot task => feed.snapshot config agentId task
  | .cancelled task => feed.cancelled agentId task
  | .session input =>
    if feed.elsewhere agentId input then { feed with session := feed.session.step config input }
    else feed
  | .receive frame polled => feed.receive agentId frame polled
  | .message message => feed.message config message
  | .answer outcome => feed.answer outcome

end Feed

end OmpRemote.Replication

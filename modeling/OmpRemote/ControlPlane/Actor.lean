import Mathlib.Logic.Function.Basic
import OmpRemote.Lib.Mpsc
import OmpRemote.Protocol.State

/-!
# The agent actor

The task that owns one agent's snapshot. It changes the snapshot by updates it
numbers itself, keeps the last few of them for replay, and hands each one to its
subscribers over bounded channels without ever waiting.

- `ActorState`: the task's state. The channels are objects shared with the
  subscribers, so they live in a heap (`channels`) and the actor holds references.
- `ActorState.turn`: one turn of the task's loop.

`ActorState.history` is not in the source: it logs every update the actor
recorded, with the snapshot right after it.
-/

namespace OmpRemote.ControlPlane

open Lib Rpc

/-- A point of the runtime's monotonic clock. -/
abbrev Instant := Nat

/-- A reference to the channel of one subscription. -/
abbrev SubscriptionId := Nat

structure AgentActorConfig where
  replayCapacity : { n : Nat // 0 < n }
  subscriberCapacity : { n : Nat // 0 < n }

namespace AgentActorConfig

def default : AgentActorConfig := ⟨⟨1024, by decide⟩, ⟨256, by decide⟩⟩

end AgentActorConfig

inductive InteractionLeaseError where
  | heldByOther (lease : InteractionLease)
  | notHeld
  | notHolder (current : LeaseHolderId)
  | expiryOverflow
  | durationTooLarge
  deriving DecidableEq, Repr

inductive AgentError where
  | stopped
  | revisionExhausted
  | eventSequenceExhausted
  | interactionLease (error : InteractionLeaseError)
  deriving DecidableEq, Repr

/-- An update as the actor recorded it, with its snapshot right afterwards. -/
structure Recorded where
  update : AgentUpdate
  after : AgentSnapshot
  deriving DecidableEq, Repr

/-! ## Channels to subscribers -/

/-- What the actor and one subscriber share: the queue of updates and the flag
that says the subscriber fell behind. `missed` is a ghost: the position in the
history of the first update that found the queue full. -/
structure SubscriberChannel where
  updates : Mpsc AgentUpdate
  resyncRequired : Bool
  missed : Option Nat

namespace SubscriberChannel

def new (capacity : Nat) : SubscriberChannel := ⟨Mpsc.new capacity, false, none⟩

/-- Hand the update at `position` over; the first component says whether the
subscriber is kept. A subscriber that is not kept has its sender dropped. -/
def offer (channel : SubscriberChannel) (update : AgentUpdate) (position : Nat) :
    Bool × SubscriberChannel :=
  match channel.updates.trySend update with
  | .sent updates => (true, { channel with updates })
  | .full =>
    (false, ⟨channel.updates.dropSender, true, channel.missed <|> some position⟩)
  | .closed => (false, { channel with updates := channel.updates.dropSender })

end SubscriberChannel

/-- What a subscriber is given: the start, and its end of the channel. -/
structure AgentSubscription where
  start : SubscriptionStart
  channel : SubscriptionId
  deriving DecidableEq, Repr

/-! ## State -/

structure ActorState where
  snapshot : AgentSnapshot
  replay : List AgentUpdate
  replayCapacity : Nat
  subscriberCapacity : Nat
  subscribers : List SubscriptionId
  leaseDeadline : Option Instant
  /-- The heap of channels; those up to `nextChannel` are allocated. -/
  channels : SubscriptionId → SubscriberChannel
  nextChannel : SubscriptionId
  history : List Recorded
  /-- The task has not returned. -/
  running : Bool

/-- Walk a replay as `replay_reaches_snapshot` does: every update must carry the
expected sequence and start at the revision reached. -/
def replayReachesSnapshotLoop (cursor : SubscriptionCursor) (snapshot : AgentSnapshot)
    (expectedSequence : UInt64) (revision : StateRevision) : List AgentUpdate → Bool
  | [] =>
    revision = snapshot.revision ∧ checkedSub expectedSequence 1 = some snapshot.eventSequence
  | update :: updates =>
    if update.eventSequence ≠ expectedSequence then false
    else match update with
      | .delta _ delta =>
        if delta.agentId ≠ cursor.agentId || delta.baseRevision ≠ revision then false
        else match checkedAdd expectedSequence 1 with
          | none => false
          | some next => replayReachesSnapshotLoop cursor snapshot next delta.revision updates
      | .event agentId _ _ =>
        if agentId ≠ cursor.agentId then false
        else match checkedAdd expectedSequence 1 with
          | none => false
          | some next => replayReachesSnapshotLoop cursor snapshot next revision updates

def replayReachesSnapshot (cursor : SubscriptionCursor) (updates : List AgentUpdate)
    (snapshot : AgentSnapshot) : Bool :=
  match checkedAdd cursor.eventSequence 1 with
  | none => false
  | some expectedSequence =>
    replayReachesSnapshotLoop cursor snapshot expectedSequence cursor.revision updates

namespace ActorState

/-- The state `run_agent_actor` starts with. -/
def spawn (snapshot : AgentSnapshot) (config : AgentActorConfig) : ActorState where
  snapshot := snapshot
  replay := []
  replayCapacity := config.replayCapacity
  subscriberCapacity := config.subscriberCapacity
  subscribers := []
  leaseDeadline := none
  channels := fun _ => .new config.subscriberCapacity
  nextChannel := 0
  history := []
  running := true

/-- The task ends: its state is dropped, and every sender with it. -/
def halt (state : ActorState) : ActorState :=
  { state with
    running := false
    subscribers := []
    channels := fun id =>
      if id ∈ state.subscribers then
        { state.channels id with updates := (state.channels id).updates.dropSender }
      else state.channels id }

def setDeadline (state : ActorState) (deadline : Option Instant) : ActorState :=
  { state with leaseDeadline := deadline }

def nextEventSequence (state : ActorState) : Except AgentError EventSequence :=
  match checkedAdd state.snapshot.eventSequence 1 with
  | some eventSequence => .ok eventSequence
  | none => .error .eventSequenceExhausted

/-- Every subscriber is offered the update on a channel of its own, so the order
in which `retain` visits them does not matter. -/
def record (state : ActorState) (update : AgentUpdate) : ActorState :=
  let offered := fun id => (state.channels id).offer update state.history.length
  { state with
    replay := (if state.replay.length = state.replayCapacity then state.replay.tail
      else state.replay) ++ [update]
    subscribers := state.subscribers.filter fun id => (offered id).1
    channels := fun id => if id ∈ state.subscribers then (offered id).2 else state.channels id
    history := state.history ++ [⟨update, state.snapshot⟩] }

def applyChange (state : ActorState) (change : AgentStateChange) :
    Except AgentError (Option StateDelta) × ActorState :=
  if !state.snapshot.wouldChange change then (.ok none, state)
  else match checkedAdd state.snapshot.revision 1 with
    | none => (.error .revisionExhausted, state)
    | some revision =>
      match state.nextEventSequence with
      | .error error => (.error error, state)
      | .ok eventSequence =>
        let delta : StateDelta :=
          ⟨state.snapshot.agentId, state.snapshot.revision, revision, change⟩
        match state.snapshot.applyDelta delta eventSequence with
        -- the `expect` that panics would end the task
        | .error _ => (.error .stopped, state.halt)
        | .ok snapshot =>
          (.ok (some delta), { state with snapshot }.record (.delta eventSequence delta))

def publishEvent (state : ActorState) (event : ServerMessage) :
    Except AgentError EventSequence × ActorState :=
  match state.nextEventSequence with
  | .error error => (.error error, state)
  | .ok eventSequence =>
    let snapshot := { state.snapshot with eventSequence }
    (.ok eventSequence,
      { state with snapshot }.record (.event snapshot.agentId eventSequence event))

def subscriptionStart (state : ActorState) (cursor : SubscriptionCursor) : SubscriptionStart :=
  if cursor.agentId ≠ state.snapshot.agentId || cursor.revision > state.snapshot.revision ||
      cursor.eventSequence > state.snapshot.eventSequence then
    .resyncRequired state.snapshot
  else if cursor.revision = state.snapshot.revision &&
      cursor.eventSequence = state.snapshot.eventSequence then
    .replay []
  else
    let updates := state.replay.filter fun update => update.eventSequence > cursor.eventSequence
    if replayReachesSnapshot cursor updates state.snapshot then .replay updates
    else .resyncRequired state.snapshot

def subscribe (state : ActorState) (cursor : Option SubscriptionCursor) :
    AgentSubscription × ActorState :=
  let channel := state.nextChannel
  let state := { state with
    subscribers := state.subscribers ++ [channel]
    channels := Function.update state.channels channel (.new state.subscriberCapacity)
    nextChannel := channel + 1 }
  let start := match cursor with
    | none => .snapshot state.snapshot
    | some cursor => state.subscriptionStart cursor
  (⟨start, channel⟩, state)

/-- Someone else's lease that is still in force at `nowMs`. -/
def heldByOther (state : ActorState) (holder : LeaseHolderId) (nowMs : UInt64) :
    Option InteractionLease :=
  match state.snapshot.interaction with
  | .leased lease => if lease.expiresAtMs > nowMs && lease.holder ≠ holder then some lease else none
  | .unclaimed => none

/-- `deadline` is what `Instant::now().checked_add` makes of the duration. -/
def acquireLease (state : ActorState) (holder : LeaseHolderId) (nowMs : UInt64)
    (ttlMs : { ttl : UInt64 // ttl ≠ 0 }) (deadline : Option Instant) :
    Except AgentError InteractionLease × ActorState :=
  match state.heldByOther holder nowMs with
  | some lease => (.error (.interactionLease (.heldByOther lease)), state)
  | none =>
    match checkedAdd nowMs ttlMs with
    | none => (.error (.interactionLease .expiryOverflow), state)
    | some expiresAtMs =>
      match deadline with
      | none => (.error (.interactionLease .durationTooLarge), state)
      | some deadline =>
        let lease : InteractionLease := ⟨holder, expiresAtMs⟩
        match state.applyChange (.interactionChanged (.leased lease)) with
        | (.error error, state) => (.error error, state)
        | (.ok _, state) => (.ok lease, state.setDeadline (some deadline))

def releaseLease (state : ActorState) (holder : LeaseHolderId) :
    Except AgentError Unit × ActorState :=
  match state.snapshot.interaction with
  | .unclaimed => (.error (.interactionLease .notHeld), state)
  | .leased lease =>
    if lease.holder ≠ holder then (.error (.interactionLease (.notHolder lease.holder)), state)
    else
      match (state.setDeadline none).applyChange (.interactionChanged .unclaimed) with
      | (.error error, state) => (.error error, state)
      | (.ok _, state) => (.ok (), state)

section Fields

variable (state : ActorState) (deadline : Option Instant) (update : AgentUpdate)

@[simp] theorem setDeadline_self : state.setDeadline state.leaseDeadline = state := rfl
@[simp] theorem setDeadline_leaseDeadline :
    (state.setDeadline deadline).leaseDeadline = deadline := rfl
@[simp] theorem setDeadline_snapshot :
    (state.setDeadline deadline).snapshot = state.snapshot := rfl
@[simp] theorem setDeadline_replay : (state.setDeadline deadline).replay = state.replay := rfl
@[simp] theorem setDeadline_replayCapacity :
    (state.setDeadline deadline).replayCapacity = state.replayCapacity := rfl
@[simp] theorem setDeadline_subscribers :
    (state.setDeadline deadline).subscribers = state.subscribers := rfl
@[simp] theorem setDeadline_channels :
    (state.setDeadline deadline).channels = state.channels := rfl
@[simp] theorem setDeadline_nextChannel :
    (state.setDeadline deadline).nextChannel = state.nextChannel := rfl
@[simp] theorem setDeadline_history : (state.setDeadline deadline).history = state.history := rfl
@[simp] theorem setDeadline_running : (state.setDeadline deadline).running = state.running := rfl

@[simp] theorem record_snapshot : (state.record update).snapshot = state.snapshot := rfl
@[simp] theorem record_leaseDeadline :
    (state.record update).leaseDeadline = state.leaseDeadline := rfl
@[simp] theorem record_replayCapacity :
    (state.record update).replayCapacity = state.replayCapacity := rfl
@[simp] theorem record_nextChannel : (state.record update).nextChannel = state.nextChannel := rfl
@[simp] theorem record_history :
    (state.record update).history = state.history ++ [⟨update, state.snapshot⟩] := rfl
theorem record_channels (id : SubscriptionId) :
    (state.record update).channels id =
      if id ∈ state.subscribers then
        ((state.channels id).offer update state.history.length).2
      else state.channels id := rfl
theorem mem_record_subscribers {id : SubscriptionId} :
    id ∈ (state.record update).subscribers ↔ id ∈ state.subscribers ∧
      ((state.channels id).offer update state.history.length).1 = true := List.mem_filter
theorem halt_channels (id : SubscriptionId) :
    state.halt.channels id =
      if id ∈ state.subscribers then
        { state.channels id with updates := (state.channels id).updates.dropSender }
      else state.channels id := rfl
@[simp] theorem record_running : (state.record update).running = state.running := rfl

end Fields

end ActorState

/-! ## Turns -/

inductive ActorCommand where
  | snapshot
  | change (change : AgentStateChange)
  | publishEvent (event : ServerMessage)
  | subscribe (cursor : Option SubscriptionCursor)
  | acquireLease (holder : LeaseHolderId) (nowMs : UInt64) (ttlMs : { ttl : UInt64 // ttl ≠ 0 })
      (deadline : Option Instant)
  | releaseLease (holder : LeaseHolderId)
  | shutdown

/-- What wakes the actor: the lease timer, a command, or the last handle going. -/
inductive ActorInput where
  | leaseTimer
  | command (command : ActorCommand)
  | disconnected

inductive ActorReply where
  | nothing
  | stopped
  | snapshot (snapshot : AgentSnapshot)
  | changed (result : Except AgentError Unit)
  | published (result : Except AgentError EventSequence)
  | subscribed (subscription : AgentSubscription)
  | leased (result : Except AgentError InteractionLease)
  | released (result : Except AgentError Unit)
  | shutdown

/-- The subscription a reply hands out. -/
def ActorReply.subscription : ActorReply → Option AgentSubscription
  | .subscribed subscription => some subscription
  | _ => none

namespace ActorState

def command (state : ActorState) : ActorCommand → ActorReply × ActorState
  | .snapshot => (.snapshot state.snapshot, state)
  | .change change =>
    let (result, state) := state.applyChange change
    (.changed (result.map fun _ => ()), state)
  | .publishEvent event =>
    let (result, state) := state.publishEvent event
    (.published result, state)
  | .subscribe cursor =>
    let (subscription, state) := state.subscribe cursor
    (.subscribed subscription, state)
  | .acquireLease holder nowMs ttlMs deadline =>
    let (result, state) := state.acquireLease holder nowMs ttlMs deadline
    (.leased result, state)
  | .releaseLease holder =>
    let (result, state) := state.releaseLease holder
    (.released result, state)
  | .shutdown => (.shutdown, state.halt)

/-- One turn of the loop. The timer fires only while a deadline is armed. -/
def turn (state : ActorState) (input : ActorInput) : ActorReply × ActorState :=
  if !state.running then (.stopped, state)
  else match input with
    | .leaseTimer =>
      if state.leaseDeadline.isNone then (.nothing, state)
      else
        (.nothing, ((state.setDeadline none).applyChange (.interactionChanged .unclaimed)).2)
    | .command command => state.command command
    | .disconnected => (.nothing, state.halt)

end ActorState

end OmpRemote.ControlPlane

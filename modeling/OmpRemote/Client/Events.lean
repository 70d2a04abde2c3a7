import OmpRemote.Lib.Machine
import OmpRemote.Lib.Mpsc
import OmpRemote.Client.Runner

/-!
# Event streams

What the client tells the application: each subscriber of `events` has a bounded
queue of its own, and `broadcast` offers an event to all of them without waiting.

- `ClientRunner.events`: what the handling of a frame broadcasts.
- `Subscriber.offer`: one subscriber in a `broadcast`. A full queue keeps the
  subscriber and loses the event.
- `Streams.Roomy`: the condition under which nothing is lost; `streams_gap_free_iff`.

`since` and `received` are not in the source: they log what was broadcast since the
subscriber came and what it has read.
-/

namespace OmpRemote.Client

open Lib Rpc

inductive ConnectionStatus where
  | disconnected (reason : Option String)
  | connecting
  | connected (serverId : ServerId) (deviceId : DeviceId) (protocolVersion : ProtocolVersion)
  | stopped (reason : Option String)
  deriving DecidableEq, Repr

inductive ClientEvent where
  | connectionChanged (status : ConnectionStatus)
  | stateChanged (agentId : AgentId)
  | agentEvent (envelope : EventEnvelope)
  | interactionRequest (envelope : UiInteractionEnvelope)
  | resyncRequired (agentId : AgentId)
  | protocolError (error : ProtocolError)
  | replicationError (error : ReplicationError)
  deriving DecidableEq, Repr

/-! ## What is broadcast -/

/-- What an effect is broadcast as. -/
def ReplicationEffect.clientEvent : ReplicationEffect → ClientEvent
  | .stateChanged agentId => .stateChanged agentId
  | .event envelope => .agentEvent envelope
  | .interaction envelope => .interactionRequest envelope
  | .resyncRequired agentId => .resyncRequired agentId

namespace ClientRunner

/-- What `handle_server_frame` broadcasts. No effect follows one after which a
subscription is sent, so nothing is left out when that fails. -/
def frameEvents (runner : ClientRunner) : ServerFrame → List ClientEvent
  | .response response =>
    if (runner.responseIndex.lookup response.requestId).isNone then
      [.protocolError ⟨"unexpected_response",
        "server response did not match an in-flight request", false⟩]
    else []
  | .error error => [.protocolError error]
  | .pong _ | .serverShutdown _ _ | .welcome _ => []
  | replicated =>
    match (runner.state.apply replicated).1 with
    | .ok effects => effects.map ReplicationEffect.clientEvent
    | .error error => [.replicationError error]

/-- What a step of the runner broadcasts, changes of its status apart. -/
def events (runner : ClientRunner) : Input → List ClientEvent
  | .frame frame _ => if runner.phase = .connected then runner.frameEvents frame else []
  | _ => []

end ClientRunner

/-! ## The subscribers -/

structure Subscriber where
  channel : Mpsc ClientEvent
  /-- Its sender is in the list that `broadcast` goes through. -/
  listed : Bool
  since : List ClientEvent
  received : List ClientEvent

namespace Subscriber

/-- The subscriber that `events` adds. Its channel has a slot for the only sender
besides the ones asked for. -/
def new (capacity : Nat) (status : ConnectionStatus) : Subscriber where
  channel := ⟨max capacity 1 + 1, [.connectionChanged status], true, true⟩
  listed := true
  since := [.connectionChanged status]
  received := []

/-- An event is broadcast. -/
def offer (subscriber : Subscriber) (event : ClientEvent) : Subscriber :=
  let subscriber := { subscriber with since := subscriber.since ++ [event] }
  if !subscriber.listed then subscriber
  else match subscriber.channel.trySend event with
    | .sent channel => { subscriber with channel }
    | .full => subscriber
    | .closed => { subscriber with listed := false }

/-- The application polls its receiver. -/
def poll (subscriber : Subscriber) : Subscriber :=
  match subscriber.channel.poll with
  | .item event channel =>
    { subscriber with channel, received := subscriber.received ++ [event] }
  | .disconnected | .pending => subscriber

def drop (subscriber : Subscriber) : Subscriber :=
  { subscriber with channel := subscriber.channel.dropReceiver }

end Subscriber

/-- The runner between two broadcasts has `outbox` still to broadcast. -/
structure Streams where
  capacity : Nat
  runner : ClientRunner
  status : ConnectionStatus
  outbox : List ClientEvent
  subscribers : List Subscriber

inductive StreamsInput where
  /-- `events`. -/
  | subscribe
  | poll (subscriber : Nat)
  | drop (subscriber : Nat)
  /-- `set_status`: the status is written, and then broadcast. -/
  | setStatus (status : ConnectionStatus)
  | runner (input : ClientRunner.Input)
  /-- The next event is broadcast. -/
  | broadcast

namespace Streams

def new (capacity : Nat) (random : String) : Streams :=
  ⟨capacity, .new random, .disconnected none, [], []⟩

def broadcast (streams : Streams) (event : ClientEvent) : Streams :=
  { streams with subscribers := streams.subscribers.map (Subscriber.offer · event) }

def step (streams : Streams) : StreamsInput → Streams
  | .subscribe =>
    { streams with
      subscribers := streams.subscribers ++ [.new streams.capacity streams.status] }
  | .poll subscriber =>
    { streams with subscribers := streams.subscribers.modify subscriber .poll }
  | .drop subscriber =>
    { streams with subscribers := streams.subscribers.modify subscriber .drop }
  | .setStatus status =>
    if streams.outbox = [] then { streams with status, outbox := [.connectionChanged status] }
    else streams
  | .runner input =>
    if streams.outbox = [] then
      { streams with
        runner := streams.runner.step input
        outbox := streams.runner.events input }
    else streams
  | .broadcast =>
    match streams.outbox with
    | [] => streams
    | event :: outbox => { streams with outbox }.broadcast event

/-- An event that is broadcast finds no receiver's queue full. -/
def Roomy (streams : Streams) : StreamsInput → Prop
  | .broadcast => streams.outbox ≠ [] → ∀ subscriber ∈ streams.subscribers,
    subscriber.channel.receiverOpen = true →
      subscriber.channel.buffer.length < subscriber.channel.capacity
  | _ => True

end Streams

/-! ## One subscriber -/

namespace Subscriber

/-- What the subscriber has read is what was broadcast first, without a gap, and as
long as it reads on, the rest is in its queue. -/
structure GapFree (subscriber : Subscriber) : Prop where
  received : subscriber.received <+: subscriber.since
  queued : subscriber.channel.receiverOpen = true →
    subscriber.received ++ subscriber.channel.buffer = subscriber.since

/-- A receiver that is there has its sender in the list, and one that is gone has
nothing queued. -/
structure Sound (subscriber : Subscriber) : Prop extends subscriber.GapFree where
  listed : subscriber.channel.receiverOpen = true → subscriber.listed = true
  gone : subscriber.channel.receiverOpen = false → subscriber.channel.buffer = []

theorem new_sound (capacity : Nat) (status : ConnectionStatus) : (new capacity status).Sound where
  received := List.nil_prefix
  queued _ := rfl
  listed _ := rfl
  gone := nofun

/-- A queue with room takes the event. -/
theorem offer_sound {subscriber : Subscriber} (h : subscriber.Sound)
    (hroom : subscriber.channel.receiverOpen = true →
      subscriber.channel.buffer.length < subscriber.channel.capacity) (event : ClientEvent) :
    (subscriber.offer event).Sound := by
  have hlonger : subscriber.received <+: subscriber.since ++ [event] :=
    h.received.trans (List.prefix_append _ _)
  unfold offer
  cases hopen : subscriber.channel.receiverOpen with
  | true =>
    simp only [h.listed hopen, Mpsc.trySend, hopen, hroom hopen, Bool.not_true,
      Bool.false_eq_true, if_false, if_true]
    refine ⟨⟨hlonger, fun _ => ?_⟩, fun _ => rfl, nofun⟩
    show subscriber.received ++ (subscriber.channel.buffer ++ [event]) = _
    rw [← List.append_assoc, h.queued hopen]
  | false =>
    have hclosed : ¬ subscriber.channel.receiverOpen = true := by simp [hopen]
    dsimp only
    split
    · exact ⟨⟨hlonger, fun h' => absurd h' hclosed⟩, fun h' => absurd h' hclosed, h.gone⟩
    · simp only [Mpsc.trySend, hopen, Bool.not_false, if_true]
      exact ⟨⟨hlonger, fun h' => absurd h' hclosed⟩, fun h' => absurd h' hclosed, h.gone⟩

/-- A full queue leaves a hole. -/
theorem room_of_offer {subscriber : Subscriber} (event : ClientEvent) (h : subscriber.GapFree)
    (h' : (subscriber.offer event).GapFree) (hopen : subscriber.channel.receiverOpen = true) :
    subscriber.channel.buffer.length < subscriber.channel.capacity := by
  by_contra hfull
  -- the event is in neither, and the subscriber still listens
  have hlost : (subscriber.offer event).channel = subscriber.channel ∧
      (subscriber.offer event).received = subscriber.received ∧
      (subscriber.offer event).since = subscriber.since ++ [event] := by
    unfold offer
    dsimp only
    split
    · exact ⟨rfl, rfl, rfl⟩
    · simp [Mpsc.trySend, hopen, hfull]
  obtain ⟨hchannel, hreceived, hsince⟩ := hlost
  have hqueued := h'.queued (by rw [hchannel]; exact hopen)
  rw [hchannel, hreceived, hsince, h.queued hopen] at hqueued
  simp at hqueued

/-- Reading takes the oldest event of the queue. -/
theorem poll_sound {subscriber : Subscriber} (h : subscriber.Sound) : subscriber.poll.Sound := by
  unfold poll
  split
  · rename_i event channel hpoll
    obtain ⟨hbuffer, hchannel⟩ := Mpsc.poll_item hpoll
    have hopen : subscriber.channel.receiverOpen = true := by
      by_contra hclosed
      rw [h.gone (by simpa using hclosed)] at hbuffer
      cases hbuffer
    have hsame : channel.receiverOpen = subscriber.channel.receiverOpen := by rw [hchannel]
    have hstream : subscriber.received ++ [event] ++ channel.buffer = subscriber.since := by
      rw [List.append_assoc, List.singleton_append, ← hbuffer, h.queued hopen]
    refine ⟨⟨⟨channel.buffer, hstream⟩, fun _ => hstream⟩, fun _ => h.listed hopen, fun hgone => ?_⟩
    exact absurd ((hsame.trans hopen).symm.trans hgone) (by decide)
  · exact h
  · exact h

theorem drop_sound {subscriber : Subscriber} (h : subscriber.Sound) : subscriber.drop.Sound where
  received := h.received
  queued := nofun
  listed := nofun
  gone _ := rfl

end Subscriber

/-! ## All subscribers -/

namespace Streams

def Sound (streams : Streams) : Prop := ∀ subscriber ∈ streams.subscribers, subscriber.Sound

/-- The elements of a list after one of them has changed. -/
theorem mem_modify {α : Type} {l : List α} {i : Nat} {f : α → α} {x : α} (h : x ∈ l.modify i f) :
    x ∈ l ∨ ∃ y ∈ l, x = f y := by
  obtain ⟨j, hj, rfl⟩ := List.getElem_of_mem h
  rw [List.getElem_modify]
  rw [List.length_modify] at hj
  split
  · exact .inr ⟨l[j], List.getElem_mem hj, rfl⟩
  · exact .inl (List.getElem_mem hj)

theorem sound_modify {subscribers : List Subscriber} {i : Nat} {f : Subscriber → Subscriber}
    (hf : ∀ {subscriber : Subscriber}, subscriber.Sound → (f subscriber).Sound)
    (h : ∀ subscriber ∈ subscribers, subscriber.Sound) :
    ∀ subscriber ∈ subscribers.modify i f, subscriber.Sound := by
  intro subscriber hmem
  rcases mem_modify hmem with hold | ⟨old, hold, rfl⟩
  · exact h subscriber hold
  · exact hf (h old hold)

theorem sound_step {streams : Streams} (h : streams.Sound) (input : StreamsInput)
    (hroomy : streams.Roomy input) : (streams.step input).Sound := by
  cases input with
  | subscribe =>
    intro subscriber hmem
    rcases List.mem_append.mp hmem with hold | hnew
    · exact h subscriber hold
    · obtain rfl := List.mem_singleton.mp hnew
      exact Subscriber.new_sound streams.capacity streams.status
  | poll i => exact sound_modify Subscriber.poll_sound h
  | drop i => exact sound_modify Subscriber.drop_sound h
  | setStatus status =>
    dsimp only [step]
    split <;> exact h
  | runner input =>
    dsimp only [step]
    split <;> exact h
  | broadcast =>
    dsimp only [step]
    split
    · exact h
    · rename_i event outbox houtbox
      intro subscriber hmem
      obtain ⟨old, hold, rfl⟩ := List.mem_map.mp hmem
      have hroom := hroomy (by rw [houtbox]; exact List.cons_ne_nil _ _) old hold
      exact Subscriber.offer_sound (h old hold) hroom event

/-- In every state of the run, no subscriber's stream has a hole. -/
def AlwaysGapFree (capacity : Nat) (random : String) (inputs : List StreamsInput) : Prop :=
  ∀ pre post, inputs = pre ++ post →
    ∀ subscriber ∈ (run step (new capacity random) pre).subscribers, subscriber.GapFree

theorem roomy_of_gapFree {streams : Streams} {input : StreamsInput}
    (h : ∀ subscriber ∈ streams.subscribers, subscriber.GapFree)
    (h' : ∀ subscriber ∈ (streams.step input).subscribers, subscriber.GapFree) :
    streams.Roomy input := by
  cases input with
  | broadcast =>
    intro hsome subscriber hmem hopen
    cases houtbox : streams.outbox with
    | nil => exact absurd houtbox hsome
    | cons event outbox =>
      refine Subscriber.room_of_offer event (h subscriber hmem) (h' _ ?_) hopen
      simp only [step, houtbox, broadcast]
      exact List.mem_map_of_mem hmem
  | subscribe | poll | drop | setStatus | runner => trivial

/-- **Event streams without holes.** In every run of the client runner with any number
of subscribers and their reads: every subscriber has read a gap-free prefix of the
status it was first told and the events broadcast since, the rest of which is in its
queue as long as it reads, in every state of the run, if and only if no event that is
broadcast in the run finds the queue of a receiver full. -/
theorem streams_gap_free_iff (capacity : Nat) (random : String) (inputs : List StreamsInput) :
    AlwaysGapFree capacity random inputs ↔ Along step Roomy (new capacity random) inputs := by
  constructor
  · intro h
    rw [along_iff]
    rintro pre input post rfl
    refine roomy_of_gapFree (h pre (input :: post) rfl) ?_
    have hnext := h (pre ++ [input]) post (by simp)
    rwa [run_append] at hnext
  · rintro h pre post rfl subscriber hmem
    have hsound : (run step (new capacity random) pre).Sound :=
      run_invariant_along (P := Sound) (fun _ input h hroomy => sound_step h input hroomy)
        (fun _ hmem => by cases hmem) (along_append.mp h).1
    exact (hsound subscriber hmem).toGapFree

/-- A subscriber that asked for one slot reads nothing while the status changes three
times, then reads on. -/
def busy : List StreamsInput :=
  [.subscribe, .setStatus .connecting, .broadcast, .setStatus (.disconnected none), .broadcast,
    .poll 0, .poll 0, .setStatus (.stopped none), .broadcast, .poll 0]

theorem busy_subscriber_misses : ¬ AlwaysGapFree 1 "" busy := by
  intro h
  have hreceived := (h busy [] rfl _ (List.mem_singleton_self _)).received
  revert hreceived
  decide +kernel

end Streams

end OmpRemote.Client

import Mathlib.Logic.Function.Basic
import OmpRemote.Lib.Mpsc
import OmpRemote.Protocol.Codec

/-!
# The outbound lanes

What the daemon writes to one control connection passes one of three bounded
queues. The writer drains them in the order of their priority; a task that puts
something in waits for room, except in the state lane.

- `Outbound.send`, `Outbound.next`: the lanes and the writer's choice.
- `emitUpdate`, `emitReplay`: what agents publish, as far as there is room.
-/

namespace OmpRemote.Ompd

open Lib

/-- A WebSocket message; nobody looks into text. -/
inductive Message where
  | binary (message : BinaryMessage)
  | text
  | ping (payload : List UInt8)
  | pong (payload : List UInt8)
  | close
  deriving DecidableEq

inductive OutboundPayload where
  | protocol (frame : ServerFrame)
  | webSocket (message : Message)
  deriving DecidableEq

inductive Lane where
  | control | response | state
  deriving DecidableEq, Repr

/-- The three queues; both ends of each are here. -/
structure Outbound where
  lane : Lane → Mpsc OutboundPayload

/-- What becomes of a payload that is put into a lane. A task that finds no room
either waits or goes on without. -/
inductive Sending where
  | sent (outbound : Outbound)
  | full
  | closed

namespace Outbound

def new (capacity : Nat) : Outbound := ⟨fun _ => .new (max capacity 1)⟩

def setLane (outbound : Outbound) (lane : Lane) (channel : Mpsc OutboundPayload) : Outbound :=
  ⟨Function.update outbound.lane lane channel⟩

@[simp] theorem setLane_lane (outbound : Outbound) (lane : Lane) (channel : Mpsc OutboundPayload) :
    (outbound.setLane lane channel).lane = Function.update outbound.lane lane channel := rfl

def send (outbound : Outbound) (lane : Lane) (payload : OutboundPayload) : Sending :=
  match (outbound.lane lane).trySend payload with
  | .sent channel => .sent (outbound.setLane lane channel)
  | .full => .full
  | .closed => .closed

/-- `Outbound::state`: the frame is put into the lane if there is room now. -/
def state (outbound : Outbound) (frame : ServerFrame) : Bool × Outbound :=
  match outbound.send .state (.protocol frame) with
  | .sent outbound => (true, outbound)
  | .full | .closed => (false, outbound)

/-- The first payload of a lane. -/
def poll (outbound : Outbound) (lane : Lane) : Option (OutboundPayload × Outbound) :=
  match (outbound.lane lane).poll with
  | .item payload channel => some (payload, outbound.setLane lane channel)
  | .pending | .disconnected => none

/-- What the writer takes next. -/
def next (outbound : Outbound) : Option (OutboundPayload × Outbound) :=
  match outbound.poll .control with
  | some taken => some taken
  | none =>
    match outbound.poll .response with
    | some taken => some taken
    | none => outbound.poll .state

/-- The writer drops its ends, and with them what is in the lanes. -/
def close (outbound : Outbound) : Outbound := ⟨fun lane => (outbound.lane lane).dropReceiver⟩

end Outbound

/-! ## Agents -/

/-- The frame of an update. -/
def updateFrame : AgentUpdate → ServerFrame
  | .delta eventSequence delta => .delta ⟨eventSequence, delta⟩
  | .event agentId eventSequence (.extensionUi request) =>
    .interactionRequest ⟨agentId, eventSequence, request⟩
  | .event agentId eventSequence event => .event ⟨agentId, eventSequence, event⟩

def gapFrame (snapshot : AgentSnapshot) (reason : ReplayGapReason) : ServerFrame :=
  .replayGap ⟨snapshot.agentId, snapshot.revision, snapshot.eventSequence, reason⟩

def emitUpdate (update : AgentUpdate) (outbound : Outbound) : Bool × Outbound :=
  outbound.state (updateFrame update)

/-- The updates of a replay, up to the first that finds no room. -/
def emitReplay (outbound : Outbound) : List AgentUpdate → Outbound
  | [] => outbound
  | update :: updates =>
    match emitUpdate update outbound with
    | (true, outbound) => emitReplay outbound updates
    | (false, outbound) => outbound

/-- `emit_subscription_start`, where it does not wait; the gap of a start that has
one is in the control lane by then. -/
def emitStart (outbound : Outbound) : SubscriptionStart → Outbound
  | .snapshot snapshot | .resyncRequired snapshot => (outbound.state (.snapshot ⟨[snapshot]⟩)).2
  | .replay updates => emitReplay outbound updates

/-! ## Payloads -/

namespace Outbound

variable {outbound outbound' : Outbound} {P : OutboundPayload → Prop}

/-- Everything in the lanes satisfies `P`. -/
def All (P : OutboundPayload → Prop) (outbound : Outbound) : Prop :=
  ∀ lane, ∀ payload ∈ (outbound.lane lane).buffer, P payload

theorem All.setLane (h : outbound.All P) {lane : Lane} {channel : Mpsc OutboundPayload}
    (hchannel : ∀ payload ∈ channel.buffer, P payload) : (outbound.setLane lane channel).All P := by
  intro other payload hpayload
  by_cases hlane : other = lane
  · subst hlane
    rw [setLane_lane, Function.update_self] at hpayload
    exact hchannel payload hpayload
  · rw [setLane_lane, Function.update_of_ne hlane] at hpayload
    exact h other payload hpayload

theorem All.send (h : outbound.All P) {lane : Lane} {payload : OutboundPayload} (hP : P payload)
    (hsent : outbound.send lane payload = .sent outbound') : outbound'.All P := by
  unfold Outbound.send at hsent
  split at hsent
  · rename_i channel hchannel
    cases hsent
    obtain ⟨-, -, rfl⟩ := Mpsc.trySend_sent hchannel
    refine h.setLane ?_
    intro sent hmem
    rcases List.mem_append.mp hmem with hold | hnew
    · exact h lane sent hold
    · rwa [List.mem_singleton.mp hnew]
  · cases hsent
  · cases hsent

theorem All.state (h : outbound.All P) {frame : ServerFrame} (hP : P (.protocol frame)) :
    (outbound.state frame).2.All P := by
  unfold Outbound.state
  split
  · rename_i sent hsent
    exact h.send hP hsent
  · exact h
  · exact h

theorem All.emitReplay {updates : List AgentUpdate} (h : outbound.All P)
    (hP : ∀ update ∈ updates, P (.protocol (updateFrame update))) :
    (emitReplay outbound updates).All P := by
  induction updates generalizing outbound with
  | nil => exact h
  | cons update updates ih =>
    have hfirst := h.state (hP update List.mem_cons_self)
    unfold Ompd.emitReplay emitUpdate
    cases hsent : outbound.state (updateFrame update) with
    | mk ok after =>
      rw [hsent] at hfirst
      cases ok with
      | true => exact ih hfirst fun later hlater => hP later (List.mem_cons_of_mem _ hlater)
      | false => exact hfirst

theorem All.poll (h : outbound.All P) {lane : Lane} {payload : OutboundPayload}
    (hpoll : outbound.poll lane = some (payload, outbound')) : P payload ∧ outbound'.All P := by
  unfold Outbound.poll at hpoll
  split at hpoll
  · rename_i taken channel hitem
    cases hpoll
    obtain ⟨hbuffer, -⟩ := Mpsc.poll_item hitem
    refine ⟨h lane payload (by rw [hbuffer]; exact List.mem_cons_self), h.setLane ?_⟩
    intro left hleft
    exact h lane left (by rw [hbuffer]; exact List.mem_cons_of_mem _ hleft)
  · cases hpoll
  · cases hpoll

/-- What the writer takes was in a lane. -/
theorem All.next (h : outbound.All P) {payload : OutboundPayload}
    (hnext : outbound.next = some (payload, outbound')) : P payload ∧ outbound'.All P := by
  unfold Outbound.next at hnext
  split at hnext
  · rename_i hcontrol
    exact h.poll (hcontrol.trans hnext)
  split at hnext
  · rename_i hresponse
    exact h.poll (hresponse.trans hnext)
  · exact h.poll hnext

theorem All.close : outbound.close.All P := by
  intro lane payload hpayload
  cases hpayload

theorem All.new (capacity : Nat) : (Outbound.new capacity).All P := by
  intro lane payload hpayload
  cases hpayload

end Outbound

end OmpRemote.Ompd

import Mathlib.Logic.Function.Basic
import OmpRemote.Protocol.Frame

/-!
# The client's reducer

`ReplicatedState` is what a control client knows of the agents, and which of
them it has to resynchronise. `ReplicatedState.apply` is its only transition.

Deltas, events and interaction requests differ in what they do to the snapshot;
the checks before, and the flag when one fails, are the same (`applyIncremental`).
-/

namespace OmpRemote.Client

open Lib Rpc

inductive ReplicationEffect where
  | stateChanged (agentId : AgentId)
  | event (envelope : EventEnvelope)
  | interaction (envelope : UiInteractionEnvelope)
  | resyncRequired (agentId : AgentId)
  deriving DecidableEq, Repr

inductive ReplicationError where
  | missingSnapshot (agentId : AgentId)
  | resyncPending (agentId : AgentId)
  | nonContiguousEventSequence (local_ incoming : EventSequence)
  | eventSequenceExhausted
  | delta (error : DeltaApplyError)
  deriving DecidableEq, Repr

/-- The agent an error names, where it names one. -/
def ReplicationError.agentId : ReplicationError → Option AgentId
  | .missingSnapshot agentId | .resyncPending agentId => some agentId
  | .delta (.wrongAgent _ actual) => some actual
  | .nonContiguousEventSequence _ _ | .eventSequenceExhausted | .delta _ => none

/-- The replicas, by agent, and the agents flagged for resynchronisation. -/
structure ReplicatedState where
  agents : AgentId → Option AgentSnapshot
  resyncRequired : AgentId → Bool

def requireNextSequence (current incoming : EventSequence) : Except ReplicationError Unit :=
  match checkedAdd current 1 with
  | none => .error .eventSequenceExhausted
  | some expected =>
    if incoming ≠ expected then .error (.nonContiguousEventSequence current incoming) else .ok ()

namespace ReplicatedState

/-- A client that has received nothing. -/
def default : ReplicatedState := ⟨fun _ => none, fun _ => false⟩

def agent (state : ReplicatedState) (agentId : AgentId) : Option AgentSnapshot :=
  state.agents agentId

def isResyncRequired (state : ReplicatedState) (agentId : AgentId) : Bool :=
  state.resyncRequired agentId

def cursor (state : ReplicatedState) (agentId : AgentId) : Option SubscriptionCursor :=
  if state.resyncRequired agentId then none
  else (state.agents agentId).map fun snapshot =>
    ⟨snapshot.agentId, snapshot.revision, snapshot.eventSequence⟩

def flag (state : ReplicatedState) (agentId : AgentId) : ReplicatedState :=
  { state with resyncRequired := Function.update state.resyncRequired agentId true }

def replace (state : ReplicatedState) (agentId : AgentId) (snapshot : AgentSnapshot) :
    ReplicatedState :=
  { state with agents := Function.update state.agents agentId (some snapshot) }

/-- Adopt a snapshot, which settles a pending resynchronisation. -/
def adopt (state : ReplicatedState) (agent : AgentSnapshot) : ReplicatedState where
  agents := Function.update state.agents agent.agentId (some agent)
  resyncRequired := Function.update state.resyncRequired agent.agentId false

def applySnapshot (state : ReplicatedState) (snapshot : StateSnapshot) :
    List ReplicationEffect × ReplicatedState :=
  (snapshot.agents.map fun agent => .stateChanged agent.agentId,
    snapshot.agents.foldl adopt state)

/-- The checks of every incremental frame, then its own `change`. -/
def checkIncremental (state : ReplicatedState) (agentId : AgentId) (incoming : EventSequence)
    (change : AgentSnapshot → Except ReplicationError AgentSnapshot) :
    Except ReplicationError AgentSnapshot :=
  match state.agents agentId with
  | none => .error (.missingSnapshot agentId)
  | some snapshot =>
    if state.resyncRequired agentId then .error (.resyncPending agentId)
    else do
      requireNextSequence snapshot.eventSequence incoming
      change snapshot

def applyIncremental (state : ReplicatedState) (agentId : AgentId) (incoming : EventSequence)
    (change : AgentSnapshot → Except ReplicationError AgentSnapshot)
    (effect : ReplicationEffect) :
    Except ReplicationError (List ReplicationEffect) × ReplicatedState :=
  match state.checkIncremental agentId incoming change with
  | .error error => (.error error, state.flag agentId)
  | .ok snapshot =>
    (.ok [effect], state.replace agentId snapshot)

def applyDelta (state : ReplicatedState) (envelope : DeltaEnvelope) :
    Except ReplicationError (List ReplicationEffect) × ReplicatedState :=
  state.applyIncremental envelope.delta.agentId envelope.eventSequence
    (fun snapshot =>
      (snapshot.applyDelta envelope.delta envelope.eventSequence).mapError .delta)
    (.stateChanged envelope.delta.agentId)

def applyEvent (state : ReplicatedState) (envelope : EventEnvelope) :
    Except ReplicationError (List ReplicationEffect) × ReplicatedState :=
  state.applyIncremental envelope.agentId envelope.eventSequence
    (fun snapshot => .ok { snapshot with eventSequence := envelope.eventSequence })
    (.event envelope)

def applyInteraction (state : ReplicatedState) (envelope : UiInteractionEnvelope) :
    Except ReplicationError (List ReplicationEffect) × ReplicatedState :=
  state.applyIncremental envelope.agentId envelope.eventSequence
    (fun snapshot => .ok { snapshot with eventSequence := envelope.eventSequence })
    (.interaction envelope)

def apply (state : ReplicatedState) :
    ServerFrame → Except ReplicationError (List ReplicationEffect) × ReplicatedState
  | .snapshot snapshot =>
    let (effects, state) := state.applySnapshot snapshot
    (.ok effects, state)
  | .delta envelope => state.applyDelta envelope
  | .event envelope => state.applyEvent envelope
  | .interactionRequest envelope => state.applyInteraction envelope
  | .replayGap gap => (.ok [.resyncRequired gap.agentId], state.flag gap.agentId)
  | .welcome _ | .response _ | .error _ | .pong _ | .serverShutdown _ _ => (.ok [], state)

/-- The replicas after a list of frames, whatever the results. -/
def applyAll (state : ReplicatedState) (frames : List ServerFrame) : ReplicatedState :=
  frames.foldl (fun state frame => (state.apply frame).2) state

/-! ## What the operations do -/

variable {state : ReplicatedState} {agentId other : AgentId} {incoming : EventSequence}
  {change : AgentSnapshot → Except ReplicationError AgentSnapshot} {effect : ReplicationEffect}

@[simp] theorem flag_agents : (state.flag agentId).agents = state.agents := rfl

@[simp] theorem flag_self : (state.flag agentId).resyncRequired agentId = true :=
  Function.update_self ..

theorem flag_other (h : other ≠ agentId) :
    (state.flag agentId).resyncRequired other = state.resyncRequired other :=
  Function.update_of_ne h ..

@[simp] theorem replace_agents_self (snapshot : AgentSnapshot) :
    (state.replace agentId snapshot).agents agentId = some snapshot := Function.update_self ..

theorem replace_agents_other {snapshot : AgentSnapshot} (h : other ≠ agentId) :
    (state.replace agentId snapshot).agents other = state.agents other :=
  Function.update_of_ne h ..

@[simp] theorem replace_resyncRequired (snapshot : AgentSnapshot) :
    (state.replace agentId snapshot).resyncRequired = state.resyncRequired := rfl

@[simp] theorem adopt_agents_self (agent : AgentSnapshot) :
    (state.adopt agent).agents agent.agentId = some agent := Function.update_self ..

theorem adopt_agents_other {agent : AgentSnapshot} (h : other ≠ agent.agentId) :
    (state.adopt agent).agents other = state.agents other := Function.update_of_ne h ..

@[simp] theorem adopt_resyncRequired_self (agent : AgentSnapshot) :
    (state.adopt agent).resyncRequired agent.agentId = false := Function.update_self ..

theorem adopt_resyncRequired_other {agent : AgentSnapshot} (h : other ≠ agent.agentId) :
    (state.adopt agent).resyncRequired other = state.resyncRequired other :=
  Function.update_of_ne h ..

end ReplicatedState

theorem requireNextSequence_ok {current incoming : EventSequence} :
    requireNextSequence current incoming = .ok () ↔ incoming.toNat = current.toNat + 1 := by
  rw [← checkedAdd_one_eq_some, requireNextSequence]
  split
  · simp [*]
  · rename_i expected hexpected
    rw [check_eq_ok, not_not, hexpected, Option.some.injEq, eq_comm]
    simp

namespace ReplicatedState

variable {state : ReplicatedState} {agentId other : AgentId} {incoming : EventSequence}
  {change : AgentSnapshot → Except ReplicationError AgentSnapshot} {effect : ReplicationEffect}

/-- An incremental frame is accepted iff the agent is known and not flagged, the
sequence is the next one, and the change itself applies. -/
theorem checkIncremental_ok {snapshot : AgentSnapshot} :
    state.checkIncremental agentId incoming change = .ok snapshot ↔
      ∃ held, state.agents agentId = some held ∧ state.resyncRequired agentId = false ∧
        incoming.toNat = held.eventSequence.toNat + 1 ∧ change held = .ok snapshot := by
  unfold checkIncremental
  split
  · simp [*]
  · rename_i held hheld
    rw [check_eq_ok, then_eq_ok, requireNextSequence_ok]
    simp [hheld]

/-- An incremental frame either replaces the agent's replica or flags the agent;
the other agents keep replica and flag. -/
theorem applyIncremental_cases (state : ReplicatedState) (agentId : AgentId)
    (incoming : EventSequence) (change : AgentSnapshot → Except ReplicationError AgentSnapshot)
    (effect : ReplicationEffect) :
    (∃ error, state.applyIncremental agentId incoming change effect =
        (.error error, state.flag agentId)) ∨
      ∃ held snapshot, state.agents agentId = some held ∧ state.resyncRequired agentId = false ∧
        incoming.toNat = held.eventSequence.toNat + 1 ∧ change held = .ok snapshot ∧
        state.applyIncremental agentId incoming change effect =
          (.ok [effect], state.replace agentId snapshot) := by
  unfold applyIncremental
  cases hcheck : state.checkIncremental agentId incoming change with
  | error error => exact .inl ⟨error, rfl⟩
  | ok snapshot =>
    obtain ⟨held, h₁, h₂, h₃, h₄⟩ := checkIncremental_ok.mp hcheck
    exact .inr ⟨held, snapshot, h₁, h₂, h₃, h₄, rfl⟩

end ReplicatedState

/-- The update an incremental frame carries. -/
def carriedUpdate : ServerFrame → Option AgentUpdate
  | .delta envelope => some (.delta envelope.eventSequence envelope.delta)
  | .event envelope => some (.event envelope.agentId envelope.eventSequence envelope.event)
  | .interactionRequest envelope =>
    some (.event envelope.agentId envelope.eventSequence (.extensionUi envelope.request))
  | _ => none

namespace ReplicatedState

variable {state : ReplicatedState}

/-- **Incremental frames**: the agent is flagged, or its replica is replaced by
what the carried update makes of it, which is then the next one. -/
theorem apply_carriedUpdate {frame : ServerFrame} {update : AgentUpdate}
    (hframe : carriedUpdate frame = some update) :
    (∃ error, state.apply frame = (.error error, state.flag update.agentId)) ∨
      ∃ held effects, state.agents update.agentId = some held ∧
        state.resyncRequired update.agentId = false ∧
        update.eventSequence.toNat = held.eventSequence.toNat + 1 ∧
        state.apply frame =
          (.ok effects, state.replace update.agentId (held.updated update)) := by
  cases frame with
  | delta envelope =>
    cases hframe
    rcases applyIncremental_cases state envelope.delta.agentId envelope.eventSequence
      (fun snapshot =>
        (snapshot.applyDelta envelope.delta envelope.eventSequence).mapError .delta)
      (.stateChanged envelope.delta.agentId) with
      ⟨error, h⟩ | ⟨held, snapshot, hheld, hflag, hnext, hchange, h⟩
    · exact .inl ⟨error, h⟩
    · have happly : held.applyDelta envelope.delta envelope.eventSequence = .ok snapshot := by
        cases hdelta : held.applyDelta envelope.delta envelope.eventSequence with
        | error e => simp [hdelta, Except.mapError] at hchange
        | ok t => simpa [hdelta, Except.mapError] using hchange
      obtain ⟨-, rfl⟩ := AgentSnapshot.applyDelta_ok.mp happly
      exact .inr ⟨held, _, hheld, hflag, hnext, h⟩
  | event envelope =>
    cases hframe
    rcases applyIncremental_cases state envelope.agentId envelope.eventSequence
      (fun snapshot => .ok { snapshot with eventSequence := envelope.eventSequence })
      (.event envelope) with ⟨error, h⟩ | ⟨held, snapshot, hheld, hflag, hnext, hchange, h⟩
    · exact .inl ⟨error, h⟩
    · cases hchange
      exact .inr ⟨held, _, hheld, hflag, hnext, h⟩
  | interactionRequest envelope =>
    cases hframe
    rcases applyIncremental_cases state envelope.agentId envelope.eventSequence
      (fun snapshot => .ok { snapshot with eventSequence := envelope.eventSequence })
      (.interaction envelope) with ⟨error, h⟩ | ⟨held, snapshot, hheld, hflag, hnext, hchange, h⟩
    · exact .inl ⟨error, h⟩
    · cases hchange
      exact .inr ⟨held, _, hheld, hflag, hnext, h⟩
  | welcome _ | response _ | snapshot _ | replayGap _ | error _ | pong _ | serverShutdown _ _ =>
    cases hframe

/-- Of the snapshots of one agent in a frame, the last one is adopted. -/
theorem foldl_adopt_agents (agents : List AgentSnapshot) (agentId : AgentId) :
    (agents.foldl adopt state).agents agentId =
      ((agents.filter fun agent => agent.agentId = agentId).getLast?).or
        (state.agents agentId) := by
  induction agents generalizing state with
  | nil => rfl
  | cons agent agents ih =>
    rw [List.foldl_cons, ih, List.filter_cons]
    by_cases h : agent.agentId = agentId
    · subst h
      rw [if_pos (decide_eq_true rfl), List.getLast?_cons, adopt_agents_self]
      cases (agents.filter fun a => a.agentId = agent.agentId).getLast? <;> rfl
    · rw [if_neg (by simpa using h), adopt_agents_other (Ne.symm h)]

theorem foldl_adopt_resyncRequired (agents : List AgentSnapshot) (agentId : AgentId) :
    (agents.foldl adopt state).resyncRequired agentId =
      (state.resyncRequired agentId && !agents.any fun agent => agent.agentId = agentId) := by
  induction agents generalizing state with
  | nil => simp
  | cons agent agents ih =>
    rw [List.foldl_cons, ih, List.any_cons]
    by_cases h : agent.agentId = agentId
    · subst h
      simp
    · simp [h, adopt_resyncRequired_other (Ne.symm h)]

end ReplicatedState

end OmpRemote.Client

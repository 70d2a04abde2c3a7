import OmpRemote.ControlPlane.Resume

/-!
# Replays are complete

A cursor of the actor's own is answered by a replay exactly as long as the buffer still
has everything that was recorded after it. The filter, the eviction and the walk over the
retained updates are three computations; here they meet.

- `newest`: the last updates recorded, as many as the capacity.
- `retained_iff`: everything recorded after a snapshot is among the newest if and only if
  there is no more of it than the capacity.
- `replay_complete`: the answer to a cursor the actor passed through.
-/

namespace OmpRemote.ControlPlane

open Lib Rpc

variable {initial p : AgentSnapshot} {state state' : ActorState} {config : AgentActorConfig}

/-- The last updates recorded, as many as the capacity. -/
def newest (config : AgentActorConfig) (state : ActorState) : List AgentUpdate :=
  state.recorded.drop (state.recorded.length - config.replayCapacity)

/-! ## The capacity -/

theorem TurnEffect.replayCapacity (h : ActorState.TurnEffect state state') :
    state'.replayCapacity = state.replayCapacity := by
  cases h with
  | idle deadline => rfl
  | records update snapshot deadline _ => rfl
  | halted => rfl

theorem life_replayCapacity (initial : AgentSnapshot) (config : AgentActorConfig)
    (inputs : List ActorInput) :
    (life initial config inputs).replayCapacity = config.replayCapacity := by
  refine run_invariant (P := fun state : ActorState => state.replayCapacity = config.replayCapacity)
    ?_ rfl
    inputs
  intro state input h
  rcases state.turn_cases input with ⟨cursor, -, hturn⟩ | ⟨-, heffect⟩
  · rw [hturn]
    exact h
  · exact (TurnEffect.replayCapacity heffect).trans h

/-! ## Positions -/

/-- The `n`-th update has the `n`-th sequence after the start. -/
theorem recorded_getElem (h : Invariant initial state) {n : Nat} (hn : n < state.recorded.length) :
    state.recorded[n].eventSequence.toNat = initial.eventSequence.toNat + n + 1 := by
  have hlog : n < state.history.length := by
    rwa [ActorState.recorded, List.length_map] at hn
  have hnumber := Sequenced.Exec.number_getElem h.exec hlog
  simp only [ActorState.recorded, List.getElem_map]
  exact hnumber

/-- The snapshots stand at the places of their sequences. -/
theorem passed_sequence (h : Invariant initial state) {n : Nat}
    (hp : (state.passed initial)[n]? = some p) :
    p.eventSequence.toNat = initial.eventSequence.toNat + n := by
  have hmem : p ∈ state.passed initial := List.mem_of_getElem? hp
  have hsame := h.passed_getElem hmem
  cases n with
  | zero =>
    cases hp
    rfl
  | succ n =>
    rw [ActorState.passed, List.getElem?_cons_succ, List.getElem?_map,
      Option.map_eq_some_iff] at hp
    obtain ⟨r, hr, rfl⟩ := hp
    obtain ⟨hlt, rfl⟩ := List.getElem?_eq_some_iff.mp hr
    -- the snapshot after the `n`-th update has the sequence of that update
    have hnumber := Sequenced.Exec.number_getElem h.exec hlt
    have hexec := h.exec
    rw [← List.take_append_drop n state.history, List.drop_eq_getElem_cons hlt] at hexec
    obtain ⟨m, -, hrest⟩ := hexec.split
    cases hrest with
    | cons hadv _ =>
      have hafter : state.history[n].after = _ := hadv.after
      rw [hafter, hadv.updated, AgentSnapshot.updated_eventSequence]
      exact hnumber

/-- What was recorded after a snapshot is among the newest updates if and only if there is
no more of it than the capacity: the updates are all different. -/
theorem retained_iff (h : Invariant initial state) {n : Nat} (hn : n ≤ state.recorded.length) :
    (∀ update ∈ state.recorded.drop n, update ∈ newest config state) ↔
      state.recorded.length ≤ n + config.replayCapacity := by
  rw [newest]
  generalize hcut : state.recorded.length - config.replayCapacity.val = cut
  constructor
  · intro hall
    by_contra hmore
    have hlt : n < state.recorded.length := by omega
    have hfirst : state.recorded[n] ∈ state.recorded.drop n := by
      rw [List.drop_eq_getElem_cons hlt]
      exact List.mem_cons_self
    obtain ⟨k, hk, hsame⟩ := List.getElem_of_mem (hall _ hfirst)
    rw [List.getElem_drop] at hsame
    rw [List.length_drop] at hk
    -- an update that is that far back has a smaller sequence
    have hnumber := congrArg (fun update : AgentUpdate => update.eventSequence.toNat) hsame
    rw [recorded_getElem h hlt, recorded_getElem h (by omega)] at hnumber
    omega
  · intro hle update hupdate
    have hsuffix : state.recorded.drop n <:+ state.recorded.drop cut := by
      rw [show n = cut + (n - cut) by omega, ← List.drop_drop]
      exact List.drop_suffix _ _
    exact hsuffix.mem hupdate

/-! ## The answers -/

/-- **Replays are complete**: in every life of an actor whose sequences are not exhausted,
a cursor it passed through is answered by everything it recorded since, if the newest
updates have it all, and otherwise by the current snapshot. -/
theorem replay_complete (initial : AgentSnapshot) (config : AgentActorConfig)
    (inputs : List ActorInput) (hrunning : (life initial config inputs).running = true)
    (hroom : (life initial config inputs).snapshot.eventSequence.toNat + 1 < 2 ^ 64)
    (n : Nat) (p : AgentSnapshot)
    (hp : ((life initial config inputs).passed initial)[n]? = some p) :
    let state := life initial config inputs
    let later := state.recorded.drop n
    let answer := (state.turn (.command (.subscribe (some (cursorOf p))))).1.subscription.map
      (·.start)
    ((∀ update ∈ later, update ∈ newest config state) → answer = some (.replay later)) ∧
      (¬ (∀ update ∈ later, update ∈ newest config state) →
        answer = some (.resyncRequired state.snapshot)) ∧
      (cursorOf p = cursorOf state.snapshot → later = []) := by
  have h := Invariant.life initial config inputs
  have hcapacity := life_replayCapacity initial config inputs
  generalize life initial config inputs = state at hrunning hroom hp h hcapacity
  have hmem : p ∈ state.passed initial := List.mem_of_getElem? hp
  have hsequence := passed_sequence h hp
  -- what followed the `n`-th snapshot is what its cursor asks for
  have hsince : recordedSince initial state p = state.recorded.drop n := by
    rw [recordedSince]
    congr 1
    omega
  have hlength := length_recordedSince h hmem
  rw [hsince, List.length_drop] at hlength
  have hn : n ≤ state.recorded.length := by
    obtain ⟨hlt, -⟩ := List.getElem?_eq_some_iff.mp hp
    rw [ActorState.passed, List.length_cons, List.length_map] at hlt
    rw [ActorState.recorded, List.length_map]
    omega
  have hagent : (cursorOf p).agentId = initial.agentId := h.mem_agentId hmem
  -- an actor keeps the newest changes, so it has all of these if it has room for their number
  have hretained : Retained state p ↔
      ∀ update ∈ state.recorded.drop n, update ∈ newest config state := by
    rw [retained_iff h hn, Retained, hcapacity, ← UInt64.toNat_inj]
    constructor
    · rintro (hcurrent | ⟨hback, -⟩)
      · omega
      · omega
    · intro hle
      exact .inr ⟨by omega, hroom⟩
  have hanswer : (state.turn (.command (.subscribe (some (cursorOf p))))).1.subscription.map
      (·.start) = some (state.subscriptionStart (cursorOf p)) := by
    unfold ActorState.turn
    rw [hrunning]
    rfl
  dsimp only
  rw [hanswer]
  refine ⟨?_, ?_, ?_⟩
  · intro hall
    refine congrArg some ((replay_iff h hagent).mpr ⟨p, hmem, rfl, hretained.mpr hall, ?_⟩)
    exact hsince.symm
  · intro hsome
    refine congrArg some ((subscriptionStart_cases state (cursorOf p)).resolve_right ?_)
    rintro ⟨updates, hreplay⟩
    obtain ⟨q, hq, hcursor, hkept, -⟩ := (replay_iff h hagent).mp hreplay
    -- no two snapshots have the sequence number, so the cursor is that of `p`
    obtain rfl : p = q := h.mem_unique hmem hq (congrArg (·.eventSequence) hcursor)
    exact hsome (hretained.mp hkept)
  · intro hcurrent
    have hsame : p.eventSequence = state.snapshot.eventSequence :=
      congrArg (·.eventSequence) hcurrent
    refine List.eq_nil_of_length_eq_zero ?_
    rw [List.length_drop]
    rw [hsame] at hlength
    omega

/-- A buffer for two updates. -/
def smallBuffer : AgentActorConfig := ⟨⟨2, by decide⟩, ⟨1, by decide⟩⟩

/-- Three changes. -/
def threeChanges : List ActorInput :=
  [.command (.change (.lifecycleChanged .idle)), .command (.change (.lifecycleChanged .running)),
    .command (.change (.lifecycleChanged .stopped))]

/-- The snapshot after the first of them. -/
def afterOne : AgentSnapshot :=
  { AgentSnapshot.initial ⟨"agent"⟩ with lifecycle := .idle, revision := 1, eventSequence := 1 }

/-- After three changes the cursor after the first is replayed, and the one before it is
not. -/
theorem replay_complete_small :
    let state := life (.initial ⟨"agent"⟩) smallBuffer threeChanges
    (state.turn (.command (.subscribe (some (cursorOf afterOne))))).1.subscription.map (·.start) =
        some (.replay (state.recorded.drop 1)) ∧
      (state.turn (.command (.subscribe
          (some (cursorOf (.initial ⟨"agent"⟩)))))).1.subscription.map (·.start) =
        some (.resyncRequired state.snapshot) := by
  constructor
  · exact (replay_complete (.initial ⟨"agent"⟩) smallBuffer threeChanges (by decide +kernel)
      (by decide +kernel) 1 afterOne (by decide +kernel)).1 (by decide +kernel)
  · exact (replay_complete (.initial ⟨"agent"⟩) smallBuffer threeChanges (by decide +kernel)
      (by decide +kernel) 0 (.initial ⟨"agent"⟩) (by decide +kernel)).2.1 (by decide +kernel)

end OmpRemote.ControlPlane

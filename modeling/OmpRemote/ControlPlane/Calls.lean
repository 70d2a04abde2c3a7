import OmpRemote.ControlPlane.History

/-!
# What a caller's turn does to lifecycle and runs

The snapshot of an agent holds, among other things, its lifecycle, the run that is
active and the runs that are over. A change that goes well does to them what
`applyChange` does, one that fails does nothing, and turns of other kinds leave
them alone.

- `turn_change`, `turn_change_ok`: a change, and when it goes well.
- `turn_publishEvent`, `turn_foreign`: the turns that leave all three alone.
-/

namespace OmpRemote

open Lib Rpc

/-- The run that the change makes the active one. -/
def AgentStateChange.starts : AgentStateChange → Option RunId
  | .runUpserted run => if run.lifecycle.isTerminal then none else some run.runId
  | _ => none

theorem applyChange_upsert_lifecycle (snapshot : AgentSnapshot) (run : RunSnapshot) :
    (applyChange snapshot (.runUpserted run)).lifecycle = snapshot.lifecycle := by
  simp only [applyChange]
  split <;> rfl

namespace ControlPlane

/-- Whether a call returned well. -/
def ActorReply.succeeds : ActorReply → Bool
  | .changed (.ok _) | .published (.ok _) | .leased (.ok _) | .released (.ok _) | .snapshot _
  | .subscribed _ | .shutdown => true
  | _ => false

/-- Turns that neither change the agent nor publish an event nor end the actor. -/
def ActorInput.isForeign : ActorInput → Bool
  | .leaseTimer | .command .snapshot | .command (.subscribe _) | .command (.acquireLease ..)
  | .command (.releaseLease _) => true
  | .command (.change _) | .command (.publishEvent _) | .command .shutdown | .disconnected =>
    false

namespace ActorState

variable {state state' : ActorState}

/-- The runs that were ever active. -/
def startedRuns (state : ActorState) : List RunId :=
  state.history.filterMap fun recorded =>
    match recorded.update with
    | .delta _ delta => delta.change.starts
    | .event .. => none

/-- Lifecycle and runs are left alone. -/
structure Untouched (state state' : ActorState) : Prop where
  running : state'.running = state.running
  lifecycle : state'.snapshot.lifecycle = state.snapshot.lifecycle
  activeRun : state'.snapshot.activeRun = state.snapshot.activeRun
  recentRuns : state'.snapshot.recentRuns = state.snapshot.recentRuns
  started : state'.startedRuns = state.startedRuns

theorem Untouched.refl (state : ActorState) : Untouched state state := ⟨rfl, rfl, rfl, rfl, rfl⟩

theorem Untouched.trans {state'' : ActorState} (h : Untouched state state')
    (h' : Untouched state' state'') : Untouched state state'' :=
  ⟨h'.running.trans h.running, h'.lifecycle.trans h.lifecycle, h'.activeRun.trans h.activeRun,
    h'.recentRuns.trans h.recentRuns, h'.started.trans h.started⟩

theorem untouched_setDeadline (state : ActorState) (deadline : Option Instant) :
    Untouched state (state.setDeadline deadline) := ⟨rfl, rfl, rfl, rfl, rfl⟩

/-- A change has been made. -/
structure Changed (state : ActorState) (change : AgentStateChange) (state' : ActorState) :
    Prop where
  running : state'.running = state.running
  lifecycle : state'.snapshot.lifecycle = (OmpRemote.applyChange state.snapshot change).lifecycle
  activeRun : state'.snapshot.activeRun = (OmpRemote.applyChange state.snapshot change).activeRun
  recentRuns : state'.snapshot.recentRuns = (OmpRemote.applyChange state.snapshot change).recentRuns
  started : ∀ runId ∈ state'.startedRuns, runId ∈ state.startedRuns ∨ change.starts = some runId

theorem startedRuns_record (update : AgentUpdate) (snapshot : AgentSnapshot) :
    ({ state with snapshot }.record update).startedRuns = state.startedRuns ++
      (match update with
        | .delta _ delta => delta.change.starts
        | .event .. => none).toList := by
  unfold startedRuns
  rw [record_history, List.filterMap_append, List.filterMap_cons]
  split
  · rename_i hnone
    cases update <;> simp_all
  · rename_i hsome
    cases update <;> simp_all

/-- A change that would change nothing goes well. -/
theorem applyChange_noop {change : AgentStateChange}
    (h : OmpRemote.applyChange state.snapshot change = state.snapshot) :
    state.applyChange change = (.ok none, state) := by
  have hsame : state.snapshot.wouldChange change = false := by
    simp [AgentSnapshot.wouldChange, h]
  unfold applyChange
  rw [hsame]
  rfl

/-- A change goes well, or leaves everything as it was. -/
theorem applyChange_changed (state : ActorState) (change : AgentStateChange) :
    (∃ delta, (state.applyChange change).1 = .ok delta) ∧
        Changed state change (state.applyChange change).2 ∨
      (∃ error, (state.applyChange change).1 = .error error) ∧
        (state.applyChange change).2 = state := by
  rcases applyChange_cases state change with ⟨hsame, hnoop | herror⟩ |
    ⟨seq, delta, snapshot, hdelta, -, hadv, happly⟩
  · rw [applyChange_noop hnoop]
    refine .inl ⟨⟨none, rfl⟩, rfl, ?_, ?_, ?_, fun _ h => .inl h⟩
    · rw [hnoop]
    · rw [hnoop]
    · rw [hnoop]
  · exact .inr ⟨herror, hsame⟩
  · rw [happly]
    have hupdated := hadv.updated
    refine .inl ⟨⟨some delta, rfl⟩, rfl, ?_, ?_, ?_, ?_⟩
    · rw [record_snapshot, hupdated, ← hdelta]
      rfl
    · rw [record_snapshot, hupdated, ← hdelta]
      rfl
    · rw [record_snapshot, hupdated, ← hdelta]
      rfl
    · intro runId hmem
      rw [startedRuns_record, List.mem_append, Option.mem_toList] at hmem
      rcases hmem with hold | hnew
      · exact .inl hold
      · exact .inr (hdelta ▸ hnew)

/-- Changes of the interaction touch neither lifecycle nor runs. -/
theorem Changed.untouched {interaction : InteractionState}
    (h : Changed state (.interactionChanged interaction) state')
    (hstarted : state'.startedRuns = state.startedRuns) : Untouched state state' :=
  ⟨h.running, h.lifecycle, h.activeRun, h.recentRuns, hstarted⟩

theorem untouched_interaction (state : ActorState) (interaction : InteractionState) :
    Untouched state (state.applyChange (.interactionChanged interaction)).2 := by
  have hstarted : (state.applyChange (.interactionChanged interaction)).2.startedRuns =
      state.startedRuns := by
    rcases applyChange_cases state (.interactionChanged interaction) with ⟨hsame, -⟩ |
      ⟨seq, delta, snapshot, hdelta, -, -, happly⟩
    · rw [hsame]
    · rw [happly, startedRuns_record]
      dsimp only
      rw [hdelta]
      exact List.append_nil _
  rcases applyChange_changed state (.interactionChanged interaction) with ⟨-, hchanged⟩ | ⟨-, hsame⟩
  · exact hchanged.untouched hstarted
  · rw [hsame]
    exact .refl state

/-! ## Turns -/

/-- A call that changes the agent goes well, or leaves everything as it was. -/
theorem turn_change (state : ActorState) (change : AgentStateChange) :
    (state.turn (.command (.change change))).1.succeeds = true ∧
        Changed state change (state.turn (.command (.change change))).2 ∨
      (state.turn (.command (.change change))).1.succeeds = false ∧
        (state.turn (.command (.change change))).2 = state := by
  unfold turn
  split
  · exact .inr ⟨rfl, rfl⟩
  rcases applyChange_changed state change with ⟨⟨delta, hok⟩, hchanged⟩ | ⟨⟨error, herror⟩, hsame⟩
  · refine .inl ⟨?_, hchanged⟩
    show ActorReply.succeeds (.changed ((state.applyChange change).1.map fun _ => ())) = true
    rw [hok]
    rfl
  · refine .inr ⟨?_, hsame⟩
    show ActorReply.succeeds (.changed ((state.applyChange change).1.map fun _ => ())) = false
    rw [herror]
    rfl

/-- The actor is there, and neither of its counters has run out. -/
def hasRoom (state : ActorState) : Bool :=
  state.running && state.snapshot.revision.toNat < 2 ^ 64 - 1 &&
    state.snapshot.eventSequence.toNat < 2 ^ 64 - 1

/-- A change is refused by an actor that has ended, or has no room for what it changes. -/
theorem turn_change_refused {change : AgentStateChange}
    (h : (state.turn (.command (.change change))).1.succeeds = false) :
    state.hasRoom = false ∧
      (state.running = false ∨ state.snapshot.wouldChange change = true) := by
  cases hrunning : state.running with
  | false => exact ⟨by simp [hasRoom, hrunning], .inl rfl⟩
  | true =>
    unfold turn at h
    rw [if_neg (by simp [hrunning])] at h
    dsimp only [command] at h
    unfold applyChange at h
    cases hwould : state.snapshot.wouldChange change with
    | false =>
      rw [hwould] at h
      cases h
    | true =>
      refine ⟨?_, .inr rfl⟩
      cases hroom : state.hasRoom with
      | false => rfl
      | true =>
        exfalso
        simp only [hasRoom, Bool.and_eq_true, decide_eq_true_eq] at hroom
        obtain ⟨⟨-, hrevision⟩, hsequence⟩ := hroom
        split at h
        · cases h
        split at h
        · rename_i hnone
          have hmax := checkedAdd_one_eq_none.mp hnone
          omega
        split at h
        · rename_i error herror
          unfold nextEventSequence at herror
          split at herror
          · cases herror
          · rename_i hnone
            have hmax := checkedAdd_one_eq_none.mp hnone
            omega
        dsimp only at h
        split at h
        · rename_i revision hrev _ seq hseq _ error happly
          -- the delta always applies
          have hnext := nextEventSequence_ok.mp hseq
          rw [AgentSnapshot.applyDelta_ok.mpr ⟨⟨rfl, UInt64.lt_iff_toNat_lt.mpr (by omega), rfl,
            (saturatingAdd_of_checkedAdd hrev).symm⟩, rfl⟩] at happly
          cases happly
        · cases h

/-- With room a change goes well. -/
theorem turn_change_ok (h : state.hasRoom = true) (change : AgentStateChange) :
    Changed state change (state.turn (.command (.change change))).2 := by
  rcases turn_change state change with ⟨-, hchanged⟩ | ⟨hfails, -⟩
  · exact hchanged
  · rw [(turn_change_refused hfails).1] at h
    cases h

/-- Without room a change does nothing. -/
theorem turn_change_no_room (h : state.hasRoom = false) (change : AgentStateChange) :
    (state.turn (.command (.change change))).2 = state := by
  unfold turn
  split
  · rfl
  rename_i hrunning
  show (state.applyChange change).2 = state
  unfold applyChange
  split
  · rfl
  split
  · rfl
  rename_i revision hrevision
  cases hsequence : state.nextEventSequence with
  | error error => rfl
  | ok sequence =>
    exfalso
    have hrev := checkedAdd_one_eq_some.mp hrevision
    have hseq := nextEventSequence_ok.mp hsequence
    have := revision.toNat_lt
    have := sequence.toNat_lt
    have hroom : state.hasRoom = true := by
      simp only [hasRoom, Bool.and_eq_true, decide_eq_true_eq]
      exact ⟨⟨by simpa using hrunning, by omega⟩, by omega⟩
    rw [hroom] at h
    cases h

theorem turn_publishEvent (state : ActorState) (event : ServerMessage) :
    Untouched state (state.turn (.command (.publishEvent event))).2 := by
  unfold turn
  split
  · exact .refl state
  show Untouched state (state.publishEvent event).2
  rcases publishEvent_cases state event with ⟨hsame, -⟩ | ⟨seq, snapshot, hadv, hpublish⟩
  · rw [hsame]
    exact .refl state
  · rw [hpublish]
    have hupdated := hadv.updated
    refine ⟨rfl, ?_, ?_, ?_, ?_⟩
    · rw [record_snapshot, hupdated]
      rfl
    · rw [record_snapshot, hupdated]
      rfl
    · rw [record_snapshot, hupdated]
      rfl
    · rw [startedRuns_record]
      exact List.append_nil _

/-- Looking at the snapshot changes nothing. -/
theorem turn_snapshot (state : ActorState) : (state.turn (.command .snapshot)).2 = state := by
  unfold turn
  split <;> rfl

/-- Ending the task leaves the last snapshot. -/
theorem turn_shutdown (state : ActorState) :
    (state.turn (.command .shutdown)).2.snapshot = state.snapshot ∧
      (state.turn (.command .shutdown)).2.startedRuns = state.startedRuns := by
  unfold turn
  split
  · exact ⟨rfl, rfl⟩
  · exact ⟨rfl, rfl⟩

/-- A turn that publishes an event goes well, or leaves everything as it was. -/
theorem turn_publishEvent_fails {event : ServerMessage}
    (h : (state.turn (.command (.publishEvent event))).1.succeeds = false) :
    (state.turn (.command (.publishEvent event))).2 = state := by
  unfold turn at h ⊢
  split
  · rfl
  rename_i hrunning
  rw [if_neg hrunning] at h
  rcases publishEvent_cases state event with ⟨hsame, -⟩ | ⟨seq, snapshot, -, hpublish⟩
  · exact hsame
  · exfalso
    have hsucceeds : ActorReply.succeeds (.published (state.publishEvent event).1) = false := h
    rw [hpublish] at hsucceeds
    cases hsucceeds

/-- With room it goes well. -/
theorem turn_publishEvent_ok (h : state.hasRoom = true) (event : ServerMessage) :
    ∃ sequence, (state.turn (.command (.publishEvent event))).1 = .published (.ok sequence) := by
  simp only [hasRoom, Bool.and_eq_true, decide_eq_true_eq] at h
  obtain ⟨⟨hrunning, -⟩, hsequence⟩ := h
  unfold turn
  rw [if_neg (by simp [hrunning])]
  show ∃ sequence, ActorReply.published (state.publishEvent event).1 = .published (.ok sequence)
  unfold publishEvent
  split
  · rename_i error herror
    unfold nextEventSequence at herror
    split at herror
    · cases herror
    · rename_i hnone
      have hmax := checkedAdd_one_eq_none.mp hnone
      omega
  · exact ⟨_, rfl⟩

/-- An actor that has ended answers nothing. -/
theorem turn_stopped (h : state.running = false) (input : ActorInput) :
    state.turn input = (.stopped, state) := by
  unfold turn
  rw [if_pos (by simp [h])]

/-- Ending the task fails only if it has ended. -/
theorem turn_shutdown_fails (h : (state.turn (.command .shutdown)).1.succeeds = false) :
    (state.turn (.command .shutdown)).2 = state := by
  unfold turn at h ⊢
  split
  · rfl
  · rename_i hrunning
    rw [if_neg hrunning] at h
    cases h

theorem untouched_acquireLease (state : ActorState) (holder : LeaseHolderId) (nowMs : UInt64)
    (ttlMs : { ttl : UInt64 // ttl ≠ 0 }) (deadline : Option Instant) :
    Untouched state (state.acquireLease holder nowMs ttlMs deadline).2 := by
  unfold acquireLease
  split
  · exact .refl state
  split
  · exact .refl state
  split
  · exact .refl state
  rename_i expiresAtMs _ _ deadline
  have htouched := untouched_interaction state (.leased ⟨holder, expiresAtMs⟩)
  rcases hresult : state.applyChange (.interactionChanged (.leased ⟨holder, expiresAtMs⟩)) with
    ⟨_ | _, after⟩
  · rw [hresult] at htouched
    simpa [hresult] using htouched
  · rw [hresult] at htouched
    simpa [hresult] using htouched.trans (untouched_setDeadline after (some deadline))

theorem untouched_releaseLease (state : ActorState) (holder : LeaseHolderId) :
    Untouched state (state.releaseLease holder).2 := by
  unfold releaseLease
  split
  · exact .refl state
  split
  · exact .refl state
  have htouched := (untouched_setDeadline state none).trans
    (untouched_interaction (state.setDeadline none) .unclaimed)
  rcases hresult : (state.setDeadline none).applyChange (.interactionChanged .unclaimed) with
    ⟨_ | _, after⟩
  · rw [hresult] at htouched
    simpa [hresult] using htouched
  · rw [hresult] at htouched
    simpa [hresult] using htouched

/-- Turns for connections and the lease timer touch neither lifecycle nor runs. -/
theorem turn_foreign {input : ActorInput} (h : input.isForeign = true) :
    Untouched state (state.turn input).2 := by
  unfold turn
  split
  · exact .refl state
  cases input with
  | leaseTimer =>
    dsimp only
    split
    · exact .refl state
    · exact (untouched_setDeadline state none).trans (untouched_interaction _ .unclaimed)
  | disconnected => cases h
  | command command =>
    cases command with
    | snapshot => exact .refl state
    | subscribe cursor => exact ⟨rfl, rfl, rfl, rfl, rfl⟩
    | acquireLease holder nowMs ttlMs deadline =>
      exact untouched_acquireLease state holder nowMs ttlMs deadline
    | releaseLease holder => exact untouched_releaseLease state holder
    | change | publishEvent | shutdown => cases h

end ActorState

end ControlPlane

end OmpRemote

import OmpRemote.ControlPlane.History

/-!
# Replays

What `subscription_start` answers to a cursor, and what its replay does to a
snapshot with that cursor.

- `replay_applies`: a replay applies to every snapshot with the cursor's
  counters and ends at the actor's counters, whatever the snapshot contains.
- `replay_of_passed`: offered to a snapshot the actor really had, the replay is
  what the actor recorded since.
-/

namespace OmpRemote.ControlPlane

open Lib Rpc

/-- Apply updates in order; the snapshots after each of them. -/
def applyEach : AgentSnapshot → List AgentUpdate → Except DeltaApplyError (List AgentSnapshot)
  | _, [] => .ok []
  | snapshot, update :: updates => do
    let next ← snapshot.applyUpdate update
    let rest ← applyEach next updates
    .ok (next :: rest)

/-- The cursor of a snapshot. -/
def cursorOf (snapshot : AgentSnapshot) : SubscriptionCursor :=
  ⟨snapshot.agentId, snapshot.revision, snapshot.eventSequence⟩

/-- A delta leads to the revision after its base. -/
def Consecutive : AgentUpdate → Prop
  | .delta _ delta => delta.revision = saturatingAdd delta.baseRevision 1
  | .event _ _ _ => True

theorem applyEach_cons_ok {s : AgentSnapshot} {update : AgentUpdate} {updates : List AgentUpdate}
    {results : List AgentSnapshot} (haccepts : s.Accepts update)
    (hrest : applyEach (s.updated update) updates = .ok results) :
    applyEach s (update :: updates) = .ok (s.updated update :: results) := by
  have happly : s.applyUpdate update = .ok (s.updated update) :=
    AgentSnapshot.applyUpdate_ok.mpr ⟨haccepts, rfl⟩
  rw [applyEach, bind_eq_ok]
  refine ⟨s.updated update, happly, ?_⟩
  rw [bind_eq_ok]
  exact ⟨results, hrest, rfl⟩

theorem Exec.applyEach {s t : AgentSnapshot} {log : List Recorded}
    (h : snapshots.Exec s log t) :
    applyEach s (log.map (·.update)) = .ok (log.map (·.after)) := by
  induction h with
  | nil s => rfl
  | @cons s m t r log hadv _ ih =>
    have hm : m = s.updated r.update := hadv.updated
    have hafter : r.after = m := hadv.after
    rw [List.map_cons, List.map_cons, hafter, hm]
    exact applyEach_cons_ok hadv.accepts (hm ▸ ih)

theorem Exec.consecutive {s t : AgentSnapshot} {log : List Recorded}
    (h : snapshots.Exec s log t) : ∀ r ∈ log, Consecutive r.update := by
  induction h with
  | nil s => exact fun r hr => absurd hr List.not_mem_nil
  | @cons s m t r log hadv _ ih =>
    have haccepts : s.Accepts r.update := hadv.accepts
    rintro r' hr'
    rcases List.mem_cons.mp hr' with rfl | hr'
    · cases hupdate : r'.update with
      | event _ _ _ => trivial
      | delta seq delta =>
        rw [hupdate] at haccepts
        exact haccepts.2.2.2
    · exact ih r' hr'

/-! ## The walk of `replay_reaches_snapshot` -/

section Walk

variable {cursor : SubscriptionCursor} {snapshot s : AgentSnapshot} {expected : UInt64}
  {revision : StateRevision} {update : AgentUpdate} {updates : List AgentUpdate}

/-- The revision an update leaves behind. -/
def revisionAfter (revision : StateRevision) : AgentUpdate → StateRevision
  | .delta _ delta => delta.revision
  | .event _ _ _ => revision

/-- One step of the walk: the update is the expected one, for the agent of the
cursor, from the revision reached. -/
theorem walk_cons :
    replayReachesSnapshotLoop cursor snapshot expected revision (update :: updates) = true ↔
      update.eventSequence = expected ∧ update.agentId = cursor.agentId ∧
      (∀ seq delta, update = .delta seq delta → delta.baseRevision = revision) ∧
      ∃ next, checkedAdd expected 1 = some next ∧
        replayReachesSnapshotLoop cursor snapshot next (revisionAfter revision update) updates =
          true := by
  cases update with
  | delta seq delta =>
    rw [replayReachesSnapshotLoop]
    by_cases hseq : seq = expected
    · by_cases hagent : delta.agentId = cursor.agentId
      · by_cases hbase : delta.baseRevision = revision
        · cases hnext : checkedAdd expected 1 <;>
            simp [AgentUpdate.agentId, AgentUpdate.eventSequence, revisionAfter, *]
        · simp [AgentUpdate.agentId, AgentUpdate.eventSequence, *]
      · simp [AgentUpdate.agentId, AgentUpdate.eventSequence, *]
    · simp [AgentUpdate.eventSequence, *]
  | event agentId seq event =>
    rw [replayReachesSnapshotLoop]
    by_cases hseq : seq = expected
    · by_cases hagent : agentId = cursor.agentId
      · cases hnext : checkedAdd expected 1 <;>
          simp [AgentUpdate.agentId, AgentUpdate.eventSequence, revisionAfter, *]
      · simp [AgentUpdate.agentId, AgentUpdate.eventSequence, *]
    · simp [AgentUpdate.eventSequence, *]

theorem walk_nil :
    replayReachesSnapshotLoop cursor snapshot expected revision [] = true ↔
      revision = snapshot.revision ∧ expected.toNat = snapshot.eventSequence.toNat + 1 := by
  rw [replayReachesSnapshotLoop, decide_eq_true_iff, checkedSub_one_eq_some]

/-- The walk counts: it ends at the sequence of the snapshot. -/
theorem walk_length
    (h : replayReachesSnapshotLoop cursor snapshot expected revision updates = true) :
    expected.toNat + updates.length = snapshot.eventSequence.toNat + 1 := by
  induction updates generalizing expected revision with
  | nil =>
    rw [List.length_nil, Nat.add_zero]
    exact (walk_nil.mp h).2
  | cons update updates ih =>
    obtain ⟨-, -, -, next, hnext, hrest⟩ := walk_cons.mp h
    have := checkedAdd_one_eq_some.mp hnext
    have := ih hrest
    rw [List.length_cons]
    omega

/-- **Updates that pass the walk apply**, to any snapshot that stands where the
walk starts, and lead to where it ends. -/
theorem walk_applies (hconsecutive : ∀ update ∈ updates, Consecutive update)
    (h : replayReachesSnapshotLoop cursor snapshot expected revision updates = true)
    (hagent : s.agentId = cursor.agentId) (hrevision : s.revision = revision)
    (hexpected : expected.toNat = s.eventSequence.toNat + 1) :
    ∃ results, applyEach s updates = .ok results ∧
      (results.getLastD s).revision = snapshot.revision ∧
      (results.getLastD s).eventSequence = snapshot.eventSequence := by
  induction updates generalizing s expected revision with
  | nil =>
    obtain ⟨hrev, hseq⟩ := walk_nil.mp h
    refine ⟨[], rfl, hrevision.trans hrev, ?_⟩
    rw [← UInt64.toNat_inj]
    show s.eventSequence.toNat = _
    omega
  | cons update updates ih =>
    obtain ⟨hseq, hupdate, hbase, next, hnext, hrest⟩ := walk_cons.mp h
    have hnewer : s.eventSequence < update.eventSequence := by
      rw [UInt64.lt_iff_toNat_lt, hseq]
      omega
    have haccepts : s.Accepts update := by
      cases update with
      | event agentId seq event => exact ⟨hupdate.trans hagent.symm, hnewer⟩
      | delta seq delta =>
        exact ⟨hupdate.trans hagent.symm, hnewer, (hbase seq delta rfl).trans hrevision.symm,
          hconsecutive _ List.mem_cons_self⟩
    have hrevision' : (s.updated update).revision = revisionAfter revision update := by
      cases update with
      | event agentId seq event => exact hrevision
      | delta seq delta => rfl
    have hnext' : next.toNat = (s.updated update).eventSequence.toNat + 1 := by
      rw [AgentSnapshot.updated_eventSequence, hseq]
      exact checkedAdd_one_eq_some.mp hnext
    obtain ⟨results, hresults, hrev, hseq'⟩ :=
      ih (fun u hu => hconsecutive u (List.mem_cons_of_mem _ hu)) hrest
        (AgentSnapshot.updated_agentId.trans hagent) hrevision' hnext'
    refine ⟨s.updated update :: results, applyEach_cons_ok haccepts hresults, ?_, ?_⟩
    · rw [List.getLastD_cons]
      exact hrev
    · rw [List.getLastD_cons]
      exact hseq'

end Walk

/-! ## Subscription starts -/

section Start

variable {initial s : AgentSnapshot} {state : ActorState} {cursor : SubscriptionCursor}
  {updates : List AgentUpdate}

/-- A cursor is answered by the current snapshot or by a replay. -/
theorem subscriptionStart_cases (state : ActorState) (cursor : SubscriptionCursor) :
    state.subscriptionStart cursor = .resyncRequired state.snapshot ∨
      ∃ updates, state.subscriptionStart cursor = .replay updates := by
  unfold ActorState.subscriptionStart
  split
  · exact .inl rfl
  split
  · exact .inr ⟨_, rfl⟩
  dsimp only
  split
  · exact .inr ⟨_, rfl⟩
  · exact .inl rfl

/-- When a cursor is answered by a replay, and by which. -/
theorem subscriptionStart_replay :
    state.subscriptionStart cursor = .replay updates ↔
      (cursor.agentId = state.snapshot.agentId ∧ cursor.revision ≤ state.snapshot.revision ∧
        cursor.eventSequence ≤ state.snapshot.eventSequence) ∧
      if cursor.revision = state.snapshot.revision ∧
          cursor.eventSequence = state.snapshot.eventSequence then updates = []
      else
        updates = (state.replay.filter fun update =>
          update.eventSequence > cursor.eventSequence) ∧
        replayReachesSnapshot cursor updates state.snapshot = true := by
  unfold ActorState.subscriptionStart
  by_cases hbound : cursor.agentId = state.snapshot.agentId ∧
      cursor.revision ≤ state.snapshot.revision ∧
      cursor.eventSequence ≤ state.snapshot.eventSequence
  · have hguard : ¬ (cursor.agentId ≠ state.snapshot.agentId ||
        cursor.revision > state.snapshot.revision ||
        cursor.eventSequence > state.snapshot.eventSequence) = true := by
      simpa [and_assoc] using hbound
    rw [if_neg hguard]
    by_cases hequal : cursor.revision = state.snapshot.revision ∧
        cursor.eventSequence = state.snapshot.eventSequence
    · rw [if_pos hequal, if_pos (by simpa using hequal)]
      simp [hbound, eq_comm]
    · rw [if_neg hequal, if_neg (by simpa using hequal)]
      dsimp only
      split
      · rename_i hreaches
        rw [SubscriptionStart.replay.injEq]
        constructor
        · rintro rfl
          exact ⟨hbound, rfl, hreaches⟩
        · rintro ⟨-, rfl, -⟩
          rfl
      · rename_i hreaches
        constructor
        · intro h
          cases h
        · rintro ⟨-, rfl, h⟩
          exact absurd h hreaches
  · have hguard : (cursor.agentId ≠ state.snapshot.agentId ||
        cursor.revision > state.snapshot.revision ||
        cursor.eventSequence > state.snapshot.eventSequence) = true := by
      by_contra hno
      exact hbound (by simpa [and_assoc] using hno)
    rw [if_pos hguard]
    simp [hbound]

/-- The retained updates are recorded ones. -/
theorem mem_replay (h : Invariant initial state) {update : AgentUpdate}
    (hu : update ∈ state.replay) : update ∈ state.recorded := by
  rw [h.replay] at hu
  exact List.mem_of_mem_drop hu

/-- **Any cursor**: a replay applies to every snapshot of the agent with the
cursor's counters, and leads to the actor's. -/
theorem replay_applies (h : Invariant initial state)
    (hstart : state.subscriptionStart cursor = .replay updates)
    (hagent : s.agentId = cursor.agentId) (hrevision : s.revision = cursor.revision)
    (hseq : s.eventSequence = cursor.eventSequence) :
    ∃ results, applyEach s updates = .ok results ∧
      (results.getLastD s).revision = state.snapshot.revision ∧
      (results.getLastD s).eventSequence = state.snapshot.eventSequence := by
  obtain ⟨-, hcases⟩ := subscriptionStart_replay.mp hstart
  split at hcases
  · rename_i hequal
    subst hcases
    exact ⟨[], rfl, hrevision.trans hequal.1, hseq.trans hequal.2⟩
  · obtain ⟨rfl, hreaches⟩ := hcases
    unfold replayReachesSnapshot at hreaches
    split at hreaches
    · cases hreaches
    · rename_i expected hexpected
      refine walk_applies (fun update hu => ?_) hreaches hagent hrevision ?_
      · obtain ⟨r, hr, rfl⟩ :=
          List.mem_map.mp (mem_replay h (List.mem_filter.mp hu).1)
        exact Exec.consecutive h.exec r hr
      · rw [hseq]
        exact checkedAdd_one_eq_some.mp hexpected

/-- Keeping the updates newer than a snapshot the actor had is dropping those it
recorded up to there. -/
theorem filter_recorded (h : Invariant initial state) (hs : s ∈ state.passed initial) :
    (state.recorded.filter fun update => update.eventSequence > s.eventSequence) =
      state.recorded.drop (s.eventSequence.toNat - initial.eventSequence.toNat) := by
  have hle : initial.eventSequence.toNat ≤ s.eventSequence.toNat :=
    (h.passed_of_mem hs).exec_take.1
  have hfilter := Sequenced.filter_number_eq_drop h.exec hle
  rw [ActorState.recorded, List.filter_map, ← List.map_drop]
  have hpred : ((fun update : AgentUpdate => decide (update.eventSequence > s.eventSequence)) ∘
      fun r : Recorded => r.update) =
        fun r => decide (s.eventSequence.toNat < snapshots.number r) := by
    funext r
    exact decide_eq_decide.mpr UInt64.lt_iff_toNat_lt
  rw [hpred]
  exact congrArg (List.map fun r : Recorded => r.update) hfilter

/-- **The actor's own cursors**: the replay is what was recorded since. -/
theorem replay_of_passed (h : Invariant initial state) (hs : s ∈ state.passed initial)
    (hstart : state.subscriptionStart (cursorOf s) = .replay updates) :
    updates = state.recorded.drop (s.eventSequence.toNat - initial.eventSequence.toNat) := by
  have hpassed := h.passed_of_mem hs
  have hlength : s.eventSequence.toNat + (state.recorded.drop
      (s.eventSequence.toNat - initial.eventSequence.toNat)).length =
      state.snapshot.eventSequence.toNat := by
    have hpos : state.snapshot.eventSequence.toNat = s.eventSequence.toNat + _ :=
      (hpassed.suffix h.exec).pos_eq
    rw [hpos, ActorState.recorded, ← List.map_drop, List.length_map]
    rfl
  obtain ⟨-, hcases⟩ := subscriptionStart_replay.mp hstart
  split at hcases
  · rename_i hequal
    subst hcases
    refine (List.eq_nil_of_length_eq_zero ?_).symm
    have : s.eventSequence.toNat = state.snapshot.eventSequence.toNat :=
      congrArg UInt64.toNat hequal.2
    omega
  · obtain ⟨rfl, hreaches⟩ := hcases
    unfold replayReachesSnapshot at hreaches
    split at hreaches
    · cases hreaches
    · rename_i expected hexpected
      have hsuffix : (state.replay.filter fun update =>
          update.eventSequence > (cursorOf s).eventSequence) <:+
          state.recorded.drop (s.eventSequence.toNat - initial.eventSequence.toNat) := by
        rw [← filter_recorded h hs, h.replay]
        exact (List.drop_suffix _ _).filter _
      refine hsuffix.eq_of_length ?_
      have hwalk := walk_length hreaches
      have hnext : expected.toNat = s.eventSequence.toNat + 1 :=
        checkedAdd_one_eq_some.mp hexpected
      omega

end Start

end OmpRemote.ControlPlane

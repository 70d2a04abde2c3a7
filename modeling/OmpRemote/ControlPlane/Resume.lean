import OmpRemote.ControlPlane.Replay
import OmpRemote.Protocol.Convergence

/-!
# Resuming with a foreign cursor

A cursor has no more than two counters, so an actor answers a cursor from
elsewhere as if it were its own. This module says exactly which cursors are
answered by a replay, and exactly when the replay repairs the snapshot that the
subscriber holds.

- `Retained`: the actor still has everything it recorded after a snapshot.
- `replay_iff`: a replay is the answer iff the cursor is that of a snapshot the
  actor had and retains; it is then what was recorded since.
- `resume_iff`: the replay leads a held snapshot to the actor's iff every
  difference to the snapshot with that cursor has been overwritten since.
-/

namespace OmpRemote.ControlPlane

open Lib Rpc

variable {initial held p : AgentSnapshot} {state : ActorState} {cursor : SubscriptionCursor}
  {updates : List AgentUpdate}

/-- What the actor recorded after the snapshot. -/
def recordedSince (initial : AgentSnapshot) (state : ActorState) (p : AgentSnapshot) :
    List AgentUpdate :=
  state.recorded.drop (p.eventSequence.toNat - initial.eventSequence.toNat)

/-- A replay from the snapshot is possible: it is the current one, or the replay
buffer reaches back to it and the walk over it does not run out of sequences. -/
def Retained (state : ActorState) (p : AgentSnapshot) : Prop :=
  p.eventSequence = state.snapshot.eventSequence ∨
    state.snapshot.eventSequence.toNat ≤ p.eventSequence.toNat + state.replayCapacity ∧
      state.snapshot.eventSequence.toNat + 1 < 2 ^ 64

theorem exec_since (h : Invariant initial state) (hp : p ∈ state.passed initial) :
    snapshots.Exec p
      (state.history.drop (p.eventSequence.toNat - initial.eventSequence.toNat)) state.snapshot :=
  (h.passed_of_mem hp).suffix h.exec

theorem recordedSince_eq (initial : AgentSnapshot) (state : ActorState) (p : AgentSnapshot) :
    recordedSince initial state p =
      (state.history.drop (p.eventSequence.toNat - initial.eventSequence.toNat)).map
        (·.update) := by
  rw [recordedSince, ActorState.recorded, List.map_drop]

/-- The number of updates recorded since a snapshot is read off the sequences. -/
theorem length_recordedSince (h : Invariant initial state) (hp : p ∈ state.passed initial) :
    p.eventSequence.toNat + (recordedSince initial state p).length =
      state.snapshot.eventSequence.toNat := by
  have hpos : state.snapshot.eventSequence.toNat = p.eventSequence.toNat + _ :=
    (exec_since h hp).pos_eq
  rw [hpos, recordedSince_eq, List.length_map]

/-! ## The walk over an actor's own updates -/

/-- An actor's own updates pass the walk, if the sequences suffice. -/
theorem walk_of_exec {s t : AgentSnapshot} {log : List Recorded} (h : snapshots.Exec s log t)
    (hagent : s.agentId = cursor.agentId) (hroom : t.eventSequence.toNat + 1 < 2 ^ 64)
    {expected : UInt64} (hexpected : expected.toNat = s.eventSequence.toNat + 1) :
    replayReachesSnapshotLoop cursor t expected s.revision (log.map (·.update)) = true := by
  induction h generalizing expected with
  | nil s => exact walk_nil.mpr ⟨rfl, hexpected⟩
  | @cons s m t r log hadv hrest ih =>
    have hseq : r.update.eventSequence.toNat = s.eventSequence.toNat + 1 := hadv.next
    have hm : m.eventSequence.toNat = s.eventSequence.toNat + 1 := hadv.eventSequence
    have hlast : m.eventSequence.toNat ≤ t.eventSequence.toNat := by
      have hpos : t.eventSequence.toNat = m.eventSequence.toNat + _ := hrest.pos_eq
      omega
    obtain ⟨next, hnext⟩ : ∃ next, checkedAdd expected 1 = some next := by
      refine Option.ne_none_iff_exists'.mp fun hnone => ?_
      have := checkedAdd_one_eq_none.mp hnone
      omega
    have hrevision : m.revision = revisionAfter s.revision r.update := by
      rw [hadv.updated]
      cases r.update <;> rfl
    rw [List.map_cons, walk_cons]
    refine ⟨?_, hadv.accepts.agentId.trans hagent, ?_, next, hnext, ?_⟩
    · rw [← UInt64.toNat_inj]
      omega
    · intro seq delta hdelta
      have haccepts := hadv.accepts
      rw [hdelta] at haccepts
      exact haccepts.2.2.1
    · rw [← hrevision]
      refine ih (hadv.agentId.trans hagent) hroom ?_
      have := checkedAdd_one_eq_some.mp hnext
      omega

/-- A walk over an actor's own updates starts at the revision the actor had. -/
theorem walk_revision {s t : AgentSnapshot} {log : List Recorded} (h : snapshots.Exec s log t)
    {expected : UInt64} {revision : StateRevision}
    (hwalk : replayReachesSnapshotLoop cursor t expected revision (log.map (·.update)) = true) :
    revision = s.revision := by
  induction h generalizing expected revision with
  | nil s => exact (walk_nil.mp hwalk).1
  | @cons s m t r log hadv _ ih =>
    rw [List.map_cons] at hwalk
    obtain ⟨-, -, hbase, next, -, hrest⟩ := walk_cons.mp hwalk
    have haccepts : s.Accepts r.update := hadv.accepts
    have hm : m = s.updated r.update := hadv.updated
    cases hupdate : r.update with
    | delta seq delta =>
      rw [hupdate] at haccepts
      rw [← hbase seq delta hupdate]
      exact haccepts.2.2.1
    | event agentId seq event =>
      rw [hupdate] at hrest hm
      have hrevision : revision = m.revision := ih hrest
      rw [hrevision, hm]
      rfl

/-- A walk that succeeds ends before the last sequence. -/
theorem walk_room {expected : UInt64} {revision : StateRevision} {snapshot : AgentSnapshot}
    (h : replayReachesSnapshotLoop cursor snapshot expected revision updates = true) :
    snapshot.eventSequence.toNat + 1 < 2 ^ 64 := by
  induction updates generalizing expected revision with
  | nil =>
    have hlast := (walk_nil.mp h).2
    have := expected.toNat_lt
    omega
  | cons update updates ih =>
    obtain ⟨-, -, -, next, -, hrest⟩ := walk_cons.mp h
    exact ih hrest

/-! ## Which cursors are replayed -/

/-- The retained updates that are newer than a retained snapshot are all those
recorded since. -/
theorem filter_replay (h : Invariant initial state) (hp : p ∈ state.passed initial)
    (hretained : state.snapshot.eventSequence.toNat ≤
      p.eventSequence.toNat + state.replayCapacity) :
    (state.replay.filter fun update => update.eventSequence > p.eventSequence) =
      recordedSince initial state p := by
  have hle : initial.eventSequence.toNat ≤ p.eventSequence.toNat :=
    (h.passed_of_mem hp).exec_take.1
  have hlast : state.snapshot.eventSequence.toNat =
      initial.eventSequence.toNat + state.history.length := h.exec.pos_eq
  generalize hcut : state.history.length - state.replayCapacity = cut
  have hsplit := h.exec
  rw [← List.take_append_drop cut state.history] at hsplit
  obtain ⟨m, hpre, hrest⟩ := hsplit.split
  have hm : m.eventSequence.toNat = initial.eventSequence.toNat + _ := hpre.pos_eq
  rw [List.length_take] at hm
  have hdrop := Sequenced.filter_number_eq_drop hrest (n := p.eventSequence.toNat) (by
    show m.eventSequence.toNat ≤ _
    omega)
  have hpred : ((fun update : AgentUpdate => decide (update.eventSequence > p.eventSequence)) ∘
      fun r : Recorded => r.update) =
        fun r => decide (p.eventSequence.toNat < snapshots.number r) := by
    funext r
    exact decide_eq_decide.mpr UInt64.lt_iff_toNat_lt
  rw [h.replay, hcut, ActorState.recorded, ← List.map_drop, List.filter_map, hpred, hdrop,
    List.drop_drop, recordedSince_eq]
  congr 2
  show cut + (p.eventSequence.toNat - m.eventSequence.toNat) = _
  omega

theorem Exec.revision_le {s t : AgentSnapshot} {log : List Recorded}
    (h : snapshots.Exec s log t) : s.revision ≤ t.revision := by
  induction h with
  | nil s => exact UInt64.le_refl _
  | @cons s m t r log hadv _ ih =>
    have hm : m = s.updated r.update := hadv.updated
    have haccepts : s.Accepts r.update := hadv.accepts
    refine UInt64.le_trans ?_ ih
    rw [hm]
    cases hupdate : r.update with
    | event agentId seq event => exact UInt64.le_refl _
    | delta seq delta =>
      rw [hupdate] at haccepts
      show s.revision ≤ delta.revision
      rw [haccepts.2.2.2, haccepts.2.2.1]
      exact le_saturatingAdd_one s.revision

/-- The snapshot a walk over retained updates starts from. -/
theorem exists_of_walk (h : Invariant initial state) {expected : UInt64}
    (hexpected : expected.toNat = cursor.eventSequence.toNat + 1)
    (hne : state.replay.filter (fun update => update.eventSequence > cursor.eventSequence) ≠ [])
    (hwalk : replayReachesSnapshotLoop cursor state.snapshot expected cursor.revision
      (state.replay.filter fun update => update.eventSequence > cursor.eventSequence) = true) :
    ∃ p ∈ state.passed initial, p.eventSequence = cursor.eventSequence ∧
      p.revision = cursor.revision ∧
      (state.replay.filter fun update => update.eventSequence > cursor.eventSequence) =
        recordedSince initial state p := by
  have hlength := walk_length hwalk
  -- the first update bounds the cursor from below
  obtain ⟨update, rest, hfilter⟩ := List.exists_cons_of_ne_nil hne
  have hfirst : update.eventSequence = expected := by
    rw [hfilter] at hwalk
    exact (walk_cons.mp hwalk).1
  obtain ⟨r, hr, rfl⟩ : ∃ r ∈ state.history, r.update = update := by
    have hmem : update ∈ state.replay.filter fun update =>
        update.eventSequence > cursor.eventSequence := by
      rw [hfilter]
      exact List.mem_cons_self
    exact List.mem_map.mp (mem_replay h (List.mem_filter.mp hmem).1)
  have hnumber : initial.eventSequence.toNat < r.update.eventSequence.toNat :=
    (Sequenced.Exec.number_mem h.exec hr).1
  rw [hfirst] at hnumber
  obtain ⟨p, hp, hpos⟩ := Sequenced.Passed.exists_at h.exec
    (n := cursor.eventSequence.toNat) (by
      show initial.eventSequence.toNat ≤ _
      omega) (by
      show _ ≤ state.snapshot.eventSequence.toNat
      omega)
  have hseq : p.eventSequence = cursor.eventSequence := UInt64.toNat_inj.mp hpos
  have hp := Invariant.mem_of_passed hp
  have hsame : (state.replay.filter fun update => update.eventSequence > cursor.eventSequence) =
      recordedSince initial state p := by
    have hsuffix : (state.replay.filter fun update =>
        update.eventSequence > cursor.eventSequence) <:+ recordedSince initial state p := by
      rw [recordedSince, ← filter_recorded h hp, h.replay, hseq]
      exact (List.drop_suffix _ _).filter _
    refine hsuffix.eq_of_length ?_
    have := length_recordedSince h hp
    rw [hseq] at this
    omega
  refine ⟨p, hp, hseq, ?_, hsame⟩
  rw [hsame, recordedSince_eq] at hwalk
  exact (walk_revision (exec_since h hp) hwalk).symm

/-- **Which cursors are replayed**: those of the snapshots the actor had and
retains, with what was recorded since. -/
theorem replay_iff (h : Invariant initial state) (hagent : cursor.agentId = initial.agentId) :
    state.subscriptionStart cursor = .replay updates ↔
      ∃ p ∈ state.passed initial, cursor = cursorOf p ∧ Retained state p ∧
        updates = recordedSince initial state p := by
  constructor
  · intro hstart
    obtain ⟨-, hcases⟩ := subscriptionStart_replay.mp hstart
    split at hcases
    · -- the cursor is the current one
      rename_i hcurrent
      subst hcases
      refine ⟨state.snapshot, h.snapshot_mem, ?_, .inl rfl, ?_⟩
      · obtain ⟨agentId, revision, eventSequence⟩ := cursor
        obtain ⟨rfl, rfl⟩ := hcurrent
        obtain rfl : agentId = state.snapshot.agentId := hagent.trans h.agentId.symm
        rfl
      · have := length_recordedSince h h.snapshot_mem
        exact (List.eq_nil_of_length_eq_zero (by omega)).symm
    · rename_i hcurrent
      obtain ⟨rfl, hreaches⟩ := hcases
      unfold replayReachesSnapshot at hreaches
      split at hreaches
      · cases hreaches
      rename_i expected hexpected
      have hexpected := checkedAdd_one_eq_some.mp hexpected
      have hne : state.replay.filter
          (fun update => update.eventSequence > cursor.eventSequence) ≠ [] := by
        intro hnil
        rw [hnil, walk_nil] at hreaches
        refine hcurrent ⟨hreaches.1, ?_⟩
        rw [← UInt64.toNat_inj]
        omega
      obtain ⟨p, hp, hseq, hrevision, hsame⟩ := exists_of_walk h hexpected hne hreaches
      refine ⟨p, hp, ?_, .inr ⟨?_, walk_room hreaches⟩, hsame⟩
      · rw [cursorOf, hseq, hrevision, h.mem_agentId hp, ← hagent]
      · have hlength := length_recordedSince h hp
        rw [← hsame] at hlength
        have hfilter := List.length_filter_le
          (fun update : AgentUpdate => decide (update.eventSequence > cursor.eventSequence))
          state.replay
        have hreplay : state.replay.length ≤ state.replayCapacity := by
          rw [h.replay, List.length_drop, ActorState.recorded, List.length_map]
          omega
        omega
  · rintro ⟨p, hp, rfl, hretained, rfl⟩
    have hlength := length_recordedSince h hp
    have hrevision : p.revision ≤ state.snapshot.revision := Exec.revision_le (exec_since h hp)
    refine subscriptionStart_replay.mpr ⟨⟨?_, hrevision, ?_⟩, ?_⟩
    · exact (h.mem_agentId hp).trans h.agentId.symm
    · show p.eventSequence ≤ _
      rw [UInt64.le_iff_toNat_le]
      omega
    by_cases hseq : p.eventSequence = state.snapshot.eventSequence
    · obtain rfl := h.mem_unique hp h.snapshot_mem hseq
      rw [if_pos ⟨rfl, rfl⟩]
      exact List.eq_nil_of_length_eq_zero (by omega)
    · obtain ⟨hreach, hroom⟩ := hretained.resolve_left hseq
      rw [if_neg fun hcurrent => hseq hcurrent.2]
      refine ⟨(filter_replay h hp hreach).symm, ?_⟩
      obtain ⟨expected, hexpected⟩ : ∃ expected, checkedAdd p.eventSequence 1 = some expected := by
        refine Option.ne_none_iff_exists'.mp fun hnone => ?_
        have := checkedAdd_one_eq_none.mp hnone
        omega
      simp only [replayReachesSnapshot, cursorOf, hexpected]
      rw [recordedSince_eq]
      exact walk_of_exec (exec_since h hp) rfl hroom (checkedAdd_one_eq_some.mp hexpected)

/-! ## What the replay does to the snapshot held -/

theorem applyEach_getLastD {s : AgentSnapshot} {results : List AgentSnapshot}
    (h : applyEach s updates = .ok results) :
    results.getLastD s = updates.foldl AgentSnapshot.updated s := by
  induction updates generalizing s results with
  | nil =>
    cases h
    rfl
  | cons update updates ih =>
    rw [applyEach] at h
    obtain ⟨next, hnext, h⟩ := bind_eq_ok.mp h
    obtain ⟨rest, hrest, h⟩ := bind_eq_ok.mp h
    cases h
    rw [List.getLastD_cons, List.foldl_cons, ← (AgentSnapshot.applyUpdate_ok.mp hnext).2]
    exact ih hrest

theorem Exec.foldl_updated {s t : AgentSnapshot} {log : List Recorded}
    (h : snapshots.Exec s log t) :
    (log.map (·.update)).foldl AgentSnapshot.updated s = t := by
  induction h with
  | nil s => rfl
  | @cons s m t r log hadv _ ih =>
    have hm : m = s.updated r.update := hadv.updated
    rw [List.map_cons, List.foldl_cons, ← hm]
    exact ih

/-- A subscriber that holds `held` and presents its cursor ends up with the
actor's snapshot, if it is given a replay. -/
def ResumesCorrectly (state : ActorState) (held : AgentSnapshot) : Prop :=
  ∀ updates, (state.subscribe (some (cursorOf held))).1.start = .replay updates →
    ∃ results, applyEach held updates = .ok results ∧ results.getLastD held = state.snapshot

/-- If the actor had and retains a snapshot with the cursor of `held`, all
differences between the two have been overwritten since. -/
def Repaired (initial : AgentSnapshot) (state : ActorState) (held : AgentSnapshot) : Prop :=
  ∀ p ∈ state.passed initial, p.revision = held.revision → p.eventSequence = held.eventSequence →
    Retained state p → Settled (recordedSince initial state p) held p

/-- **When resuming is sound**: a subscriber with a snapshot of the agent, from
wherever it may be, ends up with the actor's snapshot iff its differences to the
actor's snapshot with the same counters are overwritten by the replay. -/
theorem resume_iff (h : Invariant initial state) (hagent : held.agentId = initial.agentId) :
    ResumesCorrectly state held ↔ Repaired initial state held := by
  have hend : ∀ p ∈ state.passed initial, cursorOf held = cursorOf p → ∀ results,
      applyEach held (recordedSince initial state p) = .ok results →
      state.subscriptionStart (cursorOf held) = .replay (recordedSince initial state p) →
      (results.getLastD held = state.snapshot ↔
        Settled (recordedSince initial state p) held p) := by
    intro p hp hcursor results hresults hstart
    have hactor : (recordedSince initial state p).foldl AgentSnapshot.updated p = state.snapshot := by
      rw [recordedSince_eq]
      exact Exec.foldl_updated (exec_since h hp)
    obtain ⟨results', hresults', hrevision, hseq⟩ :=
      replay_applies h hstart (s := held) rfl rfl rfl
    obtain rfl : results = results' := Except.ok.inj (hresults.symm.trans hresults')
    rw [applyEach_getLastD hresults] at hrevision hseq ⊢
    rw [← hactor] at hrevision hseq ⊢
    exact foldl_updated_eq (hagent.trans (h.mem_agentId hp).symm) hrevision hseq
  constructor
  · intro hresume p hp hrevision hseq hretained
    have hcursor : cursorOf held = cursorOf p := by
      rw [cursorOf, cursorOf, hrevision, hseq, hagent, h.mem_agentId hp]
    have hstart : state.subscriptionStart (cursorOf held) =
        .replay (recordedSince initial state p) :=
      (replay_iff h hagent).mpr ⟨p, hp, hcursor, hretained, rfl⟩
    obtain ⟨results, hresults, hlast⟩ := hresume _ hstart
    exact (hend p hp hcursor results hresults hstart).mp hlast
  · intro hrepaired updates hstart
    have hstart : state.subscriptionStart (cursorOf held) = .replay updates := hstart
    obtain ⟨p, hp, hcursor, hretained, rfl⟩ := (replay_iff h hagent).mp hstart
    obtain ⟨results, hresults, -⟩ := replay_applies h hstart (s := held) rfl rfl rfl
    have hrevision : p.revision = held.revision := congrArg (·.revision) hcursor.symm
    have hseq : p.eventSequence = held.eventSequence := congrArg (·.eventSequence) hcursor.symm
    exact ⟨results, hresults, (hend p hp hcursor results hresults hstart).mpr
      (hrepaired p hp hrevision hseq hretained)⟩

end OmpRemote.ControlPlane

import OmpRemote.ControlPlane.History

/-!
# Interaction leases

The actor's snapshot says who may answer the agent's questions, and until when. A
lease in force ends in four ways only: its holder releases it or renews it into
the past, another holder acquires it at a time at which it has expired, or the
timer that was armed with it fires.

- `AgentSnapshot.leasedTo`: the lease is this holder's and has not expired.
- `ActorState.endsLease`: the turns that end it; `leasedTo_turn`: there are no
  others.
-/

namespace OmpRemote

open Lib Rpc

/-- The snapshot's lease is `holder`'s and has not expired at `nowMs`. -/
def AgentSnapshot.leasedTo (snapshot : AgentSnapshot) (holder : LeaseHolderId) (nowMs : UInt64) :
    Bool :=
  match snapshot.interaction with
  | .leased lease => lease.holder = holder && lease.expiresAtMs > nowMs
  | .unclaimed => false

namespace ControlPlane.ActorState

variable {state : ActorState} {holder : LeaseHolderId} {nowMs : UInt64}

/-- The turn ends the lease that `holder` has in force at `nowMs`. -/
def endsLease (state : ActorState) (holder : LeaseHolderId) (nowMs : UInt64) : ActorInput → Bool
  | .leaseTimer =>
    state.leaseDeadline.isSome &&
      ((state.setDeadline none).applyChange (.interactionChanged .unclaimed)).1.isOk
  | .command (.releaseLease releasing) =>
    releasing = holder && (state.releaseLease releasing).1.isOk
  | .command (.acquireLease acquiring atMs ttlMs deadline) =>
    match (state.acquireLease acquiring atMs ttlMs deadline).1, state.snapshot.interaction with
    | .ok lease, .leased held =>
      if acquiring = holder then lease.expiresAtMs ≤ nowMs else held.expiresAtMs ≤ atMs
    | _, _ => false
  | .command (.change (.interactionChanged _)) => true
  | _ => false

theorem leasedTo_iff {snapshot : AgentSnapshot} :
    snapshot.leasedTo holder nowMs = true ↔
      ∃ lease, snapshot.interaction = .leased lease ∧ lease.holder = holder ∧
        nowMs < lease.expiresAtMs := by
  unfold AgentSnapshot.leasedTo
  cases snapshot.interaction with
  | leased lease => simp
  | unclaimed => simp

/-- The lease is in the interaction field and nowhere else. -/
theorem leasedTo_congr {s t : AgentSnapshot} (h : s.interaction = t.interaction) :
    s.leasedTo holder nowMs = t.leasedTo holder nowMs := by
  unfold AgentSnapshot.leasedTo
  rw [h]

/-- A change that is made leaves what the change makes of the lease; one that is
not made leaves the lease. -/
theorem leasedTo_applyChange (state : ActorState) (change : AgentStateChange)
    (h : state.snapshot.leasedTo holder nowMs = true)
    (hchange : (state.applyChange change).1.isOk = true →
      (OmpRemote.applyChange state.snapshot change).leasedTo holder nowMs = true) :
    (state.applyChange change).2.snapshot.leasedTo holder nowMs = true := by
  rcases applyChange_cases state change with ⟨hsame, -⟩ |
      ⟨seq, delta, snapshot, hdelta, -, hadv, happly⟩
  · rw [hsame]
    exact h
  · have hmade := hchange (by rw [happly]; rfl)
    rw [happly]
    have hinteraction : snapshot.interaction =
        (OmpRemote.applyChange state.snapshot change).interaction := by
      rw [hadv.updated, ← hdelta]
      rfl
    exact (leasedTo_congr hinteraction).trans hmade

/-- Nobody else can acquire a lease before it expires. -/
theorem heldByOther_of_leasedTo {acquiring : LeaseHolderId} {atMs : UInt64}
    {lease : InteractionLease} (hlease : state.snapshot.interaction = .leased lease)
    (hother : acquiring ≠ lease.holder) (hearly : atMs < lease.expiresAtMs) :
    state.heldByOther acquiring atMs = some lease := by
  have hdiff : lease.holder ≠ acquiring := hother.symm
  simp [heldByOther, hlease, hdiff, hearly]

theorem leasedTo_acquireLease {acquiring : LeaseHolderId} {atMs : UInt64}
    {ttlMs : { ttl : UInt64 // ttl ≠ 0 }} {deadline : Option Instant}
    (h : state.snapshot.leasedTo holder nowMs = true)
    (hkeep : state.endsLease holder nowMs (.command (.acquireLease acquiring atMs ttlMs deadline)) =
      false) :
    (state.acquireLease acquiring atMs ttlMs deadline).2.snapshot.leasedTo holder nowMs = true := by
  obtain ⟨held, hheld, rfl, hnow⟩ := leasedTo_iff.mp h
  simp only [endsLease, hheld] at hkeep
  unfold acquireLease at hkeep ⊢
  split
  · exact h
  rename_i hfree
  split
  · exact h
  rename_i expiresAtMs hexpires
  split
  · exact h
  rename_i deadline
  simp only [hfree, hexpires] at hkeep
  dsimp only
  -- the lease is written; it is the holder's own, renewed into the future
  have hwritten :=
    leasedTo_applyChange state (.interactionChanged (.leased ⟨acquiring, expiresAtMs⟩)) h
  rcases happly : state.applyChange (.interactionChanged (.leased ⟨acquiring, expiresAtMs⟩)) with
    ⟨_ | _, after⟩
  · rw [happly] at hwritten
    exact hwritten nofun
  · rw [happly] at hwritten hkeep
    refine hwritten fun _ => ?_
    rw [leasedTo_iff]
    refine ⟨⟨acquiring, expiresAtMs⟩, rfl, ?_⟩
    by_cases hself : acquiring = held.holder
    · simp only [hself, if_true, decide_eq_false_iff_not, UInt64.not_le] at hkeep
      exact ⟨hself, hkeep⟩
    · simp only [hself, if_false, decide_eq_false_iff_not, UInt64.not_le] at hkeep
      rw [heldByOther_of_leasedTo hheld hself hkeep] at hfree
      cases hfree

theorem leasedTo_releaseLease {releasing : LeaseHolderId}
    (h : state.snapshot.leasedTo holder nowMs = true)
    (hkeep : state.endsLease holder nowMs (.command (.releaseLease releasing)) = false) :
    (state.releaseLease releasing).2.snapshot.leasedTo holder nowMs = true := by
  obtain ⟨held, hheld, rfl, hnow⟩ := leasedTo_iff.mp h
  simp only [endsLease] at hkeep
  unfold releaseLease at hkeep ⊢
  rw [hheld] at hkeep ⊢
  dsimp only at hkeep ⊢
  split
  · exact h
  rename_i hself
  have hholder : held.holder = releasing := by simpa using hself
  rw [if_neg hself] at hkeep
  have hdropped := leasedTo_applyChange (state.setDeadline none)
    (.interactionChanged .unclaimed) h
  rcases happly : (state.setDeadline none).applyChange (.interactionChanged .unclaimed) with
    ⟨_ | _, after⟩
  · rw [happly] at hdropped
    exact hdropped nofun
  · rw [happly] at hkeep
    simp [hholder, Except.isOk, Except.toBool] at hkeep

/-- **A lease in force stays in force** over every turn but those that end it. -/
theorem leasedTo_turn (input : ActorInput) (h : state.snapshot.leasedTo holder nowMs = true)
    (hkeep : state.endsLease holder nowMs input = false) :
    (state.turn input).2.snapshot.leasedTo holder nowMs = true := by
  unfold turn
  split
  · exact h
  cases input with
  | leaseTimer =>
    dsimp only
    split
    · exact h
    rename_i harmed
    simp only [endsLease] at hkeep
    refine leasedTo_applyChange (state.setDeadline none) _ h ?_
    intro hok
    rw [hok] at hkeep
    simp_all
  | disconnected => exact h
  | command command =>
    cases command with
    | snapshot => exact h
    | shutdown => exact h
    | subscribe cursor => exact h
    | acquireLease acquiring atMs ttlMs deadline => exact leasedTo_acquireLease h hkeep
    | releaseLease releasing => exact leasedTo_releaseLease h hkeep
    | publishEvent event =>
      show (state.publishEvent event).2.snapshot.leasedTo holder nowMs = true
      rcases publishEvent_cases state event with ⟨hsame, -⟩ | ⟨seq, snapshot, hadv, hpublish⟩
      · rw [hsame]
        exact h
      · rw [hpublish]
        have hinteraction : snapshot.interaction = state.snapshot.interaction := by
          rw [hadv.updated]
          rfl
        exact (leasedTo_congr hinteraction).trans h
    | change change =>
      refine leasedTo_applyChange state change h ?_
      intro _
      refine (leasedTo_congr ?_).trans h
      -- only the lease commands and the timer write the interaction field
      cases change with
      | interactionChanged interaction => cases hkeep
      | runUpserted run =>
        simp only [OmpRemote.applyChange]
        split <;> rfl
      | lifecycleChanged | sessionChanged | sessionCleared | runRemoved
        | availableCommandsChanged => rfl

end ControlPlane.ActorState

end OmpRemote

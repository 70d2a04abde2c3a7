import OmpRemote.Lib.Machine
import OmpRemote.Protocol.State

/-!
# Which deltas are admitted

A holder of a snapshot applies a delta after checks on counters that it has no reason to
trust. The next revision is computed with saturation, so that the last revision counts as
its own successor.

- `Follows`: the deltas that should be admitted, with revisions as integers.
- `Saturates`: the deltas of the last revision that are admitted as well.
- `exact_iff`: what one delta does is right unless it saturates.
- `admission_exact_iff`: so it is with any sequence of deltas, and then no revision is
  reached by two changes.
-/

namespace OmpRemote

open Lib

namespace AgentSnapshot

/-- A delta with the event sequence that it comes with. -/
structure Incoming where
  delta : StateDelta
  eventSequence : EventSequence
  deriving DecidableEq, Repr

/-- `apply_delta` on a snapshot that is updated in place. -/
def receiveDelta (s : AgentSnapshot) (incoming : Incoming) :
    Except DeltaApplyError Unit × AgentSnapshot :=
  match s.applyDelta incoming.delta incoming.eventSequence with
  | .error error => (.error error, s)
  | .ok updated => (.ok (), updated)

/-- One delta that has come in. -/
abbrev DeltaEvent := Mealy.Event AgentSnapshot Incoming (Except DeltaApplyError Unit)

/-- The deltas that are applied, oldest first. -/
def admitted (s : AgentSnapshot) (incoming : List Incoming) : List StateDelta :=
  ((Mealy.trace receiveDelta s incoming).filter fun e => e.output.isOk).map fun e => e.input.delta

/-- The delta is the next one of the snapshot's agent, and newer. -/
structure Follows (s : AgentSnapshot) (incoming : Incoming) : Prop where
  agentId : incoming.delta.agentId = s.agentId
  base : incoming.delta.baseRevision = s.revision
  next : incoming.delta.revision.toNat = incoming.delta.baseRevision.toNat + 1
  newer : s.eventSequence.toNat < incoming.eventSequence.toNat

/-- The snapshot is at the last revision, and the delta stays there. -/
structure Saturates (s : AgentSnapshot) (incoming : Incoming) : Prop where
  agentId : incoming.delta.agentId = s.agentId
  base : incoming.delta.baseRevision = s.revision
  last : s.revision.toNat = 2 ^ 64 - 1
  stays : incoming.delta.revision = s.revision
  newer : s.eventSequence.toNat < incoming.eventSequence.toNat

/-- A delta is applied iff it is the next one; then both counters grow, and otherwise the
snapshot is as it was. -/
structure Exact (e : DeltaEvent) : Prop where
  applied_iff : e.output.isOk = true ↔ e.before.Follows e.input
  grows : e.output.isOk = true → e.before.revision < e.after.revision ∧
    e.before.eventSequence < e.after.eventSequence
  kept : e.output.isOk = false → e.after = e.before

variable {s : AgentSnapshot} {incoming : Incoming}

/-- When a delta is applied: it is the next one, or it saturates. -/
theorem receiveDelta_isOk :
    (s.receiveDelta incoming).1.isOk = true ↔ s.Follows incoming ∨ s.Saturates incoming := by
  have happlied : (s.receiveDelta incoming).1.isOk = true ↔
      ∃ t, s.applyDelta incoming.delta incoming.eventSequence = .ok t := by
    unfold receiveDelta
    split
    · rename_i error h
      rw [h]
      constructor
      · intro hok
        cases hok
      · rintro ⟨t, hok⟩
        cases hok
    · rename_i t h
      exact ⟨fun _ => ⟨t, h⟩, fun _ => rfl⟩
  rw [happlied]
  simp only [applyDelta_ok, exists_and_left, exists_eq, and_true, eq_saturatingAdd_one,
    UInt64.lt_iff_toNat_lt]
  constructor
  · rintro ⟨hagent, hnewer, hbase, hnext | ⟨hlast, hstays⟩⟩
    · exact .inl ⟨hagent, hbase, hnext, hnewer⟩
    · rw [hbase] at hlast
      exact .inr ⟨hagent, hbase, hlast, hstays.trans hbase, hnewer⟩
  · rintro (⟨hagent, hbase, hnext, hnewer⟩ | ⟨hagent, hbase, hlast, hstays, hnewer⟩)
    · exact ⟨hagent, hnewer, hbase, .inl hnext⟩
    · rw [← hbase] at hlast
      exact ⟨hagent, hnewer, hbase, .inr ⟨hlast, hstays.trans hbase.symm⟩⟩

/-- What is applied sets both counters. -/
theorem receiveDelta_counters (h : (s.receiveDelta incoming).1.isOk = true) :
    (s.receiveDelta incoming).2.revision = incoming.delta.revision ∧
      (s.receiveDelta incoming).2.eventSequence = incoming.eventSequence := by
  unfold receiveDelta at h ⊢
  split
  · rename_i error herror
    rw [herror] at h
    cases h
  · rename_i t hok
    obtain ⟨-, rfl⟩ := applyDelta_ok.mp hok
    exact ⟨rfl, rfl⟩

theorem receiveDelta_kept (h : (s.receiveDelta incoming).1.isOk = false) :
    (s.receiveDelta incoming).2 = s := by
  unfold receiveDelta at h ⊢
  split
  · rfl
  · rename_i t hok
    rw [hok] at h
    cases h

/-- **One delta.** -/
theorem exact_iff : Exact (Mealy.event receiveDelta s incoming) ↔ ¬ s.Saturates incoming := by
  constructor
  · rintro ⟨happlied, -, -⟩ hsaturates
    have hfollows : s.Follows incoming :=
      happlied.mp (receiveDelta_isOk.mpr (.inr hsaturates))
    have hnext := hfollows.next
    rw [hsaturates.stays, hsaturates.base] at hnext
    omega
  · intro hno
    have happlied : (s.receiveDelta incoming).1.isOk = true ↔ s.Follows incoming :=
      receiveDelta_isOk.trans (or_iff_left hno)
    refine ⟨happlied, ?_, receiveDelta_kept⟩
    intro hok
    obtain ⟨hrevision, hsequence⟩ := receiveDelta_counters hok
    have hfollows := happlied.mp hok
    constructor
    · show s.revision < (s.receiveDelta incoming).2.revision
      rw [hrevision, UInt64.lt_iff_toNat_lt, hfollows.next, hfollows.base]
      exact Nat.lt_succ_self _
    · show s.eventSequence < (s.receiveDelta incoming).2.eventSequence
      rw [hsequence, UInt64.lt_iff_toNat_lt]
      exact hfollows.newer

/-- Where no delta saturates, the revisions that are reached are above the one at the
start, and grow. -/
theorem admitted_grows {deltas : List Incoming}
    (h : Along (fun s i => (receiveDelta s i).2) (fun s i => ¬ s.Saturates i) s deltas) :
    (∀ delta ∈ s.admitted deltas, s.revision < delta.revision) ∧
      (s.admitted deltas).Pairwise fun earlier later => earlier.revision < later.revision := by
  induction deltas generalizing s with
  | nil => exact ⟨nofun, List.Pairwise.nil⟩
  | cons incoming deltas ih =>
    obtain ⟨habove, hgrows⟩ := ih (s := (s.receiveDelta incoming).2) h.2
    have hexact := exact_iff.mpr h.1
    cases hok : (s.receiveDelta incoming).1.isOk with
    | false =>
      have hsame : s.admitted (incoming :: deltas) = s.admitted deltas := by
        rw [admitted, Mealy.trace, List.filter_cons_of_neg (by simpa [Mealy.event] using hok),
          receiveDelta_kept hok]
        rfl
      rw [receiveDelta_kept hok] at habove hgrows
      rw [hsame]
      exact ⟨habove, hgrows⟩
    | true =>
      have hmore : s.admitted (incoming :: deltas) =
          incoming.delta :: (s.receiveDelta incoming).2.admitted deltas := by
        rw [admitted, Mealy.trace, List.filter_cons_of_pos (by simpa [Mealy.event] using hok)]
        rfl
      have hup : s.revision < (s.receiveDelta incoming).2.revision := (hexact.grows hok).1
      rw [(receiveDelta_counters hok).1] at habove hup
      rw [hmore]
      refine ⟨?_, List.pairwise_cons.mpr ⟨habove, hgrows⟩⟩
      intro delta hdelta
      rcases List.mem_cons.mp hdelta with rfl | hlater
      · exact hup
      · exact UInt64.lt_trans hup (habove delta hlater)

/-- **Admission is exact** along a sequence of deltas, and no two changes are applied at
one revision, if and only if none of the deltas saturates. -/
theorem admission_exact_iff (s : AgentSnapshot) (deltas : List Incoming) :
    ((∀ e ∈ Mealy.trace receiveDelta s deltas, Exact e) ∧
      (s.admitted deltas).Pairwise fun earlier later => earlier.revision ≠ later.revision) ↔
    Along (fun s i => (receiveDelta s i).2) (fun s i => ¬ s.Saturates i) s deltas := by
  constructor
  · rintro ⟨hexact, -⟩
    induction deltas generalizing s with
    | nil => trivial
    | cons incoming deltas ih =>
      rw [Mealy.trace, List.forall_mem_cons] at hexact
      exact ⟨exact_iff.mp hexact.1, ih _ hexact.2⟩
  · intro h
    refine ⟨?_, (admitted_grows h).2.imp UInt64.ne_of_lt⟩
    intro e he
    obtain ⟨-, hno⟩ := Mealy.along_trace (P := fun _ => True) (fun _ _ _ _ => trivial) trivial h he
    rw [Mealy.mem_trace he]
    exact exact_iff.mpr hno

/-- An agent at the last revision. -/
def lastRevision : AgentSnapshot := { initial ⟨"agent"⟩ with revision := 18446744073709551615 }

/-- Two changes from the last revision to itself. -/
def repeated : List Incoming :=
  [⟨⟨⟨"agent"⟩, 18446744073709551615, 18446744073709551615, .lifecycleChanged .idle⟩, 1⟩,
    ⟨⟨⟨"agent"⟩, 18446744073709551615, 18446744073709551615, .lifecycleChanged .running⟩, 2⟩]

/-- Both are applied, at one revision. -/
theorem last_revision_repeats :
    ¬ ((∀ e ∈ Mealy.trace receiveDelta lastRevision repeated, Exact e) ∧
      (lastRevision.admitted repeated).Pairwise fun earlier later =>
        earlier.revision ≠ later.revision) ∧
    lastRevision.admitted repeated = repeated.map Incoming.delta := by
  have hboth : lastRevision.admitted repeated = repeated.map Incoming.delta := by decide +kernel
  refine ⟨?_, hboth⟩
  rintro ⟨-, hapart⟩
  rw [hboth] at hapart
  exact absurd hapart (by decide +kernel)

end AgentSnapshot

end OmpRemote

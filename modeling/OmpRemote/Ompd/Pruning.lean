import OmpRemote.Ompd.Revocation

/-!
# Pruning the ledger

`prune_operations` deletes rows of the operation ledger by age and by number,
whatever their status. Here it may come between any two steps of the daemon.

- `Store.Spares`: the pruning leaves the pending rows of its device, said of the
  ledger before it.
- `Daemon.Running`: an operation is running from the granted claim until its outcome
  is recorded, or the daemon crashes.
- `Daemon.pruning_spares_iff`: a running operation is safe from a second execution in
  every state of a run iff all prunings of the run spare the pending rows.

The at-most-once law of the daemon without pruning rests on rows never being
deleted; the rule here replaces it by what a row is needed for.
-/

namespace OmpRemote.Ompd

open Lib

/-! ## Places in a sorted list -/

section Rank

variable {α : Type} {le : α → α → Bool}

/-- In a strictly sorted list, an element is past the first `n` iff `n` elements
precede it. -/
theorem mem_drop_of_pairwise {s : List α}
    (hs : s.Pairwise fun a b => (le a b && !le b a) = true) {x : α} (hx : x ∈ s) (n : Nat) :
    x ∈ s.drop n ↔ n ≤ s.countP fun y => le y x && !le x y := by
  induction s generalizing n with
  | nil => cases hx
  | cons a s ih =>
    cases n with
    | zero => simpa using hx
    | succ k =>
      obtain ⟨ha, hs⟩ := List.pairwise_cons.mp hs
      rw [List.drop_succ_cons]
      rcases List.mem_cons.mp hx with rfl | hx
      · -- the first element is preceded by none
        have hnone : (x :: s).countP (fun y => le y x && !le x y) = 0 := by
          refine List.countP_eq_zero.mpr fun b hb => ?_
          rcases List.mem_cons.mp hb with rfl | hb
          · simp
          · have := ha b hb
            rw [Bool.and_eq_true, Bool.not_eq_true'] at this
            simp [this.2]
        have hout : x ∉ s.drop k := fun hmem => by
          have := ha x (List.mem_of_mem_drop hmem)
          simp at this
        rw [hnone]
        simp [hout]
      · rw [ih hs hx, List.countP_cons_of_pos (p := fun y => le y x && !le x y) (ha x hx)]
        omega

/-- What a sort leaves past the first `n`, where no two elements are equivalent. -/
theorem mem_drop_mergeSort (trans : ∀ a b c, le a b = true → le b c = true → le a c = true)
    (total : ∀ a b, (le a b || le b a) = true) {l : List α} (hnodup : l.Nodup)
    (antisymm : ∀ a ∈ l, ∀ b ∈ l, le a b = true → le b a = true → a = b) {x : α} (hx : x ∈ l)
    (n : Nat) :
    x ∈ (l.mergeSort le).drop n ↔ n ≤ l.countP fun y => le y x && !le x y := by
  have hperm := List.mergeSort_perm l le
  have hstrict : (l.mergeSort le).Pairwise fun a b => (le a b && !le b a) = true := by
    have hle := List.pairwise_mergeSort trans total l
    have hne : (l.mergeSort le).Pairwise (· ≠ ·) := hperm.nodup_iff.mpr hnodup
    refine ((hle.and hne).imp_of_mem fun {a b} ha hb h => ?_)
    have hback : ¬ le b a = true := fun hba =>
      h.2 (antisymm a (hperm.mem_iff.mp ha) b (hperm.mem_iff.mp hb) h.1 hba)
    rw [h.1, Bool.true_and, Bool.not_eq_true', Bool.eq_false_iff]
    exact hback
  rw [mem_drop_of_pairwise hstrict (hperm.mem_iff.mpr hx), hperm.countP_eq]

end Rank

/-! ## What a pruning spares -/

namespace Store

variable {δ : Type}

/-- The order in which rows are kept: newest first. -/
def newestFirst (a b : OperationKey × OperationRow δ) : Bool :=
  a.2.createdAtMs > b.2.createdAtMs ||
    a.2.createdAtMs = b.2.createdAtMs && b.1.operationId.text ≤ a.1.operationId.text

/-- The rows of the device, not older than the cutoff, that are kept before this
one. -/
def newerThan (store : Store δ) (olderThanMs : UInt64) (key : OperationKey)
    (row : OperationRow δ) : Nat :=
  store.operations.rows.countP fun other =>
    other.1.deviceId = key.deviceId && !(other.2.createdAtMs < olderThanMs) &&
      (newestFirst other (key, row) && !newestFirst (key, row) other)

/-- The statements of a pruning that the database does not refuse leave the row. -/
def Keeps (store : Store δ) (olderThanMs : UInt64) (maxCount : Nat) (fault : Option Nat)
    (key : OperationKey) (row : OperationRow δ) : Prop :=
  olderThanMs.toNat < 2 ^ 63 → fault ≠ some 0 →
    olderThanMs ≤ row.createdAtMs ∧
      (maxCount < 2 ^ 63 → fault = none → store.newerThan olderThanMs key row < maxCount)

/-- A pruning leaves the pending rows of its device. -/
def Spares (store : Store δ) (deviceId : DeviceId) (olderThanMs : UInt64) (maxCount : Nat)
    (fault : Option Nat) : Prop :=
  ∀ key row, store.operations.lookup key = some row → row.status = .pending →
    key.deviceId = deviceId → store.Keeps olderThanMs maxCount fault key row

theorem newestFirst_trans (a b c : OperationKey × OperationRow δ)
    (hab : newestFirst a b = true) (hbc : newestFirst b c = true) : newestFirst a c = true := by
  simp only [newestFirst, Bool.or_eq_true, Bool.and_eq_true, decide_eq_true_eq] at *
  rcases hab with hab | ⟨hab, htext⟩ <;> rcases hbc with hbc | ⟨hbc, htext'⟩
  · exact .inl (UInt64.lt_trans hbc hab)
  · exact .inl (hbc ▸ hab)
  · exact .inl (hab ▸ hbc)
  · exact .inr ⟨hab.trans hbc, Std.le_trans htext' htext⟩

theorem newestFirst_total (a b : OperationKey × OperationRow δ) :
    (newestFirst a b || newestFirst b a) = true := by
  simp only [newestFirst, Bool.or_eq_true, Bool.and_eq_true, decide_eq_true_eq]
  rcases Nat.lt_trichotomy a.2.createdAtMs.toNat b.2.createdAtMs.toNat with h | h | h
  · exact .inr (.inl h)
  · have heq : a.2.createdAtMs = b.2.createdAtMs := UInt64.toNat_inj.mp h
    rcases Std.le_total (a := a.1.operationId.text) (b := b.1.operationId.text) with htext | htext
    · exact .inr (.inr ⟨heq.symm, htext⟩)
    · exact .inl (.inr ⟨heq, htext⟩)
  · exact .inl (.inl h)

/-- Rows of one device that the order does not tell apart have the same key. -/
theorem newestFirst_antisymm {a b : OperationKey × OperationRow δ}
    (hdevice : a.1.deviceId = b.1.deviceId) (hab : newestFirst a b = true)
    (hba : newestFirst b a = true) : a.1 = b.1 := by
  simp only [newestFirst, Bool.or_eq_true, Bool.and_eq_true, decide_eq_true_eq] at hab hba
  have hlt : ∀ {x y : UInt64}, x < y → ¬ y < x := fun h h' =>
    UInt64.lt_irrefl _ (UInt64.lt_trans h h')
  have htext : a.1.operationId.text = b.1.operationId.text := by
    rcases hab with hab | ⟨heq, htext⟩ <;> rcases hba with hba | ⟨heq', htext'⟩
    · exact absurd hba (hlt hab)
    · exact absurd (heq' ▸ hab) (UInt64.lt_irrefl _)
    · exact absurd (heq ▸ hba) (UInt64.lt_irrefl _)
    · exact Std.le_antisymm htext' htext
  obtain ⟨⟨_, ⟨_⟩⟩, _⟩ := a
  obtain ⟨⟨_, ⟨_⟩⟩, _⟩ := b
  simp_all

/-- The rows of the device in the ledger without the old ones, as `prune_operations`
counts them. -/
theorem newerThan_eq (store : Store δ) (olderThanMs : UInt64) {key : OperationKey}
    {row : OperationRow δ} {deviceId : DeviceId} (hdevice : key.deviceId = deviceId) :
    store.newerThan olderThanMs key row =
      ((store.operations.keep fun key row =>
        !(key.deviceId = deviceId && row.createdAtMs < olderThanMs)).rows.filter
          fun row => row.1.deviceId = deviceId).countP
        fun other => newestFirst other (key, row) && !newestFirst (key, row) other := by
  subst hdevice
  rw [newerThan, Table.keep, List.filter_filter, List.countP_filter]
  refine List.countP_congr fun other _ => ?_
  simp only [Bool.and_eq_true, Bool.not_eq_true', decide_eq_true_eq, decide_eq_false_iff_not,
    Bool.and_eq_false_iff]
  tauto

/-- The rows in excess of `maxCount` are those with `maxCount` rows before them. -/
theorem mem_excess {table : Table OperationKey (OperationRow δ)} {deviceId : DeviceId}
    {key : OperationKey} {row : OperationRow δ} (hrow : table.lookup key = some row)
    (hdevice : key.deviceId = deviceId) (maxCount : Nat) :
    key ∈ ((((table.rows.filter fun row => row.1.deviceId = deviceId).mergeSort
        newestFirst).drop maxCount).map Prod.fst) ↔
      maxCount ≤ (table.rows.filter fun row => row.1.deviceId = deviceId).countP
        fun other => newestFirst other (key, row) && !newestFirst (key, row) other := by
  have hmem : (key, row) ∈ table.rows.filter fun row => row.1.deviceId = deviceId :=
    List.mem_filter.mpr ⟨Table.lookup_eq_some.mp hrow, by simpa using hdevice⟩
  have hdevices : ∀ other ∈ table.rows.filter fun row => row.1.deviceId = deviceId,
      other.1.deviceId = deviceId := fun other h => by simpa using (List.mem_filter.mp h).2
  have hinjective : ∀ a ∈ table.rows, ∀ b ∈ table.rows, a.1 = b.1 → a = b := fun a ha b hb h =>
    List.inj_on_of_nodup_map table.unique ha hb h
  have hrank := mem_drop_mergeSort newestFirst_trans newestFirst_total
    ((table.unique.of_map Prod.fst).filter _)
    (fun a ha b hb hab hba => hinjective a (List.mem_of_mem_filter ha) b (List.mem_of_mem_filter hb)
      (newestFirst_antisymm ((hdevices a ha).trans (hdevices b hb).symm) hab hba)) hmem maxCount
  rw [← hrank, List.mem_map]
  constructor
  · rintro ⟨other, hother, rfl⟩
    have hin := List.mem_of_mem_filter (List.mem_mergeSort.mp (List.mem_of_mem_drop hother))
    rwa [← hinjective other hin _ (List.mem_of_mem_filter hmem) rfl]
  · intro h
    exact ⟨_, h, rfl⟩

/-- What a pruning does to a row. -/
theorem lookup_pruneOperations {store : Store δ} {deviceId : DeviceId} {key : OperationKey}
    {row : OperationRow δ} (hrow : store.operations.lookup key = some row) (olderThanMs : UInt64)
    (maxCount : Nat) (fault : Option Nat) :
    (store.pruneOperations deviceId olderThanMs maxCount fault).2.operations.lookup key = some row ↔
      (key.deviceId = deviceId → store.Keeps olderThanMs maxCount fault key row) := by
  unfold pruneOperations Keeps
  cases hcutoff : sqlU64 olderThanMs "operation prune cutoff" with
  | error error =>
    have hbig : ¬ olderThanMs.toNat < 2 ^ 63 := fun h => by
      rw [sqlU64_ok.mpr ⟨h, rfl⟩] at hcutoff
      cases hcutoff
    simp [hrow, hbig, -Nat.reducePow]
  | ok value =>
    obtain ⟨hfits, rfl⟩ := sqlU64_ok.mp hcutoff
    dsimp only
    split
    · rename_i hfault
      simp [hrow, hfault]
    rename_i hfault
    -- what the first statement does to the row
    have hrecent : (store.operations.keep fun key row =>
        !(key.deviceId = deviceId && row.createdAtMs < olderThanMs)).lookup key = some row ↔
        (key.deviceId = deviceId → olderThanMs ≤ row.createdAtMs) := by
      rw [Table.lookup_keep, hrow, Option.filter_eq_some_iff]
      simp [imp_iff_not_or]
    split
    · rename_i hcount
      have : ¬ maxCount < 2 ^ 63 := by omega
      simpa [hfits, hfault, this, -Nat.reducePow] using hrecent
    rename_i hcount
    have hcount : maxCount < 2 ^ 63 := by omega
    split
    · rename_i hfault'
      have : fault ≠ none := by
        rintro rfl
        cases hfault'
      simpa [hfits, hfault, this, -Nat.reducePow] using hrecent
    rename_i hfault'
    obtain rfl : fault = none := by simpa using hfault'
    rw [Table.lookup_keep]
    by_cases hdevice : key.deviceId = deviceId
    · by_cases hold : olderThanMs ≤ row.createdAtMs
      · have hkept := hrecent.mpr fun _ => hold
        have hrank := mem_excess hkept hdevice maxCount
        rw [hkept, store.newerThan_eq olderThanMs hdevice, Option.filter_eq_some_iff,
          decide_eq_true_iff]
        constructor
        · intro h _ _ _
          exact ⟨hold, fun _ _ => Nat.not_le.mp (mt hrank.mpr h.2)⟩
        · intro h
          have hfew := (h hdevice hfits hfault).2 hcount rfl
          exact ⟨rfl, mt hrank.mp (Nat.not_le.mpr hfew)⟩
      · have hgone := mt hrecent.mp fun h => hold (h hdevice)
        rw [Option.filter_eq_some_iff]
        exact ⟨fun h => absurd h.1 hgone, fun h => absurd (h hdevice hfits hfault).1 hold⟩
    · have hkept := hrecent.mpr fun h => absurd h hdevice
      rw [hkept, Option.filter_eq_some_iff, decide_eq_true_iff]
      refine ⟨fun _ h => absurd h hdevice, fun _ => ⟨rfl, fun hmem => ?_⟩⟩
      -- the excess is of the device
      obtain ⟨other, hother, rfl⟩ := List.mem_map.mp hmem
      have hin := (List.mem_filter.mp (List.mem_mergeSort.mp (List.mem_of_mem_drop hother))).2
      exact hdevice (by simpa using hin)

/-- A pruning brings no row back. -/
theorem lookup_pruneOperations_of_some {store : Store δ} {deviceId : DeviceId} {key : OperationKey}
    {row : OperationRow δ} {olderThanMs : UInt64} {maxCount : Nat} {fault : Option Nat}
    (h : (store.pruneOperations deviceId olderThanMs maxCount fault).2.operations.lookup key =
      some row) : store.operations.lookup key = some row := by
  unfold pruneOperations at h
  split at h
  · exact h
  split at h
  · exact h
  dsimp only at h
  split at h
  · rw [Table.lookup_keep] at h
    exact (Option.filter_eq_some_iff.mp h).1
  split at h
  · rw [Table.lookup_keep] at h
    exact (Option.filter_eq_some_iff.mp h).1
  · rw [Table.lookup_keep, Table.lookup_keep] at h
    exact (Option.filter_eq_some_iff.mp (Option.filter_eq_some_iff.mp h).1).1

/-- An opening that succeeds has marked the pending operations. -/
theorem recoverInterrupted_isOk {store : Store δ} {nowMs : UInt64} {fault : Option Nat}
    (h : (store.recoverInterrupted nowMs fault).1.isOk = true) :
    (store.recoverInterrupted nowMs fault).2.operations =
      store.operations.mapRows fun _ => interruptOperation := by
  unfold recoverInterrupted at h ⊢
  cases hnow : sqlU64 nowMs "recovery timestamp" with
  | error error =>
    rw [hnow] at h
    cases h
  | ok value =>
    rw [hnow] at h
    dsimp only at h ⊢
    split at h
    · cases h
    rename_i hfirst
    split at h
    · cases h
    rename_i hsecond
    rw [if_neg hfirst, if_neg hsecond]

end Store

/-! ## The daemon with prunings -/

inductive PruningInput where
  | daemon (input : DaemonInput)
  | prune (deviceId : DeviceId) (olderThanMs : UInt64) (maxCount : Nat) (fault : Option Nat)

namespace Daemon

variable {δ : Type} [DecidableEq δ] {backend : Backend δ}

def pruningStep (backend : Backend δ) (daemon : Daemon δ) :
    PruningInput → Option Effect × Daemon δ
  | .daemon input => daemon.step backend input
  | .prune deviceId olderThanMs maxCount fault =>
    if daemon.up then
      (none, { daemon with
        store := (daemon.store.pruneOperations deviceId olderThanMs maxCount fault).2 })
    else (none, daemon)

abbrev PruningEvent (δ : Type) := Mealy.Event (Daemon δ) PruningInput (Option Effect)

/-- Every pruning spares the pending rows of its device. -/
def Sparing (daemon : Daemon δ) : PruningInput → Prop
  | .daemon _ => True
  | .prune deviceId olderThanMs maxCount fault =>
    daemon.up = true → daemon.store.Spares deviceId olderThanMs maxCount fault

def Ends (key : OperationKey) (e : PruningEvent δ) : Prop :=
  e.input = .daemon .crash ∨ ∃ outcome, e.output = some (.recorded key outcome)

/-- The operation has been claimed for execution, and since then the daemon has
neither recorded its outcome nor crashed. -/
def Running (history : List (PruningEvent δ)) (key : OperationKey) : Prop :=
  history.foldl (fun running e =>
    (∃ request, e.output = some (.claimed key request)) ∨ (running ∧ ¬ Ends key e)) False

instance (key : OperationKey) :
    ∀ effect : Option Effect, Decidable (∃ request, effect = some (.claimed key request))
  | some (.claimed key' request) =>
    if h : key' = key then .isTrue ⟨request, by rw [h]⟩
    else .isFalse fun ⟨_, heq⟩ => h (by cases heq; rfl)
  | none | some (.called ..) | some (.recorded ..) | some (.answered _) =>
    .isFalse (by rintro ⟨_, ⟨⟩⟩)

instance (key : OperationKey) :
    ∀ effect : Option Effect, Decidable (∃ outcome, effect = some (.recorded key outcome))
  | some (.recorded key' outcome) =>
    if h : key' = key then .isTrue ⟨outcome, by rw [h]⟩
    else .isFalse fun ⟨_, heq⟩ => h (by cases heq; rfl)
  | none | some (.called ..) | some (.claimed ..) | some (.answered _) =>
    .isFalse (by rintro ⟨_, ⟨⟩⟩)

def crashes : PruningInput → Bool
  | .daemon .crash => true
  | _ => false

theorem crashes_iff {input : PruningInput} : crashes input = true ↔ input = .daemon .crash := by
  constructor
  · intro h
    unfold crashes at h
    split at h
    · rfl
    · cases h
  · rintro rfl
    rfl

instance (key : OperationKey) (e : PruningEvent δ) : Decidable (Ends key e) :=
  decidable_of_iff (crashes e.input = true ∨ ∃ outcome, e.output = some (.recorded key outcome))
    (or_congr crashes_iff Iff.rfl)

instance Running.decidable (key : OperationKey) (history : List (PruningEvent δ)) :
    Decidable (Running history key) :=
  go history False
where
  go : ∀ (history : List (PruningEvent δ)) (running : Prop) [Decidable running],
      Decidable (history.foldl (fun running (e : PruningEvent δ) =>
        (∃ request, e.output = some (.claimed key request)) ∨ (running ∧ ¬ Ends key e)) running)
    | [], _, h => h
    | _ :: history, _, _ => go history _

/-- The task is between the claim of the key and the end of its execution. -/
def Task.works (key : OperationKey) : Task → Prop
  | .received _ => False
  | .claimed key' _ => key' = key
  | .executing key' _ => key' = some key
  | .executed key' _ => key' = key

/-- The connection's task works on the key. -/
def Works (daemon : Daemon δ) (connection : Nat) (key : OperationKey) : Prop :=
  ∃ device task, daemon.connections connection = some ⟨device, some task⟩ ∧ Task.works key task

/-- What a running operation may rely on: a claim of its key that the database does
not refuse is answered as in progress or as a conflict, so that the controller is not
called again while it executes; and its outcome is recorded. -/
structure Protected (backend : Backend δ) (daemon : Daemon δ) (key : OperationKey) : Prop where
  claim : ∀ request encoded nowMs, backend.encodeRequest request = .ok encoded →
    nowMs.toNat < 2 ^ 63 →
      (daemon.store.claimOperation backend key request nowMs none).1 = .ok .inProgress ∨
        (daemon.store.claimOperation backend key request nowMs none).1 = .error .conflictingRequest
  complete : ∀ outcome encoded nowMs, backend.encodeOutcome outcome = .ok encoded →
    nowMs.toNat < 2 ^ 63 →
      (daemon.store.completeOperation backend key outcome nowMs none).1 = .ok ()
  claimed : ∀ input request, (daemon.pruningStep backend input).1 ≠ some (.claimed key request)
  called : ∀ input request,
    (daemon.pruningStep backend input).1 = some (.called (some key) request) →
      ∀ connection device request',
      daemon.connections connection ≠ some ⟨device, some (.executing (some key) request')⟩

/-! ## One step of the daemon -/

/-- Only a crash and a start change whether the daemon is up. -/
theorem up_step (daemon : Daemon δ) {input : DaemonInput} (hcrash : input ≠ .crash)
    (hstart : ∀ nowMs fault, input ≠ .start nowMs fault) :
    (daemon.step backend input).2.up = daemon.up := by
  cases input with
  | crash => exact absurd rfl hcrash
  | start nowMs fault => exact absurd rfl (hstart nowMs fault)
  | claim connection nowMs fault =>
    dsimp only [step]
    split
    · dsimp only [claim, Prod.map]
      repeat' split
      all_goals rfl
    · rfl
  | complete connection nowMs fault =>
    dsimp only [step]
    split
    · dsimp only [complete, Prod.map]
      split <;> rfl
    · rfl
  | connect | receive | call | «return» | store =>
    dsimp only [step]
    split <;> rfl
  | disconnect => rfl

theorem stays_up {daemon : Daemon δ} (hup : daemon.up = true) {input : DaemonInput}
    (hcrash : input ≠ .crash) : (daemon.step backend input).2.up = true := by
  by_cases hstart : ∃ nowMs fault, input = .start nowMs fault
  · obtain ⟨nowMs, fault, rfl⟩ := hstart
    dsimp only [step]
    rwa [if_pos hup]
  · rwa [daemon.up_step hcrash fun nowMs fault h => hstart ⟨nowMs, fault, h⟩]

/-- A step without effect leaves the ledger alone, unless it is a start. -/
theorem operations_of_silent (daemon : Daemon δ) (backend : Backend δ) (input : DaemonInput)
    (hstart : ∀ nowMs fault, input ≠ .start nowMs fault)
    (h : (daemon.step backend input).1 = none) :
    (daemon.step backend input).2.store.operations = daemon.store.operations := by
  cases input with
  | start nowMs fault => exact absurd rfl (hstart nowMs fault)
  | claim | complete =>
    dsimp only [step] at h ⊢
    split at h
    · cases h
    · rfl
  | store operation =>
    dsimp only [step]
    split
    · rename_i hguard
      rw [Bool.and_eq_true, leavesOperations, decide_eq_true_iff] at hguard
      exact (daemon.store.execute_frame backend operation).operations hguard.2
    · rfl
  | connect | receive | call | «return» =>
    dsimp only [step]
    split <;> rfl
  | disconnect | crash => rfl

/-- While the daemon is up, a row stays as it is unless its outcome is recorded. -/
theorem lookup_step {daemon : Daemon δ} (hup : daemon.up = true) (input : DaemonInput)
    {key : OperationKey} {row : OperationRow δ}
    (hrow : daemon.store.operations.lookup key = some row) :
    (daemon.step backend input).2.store.operations.lookup key = some row ∨
      ∃ outcome, (daemon.step backend input).1 = some (.recorded key outcome) := by
  by_cases hstart : ∃ nowMs fault, input = .start nowMs fault
  · obtain ⟨nowMs, fault, rfl⟩ := hstart
    dsimp only [step]
    rw [if_pos hup]
    exact .inl hrow
  have hsilent := daemon.operations_of_silent backend input fun nowMs fault h =>
    hstart ⟨nowMs, fault, h⟩
  have heffect := daemon.step_effect backend input
  generalize (daemon.step backend input).1 = effect, (daemon.step backend input).2 = daemon'
    at heffect hsilent ⊢
  cases heffect with
  | quiet _ hsame _ => exact .inl (by rw [hsame, hrow])
  | claims connection device key' request encoded nowMs _ hinsert _ =>
    have hne : key ≠ key' := by
      rintro rfl
      exact not_claimed_of_insert hinsert ⟨row, hrow⟩
    exact .inl (by rw [Table.lookup_insert hinsert, if_neg hne, hrow])
  | calls => exact .inl hrow
  | records key' outcome encoded nowMs _ hmodify _ =>
    by_cases hkey : key = key'
    · subst hkey
      exact .inr ⟨outcome, rfl⟩
    · exact .inl (by rw [hmodify, Table.lookup_modify, if_neg hkey, hrow])
  | recovers _ _ => exact .inl (by rw [hsilent rfl, hrow])

/-- A pending row was pending before, or its operation is claimed by this step. -/
theorem pending_step {daemon : Daemon δ} {input : DaemonInput} {key : OperationKey}
    {row : OperationRow δ}
    (hrow : (daemon.step backend input).2.store.operations.lookup key = some row)
    (hpending : row.status = .pending) :
    daemon.store.operations.lookup key = some row ∨
      ∃ request, (daemon.step backend input).1 = some (.claimed key request) := by
  have heffect := daemon.step_effect backend input
  generalize (daemon.step backend input).1 = effect, (daemon.step backend input).2 = daemon'
    at heffect hrow ⊢
  cases heffect with
  | quiet _ hsame _ => exact .inl (by rwa [hsame] at hrow)
  | claims connection device key' request encoded nowMs _ hinsert _ =>
    rw [Table.lookup_insert hinsert] at hrow
    split at hrow
    · rename_i hkey
      exact .inr ⟨request, by rw [hkey]⟩
    · exact .inl hrow
  | calls => exact .inl hrow
  | records key' outcome encoded nowMs _ hmodify _ =>
    rw [hmodify, Table.lookup_modify] at hrow
    split at hrow
    · obtain ⟨old, -, rfl⟩ := Option.map_eq_some_iff.mp hrow
      cases hpending
    · exact .inl hrow
  | recovers hmap _ =>
    rw [hmap, Table.lookup_mapRows] at hrow
    obtain ⟨old, hold, rfl⟩ := Option.map_eq_some_iff.mp hrow
    unfold Store.interruptOperation at hpending ⊢
    split at hpending
    · cases hpending
    · rename_i hdone
      exact absurd hpending hdone

/-- The outcome that is recorded completes the row. -/
theorem recorded_row {daemon : Daemon δ} {input : DaemonInput} {key : OperationKey}
    {row : OperationRow δ} {outcome : ResponseOutcome}
    (h : (daemon.step backend input).1 = some (.recorded key outcome))
    (hrow : (daemon.step backend input).2.store.operations.lookup key = some row) :
    row.status ≠ .pending := by
  have heffect := daemon.step_effect backend input
  generalize (daemon.step backend input).1 = effect, (daemon.step backend input).2 = daemon' at *
  cases heffect with
  | records key' outcome' encoded nowMs _ hmodify _ =>
    cases h
    rw [hmodify, Table.lookup_modify, if_pos rfl] at hrow
    obtain ⟨old, -, rfl⟩ := Option.map_eq_some_iff.mp hrow
    nofun
  | quiet hquiet =>
    rw [h] at hquiet
    cases hquiet
  | claims | calls | recovers => cases h

/-- A granted claim finds no row and inserts a pending one. -/
theorem claimed_row {daemon : Daemon δ} {input : DaemonInput} {key : OperationKey}
    {request : ControlRequest} (h : (daemon.step backend input).1 = some (.claimed key request)) :
    daemon.store.operations.lookup key = none ∧
      ∃ row, (daemon.step backend input).2.store.operations.lookup key = some row ∧
        row.status = .pending := by
  have heffect := daemon.step_effect backend input
  generalize (daemon.step backend input).1 = effect, (daemon.step backend input).2 = daemon' at *
  cases heffect with
  | claims connection device _ _ encoded nowMs _ hinsert _ =>
    cases h
    exact ⟨(Table.insert_eq_some hinsert).1, _,
      by rw [Table.lookup_insert hinsert, if_pos rfl], rfl⟩
  | quiet hquiet =>
    rw [h] at hquiet
    cases hquiet
  | calls | records | recovers => cases h

/-- A daemon comes up without pending rows. -/
theorem pending_start {daemon : Daemon δ} (hdown : daemon.up = false) {input : DaemonInput}
    (hup : (daemon.step backend input).2.up = true) {key : OperationKey} {row : OperationRow δ}
    (hrow : (daemon.step backend input).2.store.operations.lookup key = some row) :
    row.status ≠ .pending := by
  have hstart : ∃ nowMs fault, input = .start nowMs fault := by
    by_contra hno
    have hcrash : input ≠ .crash := by
      rintro rfl
      cases hup
    rw [daemon.up_step hcrash fun nowMs fault h => hno ⟨nowMs, fault, h⟩, hdown] at hup
    cases hup
  obtain ⟨nowMs, fault, rfl⟩ := hstart
  simp only [step, hdown, Bool.false_eq_true, if_false] at hup hrow
  rw [Store.recoverInterrupted_isOk hup, Table.lookup_mapRows] at hrow
  obtain ⟨old, -, rfl⟩ := Option.map_eq_some_iff.mp hrow
  unfold Store.interruptOperation
  split
  · rintro ⟨⟩
  · assumption

/-! ### The tasks at work -/

omit [DecidableEq δ] in
theorem works_setTask {daemon : Daemon δ} {connection other : Nat} {device : DeviceRecord}
    {task : Option Task} {key : OperationKey}
    (h : (daemon.setTask connection device task).Works other key) :
    (other = connection ∧ ∃ t, task = some t ∧ Task.works key t) ∨ daemon.Works other key := by
  obtain ⟨device', t, hconnection, hworks⟩ := h
  rw [setTask_connections] at hconnection
  by_cases hc : other = connection
  · subst hc
    rw [Function.update_self] at hconnection
    cases hconnection
    exact .inl ⟨rfl, t, rfl, hworks⟩
  · rw [Function.update_of_ne hc] at hconnection
    exact .inr ⟨device', t, hconnection, hworks⟩

/-- The claim starts the work, and concerns no other connection. -/
def Begins (daemon daemon' : Daemon δ) (effect : Option Effect) (connection : Nat)
    (key : OperationKey) : Prop :=
  (∃ request, effect = some (.claimed key request)) ∧
    ∀ other, other ≠ connection → daemon'.connections other = daemon.connections other

omit [DecidableEq δ] in
theorem works_idle {daemon : Daemon δ} {connection other : Nat} {device : DeviceRecord}
    {key : OperationKey} (h : (daemon.setTask connection device none).Works other key) :
    daemon.Works other key := by
  rcases works_setTask h with ⟨-, t, ht, -⟩ | hbefore
  · cases ht
  · exact hbefore

theorem claim_works {daemon : Daemon δ} {connection other : Nat} {device : DeviceRecord}
    {envelope : RequestEnvelope} {nowMs : UInt64} {fault : Option Nat} {key : OperationKey}
    (h : (daemon.claim backend connection device envelope nowMs fault).2.Works other key) :
    daemon.Works other key ∨
      Begins daemon (daemon.claim backend connection device envelope nowMs fault).2
        (some (daemon.claim backend connection device envelope nowMs fault).1) other key := by
  unfold claim at h ⊢
  cases hvalid : envelope.validate with
  | error error =>
    rw [hvalid] at h
    exact .inl (works_idle h)
  | ok value =>
    rw [hvalid] at h
    dsimp only at h ⊢
    split at h
    · exact .inl (works_idle h)
    rename_i hauthorized
    rw [if_neg hauthorized]
    cases hoperation : envelope.operationId with
    | none =>
      rw [hoperation] at h
      rcases works_setTask h with ⟨-, t, ⟨⟩, ⟨⟩⟩ | hbefore
      exact .inl hbefore
    | some operationId =>
      rw [hoperation] at h
      dsimp only at h ⊢
      generalize daemon.store.claimOperation backend ⟨device.deviceId, operationId⟩ envelope.request
        nowMs fault = claimed at h ⊢
      cases hanswer : claimAnswer claimed.1 with
      | none =>
        rw [hanswer] at h
        rcases works_setTask h with ⟨rfl, t, ⟨⟩, hkey⟩ | hbefore
        · subst hkey
          exact .inr ⟨⟨envelope.request, rfl⟩, fun _ hne => Function.update_of_ne hne _ _⟩
        · exact .inl hbefore
      | some outcome =>
        rw [hanswer] at h
        exact .inl (works_idle h)

/-- A task at work was so before, or begins. -/
theorem works_step {daemon : Daemon δ} {input : DaemonInput} {connection : Nat}
    {key : OperationKey} (h : (daemon.step backend input).2.Works connection key) :
    daemon.Works connection key ∨
      Begins daemon (daemon.step backend input).2 (daemon.step backend input).1 connection key := by
  cases input with
  | connect c device =>
    dsimp only [step] at h
    split at h
    · exact .inl (works_idle h)
    · exact .inl h
  | receive c frame =>
    dsimp only [step] at h
    split at h
    · -- a frame that arrives is only claimed, so there is no work yet
      rcases works_setTask h with ⟨-, t, ⟨⟩, ⟨⟩⟩ | hbefore
      exact .inl hbefore
    · exact .inl h
  | claim c nowMs fault =>
    dsimp only [step] at h ⊢
    split at h
    · exact claim_works h
    · exact .inl h
  | call c =>
    dsimp only [step] at h
    split at h
    · rename_i device key' request hconnection
      rcases works_setTask h with ⟨rfl, t, ⟨⟩, hworks⟩ | hbefore
      · exact .inl ⟨device, _, hconnection, Option.some.inj hworks⟩
      · exact .inl hbefore
    · exact .inl h
  | «return» c outcome =>
    dsimp only [step] at h
    split at h
    · rename_i device key' request hconnection
      rcases works_setTask h with ⟨rfl, t, ⟨⟩, hworks⟩ | hbefore
      · exact .inl ⟨device, _, hconnection, congrArg some hworks⟩
      · exact .inl hbefore
    · exact .inl (works_idle h)
    · exact .inl h
  | complete c nowMs fault =>
    dsimp only [step] at h
    split at h
    · refine .inl ?_
      dsimp only [complete, Prod.map] at h
      split at h <;> exact works_idle h
    · exact .inl h
  | disconnect c =>
    obtain ⟨device, task, hconnection, hworks⟩ := h
    change Function.update daemon.connections c none connection = _ at hconnection
    -- whoever disconnects is at work no more
    by_cases hc : connection = c
    · subst hc
      rw [Function.update_self] at hconnection
      cases hconnection
    · rw [Function.update_of_ne hc] at hconnection
      exact .inl ⟨device, task, hconnection, hworks⟩
  | store operation =>
    dsimp only [step] at h
    split at h <;> exact .inl h
  | crash =>
    obtain ⟨device, task, hconnection, -⟩ := h
    cases hconnection
  | start nowMs fault =>
    dsimp only [step] at h
    split at h <;> exact .inl h

/-- An outcome is recorded by a connection at work, which then is idle. -/
theorem records_works {daemon : Daemon δ} {input : DaemonInput} {key : OperationKey}
    {outcome : ResponseOutcome} (h : (daemon.step backend input).1 = some (.recorded key outcome)) :
    ∃ connection device, daemon.Works connection key ∧
      (daemon.step backend input).2.connections =
        Function.update daemon.connections connection (some ⟨device, none⟩) := by
  cases input with
  | complete connection nowMs fault =>
    dsimp only [step] at h ⊢
    split at h
    · rename_i device key' outcome' hconnection
      dsimp only [complete, Prod.map] at h ⊢
      split at h
      · cases h
      · cases h
        exact ⟨connection, device, ⟨device, _, hconnection, rfl⟩, rfl⟩
    · cases h
  | claim connection nowMs fault =>
    dsimp only [step] at h
    split at h
    · rename_i device envelope _
      dsimp only [claim, Prod.map] at h
      repeat' split at h
      all_goals cases h
    · cases h
  | connect | receive | call | «return» | store =>
    dsimp only [step] at h
    split at h <;> cases h
  | disconnect | crash => cases h
  | start nowMs fault =>
    dsimp only [step] at h
    split at h <;> cases h

/-! ## What is so in every run -/

omit [DecidableEq δ] in
theorem running_append {history : List (PruningEvent δ)} {e : PruningEvent δ} {key : OperationKey} :
    Running (history ++ [e]) key ↔
      (∃ request, e.output = some (.claimed key request)) ∨
        (Running history key ∧ ¬ Ends key e) := by
  rw [Running, List.foldl_append]
  rfl

/-- What the history and the state of the daemon have to do with each other, whatever
is pruned. -/
structure Backed (backend : Backend δ) (history : List (PruningEvent δ)) (daemon : Daemon δ) :
    Prop where
  idle : daemon.DownIdle
  up : ∀ key, Running history key → daemon.up = true
  pending : daemon.up = true → ∀ key row, daemon.store.operations.lookup key = some row →
    row.status = .pending → Running history key
  encoded : ∀ key, Running history key → ∃ request encoded,
    backend.encodeRequest request = .ok encoded

omit [DecidableEq δ] in
theorem backed_create (serverId : ServerId) : Backed backend [] (create (δ := δ) serverId) where
  idle _ _ h := by cases h
  up _ h := h.elim
  pending h := by cases h
  encoded _ h := h.elim

/-- A claim is made by a daemon that is up. -/
theorem claimed_up {daemon : Daemon δ} (hidle : daemon.DownIdle) {input : DaemonInput}
    {key : OperationKey} {request : ControlRequest}
    (h : (daemon.step backend input).1 = some (.claimed key request)) :
    (daemon.step backend input).2.up = true ∧ ∃ encoded,
      backend.encodeRequest request = .ok encoded := by
  have hafter : (daemon.step backend input).2.DownIdle := downIdle_step hidle input
  have heffect := daemon.step_effect backend input
  generalize (daemon.step backend input).1 = effect, (daemon.step backend input).2 = daemon' at *
  cases heffect with
  | claims connection device _ _ encoded nowMs hencoded _ hconnections =>
    cases h
    exact ⟨hafter connection _ (by rw [hconnections, Function.update_self]), encoded, hencoded⟩
  | quiet hquiet =>
    rw [h] at hquiet
    cases hquiet
  | calls | records | recovers => cases h

/-- A pruning neither claims nor ends an operation. -/
theorem running_prune (backend : Backend δ) (history : List (PruningEvent δ)) (daemon : Daemon δ)
    (deviceId : DeviceId) (olderThanMs : UInt64) (maxCount : Nat) (fault : Option Nat)
    (key : OperationKey) :
    Running (history ++ [Mealy.event (pruningStep backend) daemon
      (.prune deviceId olderThanMs maxCount fault)]) key ↔ Running history key := by
  have hsilent : (daemon.pruningStep backend (.prune deviceId olderThanMs maxCount fault)).1 =
      none := by
    dsimp only [pruningStep]
    split <;> rfl
  rw [running_append]
  constructor
  · rintro (⟨request, hclaim⟩ | ⟨hbefore, -⟩)
    · cases hsilent.symm.trans hclaim
    · exact hbefore
  · refine fun hbefore => .inr ⟨hbefore, ?_⟩
    rintro (hcrash | ⟨outcome, hrecorded⟩)
    · cases hcrash
    · cases hsilent.symm.trans hrecorded

/-- A pruning changes rows of the ledger only, and adds none. -/
theorem prune_step (backend : Backend δ) (daemon : Daemon δ) (deviceId : DeviceId)
    (olderThanMs : UInt64) (maxCount : Nat) (fault : Option Nat) :
    (daemon.pruningStep backend (.prune deviceId olderThanMs maxCount fault)).2.up = daemon.up ∧
      (daemon.pruningStep backend (.prune deviceId olderThanMs maxCount fault)).2.connections =
        daemon.connections ∧
      ∀ key row, (daemon.pruningStep backend
          (.prune deviceId olderThanMs maxCount fault)).2.store.operations.lookup key = some row →
        daemon.store.operations.lookup key = some row := by
  dsimp only [pruningStep]
  split
  · exact ⟨rfl, rfl, fun key row h => Store.lookup_pruneOperations_of_some h⟩
  · exact ⟨rfl, rfl, fun key row h => h⟩

theorem backed_step {history : List (PruningEvent δ)} {daemon : Daemon δ}
    (h : Backed backend history daemon) (input : PruningInput) :
    Backed backend (history ++ [Mealy.event (pruningStep backend) daemon input])
      (daemon.pruningStep backend input).2 := by
  cases input with
  | daemon input =>
    refine ⟨downIdle_step h.idle input, fun key hrunning => ?_, fun hup key row hrow hpending => ?_,
      fun key hrunning => ?_⟩
    · rcases running_append.mp hrunning with ⟨request, hclaim⟩ | ⟨hbefore, hends⟩
      · exact (claimed_up h.idle hclaim).1
      · refine stays_up (h.up key hbefore) ?_
        rintro rfl
        exact hends (.inl rfl)
    · rw [running_append]
      rcases pending_step hrow hpending with hbefore | hclaim
      · by_cases hbeforeUp : daemon.up = true
        · refine .inr ⟨h.pending hbeforeUp key row hbefore hpending, ?_⟩
          rintro (hcrash | ⟨outcome, hrecorded⟩)
          · cases hcrash
            cases hup
          · -- the row that the step records is completed
            exact absurd hpending (recorded_row hrecorded hrow)
        · exact absurd hpending (pending_start (by simpa using hbeforeUp) hup hrow)
      · exact .inl hclaim
    · rcases running_append.mp hrunning with ⟨request, hclaim⟩ | ⟨hbefore, -⟩
      · obtain ⟨-, encoded, hencoded⟩ := claimed_up h.idle hclaim
        exact ⟨request, encoded, hencoded⟩
      · exact h.encoded key hbefore
  | prune deviceId olderThanMs maxCount fault =>
    have hrunning := running_prune backend history daemon deviceId olderThanMs maxCount
      fault
    obtain ⟨hup, hconnections, hrows⟩ :=
      prune_step backend daemon deviceId olderThanMs maxCount fault
    refine ⟨fun connection entry hentry => ?_, fun key h' => ?_, fun h' key row hrow hpending => ?_,
      fun key h' => ?_⟩
    · rw [hup]
      exact h.idle connection entry (by rwa [hconnections] at hentry)
    · rw [hup]
      exact h.up key ((hrunning key).mp h')
    · rw [hup] at h'
      exact (hrunning key).mpr (h.pending h' key row (hrows key row hrow) hpending)
    · exact h.encoded key ((hrunning key).mp h')

/-! ## What the condition keeps -/

/-- The ledger has the row of every running operation, and one connection at most
works on it. -/
structure Held (history : List (PruningEvent δ)) (daemon : Daemon δ) : Prop where
  row : ∀ key, Running history key → ∃ row,
    daemon.store.operations.lookup key = some row ∧ row.status = .pending
  works : ∀ connection key, daemon.Works connection key → Running history key
  alone : ∀ connection other key, daemon.Works connection key → daemon.Works other key →
    other = connection

omit [DecidableEq δ] in
theorem held_create (serverId : ServerId) : Held [] (create (δ := δ) serverId) where
  row _ h := h.elim
  works _ _ h := by
    obtain ⟨device, task, hconnection, -⟩ := h
    cases hconnection
  alone _ _ _ h := by
    obtain ⟨device, task, hconnection, -⟩ := h
    cases hconnection

/-- A task that is still at work after a step has not ended. -/
theorem works_on {history : List (PruningEvent δ)} {daemon : Daemon δ} (h : Held history daemon)
    {input : DaemonInput} {connection : Nat} {key : OperationKey}
    (hbefore : daemon.Works connection key)
    (hafter : (daemon.step backend input).2.Works connection key) :
    ¬ Ends key (Mealy.event (pruningStep backend) daemon (.daemon input)) := by
  rintro (hcrash | ⟨outcome, hrecorded⟩)
  · cases hcrash
    obtain ⟨device, task, hconnection, -⟩ := hafter
    cases hconnection
  · obtain ⟨other, device, hworks, hconnections⟩ := records_works hrecorded
    obtain rfl := h.alone connection other key hbefore hworks
    obtain ⟨device', task, hconnection, -⟩ := hafter
    rw [hconnections, Function.update_self] at hconnection
    cases hconnection

theorem held_step {history : List (PruningEvent δ)} {daemon : Daemon δ}
    (hbacked : Backed backend history daemon) (h : Held history daemon) (input : PruningInput)
    (hsparing : daemon.Sparing input) :
    Held (history ++ [Mealy.event (pruningStep backend) daemon input])
      (daemon.pruningStep backend input).2 := by
  cases input with
  | daemon input =>
    -- nobody has worked on an operation that is claimed now
    have hfresh : ∀ connection key, daemon.Works connection key → ∀ request,
        (daemon.step backend input).1 ≠ some (.claimed key request) := by
      intro connection key hworks request hclaim
      obtain ⟨row, hrow, -⟩ := h.row key (h.works connection key hworks)
      rw [(claimed_row hclaim).1] at hrow
      cases hrow
    refine ⟨fun key hrunning => ?_, fun connection key hworks => ?_,
      fun connection other key hworks hworks' => ?_⟩
    · rcases running_append.mp hrunning with ⟨request, hclaim⟩ | ⟨hbefore, hends⟩
      · exact (claimed_row hclaim).2
      · obtain ⟨row, hrow, hpending⟩ := h.row key hbefore
        rcases lookup_step (hbacked.up key hbefore) input hrow with hsame | hrecorded
        · exact ⟨row, hsame, hpending⟩
        · exact absurd (.inr hrecorded) hends
    · rw [running_append]
      rcases works_step hworks with hbefore | ⟨hclaim, -⟩
      · exact .inr ⟨h.works connection key hbefore, works_on h hbefore hworks⟩
      · exact .inl hclaim
    · rcases works_step hworks with hbefore | ⟨⟨request, hclaim⟩, hothers⟩
      · rcases works_step hworks' with hbefore' | ⟨⟨request, hclaim⟩, -⟩
        · exact h.alone connection other key hbefore hbefore'
        · exact absurd hclaim (hfresh connection key hbefore request)
      · by_contra hne
        obtain ⟨device, task, hconnection, hkey⟩ := hworks'
        have hconnection : daemon.connections other = _ :=
          (hothers other hne).symm.trans hconnection
        exact hfresh other key ⟨device, task, hconnection, hkey⟩ request hclaim
  | prune deviceId olderThanMs maxCount fault =>
    have hrunning := running_prune backend history daemon deviceId olderThanMs maxCount
      fault
    obtain ⟨-, hconnections, -⟩ :=
      prune_step backend daemon deviceId olderThanMs maxCount fault
    have hworks : ∀ connection key, (daemon.pruningStep backend
        (.prune deviceId olderThanMs maxCount fault)).2.Works connection key →
        daemon.Works connection key := fun connection key hworks => by
      obtain ⟨device, task, hconnection, hkey⟩ := hworks
      exact ⟨device, task, by rwa [hconnections] at hconnection, hkey⟩
    refine ⟨fun key h' => ?_, fun connection key h' => ?_, fun connection other key h₁ h₂ => ?_⟩
    · have hbefore := (hrunning key).mp h'
      obtain ⟨row, hrow, hpending⟩ := h.row key hbefore
      have hup := hbacked.up key hbefore
      refine ⟨row, ?_, hpending⟩
      dsimp only [pruningStep]
      rw [if_pos hup]
      exact (Store.lookup_pruneOperations hrow olderThanMs maxCount fault).mpr
        (hsparing hup key row hrow hpending)
    · exact (hrunning key).mpr (h.works connection key (hworks connection key h'))
    · exact h.alone connection other key (hworks connection key h₁) (hworks other key h₂)

/-- The row of a running operation protects it. -/
theorem Held.protects {history : List (PruningEvent δ)} {daemon : Daemon δ}
    (h : Held history daemon) {key : OperationKey} (hrunning : Running history key) :
    Protected backend daemon key := by
  obtain ⟨row, hrow, hpending⟩ := h.row key hrunning
  refine ⟨?_, ?_, ?_, ?_⟩
  · intro request encoded nowMs hencoded hnow
    unfold Store.claimOperation
    rw [hencoded, sqlU64_ok.mpr ⟨hnow, rfl⟩, hrow]
    by_cases hhash : row.requestHash = backend.sha256 encoded
    · simp [hhash, hpending]
    · simp [hhash]
  · intro outcome encoded nowMs hencoded hnow
    unfold Store.completeOperation
    rw [hencoded, sqlU64_ok.mpr ⟨hnow, rfl⟩, hrow]
    simp [hpending]
  · intro input request hclaim
    cases input with
    | daemon input =>
      have hnone := (claimed_row hclaim).1
      rw [hrow] at hnone
      cases hnone
    | prune =>
      dsimp only [pruningStep] at hclaim
      split at hclaim <;> cases hclaim
  · intro input request hcall connection device request' hexecuting
    cases input with
    | daemon input =>
      have heffect := daemon.step_effect backend input
      have hcall : (daemon.step backend input).1 = some (.called (some key) request) := hcall
      rw [hcall] at heffect
      generalize (daemon.step backend input).2 = daemon' at heffect
      cases heffect with
      | calls caller device' _ _ hcaller =>
        -- the caller works on the key, and so does the connection that executes
        obtain rfl := h.alone caller connection key ⟨device', _, hcaller, rfl⟩
          ⟨device, _, hexecuting, rfl⟩
        rw [hcaller] at hexecuting
        cases hexecuting
      | quiet hquiet => cases hquiet
    | prune =>
      dsimp only [pruningStep] at hcall
      split at hcall <;> cases hcall

/-! ## The law -/

/-- The steps of a run of the daemon on a new database, prunings included. -/
def pruningHistory (backend : Backend δ) (serverId : ServerId) (inputs : List PruningInput) :
    List (PruningEvent δ) :=
  Mealy.trace (pruningStep backend) (create serverId) inputs

/-- In every state of the run, running operations are protected. -/
def AlwaysProtected (backend : Backend δ) (serverId : ServerId) (inputs : List PruningInput) :
    Prop :=
  ∀ pre post, inputs = pre ++ post → ∀ key, Running (pruningHistory backend serverId pre) key →
    Protected backend (Mealy.run (pruningStep backend) (create serverId) pre) key

/-- A protected operation has a row. -/
theorem Protected.row {daemon : Daemon δ} {key : OperationKey} (h : Protected backend daemon key)
    {request : ControlRequest} {encoded : ByteArray}
    (hencoded : backend.encodeRequest request = .ok encoded) :
    ∃ row, daemon.store.operations.lookup key = some row := by
  have hclaim := h.claim request encoded 0 hencoded (by decide)
  cases hrow : daemon.store.operations.lookup key with
  | some row => exact ⟨row, rfl⟩
  | none =>
    exfalso
    unfold Store.claimOperation at hclaim
    rw [hencoded, sqlU64_ok.mpr ⟨by decide, rfl⟩, hrow] at hclaim
    dsimp only at hclaim
    simp only [Option.isSome_none, Bool.false_eq_true, if_false] at hclaim
    split at hclaim
    · simp at hclaim
    · split at hclaim <;> simp at hclaim

/-- Where a pruning takes the row of a running operation, it leaves it unprotected. -/
theorem sparing_of_protected {history : List (PruningEvent δ)} {daemon : Daemon δ}
    (hbacked : Backed backend history daemon) (input : PruningInput)
    (h : ∀ key, Running (history ++ [Mealy.event (pruningStep backend) daemon input]) key →
      Protected backend (daemon.pruningStep backend input).2 key) : daemon.Sparing input := by
  cases input with
  | daemon input => trivial
  | prune deviceId olderThanMs maxCount fault =>
    intro hup key row hrow hpending hdevice
    have hrunning := hbacked.pending hup key row hrow hpending
    obtain ⟨request, encoded, hencoded⟩ := hbacked.encoded key hrunning
    have hstill := running_prune backend history daemon deviceId olderThanMs maxCount
      fault key
    obtain ⟨row', hrow'⟩ := (h key (hstill.mpr hrunning)).row hencoded
    -- the row that is there is the one from before
    dsimp only [pruningStep] at hrow'
    rw [if_pos hup] at hrow'
    have hsame := Store.lookup_pruneOperations_of_some hrow'
    rw [hrow] at hsame
    cases hsame
    exact (Store.lookup_pruneOperations hrow olderThanMs maxCount fault).mp hrow' hdevice

/-- **Pruning and running operations.** In every run of the daemon with prunings: an
operation that has been claimed for execution and not completed is reported as in
progress or conflicting to every claim of its key, is not handed to the controller
while it executes, and has its completion recorded, in every state of the run, if and
only if every pruning finds the pending rows of its device not older than its cutoff
and among the newest `maxCount`. -/
theorem pruning_spares_iff (backend : Backend δ) (serverId : ServerId)
    (inputs : List PruningInput) :
    AlwaysProtected backend serverId inputs ↔
      Along (fun daemon input => (pruningStep backend daemon input).2) Sparing
        (create serverId) inputs := by
  constructor
  · intro h
    -- from any point of the run on
    have hrest : ∀ history daemon (rest : List PruningInput), Backed backend history daemon →
        (∀ pre post, rest = pre ++ post → ∀ key,
          Running (history ++ Mealy.trace (pruningStep backend) daemon pre) key →
            Protected backend (Mealy.run (pruningStep backend) daemon pre) key) →
        Along (fun daemon input => (pruningStep backend daemon input).2) Sparing daemon rest := by
      intro history daemon rest hbacked h
      induction rest generalizing history daemon with
      | nil => trivial
      | cons input rest ih =>
        refine ⟨sparing_of_protected hbacked input fun key hrunning => ?_, ?_⟩
        · exact h [input] rest rfl key hrunning
        · refine ih _ _ (backed_step hbacked input) fun pre post hsplit key hrunning => ?_
          refine h (input :: pre) post (by rw [hsplit]; rfl) key ?_
          rwa [List.append_assoc] at hrunning
    exact hrest [] (create serverId) inputs (backed_create serverId)
      fun pre post hsplit key hrunning => h pre post hsplit key hrunning
  · rintro halong pre post rfl key hrunning
    have hheld := Mealy.history_invariant_along
      (P := fun history daemon => Backed backend history daemon ∧ Held history daemon)
      ⟨backed_create serverId, held_create serverId⟩
      (fun history daemon input h hsparing =>
        ⟨backed_step h.1 input, held_step h.1 h.2 input hsparing⟩) (along_append.mp halong).1
    exact hheld.2.protects hrunning

/-- A device that may stop agents. -/
def tablet : DeviceRecord :=
  ⟨⟨"tablet"⟩, "tablet", .mobile, ⟨false, false, false, true, false, false⟩, 0, none, none⟩

def stopping : ClientFrame := .request ⟨⟨"1"⟩, some ⟨"operation"⟩, .stopAgent ⟨"agent"⟩⟩

/-- A connection executes a request; what is older than the time 100 is pruned; the
device sends the request again on another connection. -/
def overtaken : List PruningInput :=
  [.daemon (.start 0 none), .daemon (.store (.insertDevice tablet ⟨"token"⟩ none)),
    .daemon (.connect 0 tablet), .daemon (.connect 1 tablet), .daemon (.receive 0 stopping),
    .daemon (.claim 0 60 none), .daemon (.call 0), .prune ⟨"tablet"⟩ 100 10 none,
    .daemon (.receive 1 stopping)]

def again : List PruningInput := [.daemon (.claim 1 120 none), .daemon (.call 1)]

theorem pruned_executes_again :
    ¬ AlwaysProtected Server.byteBackend ⟨"server"⟩ (overtaken ++ again) ∧
      (pruningHistory Server.byteBackend ⟨"server"⟩ (overtaken ++ again)).filterMap
          Mealy.Event.output =
        [.claimed ⟨⟨"tablet"⟩, ⟨"operation"⟩⟩ (.stopAgent ⟨"agent"⟩),
          .called (some ⟨⟨"tablet"⟩, ⟨"operation"⟩⟩) (.stopAgent ⟨"agent"⟩),
          .claimed ⟨⟨"tablet"⟩, ⟨"operation"⟩⟩ (.stopAgent ⟨"agent"⟩),
          .called (some ⟨⟨"tablet"⟩, ⟨"operation"⟩⟩) (.stopAgent ⟨"agent"⟩)] := by
  refine ⟨fun h => ?_, by decide +kernel⟩
  have hrunning : Running (pruningHistory Server.byteBackend ⟨"server"⟩ overtaken)
      ⟨⟨"tablet"⟩, ⟨"operation"⟩⟩ := by decide +kernel
  exact (h overtaken again rfl ⟨⟨"tablet"⟩, ⟨"operation"⟩⟩ hrunning).claimed
    (.daemon (.claim 1 120 none)) (.stopAgent ⟨"agent"⟩) (by decide +kernel)

end Daemon

end OmpRemote.Ompd

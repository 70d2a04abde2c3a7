import OmpRemote.Ompd.Requests

/-!
# Operations are executed at most once

The claim of an operation id inserts its row, and rows of the ledger are never
deleted, so a second claim finds the first. What lies between the claim and the
call is a connection's task, of which there is one; a crash drops it and leaves
the row behind.

- `claimOperation_cases`, `completeOperation_cases`: the ledger, one statement at
  a time.
- `StepEffect`: the five things a step of the daemon can do to the ledger and to
  the tasks about to call.
- `at_most_once`: the law over whole runs, crashes included.
-/

namespace OmpRemote.Ompd

open Lib

variable {δ : Type} [DecidableEq δ] {backend : Backend δ}

/-! ## The ledger -/

namespace Store

/-- The row a claim inserts. -/
def claimedRow (requestHash : δ) (nowMs : UInt64) : OperationRow δ :=
  ⟨requestHash, .pending, none, nowMs, none⟩

/-- A claim is granted by inserting the row of a new key, or refused with the
ledger unchanged. -/
theorem claimOperation_cases (backend : Backend δ) (store : Store δ) (key : OperationKey)
    (request : ControlRequest)
    (nowMs : UInt64) (fault : Option Nat) :
    (∃ encoded operations, backend.encodeRequest request = .ok encoded ∧
        store.operations.insert key (claimedRow (backend.sha256 encoded) nowMs) = some operations ∧
        store.claimOperation backend key request nowMs fault =
          (.ok .execute, { store with operations })) ∨
      ∃ result, store.claimOperation backend key request nowMs fault = (result, store) ∧
        result ≠ .ok .execute := by
  unfold claimOperation
  split
  · exact .inr ⟨_, rfl, by rintro ⟨⟩⟩
  rename_i encoded hencoded
  cases hnow : sqlU64 nowMs "operation created_at_ms" with
  | error error => exact .inr ⟨_, rfl, by rintro ⟨⟩⟩
  | ok value =>
    obtain ⟨-, rfl⟩ := sqlU64_ok.mp hnow
    dsimp only
    split
    · exact .inr ⟨_, rfl, by rintro ⟨⟩⟩
    split
    · split
      · exact .inr ⟨_, rfl, by rintro ⟨⟩⟩
      split
      · exact .inr ⟨_, rfl, by rintro ⟨⟩⟩
      · rename_i operations hinsert
        exact .inl ⟨encoded, operations, hencoded, hinsert, rfl⟩
    -- the key is taken
    split
    · exact .inr ⟨_, rfl, by rintro ⟨⟩⟩
    split
    · exact .inr ⟨_, rfl, by rintro ⟨⟩⟩
    · exact .inr ⟨_, rfl, by rintro ⟨⟩⟩
    split
    · exact .inr ⟨_, rfl, by rintro ⟨⟩⟩
    split <;> exact .inr ⟨_, rfl, by rintro ⟨⟩⟩

/-- What the claim of a known request is answered with. -/
theorem claimOperation_again {store : Store δ} {key : OperationKey} {request : ControlRequest}
    {row : OperationRow δ} {encoded : ByteArray} (hrow : store.operations.lookup key = some row)
    (hencoded : backend.encodeRequest request = .ok encoded)
    (hhash : row.requestHash = backend.sha256 encoded) (nowMs : UInt64) (fault : Option Nat) :
    (∃ bytes outcome, row.status = .completed ∧ row.outcomeCbor = some bytes ∧
        backend.decodeOutcome bytes = .ok outcome ∧
        (store.claimOperation backend key request nowMs fault).1 = .ok (.completed outcome)) ∨
      (store.claimOperation backend key request nowMs fault).1 = .ok .inProgress ∨
      (store.claimOperation backend key request nowMs fault).1 = .ok .indeterminate ∨
      ∃ error, (store.claimOperation backend key request nowMs fault).1 =
        .error (.store error) := by
  unfold claimOperation
  rw [hencoded]
  dsimp only
  split
  · exact .inr (.inr (.inr ⟨_, rfl⟩))
  split
  · exact .inr (.inr (.inr ⟨_, rfl⟩))
  rw [hrow]
  dsimp only
  rw [if_neg (by simpa using hhash)]
  split
  · exact .inr (.inl rfl)
  · exact .inr (.inr (.inl rfl))
  rename_i hstatus
  split
  · exact .inr (.inr (.inr ⟨_, rfl⟩))
  rename_i bytes hbytes
  split
  · exact .inr (.inr (.inr ⟨_, rfl⟩))
  rename_i outcome hdecoded
  exact .inl ⟨bytes, outcome, hstatus, hbytes, hdecoded, rfl⟩

/-- Record the outcome of a pending operation. -/
def recordOutcome (encoded : ByteArray) (nowMs : UInt64) (row : OperationRow δ) :
    OperationRow δ :=
  { row with status := .completed, outcomeCbor := some encoded, completedAtMs := some nowMs }

omit [DecidableEq δ] in
theorem completeOperation_cases (backend : Backend δ) (store : Store δ) (key : OperationKey)
    (outcome : ResponseOutcome)
    (nowMs : UInt64) (fault : Option Nat) :
    (∃ error, store.completeOperation backend key outcome nowMs fault = (.error error, store)) ∨
      ∃ encoded, backend.encodeOutcome outcome = .ok encoded ∧
        store.completeOperation backend key outcome nowMs fault =
          (.ok (), { store with
            operations := store.operations.modify key (recordOutcome encoded nowMs) }) := by
  unfold completeOperation
  split
  · exact .inl ⟨_, rfl⟩
  rename_i encoded hencoded
  cases hnow : sqlU64 nowMs "operation completed_at_ms" with
  | error error => exact .inl ⟨_, rfl⟩
  | ok value =>
    obtain ⟨-, rfl⟩ := sqlU64_ok.mp hnow
    dsimp only
    split
    · exact .inl ⟨_, rfl⟩
    split
    · exact .inr ⟨encoded, hencoded, rfl⟩
    · exact .inl ⟨_, rfl⟩

omit [DecidableEq δ] in
/-- Reopening marks pending operations, as far as it gets. -/
theorem recoverInterrupted_operations (store : Store δ) (nowMs : UInt64) (fault : Option Nat) :
    (store.recoverInterrupted nowMs fault).2.operations = store.operations ∨
      (store.recoverInterrupted nowMs fault).2.operations =
        store.operations.mapRows fun _ => interruptOperation := by
  unfold recoverInterrupted
  split
  · exact .inl rfl
  split
  · exact .inl rfl
  dsimp only
  split
  · exact .inl rfl
  · exact .inr rfl

end Store

/-! ## What a step does -/

namespace Daemon

omit [DecidableEq δ] in
/-- The connection has claimed the key and is about to call the controller. -/
def Holds (daemon : Daemon δ) (connection : Nat) (key : OperationKey) (request : ControlRequest) :
    Prop :=
  ∃ device, daemon.connections connection = some ⟨device, some (.claimed key request)⟩

/-- Effects that concern no operation of the ledger. -/
def Effect.quiet : Option Effect → Bool
  | none | some (.answered _) | some (.called none _) => true
  | _ => false

/-- What a step does to the ledger and to the tasks about to call. -/
inductive StepEffect (backend : Backend δ) (daemon : Daemon δ) :
    Option Effect → Daemon δ → Prop where
  /-- The ledger is unchanged, and no task is newly about to call. -/
  | quiet {effect daemon'} : Effect.quiet effect = true →
      daemon'.store.operations = daemon.store.operations →
      (∀ connection key request, daemon'.Holds connection key request →
        daemon.Holds connection key request) →
      StepEffect backend daemon effect daemon'
  /-- A new key is claimed, and the connection's task is about to call. -/
  | claims {daemon'} (connection device key request encoded nowMs) :
      backend.encodeRequest request = .ok encoded →
      daemon.store.operations.insert key (Store.claimedRow (backend.sha256 encoded) nowMs) =
        some daemon'.store.operations →
      daemon'.connections = Function.update daemon.connections connection
        (some ⟨device, some (.claimed key request)⟩) →
      StepEffect backend daemon (some (.claimed key request)) daemon'
  /-- A task that was about to call calls. -/
  | calls (connection device key request) :
      daemon.connections connection = some ⟨device, some (.claimed key request)⟩ →
      StepEffect backend daemon (some (.called (some key) request))
        (daemon.setTask connection device (some (.executing (some key) request)))
  /-- The outcome of an operation is recorded. -/
  | records {daemon'} (key outcome encoded nowMs) :
      backend.encodeOutcome outcome = .ok encoded →
      daemon'.store.operations =
        daemon.store.operations.modify key (Store.recordOutcome encoded nowMs) →
      (∀ connection key request, daemon'.Holds connection key request →
        daemon.Holds connection key request) →
      StepEffect backend daemon (some (.recorded key outcome)) daemon'
  /-- Pending operations become indeterminate. -/
  | recovers {daemon'} :
      daemon'.store.operations =
        daemon.store.operations.mapRows (fun _ => Store.interruptOperation) →
      daemon'.connections = daemon.connections →
      StepEffect backend daemon none daemon'

omit [DecidableEq δ] in
theorem holds_setTask {daemon : Daemon δ} {connection connection' : Nat} {device : DeviceRecord}
    {task : Option Task} {key : OperationKey} {request : ControlRequest}
    (htask : task ≠ some (.claimed key request))
    (h : (daemon.setTask connection device task).Holds connection' key request) :
    daemon.Holds connection' key request := by
  obtain ⟨device', h⟩ := h
  rw [setTask_connections] at h
  by_cases hc : connection' = connection
  · subst hc
    rw [Function.update_self] at h
    cases h
    exact absurd rfl htask
  · rw [Function.update_of_ne hc] at h
    exact ⟨device', h⟩

omit [DecidableEq δ] in
/-- A step that only moves a connection on, to no claim. -/
theorem stepEffect_setTask {daemon : Daemon δ} {effect : Option Effect} (connection : Nat)
    (device : DeviceRecord) {task : Option Task} (hquiet : Effect.quiet effect = true)
    (htask : ∀ key request, task ≠ some (.claimed key request)) :
    StepEffect backend daemon effect (daemon.setTask connection device task) :=
  .quiet hquiet rfl fun _ _ _ => holds_setTask (htask _ _)

omit [DecidableEq δ] in
theorem stepEffect_refl (daemon : Daemon δ) : StepEffect backend daemon none daemon :=
  .quiet rfl rfl fun _ _ _ h => h

theorem claim_effect (daemon : Daemon δ) (connection : Nat) (device : DeviceRecord)
    (envelope : RequestEnvelope) (nowMs : UInt64) (fault : Option Nat) :
    StepEffect backend daemon (some (daemon.claim backend connection device envelope nowMs fault).1)
      (daemon.claim backend connection device envelope nowMs fault).2 := by
  unfold claim
  split
  · exact stepEffect_setTask connection device rfl nofun
  split
  · exact stepEffect_setTask connection device rfl nofun
  split
  · exact stepEffect_setTask connection device rfl nofun
  rename_i operationId _
  dsimp only
  rcases daemon.store.claimOperation_cases backend ⟨device.deviceId, operationId⟩
    envelope.request nowMs fault with ⟨encoded, operations, hencoded, hinsert, h⟩ | ⟨result, h, hne⟩
  · rw [h]
    exact .claims connection device _ _ encoded nowMs hencoded hinsert rfl
  · rw [h]
    split
    · -- only a granted claim has no answer
      rename_i hanswer
      exfalso
      apply hne
      cases result with
      | error error => cases hanswer
      | ok claim => cases claim <;> first | rfl | cases hanswer
    · exact stepEffect_setTask connection device rfl nofun

omit [DecidableEq δ] in
theorem complete_effect (daemon : Daemon δ) (connection : Nat) (device : DeviceRecord)
    (key : OperationKey) (outcome : ResponseOutcome) (nowMs : UInt64) (fault : Option Nat) :
    StepEffect backend daemon
      (some (daemon.complete backend connection device key outcome nowMs fault).1)
      (daemon.complete backend connection device key outcome nowMs fault).2 := by
  unfold complete
  rcases daemon.store.completeOperation_cases backend key outcome nowMs fault with
    ⟨error, h⟩ | ⟨encoded, hencoded, h⟩
  · rw [h]
    exact stepEffect_setTask connection device rfl nofun
  · rw [h]
    refine .records key outcome encoded nowMs hencoded rfl fun connection' key' request h' => ?_
    have h' : (daemon.setTask connection device none).Holds connection' key' request := h'
    refine holds_setTask ?_ h'
    nofun

/-- **What a step of the daemon can do**, whatever its input. -/
theorem step_effect (backend : Backend δ) (daemon : Daemon δ) (input : DaemonInput) :
    StepEffect backend daemon (daemon.step backend input).1 (daemon.step backend input).2 := by
  cases input with
  | connect connection device =>
    dsimp only [step]
    split
    · exact stepEffect_setTask connection device rfl nofun
    · exact stepEffect_refl daemon
  | receive connection frame =>
    dsimp only [step]
    split
    · exact stepEffect_setTask connection _ rfl nofun
    · exact stepEffect_refl daemon
  | claim connection nowMs fault =>
    dsimp only [step]
    split
    · exact claim_effect daemon connection _ _ nowMs fault
    · exact stepEffect_refl daemon
  | call connection =>
    dsimp only [step]
    split
    · rename_i hconnection
      exact .calls connection _ _ _ hconnection
    · exact stepEffect_refl daemon
  | «return» connection outcome =>
    dsimp only [step]
    split
    · exact stepEffect_setTask connection _ rfl nofun
    · exact stepEffect_setTask connection _ rfl nofun
    · exact stepEffect_refl daemon
  | complete connection nowMs fault =>
    dsimp only [step]
    split
    · exact complete_effect daemon connection _ _ _ nowMs fault
    · exact stepEffect_refl daemon
  | disconnect connection =>
    refine .quiet rfl rfl fun connection' key request h => ?_
    obtain ⟨device, h⟩ := h
    change Function.update daemon.connections connection none connection' = _ at h
    by_cases hc : connection' = connection
    · subst hc
      rw [Function.update_self] at h
      cases h
    · rw [Function.update_of_ne hc] at h
      exact ⟨device, h⟩
  | store operation =>
    dsimp only [step]
    split
    · -- such an operation leaves the table of operations alone
      rename_i hguard
      rw [Bool.and_eq_true, leavesOperations, decide_eq_true_iff] at hguard
      exact .quiet rfl ((daemon.store.execute_frame backend operation).operations hguard.2)
        fun _ _ _ h => h
    · exact stepEffect_refl daemon
  | crash =>
    refine .quiet rfl rfl fun _ _ _ h => ?_
    -- after a crash no connection is left
    obtain ⟨device, h⟩ := h
    cases h
  | start nowMs fault =>
    dsimp only [step]
    split
    · exact stepEffect_refl daemon
    · rcases daemon.store.recoverInterrupted_operations nowMs fault with h | h
      · exact .quiet rfl h fun _ _ _ h => h
      · exact .recovers h rfl

/-! ## At most once -/

omit [DecidableEq δ] in
/-- The operation id has been claimed. -/
def Claimed (key : OperationKey) (daemon : Daemon δ) : Prop :=
  ∃ row, daemon.store.operations.lookup key = some row

omit [DecidableEq δ] in
/-- A claimed operation is about to be called by one connection at most, and only
claimed operations are. -/
def Exclusive (daemon : Daemon δ) : Prop :=
  ∀ connection key request, daemon.Holds connection key request → daemon.Claimed key ∧
    ∀ connection' request', daemon.Holds connection' key request' → connection' = connection

omit [DecidableEq δ] in
/-- The operation id has been claimed and no connection is about to call. -/
def Called (key : OperationKey) (daemon : Daemon δ) : Prop :=
  daemon.Claimed key ∧ ∀ connection request, ¬ daemon.Holds connection key request

def claims (key : OperationKey) (e : Event δ) : Bool :=
  match e.output with
  | some (.claimed key' _) => key' = key
  | _ => false

def calls (key : OperationKey) (e : Event δ) : Bool :=
  match e.output with
  | some (.called (some key') _) => key' = key
  | _ => false

omit [DecidableEq δ] in
/-- A key about to be inserted is not claimed. -/
theorem not_claimed_of_insert {daemon : Daemon δ} {key : OperationKey} {row : OperationRow δ}
    {operations : Table OperationKey (OperationRow δ)}
    (hinsert : daemon.store.operations.insert key row = some operations) :
    ¬ daemon.Claimed key := by
  rintro ⟨row', hrow'⟩
  rw [(Table.insert_eq_some hinsert).1] at hrow'
  cases hrow'

omit [DecidableEq δ] in
/-- Rows are never deleted and keep the hash of their request. -/
theorem row_step {daemon daemon' : Daemon δ} {effect : Option Effect} {key : OperationKey}
    {row : OperationRow δ} (h : StepEffect backend daemon effect daemon')
    (hrow : daemon.store.operations.lookup key = some row) :
    ∃ row', daemon'.store.operations.lookup key = some row' ∧
      row'.requestHash = row.requestHash := by
  cases h with
  | quiet _ hsame _ => exact ⟨row, by rw [hsame, hrow], rfl⟩
  | claims connection device key' request encoded nowMs _ hinsert _ =>
    have hne : key ≠ key' := by
      rintro rfl
      exact not_claimed_of_insert hinsert ⟨row, hrow⟩
    exact ⟨row, by rw [Table.lookup_insert hinsert, if_neg hne, hrow], rfl⟩
  | calls => exact ⟨row, hrow, rfl⟩
  | records key' outcome encoded nowMs _ hmodify _ =>
    rw [hmodify, Table.lookup_modify, hrow]
    split
    · exact ⟨_, rfl, rfl⟩
    · exact ⟨row, rfl, rfl⟩
  | recovers hmap _ =>
    rw [hmap, Table.lookup_mapRows, hrow]
    refine ⟨_, rfl, ?_⟩
    unfold Store.interruptOperation
    split <;> rfl

omit [DecidableEq δ] in
theorem claimed_step {daemon daemon' : Daemon δ} {effect : Option Effect} {key : OperationKey}
    (h : StepEffect backend daemon effect daemon') (hclaimed : daemon.Claimed key) :
    daemon'.Claimed key := by
  obtain ⟨row, hrow⟩ := hclaimed
  obtain ⟨row', hrow', -⟩ := row_step h hrow
  exact ⟨row', hrow'⟩

omit [DecidableEq δ] in
/-- After a claim, the claimant is about to call, and the others are as before. -/
theorem holds_of_claims {daemon daemon' : Daemon δ} {connection : Nat} {device : DeviceRecord}
    {key : OperationKey} {request : ControlRequest}
    (hconnections : daemon'.connections = Function.update daemon.connections connection
      (some ⟨device, some (.claimed key request)⟩))
    {connection' : Nat} {key' : OperationKey} {request' : ControlRequest}
    (h : daemon'.Holds connection' key' request') :
    (connection' = connection ∧ key' = key ∧ request' = request) ∨
      daemon.Holds connection' key' request' := by
  obtain ⟨device', h⟩ := h
  rw [hconnections] at h
  by_cases hc : connection' = connection
  · subst hc
    rw [Function.update_self] at h
    cases h
    exact .inl ⟨rfl, rfl, rfl⟩
  · rw [Function.update_of_ne hc] at h
    exact .inr ⟨device', h⟩

omit [DecidableEq δ] in
theorem exclusive_step {daemon daemon' : Daemon δ} {effect : Option Effect}
    (h : StepEffect backend daemon effect daemon') (hI : daemon.Exclusive) :
    daemon'.Exclusive := by
  have hclaimed : ∀ key, daemon.Claimed key → daemon'.Claimed key := fun key => claimed_step h
  -- but for a claim, no task is newly about to call
  have hshrink (hsub : ∀ connection key request, daemon'.Holds connection key request →
      daemon.Holds connection key request) : daemon'.Exclusive := by
    intro connection key request hholds
    obtain ⟨hkey, hunique⟩ := hI connection key request (hsub _ _ _ hholds)
    exact ⟨hclaimed key hkey, fun connection' request' h' =>
      hunique connection' request' (hsub _ _ _ h')⟩
  cases h with
  | quiet _ _ hsub => exact hshrink hsub
  | records _ _ _ _ _ _ hsub => exact hshrink hsub
  | calls connection device key request _ =>
    exact hshrink fun _ _ _ h' => holds_setTask (by nofun) h'
  | recovers _ hsame =>
    refine hshrink fun connection key request h' => ?_
    obtain ⟨device, h'⟩ := h'
    exact ⟨device, by rwa [hsame] at h'⟩
  | claims connection device key request encoded nowMs _ hinsert hconnections =>
    intro connection₁ key₁ request₁ h₁
    rcases holds_of_claims hconnections h₁ with ⟨rfl, rfl, rfl⟩ | hold₁
    · refine ⟨⟨_, by rw [Table.lookup_insert hinsert, if_pos rfl]⟩, fun connection₂ request₂ h₂ => ?_⟩
      rcases holds_of_claims hconnections h₂ with ⟨rfl, -, -⟩ | hold₂
      · rfl
      · exact absurd (hI _ _ _ hold₂).1 (not_claimed_of_insert hinsert)
    · obtain ⟨hkey, hunique⟩ := hI _ _ _ hold₁
      refine ⟨hclaimed key₁ hkey, fun connection₂ request₂ h₂ => ?_⟩
      rcases holds_of_claims hconnections h₂ with ⟨-, rfl, -⟩ | hold₂
      · exact absurd hkey (not_claimed_of_insert hinsert)
      · exact hunique connection₂ request₂ hold₂

omit [DecidableEq δ] in
theorem called_step {daemon daemon' : Daemon δ} {effect : Option Effect} {key : OperationKey}
    (h : StepEffect backend daemon effect daemon') (hcalled : daemon.Called key) :
    daemon'.Called key := by
  obtain ⟨hclaimed, hnone⟩ := hcalled
  refine ⟨claimed_step h hclaimed, fun connection request hholds => ?_⟩
  cases h with
  | quiet _ _ hsub => exact hnone _ _ (hsub _ _ _ hholds)
  | records _ _ _ _ _ _ hsub => exact hnone _ _ (hsub _ _ _ hholds)
  | calls => exact hnone _ _ (holds_setTask (by nofun) hholds)
  | recovers _ hsame =>
    obtain ⟨device, h⟩ := hholds
    exact hnone connection request ⟨device, by rwa [hsame] at h⟩
  | claims _ _ _ _ _ _ _ hinsert hconnections =>
    rcases holds_of_claims hconnections hholds with ⟨-, rfl, -⟩ | hold
    · exact not_claimed_of_insert hinsert hclaimed
    · exact hnone _ _ hold

/-- A claim that is granted finds the operation id unclaimed. -/
theorem claims_spends (daemon : Daemon δ) (input : DaemonInput) (key : OperationKey)
    (h : claims key (Mealy.event (step backend) daemon input) = true) :
    ¬ daemon.Claimed key ∧ (daemon.step backend input).2.Claimed key := by
  have heffect := daemon.step_effect backend input
  simp only [claims, Mealy.event] at h
  generalize (daemon.step backend input).1 = effect, (daemon.step backend input).2 = daemon' at *
  cases heffect with
  | claims connection device key' request encoded nowMs _ hinsert _ =>
    obtain rfl : key' = key := by simpa using h
    exact ⟨not_claimed_of_insert hinsert, ⟨_, by rw [Table.lookup_insert hinsert, if_pos rfl]⟩⟩
  | quiet hquiet =>
    split at h
    · cases hquiet
    · cases h
  | calls | records | recovers => cases h

/-- A call finds the operation id claimed and the connection about to call, the
only one. -/
theorem calls_spends (daemon : Daemon δ) (hI : daemon.Exclusive) (input : DaemonInput)
    (key : OperationKey) (h : calls key (Mealy.event (step backend) daemon input) = true) :
    ¬ daemon.Called key ∧ (daemon.step backend input).2.Called key := by
  have heffect := daemon.step_effect backend input
  simp only [calls, Mealy.event] at h
  generalize (daemon.step backend input).1 = effect, (daemon.step backend input).2 = daemon' at *
  cases heffect with
  | calls connection device key' request hconnection =>
    obtain rfl : key' = key := by simpa using h
    have hholds : daemon.Holds connection key' request := ⟨device, hconnection⟩
    obtain ⟨hkey, hunique⟩ := hI connection key' request hholds
    refine ⟨fun hcalled => hcalled.2 _ _ hholds, hkey, fun connection' request' h' => ?_⟩
    obtain rfl := hunique connection' request' (holds_setTask (by nofun) h')
    obtain ⟨device', h'⟩ := h'
    rw [setTask_connections, Function.update_self] at h'
    cases h'
  | quiet hquiet =>
    split at h
    · cases hquiet
    · cases h
  | claims | records | recovers => cases h

/-! ## What the ledger remembers -/

/-- Some step had the effect. -/
def Happened (history : List (Event δ)) (effect : Effect) : Prop :=
  ∃ e ∈ history, e.output = some effect

/-- The answer is the outcome recorded for the operation: what the database gives
back for it. -/
def RecordedOutcome (backend : Backend δ) (history : List (Event δ)) (key : OperationKey)
    (answer : ResponseOutcome) : Prop :=
  ∃ outcome bytes, Happened history (.recorded key outcome) ∧
    backend.encodeOutcome outcome = .ok bytes ∧ backend.decodeOutcome bytes = .ok answer

/-- The ledger and the tasks reflect the history: a claimed operation has a row
with the hash of its request, a completed row has the outcome recorded for it, and
a task about to call has claimed. -/
structure Remembers (backend : Backend δ) (history : List (Event δ)) (daemon : Daemon δ) :
    Prop where
  claimed : ∀ key request, Happened history (.claimed key request) → ∃ row encoded,
    daemon.store.operations.lookup key = some row ∧ backend.encodeRequest request = .ok encoded ∧
    row.requestHash = backend.sha256 encoded
  completed : ∀ key row, daemon.store.operations.lookup key = some row →
    row.status = .completed → ∃ bytes outcome, row.outcomeCbor = some bytes ∧
      Happened history (.recorded key outcome) ∧ backend.encodeOutcome outcome = .ok bytes
  holds : ∀ connection key request, daemon.Holds connection key request →
    Happened history (.claimed key request)

omit [DecidableEq δ] in
theorem Happened.append {history : List (Event δ)} {effect : Effect}
    (h : Happened history effect) (e : Event δ) : Happened (history ++ [e]) effect := by
  obtain ⟨e', he', heffect⟩ := h
  exact ⟨e', List.mem_append_left _ he', heffect⟩

omit [DecidableEq δ] in
theorem happened_append {history : List (Event δ)} {e : Event δ} {effect : Effect} :
    Happened (history ++ [e]) effect ↔ Happened history effect ∨ e.output = some effect := by
  constructor
  · rintro ⟨e', he', heffect⟩
    rcases List.mem_append.mp he' with hold | hnew
    · exact .inl ⟨e', hold, heffect⟩
    · obtain rfl := List.mem_singleton.mp hnew
      exact .inr heffect
  · rintro (h | h)
    · exact h.append e
    · exact ⟨e, List.mem_append_right _ (List.mem_singleton_self e), h⟩

omit [DecidableEq δ] in
theorem remembers_create (serverId : ServerId) :
    Remembers backend [] (create (δ := δ) serverId) where
  claimed _ _ h := by obtain ⟨e, he, -⟩ := h; cases he
  completed _ _ h _ := by cases h
  holds _ _ _ h := by obtain ⟨device, h⟩ := h; cases h

omit [DecidableEq δ] in
/-- A completed row was completed before, or by this step. -/
theorem completed_step {daemon daemon' : Daemon δ} {effect : Option Effect} {key : OperationKey}
    {row : OperationRow δ} (h : StepEffect backend daemon effect daemon')
    (hrow : daemon'.store.operations.lookup key = some row) (hstatus : row.status = .completed) :
    daemon.store.operations.lookup key = some row ∨
      ∃ bytes outcome, row.outcomeCbor = some bytes ∧ effect = some (.recorded key outcome) ∧
        backend.encodeOutcome outcome = .ok bytes := by
  cases h with
  | quiet _ hsame _ => exact .inl (by rwa [hsame] at hrow)
  | claims connection device key' request encoded nowMs _ hinsert _ =>
    rw [Table.lookup_insert hinsert] at hrow
    split at hrow
    · cases hrow
      cases hstatus
    · exact .inl hrow
  | calls => exact .inl hrow
  | records key' outcome encoded nowMs hencoded hmodify _ =>
    rw [hmodify, Table.lookup_modify] at hrow
    split at hrow
    · rename_i hkey
      subst hkey
      obtain ⟨old, -, rfl⟩ := Option.map_eq_some_iff.mp hrow
      exact .inr ⟨encoded, outcome, rfl, rfl, hencoded⟩
    · exact .inl hrow
  | recovers hmap _ =>
    rw [hmap, Table.lookup_mapRows] at hrow
    obtain ⟨old, hold, rfl⟩ := Option.map_eq_some_iff.mp hrow
    refine .inl ?_
    unfold Store.interruptOperation at hstatus ⊢
    split at hstatus
    · cases hstatus
    · rename_i hpending
      rw [if_neg hpending, hold]

omit [DecidableEq δ] in
/-- A task about to call was so before, or claims in this step. -/
theorem holds_step {daemon daemon' : Daemon δ} {effect : Option Effect} {connection : Nat}
    {key : OperationKey} {request : ControlRequest} (h : StepEffect backend daemon effect daemon')
    (hholds : daemon'.Holds connection key request) :
    daemon.Holds connection key request ∨ effect = some (.claimed key request) := by
  cases h with
  | quiet _ _ hsub => exact .inl (hsub _ _ _ hholds)
  | records _ _ _ _ _ _ hsub => exact .inl (hsub _ _ _ hholds)
  | calls => exact .inl (holds_setTask (by nofun) hholds)
  | recovers _ hsame =>
    obtain ⟨device, h⟩ := hholds
    exact .inl ⟨device, by rwa [hsame] at h⟩
  | claims _ _ _ _ _ _ _ _ hconnections =>
    rcases holds_of_claims hconnections hholds with ⟨-, rfl, rfl⟩ | hold
    · exact .inr rfl
    · exact .inl hold

theorem remembers_step {history : List (Event δ)} {daemon : Daemon δ} (input : DaemonInput)
    (h : Remembers backend history daemon) :
    Remembers backend (history ++ [Mealy.event (step backend) daemon input])
      (daemon.step backend input).2 := by
  have heffect := daemon.step_effect backend input
  constructor
  case claimed =>
    intro key request hhappened
    rcases happened_append.mp hhappened with hold | hnew
    · obtain ⟨row, encoded, hrow, hencoded, hhash⟩ := h.claimed key request hold
      obtain ⟨row', hrow', hsame⟩ := row_step heffect hrow
      exact ⟨row', encoded, hrow', hencoded, hsame.trans hhash⟩
    · have hnew : (daemon.step backend input).1 = some (.claimed key request) := hnew
      generalize (daemon.step backend input).1 = effect, (daemon.step backend input).2 = daemon'
        at heffect hnew ⊢
      cases heffect with
      | claims connection device key' request' encoded nowMs hencoded hinsert _ =>
        cases hnew
        exact ⟨_, encoded, by rw [Table.lookup_insert hinsert, if_pos rfl], hencoded, rfl⟩
      | quiet hquiet =>
        rw [hnew] at hquiet
        cases hquiet
      | calls | records | recovers => cases hnew
  case completed =>
    intro key row hrow hstatus
    rcases completed_step heffect hrow hstatus with hold | ⟨bytes, outcome, hbytes, hnew, hencoded⟩
    · obtain ⟨bytes, outcome, hbytes, hhappened, hencoded⟩ := h.completed key row hold hstatus
      exact ⟨bytes, outcome, hbytes, hhappened.append _, hencoded⟩
    · exact ⟨bytes, outcome, hbytes, happened_append.mpr (.inr hnew), hencoded⟩
  case holds =>
    intro connection key request hholds
    rcases holds_step heffect hholds with hold | hnew
    · exact (h.holds connection key request hold).append _
    · exact happened_append.mpr (.inr hnew)

/-! ## The law -/

/-- The step is `execute_request` deciding about an authorized request with this
operation id and content. -/
def Handles (e : Event δ) (key : OperationKey) (request : ControlRequest) : Prop :=
  ∃ connection nowMs fault device envelope, e.input = .claim connection nowMs fault ∧
    e.before.connections connection = some ⟨device, some (.received envelope)⟩ ∧
    envelope.validate = .ok () ∧ authorized device.scopes envelope.request = true ∧
    device.deviceId = key.deviceId ∧ envelope.operationId = some key.operationId ∧
    envelope.request = request

/-- How a request is answered whose operation id was claimed before: by the
recorded outcome, or by an error that says that there is none or that the store
failed. -/
def KnownAnswer (backend : Backend δ) (history : List (Event δ)) (key : OperationKey)
    (answer : ResponseOutcome) : Prop :=
  RecordedOutcome backend history key answer ∨ answer = .error operationInProgress ∨
    answer = .error operationIndeterminate ∨
    ∃ error, answer = .error (operationConflict (.store error))

/-- What the handler of an authorized request with an operation id does, in terms
of the claim. -/
theorem handles_output {e : Event δ} {key : OperationKey} {request : ControlRequest}
    (he : e = Mealy.event (step backend) e.before e.input) (h : Handles e key request) :
    ∃ nowMs fault, ∀ answer,
      claimAnswer (e.before.store.claimOperation backend key request nowMs fault).1 = some answer →
      e.output = some (.answered answer) := by
  obtain ⟨connection, nowMs, fault, device, envelope, hinput, hconnection, hvalid, hauthorized,
    hdevice, hoperation, rfl⟩ := h
  refine ⟨nowMs, fault, fun answer hanswer => ?_⟩
  have hkey : (⟨device.deviceId, key.operationId⟩ : OperationKey) = key := by rw [hdevice]
  rw [he, hinput]
  simp only [Mealy.event, step, hconnection, claim, hvalid, hauthorized, hoperation, hkey,
    Bool.not_true, Bool.false_eq_true, if_false, hanswer, Prod.map_fst]

theorem known_answer {history : List (Event δ)} {e : Event δ} {key : OperationKey}
    {request : ControlRequest} (he : e = Mealy.event (step backend) e.before e.input)
    (hremembers : Remembers backend history e.before) (h : Handles e key request)
    (hclaimed : Happened history (.claimed key request)) :
    ∃ answer, e.output = some (.answered answer) ∧ KnownAnswer backend history key answer := by
  obtain ⟨nowMs, fault, houtput⟩ := handles_output he h
  obtain ⟨row, encoded, hrow, hencoded, hhash⟩ := hremembers.claimed key request hclaimed
  rcases Store.claimOperation_again hrow hencoded hhash nowMs fault with
    ⟨bytes, answer, hstatus, hbytes, hdecoded, hclaim⟩ | hclaim | hclaim | ⟨error, hclaim⟩
  · obtain ⟨bytes', outcome, hbytes', hhappened, hencoded'⟩ :=
      hremembers.completed key row hrow hstatus
    obtain rfl : bytes = bytes' := Option.some.inj (hbytes.symm.trans hbytes')
    exact ⟨answer, houtput answer (by rw [hclaim]; rfl),
      .inl ⟨outcome, bytes, hhappened, hencoded', hdecoded⟩⟩
  · exact ⟨_, houtput _ (by rw [hclaim]; rfl), .inr (.inl rfl)⟩
  · exact ⟨_, houtput _ (by rw [hclaim]; rfl), .inr (.inr (.inl rfl))⟩
  · exact ⟨_, houtput _ (by rw [hclaim]; rfl), .inr (.inr (.inr ⟨error, rfl⟩))⟩

/-- A call is preceded by the claim of its request. -/
theorem called_claimed {history : List (Event δ)} {e : Event δ} {key : OperationKey}
    {request : ControlRequest} (he : e = Mealy.event (step backend) e.before e.input)
    (hremembers : Remembers backend history e.before)
    (h : e.output = some (.called (some key) request)) :
    Happened history (.claimed key request) := by
  have heffect := e.before.step_effect backend e.input
  have houtput : (e.before.step backend e.input).1 = e.output := by rw [he]; rfl
  rw [houtput, h] at heffect
  generalize (e.before.step backend e.input).2 = daemon' at heffect
  cases heffect with
  | calls connection device _ _ hconnection =>
    exact hremembers.holds connection key request ⟨device, hconnection⟩
  | quiet hquiet => cases hquiet

/-- **Operations are executed at most once.**

In every run of the daemon on a new database, with any connections, resends,
disconnections, crashes and restarts: the controller is called at most once for
each device and operation id; what it is called with is what was first claimed
under the id, and was claimed before; and an authorized request that comes after
its claim is answered by the recorded outcome or an error. -/
theorem at_most_once (backend : Backend δ) (serverId : ServerId) (inputs : List DaemonInput) :
    (∀ key, (history backend serverId inputs).countP (calls key) ≤ 1) ∧
    (∀ key request request', Happened (history backend serverId inputs) (.claimed key request) →
      Happened (history backend serverId inputs) (.called (some key) request') →
      request' = request) ∧
    ∀ (pre : List (Event δ)) (e : Event δ) post,
      history backend serverId inputs = pre ++ e :: post → ∀ key request,
        (e.output = some (.called (some key) request) → Happened pre (.claimed key request)) ∧
        (Handles e key request → Happened pre (.claimed key request) →
          ∃ answer, e.output = some (.answered answer) ∧ KnownAnswer backend pre key answer) := by
  have hclaims : ∀ key, (history backend serverId inputs).countP (claims key) ≤ 1 := fun key =>
    Mealy.countP_le_one (I := fun _ => True) (fun _ _ h => h)
      (fun daemon input _ h => claimed_step (daemon.step_effect backend input) h)
      (fun daemon input _ h => claims_spends daemon input key h) trivial inputs
  have hcalls : ∀ key, (history backend serverId inputs).countP (calls key) ≤ 1 := fun key =>
    Mealy.countP_le_one (fun daemon input h => exclusive_step (daemon.step_effect backend input) h)
      (fun daemon input _ h => called_step (daemon.step_effect backend input) h)
      (fun daemon input hI h => calls_spends daemon hI input key h)
      (fun _ _ _ h => by obtain ⟨device, h⟩ := h; cases h) inputs
  have hat : ∀ pre e post, history backend serverId inputs = pre ++ e :: post →
      Remembers backend pre e.before ∧ e = Mealy.event (step backend) e.before e.input :=
    fun pre e post hsplit => Mealy.history_at (remembers_create serverId)
      (fun _ _ input h => remembers_step input h) hsplit
  refine ⟨hcalls, fun key request request' hclaimed hcalled => ?_, fun pre e post hsplit key request =>
    ⟨called_claimed (hat pre e post hsplit).2 (hat pre e post hsplit).1,
      known_answer (hat pre e post hsplit).2 (hat pre e post hsplit).1⟩⟩
  -- the claim that precedes the call is the only one
  obtain ⟨claim, hclaim, hclaimOutput⟩ := hclaimed
  obtain ⟨call, hcall, hcallOutput⟩ := hcalled
  obtain ⟨pre, post, hsplit⟩ := List.append_of_mem hcall
  obtain ⟨claim', hclaim', hclaimOutput'⟩ :=
    called_claimed (hat pre call post hsplit).2 (hat pre call post hsplit).1 hcallOutput
  have hmem : claim' ∈ history backend serverId inputs := by
    rw [hsplit]
    exact List.mem_append_left _ hclaim'
  have hsame : claim = claim' := eq_of_countP_le_one (hclaims key) hclaim hmem
    (by simp [claims, hclaimOutput]) (by simp [claims, hclaimOutput'])
  rw [hsame, hclaimOutput'] at hclaimOutput
  cases hclaimOutput
  rfl

end Daemon

end OmpRemote.Ompd

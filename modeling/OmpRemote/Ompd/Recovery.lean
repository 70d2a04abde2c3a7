import OmpRemote.Ompd.Supervision

/-!
# Opening the database after a crash

`Store::open` rewrites the rows of agents whose process did not survive. It goes by
the lifecycle, and `idle` is not among those that it looks for.

- `no_phantoms_iff`: which databases are left without a row that describes a live
  process.
- `phantom_idle`: an agent that was launched before the daemon crashed.
-/

namespace OmpRemote.Ompd

/-- The row describes a live process. -/
def AgentRecord.isPhantom (record : AgentRecord) : Bool :=
  (match record.lifecycle with
    | .starting | .idle | .running | .stopping => true
    | .stopped | .interrupted | .failed _ => false) ||
  record.processId.isSome || record.activeRunId.isSome

/-- The row is one that `recover_interrupted` rewrites. -/
def AgentRecord.isRecovered (record : AgentRecord) : Bool :=
  match record.lifecycle with
  | .starting | .running | .stopping => true
  | .idle | .stopped | .interrupted | .failed _ => false

namespace Store

variable {δ : Type} {store opened : Store δ} {nowMs : UInt64} {fault : Option Nat}

/-- A rewritten row has neither process nor run, and any other is as it was. -/
theorem interruptAgent_isPhantom (record : AgentRecord) :
    (interruptAgent nowMs record).isPhantom = (!record.isRecovered && record.isPhantom) := by
  unfold interruptAgent AgentRecord.isRecovered
  cases hlifecycle : record.lifecycle <;> simp [AgentRecord.isPhantom]

theorem recoverInterrupted_agent
    (h : store.recoverInterrupted nowMs fault = (.ok (), opened)) (agentId : AgentId) :
    opened.agent agentId = (store.agent agentId).map (interruptAgent nowMs) := by
  unfold recoverInterrupted at h
  split at h
  · cases h
  rename_i now hnow
  obtain ⟨-, rfl⟩ := sqlU64_ok.mp hnow
  split at h
  · cases h
  dsimp only at h
  split at h
  · cases h
  · cases h
    exact store.agents.lookup_mapRows _ agentId

/-- **What recovery leaves.** When a database has been opened, no row describes a
live process if and only if every row that did so before was one to be rewritten:
starting, running or stopping. -/
theorem no_phantoms_iff (store opened : Store δ) (nowMs : UInt64) (fault : Option Nat)
    (h : store.recoverInterrupted nowMs fault = (.ok (), opened)) :
    (∀ agentId record, opened.agent agentId = some record → record.isPhantom = false) ↔
      ∀ agentId record, store.agent agentId = some record →
        record.isRecovered = true ∨ record.isPhantom = false := by
  constructor
  · intro hopened agentId record hrecord
    have hrow : opened.agent agentId = some (interruptAgent nowMs record) := by
      rw [recoverInterrupted_agent h, hrecord]
      rfl
    have hnone := hopened agentId _ hrow
    rw [interruptAgent_isPhantom, Bool.and_eq_false_iff, Bool.not_eq_false'] at hnone
    exact hnone
  · intro hstore agentId row hrow
    rw [recoverInterrupted_agent h] at hrow
    obtain ⟨record, hrecord, rfl⟩ := Option.map_eq_some_iff.mp hrow
    rw [interruptAgent_isPhantom, Bool.and_eq_false_iff, Bool.not_eq_false']
    exact hstore agentId record hrecord

end Store

namespace Supervision

open Lib

/-- A child that starts well, and answers no request. -/
def plainAnswer : Answer :=
  ⟨1, none, ⟨"run"⟩, some ⟨7, 1048576, []⟩, .error .runtimeStopped, true⟩

def plainSetup : Setup := ⟨⟨"agent"⟩, .default, 4⟩

/-- A daemon on a new database, with what has happened to it. -/
def plainRun (inputs : List Input) : World Unit :=
  run (World.step plainSetup) (World.create plainSetup (.create ⟨"server"⟩)) inputs

/-- An agent is launched. -/
def launching : List Input :=
  [Input.restart 0 none, .request .launch] ++ List.replicate 10 (Input.task 0 plainAnswer)

/-- Opening the database that it leaves behind. -/
theorem no_phantoms_iff_launching :
    ∃ opened : Store Unit,
      (plainRun launching).store.recoverInterrupted 2 none = (.ok (), opened) ∧
      ((∀ agentId record, opened.agent agentId = some record → record.isPhantom = false) ↔
        ∀ agentId record, (plainRun launching).store.agent agentId = some record →
          record.isRecovered = true ∨ record.isPhantom = false) :=
  ⟨_, rfl, Store.no_phantoms_iff (plainRun launching).store _ 2 none rfl⟩

/-- The daemon crashes when it has launched an agent, and its database is opened
again: the row is idle and has the process. -/
theorem phantom_idle :
    ∃ opened : Store Unit,
      (plainRun launching).store.recoverInterrupted 2 none = (.ok (), opened) ∧
      ((opened.agent ⟨"agent"⟩).map fun record =>
        (record.lifecycle, record.processId, record.isPhantom)) = some (.idle, some 7, true) :=
  ⟨_, rfl, by decide⟩

end Supervision

end OmpRemote.Ompd

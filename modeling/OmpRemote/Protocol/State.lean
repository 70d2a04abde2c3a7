import OmpRemote.Lib.Fallible
import OmpRemote.Lib.Word
import OmpRemote.Rpc.Message

/-!
# Agent snapshots and their updates

What the control protocol replicates: an agent's snapshot, the numbered updates
that change it, and the checks a holder of a snapshot makes before it applies
one.

- `AgentSnapshot.applyDelta`, `AgentSnapshot.applyUpdate`: the checked
  application. A delta must start at the holder's revision; an update must be
  newer than the holder's event sequence, but need not be the next one.
- `applyChange`: the unchecked effect of a change, which leaves the identity and
  the counters alone.
- `applyDelta_ok`, `applyUpdate_ok`: exactly when an application succeeds, and
  with what.
-/

namespace OmpRemote

open Lib Rpc

/-! ## Identifiers and counters -/

structure AgentId where
  text : String
  deriving DecidableEq, Repr

structure RunId where
  text : String
  deriving DecidableEq, Repr

structure LeaseHolderId where
  text : String
  deriving DecidableEq, Repr

abbrev StateRevision := UInt64

abbrev EventSequence := UInt64

/-! ## Snapshots -/

inductive AgentLifecycle where
  | starting | idle | running | stopping | stopped | interrupted
  | failed (reason : String)
  deriving DecidableEq, Repr

inductive RunLifecycle where
  | queued | running | completed | aborted | interrupted
  | failed (reason : String)
  deriving DecidableEq, Repr

def RunLifecycle.isTerminal : RunLifecycle → Bool
  | .completed | .aborted | .interrupted | .failed _ => true
  | .queued | .running => false

structure SessionSummary where
  sessionId : String
  sessionFile : Option String
  name : Option String
  messageCount : UInt64
  deriving DecidableEq, Repr

structure RunSnapshot where
  runId : RunId
  lifecycle : RunLifecycle
  startedAtMs : UInt64
  endedAtMs : Option UInt64
  deriving DecidableEq, Repr

structure InteractionLease where
  holder : LeaseHolderId
  expiresAtMs : UInt64
  deriving DecidableEq, Repr

inductive InteractionState where
  | unclaimed
  | leased (lease : InteractionLease)
  deriving DecidableEq, Repr

structure AgentSnapshot where
  agentId : AgentId
  revision : StateRevision
  eventSequence : EventSequence
  lifecycle : AgentLifecycle
  session : Option SessionSummary
  activeRun : Option RunSnapshot
  recentRuns : List RunSnapshot
  interaction : InteractionState
  availableCommands : List AvailableSlashCommand
  deriving DecidableEq, Repr

namespace AgentSnapshot

def initial (agentId : AgentId) : AgentSnapshot where
  agentId := agentId
  revision := 0
  eventSequence := 0
  lifecycle := .starting
  session := none
  activeRun := none
  recentRuns := []
  interaction := .unclaimed
  availableCommands := []

end AgentSnapshot

/-! ## Updates -/

inductive AgentStateChange where
  | lifecycleChanged (lifecycle : AgentLifecycle)
  | sessionChanged (session : SessionSummary)
  | sessionCleared
  | runUpserted (run : RunSnapshot)
  | runRemoved (runId : RunId)
  | interactionChanged (interaction : InteractionState)
  | availableCommandsChanged (commands : List AvailableSlashCommand)
  deriving DecidableEq, Repr

structure StateDelta where
  agentId : AgentId
  baseRevision : StateRevision
  revision : StateRevision
  change : AgentStateChange
  deriving DecidableEq, Repr

inductive AgentUpdate where
  | delta (eventSequence : EventSequence) (delta : StateDelta)
  | event (agentId : AgentId) (eventSequence : EventSequence) (event : ServerMessage)
  deriving DecidableEq, Repr

namespace AgentUpdate

def eventSequence : AgentUpdate → EventSequence
  | .delta eventSequence _ => eventSequence
  | .event _ eventSequence _ => eventSequence

def agentId : AgentUpdate → AgentId
  | .delta _ d => d.agentId
  | .event agentId _ _ => agentId

end AgentUpdate

structure SubscriptionCursor where
  agentId : AgentId
  revision : StateRevision
  eventSequence : EventSequence
  deriving DecidableEq, Repr

inductive SubscriptionStart where
  | snapshot (snapshot : AgentSnapshot)
  | replay (updates : List AgentUpdate)
  | resyncRequired (snapshot : AgentSnapshot)
  deriving DecidableEq, Repr

inductive DeltaApplyError where
  | wrongAgent (expected actual : AgentId)
  | revisionMismatch (local_ base : StateRevision)
  | nonConsecutiveRevision (base revision : StateRevision)
  | staleEventSequence (local_ incoming : EventSequence)
  deriving DecidableEq, Repr

/-! ## Applying updates -/

/-- The run is the active one. -/
def AgentSnapshot.isActive (snapshot : AgentSnapshot) (runId : RunId) : Bool :=
  snapshot.activeRun.any fun active => active.runId = runId

/-- The effect of a change, without any check. -/
def applyChange (snapshot : AgentSnapshot) : AgentStateChange → AgentSnapshot
  | .lifecycleChanged lifecycle => { snapshot with lifecycle }
  | .sessionChanged session => { snapshot with session := some session }
  | .sessionCleared => { snapshot with session := none }
  | .runUpserted run =>
    let recentRuns := snapshot.recentRuns.filter fun candidate => candidate.runId ≠ run.runId
    if run.lifecycle.isTerminal then
      { snapshot with
        activeRun := if snapshot.isActive run.runId then none else snapshot.activeRun
        recentRuns := recentRuns ++ [run] }
    else
      { snapshot with activeRun := some run, recentRuns }
  | .runRemoved runId =>
    { snapshot with
      activeRun := if snapshot.isActive runId then none else snapshot.activeRun
      recentRuns := snapshot.recentRuns.filter fun candidate => candidate.runId ≠ runId }
  | .interactionChanged interaction => { snapshot with interaction }
  | .availableCommandsChanged commands => { snapshot with availableCommands := commands }

namespace AgentSnapshot

def wouldChange (snapshot : AgentSnapshot) (change : AgentStateChange) : Bool :=
  applyChange snapshot change ≠ snapshot

/-- The checks every update passes: the right agent, and a newer sequence. -/
def validateUpdateCursor (snapshot : AgentSnapshot) (agentId : AgentId)
    (eventSequence : EventSequence) : Except DeltaApplyError Unit :=
  if agentId ≠ snapshot.agentId then .error (.wrongAgent snapshot.agentId agentId)
  else if eventSequence ≤ snapshot.eventSequence then
    .error (.staleEventSequence snapshot.eventSequence eventSequence)
  else .ok ()

def applyDelta (snapshot : AgentSnapshot) (delta : StateDelta)
    (eventSequence : EventSequence) : Except DeltaApplyError AgentSnapshot := do
  snapshot.validateUpdateCursor delta.agentId eventSequence
  if delta.baseRevision ≠ snapshot.revision then
    .error (.revisionMismatch snapshot.revision delta.baseRevision)
  else if delta.revision ≠ saturatingAdd delta.baseRevision 1 then
    .error (.nonConsecutiveRevision delta.baseRevision delta.revision)
  else
    .ok { applyChange snapshot delta.change with revision := delta.revision, eventSequence }

def applyUpdate (snapshot : AgentSnapshot) : AgentUpdate → Except DeltaApplyError AgentSnapshot
  | .delta eventSequence delta => snapshot.applyDelta delta eventSequence
  | .event agentId eventSequence _ => do
    snapshot.validateUpdateCursor agentId eventSequence
    .ok { snapshot with eventSequence }

end AgentSnapshot

/-! ## What the operations do -/

section ApplyChange

variable (s : AgentSnapshot) (change : AgentStateChange)

@[simp] theorem applyChange_agentId : (applyChange s change).agentId = s.agentId := by
  cases change <;> (simp only [applyChange]; try split) <;> rfl

@[simp] theorem applyChange_revision : (applyChange s change).revision = s.revision := by
  cases change <;> (simp only [applyChange]; try split) <;> rfl

@[simp] theorem applyChange_eventSequence :
    (applyChange s change).eventSequence = s.eventSequence := by
  cases change <;> (simp only [applyChange]; try split) <;> rfl

end ApplyChange

namespace AgentSnapshot

variable {s s' : AgentSnapshot} {id : AgentId} {seq : EventSequence}
  {delta : StateDelta} {update : AgentUpdate}

theorem validateUpdateCursor_ok :
    s.validateUpdateCursor id seq = .ok () ↔
      id = s.agentId ∧ s.eventSequence < seq := by
  unfold validateUpdateCursor
  split
  · simp [*]
  · split
    · rename_i h
      simp [h]
    · rename_i h h'
      simp_all

/-- A delta applies iff it is for this agent, newer, starts at the revision held
and ends at the next one. -/
theorem applyDelta_ok :
    s.applyDelta delta seq = .ok s' ↔
      (delta.agentId = s.agentId ∧ s.eventSequence < seq ∧ delta.baseRevision = s.revision ∧
        delta.revision = saturatingAdd delta.baseRevision 1) ∧
      s' = { applyChange s delta.change with revision := delta.revision, eventSequence := seq } := by
  simp only [applyDelta, then_eq_ok, validateUpdateCursor_ok, check_eq_ok, not_not,
    Except.ok.injEq, and_assoc, eq_comm (b := s')]

/-- What an update has to satisfy to apply to a snapshot. -/
def Accepts (s : AgentSnapshot) : AgentUpdate → Prop
  | .delta seq delta =>
    delta.agentId = s.agentId ∧ s.eventSequence < seq ∧ delta.baseRevision = s.revision ∧
      delta.revision = saturatingAdd delta.baseRevision 1
  | .event agentId seq _ => agentId = s.agentId ∧ s.eventSequence < seq

/-- The snapshot an accepted update leads to. -/
def updated (s : AgentSnapshot) : AgentUpdate → AgentSnapshot
  | .delta seq delta =>
    { applyChange s delta.change with revision := delta.revision, eventSequence := seq }
  | .event _ seq _ => { s with eventSequence := seq }

theorem applyUpdate_ok :
    s.applyUpdate update = .ok s' ↔ s.Accepts update ∧ s' = s.updated update := by
  cases update with
  | delta seq delta => exact applyDelta_ok
  | event agentId seq event =>
    simp only [applyUpdate, then_eq_ok, validateUpdateCursor_ok, Except.ok.injEq, and_assoc,
      Accepts, updated, eq_comm (b := s')]

@[simp] theorem updated_agentId : (s.updated update).agentId = s.agentId := by
  cases update <;> simp [updated]

@[simp] theorem updated_eventSequence :
    (s.updated update).eventSequence = update.eventSequence := by
  cases update <;> rfl

theorem Accepts.agentId (h : s.Accepts update) : update.agentId = s.agentId := by
  cases update <;> exact h.1

theorem Accepts.newer (h : s.Accepts update) : s.eventSequence < update.eventSequence := by
  cases update with
  | delta => exact h.2.1
  | event => exact h.2

end AgentSnapshot

end OmpRemote

import OmpRemote.ControlPlane.Resume
import OmpRemote.Lib.Machine
import OmpRemote.Ompd.StoreHistory

/-!
# Incarnations of an agent

An agent's actor is replaced when the agent is stopped and launched again, when
its session is switched (which is both), and when the daemon restarts and restores
the agent from its database. The new actor counts on its own: from zero, or from
the counters of the session row.

- `Incarnation`: an actor with the snapshot it was started with. That its state
  results from a life started there is part of the type.
- `Host.step`: what can happen to the actors of one agent id.
- `resume_across`: exactly when a client of an earlier incarnation that resumes
  with a replay gets the snapshot of the current one.
- `resume_switchSession`: it need not.
-/

namespace OmpRemote.Ompd

open ControlPlane Lib

/-! ## Incarnations -/

/-- One actor of the agent, and the snapshot it was started with. -/
structure Incarnation (agentId : AgentId) where
  initial : AgentSnapshot
  state : ActorState
  agent : initial.agentId = agentId
  lived : ControlPlane.Invariant initial state

namespace Incarnation

variable {agentId : AgentId}

/-- `AgentHandle::spawn_with_snapshot`. -/
def spawn (config : AgentActorConfig) (initial : AgentSnapshot)
    (agent : initial.agentId = agentId) : Incarnation agentId :=
  ⟨initial, .spawn initial config, agent, .spawn initial config⟩

/-- One turn of the actor. -/
def turn (incarnation : Incarnation agentId) (input : ActorInput) : Incarnation agentId :=
  { incarnation with
    state := (incarnation.state.turn input).2
    lived := incarnation.lived.turn input }

/-- The snapshots the actor had. -/
def passed (incarnation : Incarnation agentId) : List AgentSnapshot :=
  incarnation.state.passed incarnation.initial

end Incarnation

/-! ## Persisting and restoring -/

variable {δ : Type} [DecidableEq δ]

omit [DecidableEq δ] in
/-- `persist_snapshot`, with the snapshot the actor answered. -/
def persistSnapshot (store : Store δ) (agentId : AgentId) (snapshot : AgentSnapshot)
    (processId : Option UInt32) (activeRunId : Option RunId) (nowMs : UInt64)
    (fault : Option Nat) : Except StoreError Unit × Store δ :=
  let createdAtMs := (store.agent agentId).elim nowMs AgentRecord.createdAtMs
  store.upsertAgent ⟨agentId, snapshot.lifecycle, processId, activeRunId, createdAtMs, nowMs⟩ fault

/-- What `DaemonController::new` restores from an agent's rows. -/
def restoredSnapshot (agentId : AgentId) (record : AgentRecord)
    (session : Option SessionResumeRecord) : AgentSnapshot where
  agentId := agentId
  revision := session.elim 0 SessionResumeRecord.revision
  eventSequence := session.elim 0 SessionResumeRecord.eventSequence
  lifecycle := record.lifecycle
  session := session.map fun session => ⟨session.sessionId, some session.sessionFile, none, 0⟩
  activeRun := none
  recentRuns := []
  interaction := .unclaimed
  availableCommands := []

/-! ## The actors of one agent id -/

/-- The registry's entry for one agent id, the actors it had before, and the
database. -/
structure Host (δ : Type) (agentId : AgentId) where
  config : AgentActorConfig
  up : Bool
  store : Store δ
  past : List (Incarnation agentId)
  current : Option (Incarnation agentId)

inductive HostInput where
  | actor (input : ActorInput)
  /-- `launch` gets the actor from the registry or creates it. -/
  | launch
  /-- `stop` removes the actor from the registry and shuts it down. -/
  | remove
  | persist (processId : Option UInt32) (activeRunId : Option RunId) (nowMs : UInt64)
      (fault : Option Nat)
  /-- Something else uses the store. -/
  | store (operation : StoreOperation)
  /-- The daemon is stopped, or crashes, and started again. -/
  | restart (nowMs : UInt64) (fault : Option Nat)

namespace Host

variable {agentId : AgentId}

omit [DecidableEq δ] in
/-- The daemon before it is first started on a database. -/
def create (agentId : AgentId) (config : AgentActorConfig) (store : Store δ) : Host δ agentId :=
  ⟨config, false, store, [], none⟩

omit [DecidableEq δ] in
/-- The current actor, if any, is no more. -/
def retire (host : Host δ agentId) (last : Incarnation agentId → Incarnation agentId) :
    Host δ agentId :=
  { host with past := host.past ++ (host.current.map last).toList, current := none }

omit [DecidableEq δ] in
def spawn (host : Host δ agentId) (initial : AgentSnapshot) (agent : initial.agentId = agentId) :
    Host δ agentId :=
  { host with current := some (.spawn host.config initial agent) }

omit [DecidableEq δ] in
/-- `Store::open` and `DaemonController::new`. -/
def start (host : Host δ agentId) (nowMs : UInt64) (fault : Option Nat) : Host δ agentId :=
  match host.store.recoverInterrupted nowMs fault with
  | (.error _, store) => { host with store, up := false }
  | (.ok (), store) =>
    let host := { host with store, up := true }
    match store.agent agentId with
    | none => host
    | some record => host.spawn (restoredSnapshot agentId record (store.session agentId)) rfl

def step (backend : Backend δ) (host : Host δ agentId) : HostInput → Host δ agentId
  | .actor input => { host with current := host.current.map fun actor => actor.turn input }
  | .launch =>
    if host.up && host.current.isNone then host.spawn (.initial agentId) rfl else host
  | .remove => host.retire fun actor => actor.turn (.command .shutdown)
  | .persist processId activeRunId nowMs fault =>
    match host.current with
    | none => host
    | some actor =>
      { host with
        store := (persistSnapshot host.store agentId actor.state.snapshot processId activeRunId
          nowMs fault).2 }
  | .store operation => { host with store := (host.store.execute backend operation).2 }
  | .restart nowMs fault => (host.retire id).start nowMs fault

/-- The host after a history of the agent id. -/
def history (backend : Backend δ) (agentId : AgentId) (config : AgentActorConfig) (store : Store δ)
    (inputs : List HostInput) : Host δ agentId :=
  run (step backend) (create agentId config store) inputs

/-- A launch of the agent, whose OMP process reports a session. -/
def launched (sessionId : String) : List HostInput :=
  [.launch, .actor (.command (.change (.lifecycleChanged .idle))),
    .actor (.command (.change (.sessionChanged ⟨sessionId, none, none, 0⟩)))]

/-- A launch followed by a switch to another session. -/
def switched : List HostInput :=
  [HostInput.restart 0 none] ++ launched "old" ++ [HostInput.remove] ++ launched "new"

/-- A backend for runs that hash and encode nothing. -/
def idleBackend : Backend Unit :=
  ⟨fun _ => (), fun _ => .error "", fun _ => .error "", fun _ => .error ""⟩

/-- **Resuming across incarnations.** After every history of an agent id, a client
that holds a snapshot of an earlier incarnation and presents its cursor to the
current one ends up with the current snapshot whenever it is given a replay, if
and only if: the current incarnation had no snapshot with that cursor, or no
longer retains what it recorded since, or has since overwritten every part in
which that snapshot differs from the one held. -/
theorem resume_across (backend : Backend δ) (agentId : AgentId) (config : AgentActorConfig)
    (store : Store δ) (inputs : List HostInput) :
    ∀ earlier ∈ (history backend agentId config store inputs).past, ∀ held ∈ earlier.passed,
      ∀ actor, (history backend agentId config store inputs).current = some actor →
        (ResumesCorrectly actor.state held ↔ Repaired actor.initial actor.state held) := by
  intro earlier _ held hheld actor _
  refine resume_iff actor.lived ?_
  have hagent : held.agentId = earlier.initial.agentId := earlier.lived.mem_agentId hheld
  rw [hagent, earlier.agent, actor.agent]

/-- The equivalence for a client of the first session and the actor of the second. -/
theorem resume_across_switchSession :
    ∃ earlier ∈ (history idleBackend ⟨"agent"⟩ .default (.create ⟨"server"⟩) switched).past,
      ∃ held ∈ earlier.passed, ∃ actor,
        (history idleBackend ⟨"agent"⟩ .default (.create ⟨"server"⟩) switched).current =
          some actor ∧
        (ResumesCorrectly actor.state held ↔ Repaired actor.initial actor.state held) :=
  ⟨_, List.mem_singleton_self _, _, List.mem_cons_self, _, rfl,
    resume_across idleBackend ⟨"agent"⟩ .default (.create ⟨"server"⟩) switched _
      (List.mem_singleton_self _) _ List.mem_cons_self _ rfl⟩

/-- Switching the session gives the new actor the counters of the old one: a
client that holds the old session resumes with an empty replay. -/
theorem resume_switchSession :
    ∃ earlier ∈ (history idleBackend ⟨"agent"⟩ .default (.create ⟨"server"⟩) switched).past,
      ∃ held ∈ earlier.passed, ∃ actor,
        (history idleBackend ⟨"agent"⟩ .default (.create ⟨"server"⟩) switched).current =
          some actor ∧
        (actor.state.subscribe (some (cursorOf held))).1.start = .replay [] ∧
        held.session = some ⟨"old", none, none, 0⟩ ∧
        actor.state.snapshot.session = some ⟨"new", none, none, 0⟩ ∧
        ¬ ResumesCorrectly actor.state held := by
  refine ⟨_, List.mem_singleton_self _, _,
    List.mem_cons_of_mem _ (List.mem_cons_of_mem _ List.mem_cons_self), _, rfl, ?_, ?_, ?_, ?_⟩
  · decide
  · decide
  · decide
  · intro h
    obtain ⟨results, hresults, hlast⟩ := h [] (by decide)
    cases hresults
    revert hlast
    decide

end Host

end OmpRemote.Ompd

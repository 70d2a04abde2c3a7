import OmpRemote.Client.Reducer
import OmpRemote.ControlPlane.Runs
import OmpRemote.Lib.Machine
import OmpRemote.Ompd.Incarnation

/-!
# The run table

`RunsOnce` says of a snapshot that its recent runs are over and have different ids, and
that the active one goes on and is none of them. All of it has to be kept together: an
upsert may end the active run, revive a recent one, or change one in its place.

- `runsOnce_applyChange`: every change of a snapshot keeps it.
- `Started`: the snapshots the daemon starts an agent with.
- `replicas_once`: a client whose snapshots have it keeps it, whatever deltas come.
- `run_table`: the three together.
-/

namespace OmpRemote

open Lib Rpc

/-! ## Snapshots -/

namespace AgentSnapshot

variable {s : AgentSnapshot}

theorem RunsOnce.remove (h : s.RunsOnce) (runId : RunId) :
    (applyChange s (.runRemoved runId)).RunsOnce := by
  have hactive : ∀ run, (if s.isActive runId then none else s.activeRun) = some run →
      s.activeRun = some run := fun run hrun => (clear_active_iff.mp hrun).1
  simp only [applyChange]
  refine ⟨?_, ?_, ?_⟩
  · -- what is left is a part of what was there
    refine h.once.sublist (List.Sublist.map _ (List.Sublist.append ?_ List.filter_sublist))
    dsimp only
    split
    · exact List.nil_sublist _
    · exact List.Sublist.refl _
  · intro run hrun
    exact h.active run (hactive run hrun)
  · intro run hrun
    exact h.recent run (List.mem_filter.mp hrun).1

theorem runsOnce_applyChange (h : s.RunsOnce) (change : AgentStateChange) :
    (applyChange s change).RunsOnce := by
  cases change with
  | runUpserted run => exact h.upsert run
  | runRemoved runId => exact h.remove runId
  | lifecycleChanged | sessionChanged | sessionCleared | interactionChanged
    | availableCommandsChanged => exact h.congr rfl rfl

theorem RunsOnce.updated (h : s.RunsOnce) (update : AgentUpdate) : (s.updated update).RunsOnce := by
  cases update with
  | delta seq delta => exact (runsOnce_applyChange h delta.change).congr rfl rfl
  | event agentId seq event => exact h.congr rfl rfl

end AgentSnapshot

/-! ## Actors -/

theorem ControlPlane.Exec.runsOnce {s t : AgentSnapshot} {log : List ControlPlane.Recorded}
    (h : ControlPlane.snapshots.Exec s log t) (hs : s.RunsOnce) :
    ∀ r ∈ log, r.after.RunsOnce := by
  induction h with
  | nil s => exact fun r hr => absurd hr List.not_mem_nil
  | @cons s m t r log hadv _ ih =>
    have hm : m = s.updated r.update := hadv.updated
    have honce : m.RunsOnce := hm ▸ hs.updated r.update
    intro r' hr'
    rcases List.mem_cons.mp hr' with rfl | hlater
    · have hafter : r'.after = m := hadv.after
      rw [hafter]
      exact honce
    · exact ih honce r' hlater

/-- Every snapshot of an actor's life. -/
theorem ControlPlane.passed_once {initial : AgentSnapshot} (h : initial.RunsOnce)
    (config : ControlPlane.AgentActorConfig) (inputs : List ControlPlane.ActorInput) :
    ∀ s ∈ (ControlPlane.life initial config inputs).passed initial, s.RunsOnce := by
  intro s hs
  rcases List.mem_cons.mp hs with rfl | hlater
  · exact h
  · obtain ⟨r, hr, rfl⟩ := List.mem_map.mp hlater
    exact Exec.runsOnce (Invariant.life initial config inputs).exec h r hr

/-! ## Replicas -/

namespace Client.ReplicatedState

/-- Every snapshot that is held has its runs once. -/
def HeldOnce (state : ReplicatedState) : Prop :=
  ∀ agentId s, state.agent agentId = some s → s.RunsOnce

variable {state : ReplicatedState}

theorem heldOnce_apply (h : state.HeldOnce) (frame : ServerFrame)
    (hsnapshot : ∀ snapshot, frame = .snapshot snapshot → ∀ agent ∈ snapshot.agents,
      agent.RunsOnce) : (state.apply frame).2.HeldOnce := by
  intro agentId s hs
  cases hcarried : carriedUpdate frame with
  | some update =>
    rcases apply_carriedUpdate hcarried with ⟨error, happly⟩ | ⟨held, effects, hheld, -, -, happly⟩
    · rw [happly] at hs
      exact h agentId s hs
    · rw [happly] at hs
      by_cases hagent : agentId = update.agentId
      · subst hagent
        replace hs : (state.replace update.agentId (held.updated update)).agents update.agentId =
          some s := hs
        rw [replace_agents_self] at hs
        cases hs
        exact (h _ held hheld).updated update
      · exact h agentId s ((replace_agents_other hagent).symm.trans hs)
  | none =>
    cases frame with
    | snapshot snapshot =>
      replace hs : (snapshot.agents.foldl adopt state).agents agentId = some s := hs
      rw [foldl_adopt_agents] at hs
      rcases Option.or_eq_some_iff.mp hs with hlast | ⟨-, hheld⟩
      · exact hsnapshot snapshot rfl s (List.mem_filter.mp (List.mem_of_getLast? hlast)).1
      · exact h agentId s hheld
    | delta _ | event _ | interactionRequest _ => cases hcarried
    | welcome _ | response _ | replayGap _ | error _ | pong _ | serverShutdown _ _ =>
      exact h agentId s hs

/-- **Replicas**: it is enough that the snapshots have their runs once, whatever the
deltas are. -/
theorem replicas_once (h : state.HeldOnce) (frames : List ServerFrame)
    (hsnapshots : ∀ snapshot, .snapshot snapshot ∈ frames → ∀ agent ∈ snapshot.agents,
      agent.RunsOnce) : (state.applyAll frames).HeldOnce := by
  induction frames generalizing state with
  | nil => exact h
  | cons frame frames ih =>
    refine ih (heldOnce_apply h frame ?_) fun snapshot hmem =>
      hsnapshots snapshot (List.mem_cons_of_mem _ hmem)
    rintro snapshot rfl
    exact hsnapshots snapshot List.mem_cons_self

end Client.ReplicatedState

/-! ## Agents of the daemon -/

namespace Ompd

/-- The snapshots the daemon starts an agent with: those of a new agent, and those it
restores from its database. -/
inductive Started : AgentSnapshot → Prop where
  | fresh (agentId : AgentId) : Started (.initial agentId)
  | restored (agentId : AgentId) (record : AgentRecord) (session : Option SessionResumeRecord) :
    Started (restoredSnapshot agentId record session)

theorem Started.runsOnce {s : AgentSnapshot} (h : Started s) : s.RunsOnce := by
  cases h with
  | fresh agentId => exact AgentSnapshot.runsOnce_of_no_runs rfl rfl
  | restored agentId record session => exact AgentSnapshot.runsOnce_of_no_runs rfl rfl

/-- A snapshot that an actor of the daemon has had. -/
def Lived (s : AgentSnapshot) : Prop :=
  ∃ initial config inputs, Started initial ∧
    s ∈ (ControlPlane.life initial config inputs).passed initial

/-- **The run table.** From every snapshot the daemon starts an agent with: (1) any changes
leave every run once; (2) so do any turns of the actor, and every snapshot on the way has
it; (3) and so does whatever a client makes of such snapshots by any deltas. -/
theorem run_table :
    (∀ initial, Started initial → ∀ changes : List AgentStateChange,
      (changes.foldl applyChange initial).RunsOnce) ∧
    (∀ s, Lived s → s.RunsOnce) ∧
    ∀ frames : List ServerFrame,
      (∀ snapshot, .snapshot snapshot ∈ frames → ∀ agent ∈ snapshot.agents, Lived agent) →
      ∀ agentId s, (Client.ReplicatedState.default.applyAll frames).agent agentId = some s →
        s.RunsOnce := by
  have hlived : ∀ s, Lived s → s.RunsOnce := by
    rintro s ⟨initial, config, inputs, hstarted, hs⟩
    exact ControlPlane.passed_once hstarted.runsOnce config inputs s hs
  refine ⟨?_, hlived, ?_⟩
  · intro initial hstarted changes
    exact run_invariant (P := AgentSnapshot.RunsOnce)
      (fun _ change h => AgentSnapshot.runsOnce_applyChange h change) hstarted.runsOnce changes
  · intro frames hsnapshots
    refine Client.ReplicatedState.replicas_once ?_ frames fun snapshot hmem agent hagent =>
      hlived agent (hsnapshots snapshot hmem agent hagent)
    intro agentId s hs
    cases hs

end Ompd

end OmpRemote

import OmpRemote.Lib.Registers
import OmpRemote.Protocol.State

/-!
# Snapshots under the same updates

Two snapshots of an agent with the same counters accept the same updates. They
end up equal iff every difference between them is overwritten on the way
(`Settled`).
-/

namespace OmpRemote

open Lib

namespace AgentUpdate

/-- The change an update carries. -/
def change : AgentUpdate → Option AgentStateChange
  | .delta _ stateDelta => some stateDelta.change
  | .event _ _ _ => none

/-- The update leaves what is known of the run alone. -/
def keepsRun (update : AgentUpdate) : RunSnapshot → Bool :=
  match update.change with
  | some (.runUpserted upserted) => fun run => run.runId ≠ upserted.runId
  | some (.runRemoved removed) => fun run => run.runId ≠ removed
  | _ => fun _ => true

/-- The run an update makes the active one. -/
def startsRun (update : AgentUpdate) : Option RunSnapshot :=
  match update.change with
  | some (.runUpserted run) => if run.lifecycle.isTerminal then none else some run
  | _ => none

/-- The run an update adds to the recent ones. -/
def endsRun (update : AgentUpdate) : List RunSnapshot :=
  match update.change with
  | some (.runUpserted run) => if run.lifecycle.isTerminal then [run] else []
  | _ => []

def lifecycle? (update : AgentUpdate) : Option AgentLifecycle :=
  match update.change with
  | some (.lifecycleChanged lifecycle) => some lifecycle
  | _ => none

def session? (update : AgentUpdate) : Option (Option SessionSummary) :=
  match update.change with
  | some (.sessionChanged session) => some (some session)
  | some .sessionCleared => some none
  | _ => none

def interaction? (update : AgentUpdate) : Option InteractionState :=
  match update.change with
  | some (.interactionChanged interaction) => some interaction
  | _ => none

def availableCommands? (update : AgentUpdate) :
    Option (List Rpc.AvailableSlashCommand) :=
  match update.change with
  | some (.availableCommandsChanged commands) => some commands
  | _ => none

end AgentUpdate

namespace AgentSnapshot

variable (s t : AgentSnapshot) (update : AgentUpdate)

/-! ## What one update does to each field -/

theorem updated_lifecycle :
    (s.updated update).lifecycle = update.lifecycle?.getD s.lifecycle := by
  cases update with
  | event => rfl
  | delta seq delta =>
    cases hchange : delta.change <;>
      simp only [updated, AgentUpdate.lifecycle?, AgentUpdate.change, hchange, applyChange] <;>
      first | rfl | (split <;> rfl)

theorem updated_session : (s.updated update).session = update.session?.getD s.session := by
  cases update with
  | event => rfl
  | delta seq delta =>
    cases hchange : delta.change <;>
      simp only [updated, AgentUpdate.session?, AgentUpdate.change, hchange, applyChange] <;>
      first | rfl | (split <;> rfl)

theorem updated_interaction :
    (s.updated update).interaction = update.interaction?.getD s.interaction := by
  cases update with
  | event => rfl
  | delta seq delta =>
    cases hchange : delta.change <;>
      simp only [updated, AgentUpdate.interaction?, AgentUpdate.change, hchange, applyChange] <;>
      first | rfl | (split <;> rfl)

theorem updated_availableCommands :
    (s.updated update).availableCommands =
      update.availableCommands?.getD s.availableCommands := by
  cases update with
  | event => rfl
  | delta seq delta =>
    cases hchange : delta.change <;>
      simp only [updated, AgentUpdate.availableCommands?, AgentUpdate.change, hchange,
        applyChange] <;>
      first | rfl | (split <;> rfl)

/-- Clearing the active run if it is this one is keeping it if it is another. -/
theorem clear_active (runId : RunId) :
    (if s.isActive runId then none else s.activeRun) =
      s.activeRun.filter fun run => run.runId ≠ runId := by
  unfold isActive
  cases s.activeRun with
  | none => rfl
  | some run => by_cases h : run.runId = runId <;> simp [Option.filter, h]

theorem updated_activeRun :
    (s.updated update).activeRun =
      update.startsRun.or (s.activeRun.filter update.keepsRun) := by
  have hkeep : (s.activeRun.filter fun _ => true) = s.activeRun := by
    cases s.activeRun <;> rfl
  cases update with
  | event => exact hkeep.symm
  | delta seq delta =>
    cases hchange : delta.change with
    | runUpserted run =>
      simp only [updated, AgentUpdate.startsRun, AgentUpdate.keepsRun, AgentUpdate.change, hchange,
        applyChange]
      split
      · exact clear_active s run.runId
      · rfl
    | runRemoved runId =>
      simp only [updated, AgentUpdate.startsRun, AgentUpdate.keepsRun, AgentUpdate.change, hchange,
        applyChange]
      exact clear_active s runId
    | _ =>
      simp only [updated, AgentUpdate.startsRun, AgentUpdate.keepsRun, AgentUpdate.change, hchange,
        applyChange, hkeep, Option.none_or]

theorem updated_recentRuns :
    (s.updated update).recentRuns = s.recentRuns.filter update.keepsRun ++ update.endsRun := by
  have hkeep : (s.recentRuns.filter fun _ => true) ++ [] = s.recentRuns := by
    rw [List.append_nil, List.filter_true]
  cases update with
  | event => exact hkeep.symm
  | delta seq delta =>
    cases hchange : delta.change with
    | runUpserted run =>
      simp only [updated, AgentUpdate.endsRun, AgentUpdate.keepsRun, AgentUpdate.change, hchange,
        applyChange]
      split
      · rfl
      · exact (List.append_nil _).symm
    | runRemoved runId =>
      simp only [updated, AgentUpdate.endsRun, AgentUpdate.keepsRun, AgentUpdate.change, hchange,
        applyChange, List.append_nil]
    | _ =>
      simp only [updated, AgentUpdate.endsRun, AgentUpdate.keepsRun, AgentUpdate.change, hchange,
        applyChange, hkeep]

end AgentSnapshot

/-! ## Convergence -/

/-- Every difference between the snapshots is in a part that one of the updates
overwrites. -/
structure Settled (updates : List AgentUpdate) (s t : AgentSnapshot) : Prop where
  lifecycle : s.lifecycle = t.lifecycle ∨ ∃ update ∈ updates, update.lifecycle?.isSome
  session : s.session = t.session ∨ ∃ update ∈ updates, update.session?.isSome
  activeRun : (s.activeRun.filter fun run => updates.all (·.keepsRun run)) =
      (t.activeRun.filter fun run => updates.all (·.keepsRun run)) ∨
    ∃ update ∈ updates, update.startsRun.isSome
  recentRuns : (s.recentRuns.filter fun run => updates.all (·.keepsRun run)) =
    t.recentRuns.filter fun run => updates.all (·.keepsRun run)
  interaction : s.interaction = t.interaction ∨ ∃ update ∈ updates, update.interaction?.isSome
  availableCommands : s.availableCommands = t.availableCommands ∨
    ∃ update ∈ updates, update.availableCommands?.isSome

theorem foldl_updated_agentId (updates : List AgentUpdate) (s : AgentSnapshot) :
    (updates.foldl AgentSnapshot.updated s).agentId = s.agentId := by
  induction updates generalizing s with
  | nil => rfl
  | cons update updates ih => rw [List.foldl_cons, ih, AgentSnapshot.updated_agentId]

/-- **Snapshots converge iff their differences are overwritten**, provided their
identity and counters agree in the end. -/
theorem foldl_updated_eq {updates : List AgentUpdate} {s t : AgentSnapshot}
    (hagent : s.agentId = t.agentId)
    (hrevision : (updates.foldl AgentSnapshot.updated s).revision =
      (updates.foldl AgentSnapshot.updated t).revision)
    (hseq : (updates.foldl AgentSnapshot.updated s).eventSequence =
      (updates.foldl AgentSnapshot.updated t).eventSequence) :
    updates.foldl AgentSnapshot.updated s = updates.foldl AgentSnapshot.updated t ↔
      Settled updates s t := by
  have hlifecycle := foldl_register AgentSnapshot.updated_lifecycle updates s t
  have hsession := foldl_register AgentSnapshot.updated_session updates s t
  have hactive := foldl_clearable AgentSnapshot.updated_activeRun updates s t
  have hrecent := foldl_keyed AgentSnapshot.updated_recentRuns updates s t
  have hinteraction := foldl_register AgentSnapshot.updated_interaction updates s t
  have hcommands := foldl_register AgentSnapshot.updated_availableCommands updates s t
  constructor
  · intro h
    rw [h] at hlifecycle hsession hactive hrecent hinteraction hcommands
    exact ⟨hlifecycle.mp rfl, hsession.mp rfl, hactive.mp rfl, hrecent.mp rfl,
      hinteraction.mp rfl, hcommands.mp rfl⟩
  · intro h
    have hagent' : (updates.foldl AgentSnapshot.updated s).agentId =
        (updates.foldl AgentSnapshot.updated t).agentId := by
      rw [foldl_updated_agentId, foldl_updated_agentId, hagent]
    have h₁ := hlifecycle.mpr h.lifecycle
    have h₂ := hsession.mpr h.session
    have h₃ := hactive.mpr h.activeRun
    have h₄ := hrecent.mpr h.recentRuns
    have h₅ := hinteraction.mpr h.interaction
    have h₆ := hcommands.mpr h.availableCommands
    generalize updates.foldl AgentSnapshot.updated s = a at *
    generalize updates.foldl AgentSnapshot.updated t = b at *
    cases a
    cases b
    simp_all

end OmpRemote

import Mathlib.Data.List.Nodup
import OmpRemote.ControlPlane.Calls
import OmpRemote.Protocol.Convergence

/-!
# The runs of a snapshot

A snapshot has one slot for the active run, and a list of the runs that are over. An
upsert puts a run into the one or the other, by its lifecycle.

- `mem_runs_upsert`: the runs after an upsert.
- `Displaces`, `hasRun_upsert_iff`: the one way to lose a run is another active one.
- `RunsOnce`: every run is there once, in the place where its lifecycle belongs.
- `KeepsEnded`: what is over stays over, with its lifecycle and its end.
-/

namespace OmpRemote

open Lib Rpc

namespace AgentSnapshot

variable {s s' s'' : AgentSnapshot}

/-- The runs that a snapshot has. -/
def runs (s : AgentSnapshot) : List RunSnapshot := s.activeRun.toList ++ s.recentRuns

theorem mem_runs {run : RunSnapshot} :
    run ∈ s.runs ↔ s.activeRun = some run ∨ run ∈ s.recentRuns := by
  rw [runs, List.mem_append, Option.mem_toList]

/-- The run is the active one or among the recent ones. -/
def HasRun (s : AgentSnapshot) (runId : RunId) : Prop := ∃ run ∈ s.runs, run.runId = runId

instance (s : AgentSnapshot) (runId : RunId) : Decidable (s.HasRun runId) :=
  inferInstanceAs (Decidable (∃ run ∈ s.runs, _))

/-- The active run is cleared if it has the id. -/
theorem clear_active_iff {runId : RunId} {run : RunSnapshot} :
    (if s.isActive runId then none else s.activeRun) = some run ↔
      s.activeRun = some run ∧ run.runId ≠ runId := by
  rw [clear_active, Option.filter_eq_some_iff, decide_eq_true_eq]

/-- The runs after an upsert: the run itself, the other recent ones, and the active
one unless its slot is taken. -/
theorem mem_runs_upsert {run candidate : RunSnapshot} :
    candidate ∈ (applyChange s (.runUpserted run)).runs ↔
      candidate = run ∨ candidate.runId ≠ run.runId ∧
        (candidate ∈ s.recentRuns ∨
          run.lifecycle.isTerminal = true ∧ s.activeRun = some candidate) := by
  rw [mem_runs]
  simp only [applyChange]
  split
  · rename_i hterminal
    dsimp only
    rw [clear_active_iff, List.mem_append, List.mem_filter, List.mem_singleton, decide_eq_true_eq]
    constructor
    · rintro (⟨hactive, hne⟩ | ⟨hrecent, hne⟩ | heq)
      · exact .inr ⟨hne, .inr ⟨hterminal, hactive⟩⟩
      · exact .inr ⟨hne, .inl hrecent⟩
      · exact .inl heq
    · rintro (heq | ⟨hne, hrecent | ⟨-, hactive⟩⟩)
      · exact .inr (.inr heq)
      · exact .inr (.inl ⟨hrecent, hne⟩)
      · exact .inl ⟨hactive, hne⟩
  · rename_i hterminal
    dsimp only
    rw [List.mem_filter, decide_eq_true_eq, Option.some_inj]
    constructor
    · rintro (heq | ⟨hrecent, hne⟩)
      · exact .inl heq.symm
      · exact .inr ⟨hne, .inl hrecent⟩
    · rintro (heq | ⟨hne, hrecent | ⟨hends, -⟩⟩)
      · exact .inl heq.symm
      · exact .inr ⟨hrecent, hne⟩
      · exact absurd hends hterminal

/-! ## Losing a run -/

/-- A run that goes on takes the slot of another one, which is nowhere else. -/
def Displaces (s : AgentSnapshot) (runId : RunId) : Prop :=
  ∃ active ∈ s.activeRun, active.runId ≠ runId ∧
    ∀ recent ∈ s.recentRuns, recent.runId ≠ active.runId

instance (s : AgentSnapshot) (runId : RunId) : Decidable (s.Displaces runId) :=
  match h : s.activeRun with
  | none => isFalse fun ⟨active, hactive, _⟩ => by rw [h] at hactive; cases hactive
  | some active => decidable_of_iff
      (active.runId ≠ runId ∧ ∀ recent ∈ s.recentRuns, recent.runId ≠ active.runId)
      ⟨fun hlost => ⟨active, h, hlost⟩, fun ⟨other, hother, hlost⟩ => by
        rw [h] at hother
        cases hother
        exact hlost⟩

/-- An upsert loses a run if and only if the run goes on and displaces another. -/
theorem hasRun_upsert_iff {run : RunSnapshot} :
    (∀ runId, s.HasRun runId → (applyChange s (.runUpserted run)).HasRun runId) ↔
      (run.lifecycle.isTerminal = false → ¬ s.Displaces run.runId) := by
  constructor
  · rintro hkept hgoesOn ⟨active, hactive, hne, hnowhere⟩
    obtain ⟨candidate, hcandidate, hid⟩ := hkept active.runId
      ⟨active, mem_runs.mpr (.inl hactive), rfl⟩
    rcases mem_runs_upsert.mp hcandidate with rfl | ⟨-, hrecent | ⟨hends, -⟩⟩
    · exact hne hid.symm
    · exact hnowhere candidate hrecent hid
    · rw [hgoesOn] at hends
      cases hends
  · rintro hnot runId ⟨known, hknown, rfl⟩
    by_cases hid : known.runId = run.runId
    · exact ⟨run, mem_runs_upsert.mpr (.inl rfl), hid.symm⟩
    rcases mem_runs.mp hknown with hactive | hrecent
    · cases hends : run.lifecycle.isTerminal with
      | true => exact ⟨known, mem_runs_upsert.mpr (.inr ⟨hid, .inr ⟨hends, hactive⟩⟩), rfl⟩
      | false =>
        -- it is not displaced, so it is among the recent ones as well
        have hrecent : ∃ recent ∈ s.recentRuns, recent.runId = known.runId := by
          by_contra hnone
          push Not at hnone
          exact hnot hends ⟨known, hactive, hid, hnone⟩
        obtain ⟨recent, hmem, hsame⟩ := hrecent
        exact ⟨recent, mem_runs_upsert.mpr (.inr ⟨hsame ▸ hid, .inl hmem⟩), hsame⟩
    · exact ⟨known, mem_runs_upsert.mpr (.inr ⟨hid, .inl hrecent⟩), rfl⟩

/-! ## Each run once -/

/-- Every run is there once: the one that goes on as the active one, the others
among the recent ones. -/
structure RunsOnce (s : AgentSnapshot) : Prop where
  once : (s.runs.map RunSnapshot.runId).Nodup
  active : ∀ run, s.activeRun = some run → run.lifecycle.isTerminal = false
  recent : ∀ run ∈ s.recentRuns, run.lifecycle.isTerminal = true

theorem runsOnce_of_no_runs (hactive : s.activeRun = none) (hrecent : s.recentRuns = []) :
    s.RunsOnce := by
  refine ⟨?_, ?_, ?_⟩
  · rw [runs, hactive, hrecent]
    exact List.nodup_nil
  · rw [hactive]
    nofun
  · rw [hrecent]
    nofun

/-- A snapshot with the same runs. -/
theorem RunsOnce.congr (h : s.RunsOnce) (hactive : s'.activeRun = s.activeRun)
    (hrecent : s'.recentRuns = s.recentRuns) : s'.RunsOnce := by
  refine ⟨?_, ?_, ?_⟩
  · rw [runs, hactive, hrecent]
    exact h.once
  · rw [hactive]
    exact h.active
  · rw [hrecent]
    exact h.recent

/-- Two runs with one id are the same. -/
theorem RunsOnce.unique (h : s.RunsOnce) {run run' : RunSnapshot} (hrun : run ∈ s.runs)
    (hrun' : run' ∈ s.runs) (hid : run.runId = run'.runId) : run = run' :=
  List.inj_on_of_nodup_map h.once hrun hrun' hid

theorem RunsOnce.upsert (h : s.RunsOnce) (run : RunSnapshot) :
    (applyChange s (.runUpserted run)).RunsOnce := by
  have hids := h.once
  rw [runs, List.map_append, List.nodup_append] at hids
  obtain ⟨-, hrecentOnce, hapart⟩ := hids
  -- the recent runs without the one that is upserted
  have hothers : ((s.recentRuns.filter fun candidate => candidate.runId ≠ run.runId).map
      RunSnapshot.runId).Nodup := hrecentOnce.sublist (List.filter_sublist.map _)
  have hnew : run.runId ∉ (s.recentRuns.filter fun candidate => candidate.runId ≠ run.runId).map
      RunSnapshot.runId := by
    intro hmem
    obtain ⟨candidate, hcandidate, hid⟩ := List.mem_map.mp hmem
    rw [List.mem_filter, decide_eq_true_eq] at hcandidate
    exact hcandidate.2 hid
  simp only [applyChange]
  split
  · rename_i hterminal
    refine ⟨?_, ?_, ?_⟩
    · dsimp only [runs]
      rw [List.map_append, List.map_append, List.map_singleton, List.nodup_append]
      refine ⟨?_, ?_, ?_⟩
      · cases (if s.isActive run.runId then none else s.activeRun) with
        | none => exact List.nodup_nil
        | some active => exact List.nodup_singleton _
      · rw [List.nodup_append]
        refine ⟨hothers, List.nodup_singleton _, ?_⟩
        intro id hid id' hid' hsame
        rw [List.mem_singleton.mp hid'] at hsame
        exact hnew (hsame ▸ hid)
      · intro id hid id' hid' hsame
        obtain ⟨active, hactive, rfl⟩ := List.mem_map.mp hid
        obtain ⟨hactive, hne⟩ := clear_active_iff.mp (Option.mem_toList.mp hactive)
        rcases List.mem_append.mp hid' with hold | hrun
        · obtain ⟨recent, hrecent, rfl⟩ := List.mem_map.mp hold
          refine hapart active.runId ?_ recent.runId ?_ hsame
          · rw [hactive]
            exact List.mem_singleton_self _
          · exact List.mem_map_of_mem (List.mem_filter.mp hrecent).1
        · rw [List.mem_singleton.mp hrun] at hsame
          exact hne hsame
    · intro active hactive
      exact h.active active (clear_active_iff.mp hactive).1
    · intro recent hrecent
      rcases List.mem_append.mp hrecent with hold | hnew
      · exact h.recent recent (List.mem_filter.mp hold).1
      · rw [List.mem_singleton.mp hnew]
        exact hterminal
  · rename_i hterminal
    refine ⟨?_, ?_, ?_⟩
    · show (run.runId :: _).Nodup
      exact List.nodup_cons.mpr ⟨hnew, hothers⟩
    · intro active hactive
      cases hactive
      exact Bool.not_eq_true _ ▸ hterminal
    · intro recent hrecent
      exact h.recent recent (List.mem_filter.mp hrecent).1

/-! ## What is over -/

/-- The run is among those that are over. -/
def Ended (s : AgentSnapshot) (runId : RunId) : Prop := ∃ run ∈ s.recentRuns, run.runId = runId

instance (s : AgentSnapshot) (runId : RunId) : Decidable (s.Ended runId) :=
  inferInstanceAs (Decidable (∃ run ∈ s.recentRuns, _))

/-- An upsert of the run as ended ends it. -/
theorem ended_upsert {run : RunSnapshot} (hends : run.lifecycle.isTerminal = true) :
    (applyChange s (.runUpserted run)).Ended run.runId := by
  refine ⟨run, ?_, rfl⟩
  simp only [applyChange]
  rw [if_pos hends]
  exact List.mem_append_right _ (List.mem_singleton_self run)

/-- A run that is over stays so, unless a run that goes on has its id. -/
theorem Ended.upsert {runId : RunId} (h : s.Ended runId) {run : RunSnapshot}
    (hother : run.lifecycle.isTerminal = false → run.runId ≠ runId) :
    (applyChange s (.runUpserted run)).Ended runId := by
  cases hends : run.lifecycle.isTerminal with
  | true =>
    by_cases hid : run.runId = runId
    · rw [← hid]
      exact ended_upsert hends
    · obtain ⟨ended, hended, hsame⟩ := h
      refine ⟨ended, ?_, hsame⟩
      simp only [applyChange]
      rw [if_pos hends]
      exact List.mem_append_left _ (List.mem_filter.mpr ⟨hended, by simpa [hsame] using Ne.symm hid⟩)
  | false =>
    obtain ⟨ended, hended, hsame⟩ := h
    have hid := hother hends
    refine ⟨ended, ?_, hsame⟩
    simp only [applyChange]
    rw [if_neg (by simp [hends])]
    exact List.mem_filter.mpr ⟨hended, by simpa [hsame] using Ne.symm hid⟩

/-- Then it is not the active one, and has a terminal status wherever it is. -/
theorem RunsOnce.ended (h : s.RunsOnce) {runId : RunId} (hended : s.Ended runId) :
    s.isActive runId = false ∧
      ∀ run ∈ s.runs, run.runId = runId → run.lifecycle.isTerminal = true := by
  obtain ⟨ended, hmem, rfl⟩ := hended
  have hterminal := h.recent ended hmem
  have hall : ∀ run ∈ s.runs, run.runId = ended.runId → run.lifecycle.isTerminal = true := by
    intro run hrun hid
    rwa [h.unique hrun (mem_runs.mpr (.inr hmem)) hid]
  refine ⟨?_, hall⟩
  rw [isActive, Option.any_eq_false]
  intro active hactive
  rw [decide_eq_false_iff_not]
  intro hid
  have hover := hall active (mem_runs.mpr (.inl hactive)) hid
  rw [h.active active hactive] at hover
  cases hover

/-- What is over is still there, with the lifecycle and the end it had. -/
def KeepsEnded (s s' : AgentSnapshot) : Prop :=
  ∀ run ∈ s.recentRuns, ∃ run' ∈ s'.recentRuns, run'.runId = run.runId ∧
    run'.lifecycle = run.lifecycle ∧ run'.endedAtMs = run.endedAtMs

theorem KeepsEnded.of_eq (h : s'.recentRuns = s.recentRuns) : s.KeepsEnded s' := by
  intro run hrun
  rw [← h] at hrun
  exact ⟨run, hrun, rfl, rfl, rfl⟩

theorem KeepsEnded.trans (h : s.KeepsEnded s') (h' : s'.KeepsEnded s'') : s.KeepsEnded s'' := by
  intro run hrun
  obtain ⟨run', hrun', hid, hlifecycle, hend⟩ := h run hrun
  obtain ⟨run'', hrun'', hid', hlifecycle', hend'⟩ := h' run' hrun'
  exact ⟨run'', hrun'', hid'.trans hid, hlifecycle'.trans hlifecycle, hend'.trans hend⟩

/-- The upsert says of no recent run what is not so. -/
def Agrees (s : AgentSnapshot) (run : RunSnapshot) : Prop :=
  ∀ recent ∈ s.recentRuns, recent.runId = run.runId →
    run.lifecycle = recent.lifecycle ∧ run.endedAtMs = recent.endedAtMs

instance (s : AgentSnapshot) (run : RunSnapshot) : Decidable (s.Agrees run) :=
  inferInstanceAs (Decidable (∀ recent ∈ s.recentRuns, _ → _))

end AgentSnapshot

end OmpRemote

import OmpRemote.Ompd.Rows

/-!
# The agents listed across a restart

`ListAgents` goes by the registry, and a restart fills the registry from the rows.
The two part where a stop takes the agent out of the registry and leaves its row,
and where a launch puts it in and fails before it has written one.

- `Entry`, `World.entryAfter`: what the last of these has left.
- `Entry.Tells.step`: that is how registry and row compare.
- `restart_lists_iff`: exactly when an agent is listed after a restart as it was
  before.
- `restart_lists_stopped`: a stopped agent is back.
-/

namespace OmpRemote.Ompd.Supervision

open ControlPlane Lib Rpc OmpRemote.Runtime

variable {δ : Type}

/-- What has become of the agent's entry in the registry and of its row. -/
inductive Entry where
  | kept
  /-- A stop has removed the entry, and no launch has made a new one. -/
  | dropped
  /-- A launch has made the entry, and no row has been written. -/
  | unwritten
  deriving DecidableEq

namespace World

/-- `ListAgents` answers with the agent. -/
def Listed (world : World δ) : Prop := world.registry.isSome = true

instance (world : World δ) : Decidable world.Listed := inferInstanceAs (Decidable (_ = true))

/-- What the next operation of a task does to the entry. -/
def entryAfterOp (setup : Setup) (world : World δ) (t : TaskId) (answer : Answer)
    (entry : Entry) : Op → Entry
  | .removeAgent => if world.Listed then .dropped else entry
  | .getOrCreateAgent =>
    if world.Listed then entry else if world.HasRow setup then .kept else .unwritten
  | op =>
    if (world.write setup t answer op).any (fun result => result.1.isOk) && entry = .unwritten then
      .kept
    else entry

def entryAfter (setup : Setup) (world : World δ) (entry : Entry) : Input → Entry
  | .task t answer =>
    (world.tasks t).todo.head?.elim entry (world.entryAfterOp setup t answer entry)
  | .restart .. => .kept
  | _ => entry

/-- The daemon, with what has become of the agent's entry. -/
def withEntry (setup : Setup) (store : Store δ) (inputs : List Input) : World δ × Entry :=
  run (fun state input => (state.1.step setup input, state.1.entryAfter setup state.2 input))
    (create setup store, .kept) inputs

/-- What has become of the agent's entry in a run. -/
def entry (setup : Setup) (store : Store δ) (inputs : List Input) : Entry :=
  (withEntry setup store inputs).2

/-- No request is in flight. -/
def Settled (world : World δ) : Prop :=
  ∀ t, (world.tasks t).bridge = none → (world.tasks t).todo = []

end World

/-- How the registry and the row compare. -/
def Entry.Tells (setup : Setup) (world : World δ) : Entry → Prop
  | .kept => world.Listed ↔ world.HasRow setup
  | .dropped => ¬ world.Listed ∧ world.HasRow setup
  | .unwritten => world.Listed ∧ ¬ world.HasRow setup

/-- What comes while the daemon shuts down: no other request. -/
def Input.closes : Input → Bool
  | .request .shutdown => true
  | .request _ | .restart .. => false
  | _ => true

/-! ## One step -/

section Step

variable {setup : Setup} {world world' : World δ} {t : TaskId} {answer : Answer} {op : Op}
  {rest : List Op}

/-- Only a launch and a stop change the registry. -/
theorem TaskStep.registry (h : TaskStep setup world t answer op rest world')
    (hcreates : op ≠ .getOrCreateAgent) (hremoves : op ≠ .removeAgent) :
    world'.registry = world.registry := by
  rcases h.registry_cases with hkept | hop | ⟨hop, -⟩
  · exact hkept
  · exact absurd hop hcreates
  · exact absurd hop hremoves

theorem stepTask_getOrCreateAgent (setup : Setup) (answer : Answer)
    (htodo : (world.tasks t).todo = .getOrCreateAgent :: rest) :
    (world.stepTask setup t answer).Listed := by
  unfold World.stepTask World.attempt
  rw [htodo]
  simp only [Task.command, World.perform]
  split
  · rename_i actor hregistry
    show world.registry.isSome = true
    rw [hregistry]
    rfl
  · rfl

theorem stepTask_removeAgent (setup : Setup) (answer : Answer)
    (htodo : (world.tasks t).todo = .removeAgent :: rest) :
    ¬ (world.stepTask setup t answer).Listed := by
  unfold World.stepTask World.attempt
  rw [htodo]
  simp only [Task.command, World.perform]
  split
  · rename_i hregistry
    show ¬ world.registry.isSome = true
    rw [hregistry]
    decide
  · exact Bool.false_ne_true

theorem stepTask_hasRow_iff (htodo : (world.tasks t).todo = op :: rest) :
    (world.stepTask setup t answer).HasRow setup ↔
      world.HasRow setup ∨
        (world.write setup t answer op).any (fun result => result.1.isOk) = true := by
  rw [World.HasRow, stepTask_store htodo]
  cases hwrite : world.write setup t answer op with
  | none => exact ⟨.inl, fun h => h.resolve_right Bool.false_ne_true⟩
  | some result =>
    rw [Option.elim_some, Option.any_some]
    rcases write_cases hwrite with ⟨herror, hsame⟩ | ⟨_, _, _, _, -, -, hok, hrow⟩
    · rw [hsame, herror]
      exact ⟨.inl, fun h => h.resolve_right Bool.false_ne_true⟩
    · rw [hok, hrow]
      exact ⟨fun _ => .inr rfl, fun _ => rfl⟩

/-- A stop that removes the agent has written its row. -/
theorem Backed.hasRow_of_removes (h : Backed setup world)
    (htodo : (world.tasks t).todo = .removeAgent :: rest) : world.HasRow setup := by
  rcases h with hrow | hbare
  · exact hrow
  · have hrelies := (hbare.tasks t).relies
    rw [htodo] at hrelies
    cases hrelies

/-- Who writes the row of an agent has put or found it in the registry. -/
theorem Backed.hasRow_of_writes (h : Backed setup world) (hnone : world.registry = none)
    (htodo : (world.tasks t).todo = op :: rest)
    (hwrites : (world.write setup t answer op).any (fun result => result.1.isOk) = true) :
    world.HasRow setup := by
  rcases h with hrow | hbare
  · exact hrow
  · have hguarded := (hbare.tasks t).writes hnone
    rw [htodo] at hguarded
    cases op with
    | upsertAgent => cases hguarded
    | _ => cases hwrites

/-- Where the step leaves the row as it is, it goes by the registry. -/
theorem Entry.Tells.congr {entry : Entry} (h : entry.Tells setup world)
    (hlisted : world'.Listed ↔ world.Listed) (hrow : world'.HasRow setup ↔ world.HasRow setup) :
    entry.Tells setup world' := by
  cases entry with
  | kept => exact hlisted.trans (h.trans hrow.symm)
  | dropped => exact ⟨mt hlisted.mp h.1, hrow.mpr h.2⟩
  | unwritten => exact ⟨hlisted.mpr h.1, mt hrow.mp h.2⟩

theorem Entry.Tells.task {entry : Entry} (h : entry.Tells setup world)
    (hbacked : Backed setup world) (htodo : (world.tasks t).todo = op :: rest) :
    (world.entryAfterOp setup t answer entry op).Tells setup
      (world.stepTask setup t answer) := by
  have hrow : (world.stepTask setup t answer).HasRow setup ↔ _ := stepTask_hasRow_iff htodo
  -- an operation that writes nothing
  have hsame (hop : world.write setup t answer op = none) :
      (world.stepTask setup t answer).HasRow setup ↔ world.HasRow setup := by
    rw [hrow, hop]
    exact ⟨fun h => h.resolve_right Bool.false_ne_true, .inl⟩
  by_cases hcreates : op = .getOrCreateAgent
  · subst hcreates
    have hafter := stepTask_getOrCreateAgent setup answer htodo
    have hhas := hsame rfl
    simp only [World.entryAfterOp]
    split
    · rename_i hlisted
      exact h.congr ⟨fun _ => hlisted, fun _ => hafter⟩ hhas
    split
    · rename_i hnone hbefore
      exact ⟨fun _ => hhas.mpr hbefore, fun _ => hafter⟩
    · rename_i hnone hbefore
      exact ⟨hafter, mt hhas.mp hbefore⟩
  by_cases hremoves : op = .removeAgent
  · subst hremoves
    have hafter := stepTask_removeAgent setup answer htodo
    have hhas := hsame rfl
    simp only [World.entryAfterOp]
    split
    · exact ⟨hafter, hhas.mpr (hbacked.hasRow_of_removes htodo)⟩
    · rename_i hnone
      exact h.congr ⟨fun h => absurd h hafter, fun h => absurd h hnone⟩ hhas
  have hregistry := (stepTask_cases htodo : TaskStep setup world t answer op rest _).registry
    hcreates hremoves
  have hlisted : (world.stepTask setup t answer).Listed ↔ world.Listed := by
    rw [World.Listed, World.Listed, hregistry]
  have hentry : world.entryAfterOp setup t answer entry op =
      if (world.write setup t answer op).any (fun result => result.1.isOk) && entry = .unwritten
      then .kept else entry := by
    cases op <;> first | rfl | exact absurd rfl hcreates | exact absurd rfl hremoves
  rw [hentry]
  by_cases hwrites : (world.write setup t answer op).any (fun result => result.1.isOk) = true
  · have hhas := hrow.mpr (.inr hwrites)
    rw [hwrites]
    cases entry with
    | kept =>
      refine ⟨fun _ => hhas, fun _ => ?_⟩
      by_contra hnone
      rw [hlisted, World.Listed, Option.not_isSome_iff_eq_none] at hnone
      have hlisted' := h.mpr (hbacked.hasRow_of_writes hnone htodo hwrites)
      rw [World.Listed, hnone] at hlisted'
      cases hlisted'
    | dropped => exact ⟨mt hlisted.mp h.1, hhas⟩
    | unwritten => exact ⟨fun _ => hhas, fun _ => hlisted.mpr h.1⟩
  · rw [Bool.not_eq_true] at hwrites
    rw [hwrites]
    refine h.congr hlisted ?_
    rw [hrow, hwrites]
    exact ⟨fun h => h.resolve_right Bool.false_ne_true, .inl⟩

theorem stepTask_up (setup : Setup) (world : World δ) (t : TaskId) (answer : Answer) :
    (world.stepTask setup t answer).up = world.up := by
  cases htodo : (world.tasks t).todo with
  | nil =>
    unfold World.stepTask
    rw [htodo]
  | cons op rest =>
    have hstep : TaskStep setup world t answer op rest (world.stepTask setup t answer) :=
      stepTask_cases htodo
    generalize world.stepTask setup t answer = world' at hstep
    cases hstep with
    | calls actor command task =>
      rw [noteRecorded_eq]
      rfl
    | _ => rfl

/-- After a restart the agents with a row are listed. -/
theorem listed_restart {nowMs : UInt64} {fault : Option Nat}
    (hup : (world.step setup (.restart nowMs fault)).up = true) :
    (world.step setup (.restart nowMs fault)).Listed ↔ world.HasRow setup := by
  have hrow := world.store.recoverInterrupted_isSome nowMs fault setup.agentId
  rw [World.HasRow, ← hrow]
  revert hup
  simp only [World.step, World.restart]
  rcases world.store.recoverInterrupted nowMs fault with ⟨recovered, store⟩
  cases recovered with
  | error error => rintro ⟨⟩
  | ok done =>
    intro _
    dsimp only
    cases hagent : store.agent setup.agentId with
    | none => exact ⟨by rintro ⟨⟩, by rintro ⟨⟩⟩
    | some record => exact ⟨fun _ => rfl, fun _ => rfl⟩

/-- The step lemma. While the daemon is down, nothing is listed. -/
theorem Entry.Tells.step {entry : Entry} (h : world.up = true → entry.Tells setup world)
    (hbacked : Backed setup world) (input : Input)
    (hup : (world.step setup input).up = true) :
    (world.entryAfter setup entry input).Tells setup (world.step setup input) := by
  cases input with
  | task t answer =>
    have hbefore : world.up = true := (stepTask_up setup world t answer).symm.trans hup
    simp only [World.entryAfter]
    cases htodo : (world.tasks t).todo with
    | nil =>
      simp only [World.step, World.stepTask, htodo]
      exact h hbefore
    | cons op rest => exact (h hbefore).task hbacked htodo
  | request request =>
    have hup' : world.up = true := by
      simp only [World.step] at hup
      split at hup <;> exact hup
    refine (h hup').congr ?_ ?_
    all_goals
      simp only [World.step]
      split <;> exact Iff.rfl
  | runtime r input => exact h hup
  | publish r => exact h hup
  | stderr r text =>
    simp only [World.step] at hup ⊢
    split at hup
    · rename_i hopen
      rw [if_pos hopen]
      exact (h hup).congr Iff.rfl Iff.rfl
    · rename_i hopen
      rw [if_neg hopen]
      exact h hup
  | close r =>
    simp only [World.step] at hup ⊢
    split at hup
    · rename_i hopen
      rw [if_pos hopen]
      exact (h hup).congr Iff.rfl Iff.rfl
    · rename_i hopen
      rw [if_neg hopen]
      exact h hup
  | actor actor input =>
    simp only [World.step] at hup ⊢
    split at hup
    · rename_i hforeign
      rw [if_pos hforeign]
      exact (h hup).congr Iff.rfl Iff.rfl
    · rename_i hforeign
      rw [if_neg hforeign]
      exact h hup
  | restart nowMs fault =>
    exact (listed_restart hup).trans (hasRow_restart setup world nowMs fault).symm

/-- Without a runtime in the map a request that takes it waits or fails. -/
theorem stepTask_takeRuntime (setup : Setup) (answer : Answer)
    (htodo : (world.tasks t).todo = .takeRuntime :: rest) (hnone : world.runtimes = none) :
    world.stepTask setup t answer = world ∨ world.stepTask setup t answer = world.fail t := by
  unfold World.stepTask World.attempt
  rw [htodo]
  simp only [Task.command, World.perform, hnone]
  split
  · exact .inl rfl
  · exact .inr rfl

/-- Where the daemon shuts down on a database without the agent's row, and no request
is in flight. -/
structure Empty (setup : Setup) (world : World δ) : Prop where
  row : ¬ world.HasRow setup
  runtimes : world.runtimes = none
  tasks : ∀ t, (world.tasks t).todo = [] ∨ (world.tasks t).todo = shutdownController

/-- There is nothing to shut down, so no row is written. -/
theorem Empty.step (h : Empty setup world) {input : Input} (hcloses : input.closes = true) :
    Empty setup (world.step setup input) := by
  have hset : ∀ u task, task.todo = [] ∨ task.todo = shutdownController → ∀ v,
      (Function.update world.tasks u task v).todo = [] ∨
        (Function.update world.tasks u task v).todo = shutdownController := by
    intro u task htask v
    by_cases hv : v = u
    · rw [hv, Function.update_self]
      exact htask
    · rw [Function.update_of_ne hv]
      exact h.tasks v
  cases input with
  | task t answer =>
    rcases h.tasks t with htodo | htodo
    · simp only [World.step, World.stepTask, htodo]
      exact h
    · rcases stepTask_takeRuntime setup answer htodo h.runtimes with
        hstep | hstep <;> simp only [World.step, hstep]
      · exact h
      · exact ⟨h.row, h.runtimes, hset _ _ (.inl rfl)⟩
  | request request =>
    cases request with
    | shutdown =>
      simp only [World.step]
      split
      · exact ⟨h.row, h.runtimes, hset _ _ (.inr rfl)⟩
      · exact h
    | _ => cases hcloses
  | runtime r input => exact ⟨h.row, h.runtimes, h.tasks⟩
  | publish r => exact ⟨h.row, h.runtimes, h.tasks⟩
  | stderr r text =>
    simp only [World.step]
    split <;> exact ⟨h.row, h.runtimes, h.tasks⟩
  | close r =>
    simp only [World.step]
    split <;> exact ⟨h.row, h.runtimes, h.tasks⟩
  | actor actor input =>
    simp only [World.step]
    split <;> exact ⟨h.row, h.runtimes, h.tasks⟩
  | restart nowMs fault => cases hcloses

end Step

/-! ## Runs -/

theorem withEntry_world (setup : Setup) (store : Store δ) (inputs : List Input) :
    (World.withEntry setup store inputs).1 =
      run (World.step setup) (World.create setup store) inputs := by
  induction inputs using List.reverseRecOn with
  | nil => rfl
  | append_singleton inputs input ih =>
    rw [World.withEntry, run_append, run_append, ← ih]
    rfl

theorem tells_run (setup : Setup) (store : Store δ) (inputs : List Input)
    (hup : (run (World.step setup) (World.create setup store) inputs).up = true) :
    (World.entry setup store inputs).Tells setup
      (run (World.step setup) (World.create setup store) inputs) := by
  have hinvariant : Backed setup (World.withEntry setup store inputs).1 ∧
      ((World.withEntry setup store inputs).1.up = true →
        (World.withEntry setup store inputs).2.Tells setup
          (World.withEntry setup store inputs).1) :=
    run_invariant
      (P := fun state : World δ × Entry =>
        Backed setup state.1 ∧ (state.1.up = true → state.2.Tells setup state.1))
      (fun _ input h => ⟨h.1.step input, Entry.Tells.step h.2 h.1 input⟩)
      ⟨.inr ⟨rfl, fun _ => rfl, fun _ => .done _⟩, fun hup => by cases hup⟩ inputs
  have hworld := withEntry_world setup store inputs
  rw [← hworld] at hup ⊢
  exact hinvariant.2 hup

/-- While the daemon shuts down, the row neither comes nor goes. -/
theorem hasRow_closing {setup : Setup} {world : World δ} (hbacked : Backed setup world)
    (hsettled : world.Settled)
    {later : List Input} (hlater : ∀ input ∈ later, input.closes = true) :
    (run (World.step setup) world later).HasRow setup ↔ world.HasRow setup := by
  rcases hbacked with hrow | hbare
  · have hkept : (run (World.step setup) world later).HasRow setup :=
      run_invariant (P := World.HasRow setup) (fun _ input h => h.step input) hrow later
    exact ⟨fun _ => hrow, fun _ => hkept⟩
  by_cases hrow : world.HasRow setup
  · have hkept : (run (World.step setup) world later).HasRow setup :=
      run_invariant (P := World.HasRow setup) (fun _ input h => h.step input) hrow later
    exact ⟨fun _ => hrow, fun _ => hkept⟩
  · have hempty : Empty setup world :=
      ⟨hrow, hbare.runtimes, fun t => .inl (hsettled t (hbare.bridge t))⟩
    have hafter : Empty setup (run (World.step setup) world later) := by
      clear hrow hbare hsettled
      induction later generalizing world with
      | nil => exact hempty
      | cons input later ih =>
        rw [List.forall_mem_cons] at hlater
        exact ih hlater.2 (hempty.step hlater.1)
    exact ⟨fun h => absurd h hafter.row, fun h => absurd h hrow⟩

/-- **Listing across a restart.** When no request is in flight, the daemon shuts down,
and it is started again on its database, the agent is listed as it was before if and
only if the registry's entry was kept: no stop has removed it since the last launch,
and no launch that made it has failed before it wrote the row. -/
theorem restart_lists_iff (setup : Setup) (store : Store δ) (inputs later : List Input)
    (nowMs : UInt64) (fault : Option Nat)
    (hup : (run (World.step setup) (World.create setup store) inputs).up = true)
    (hsettled : (run (World.step setup) (World.create setup store) inputs).Settled)
    (hlater : ∀ input ∈ later, input.closes = true)
    (hrestarted : ((run (World.step setup) (World.create setup store) (inputs ++ later)).step setup
      (.restart nowMs fault)).up = true) :
    (((run (World.step setup) (World.create setup store) (inputs ++ later)).step setup
        (.restart nowMs fault)).Listed ↔
      (run (World.step setup) (World.create setup store) inputs).Listed) ↔
    World.entry setup store inputs = .kept := by
  rw [listed_restart hrestarted, run_append,
    hasRow_closing (backed_run setup store inputs) hsettled hlater]
  have htells := tells_run setup store inputs hup
  cases hentry : World.entry setup store inputs <;> rw [hentry] at htells
  · exact ⟨fun _ => rfl, fun _ => htells.symm⟩
  · exact ⟨fun h => absurd (h.mp htells.2) htells.1, nofun⟩
  · exact ⟨fun h => absurd (h.mpr htells.1) htells.2, nofun⟩

/-- The daemon shuts down, and the launched agent's child exits. -/
def shuttingDown : List Input :=
  [Input.request .shutdown] ++ List.replicate 3 (Input.task 2 plainAnswer) ++
    [Input.runtime 0 (.childWait (.ok ⟨some 0, true⟩)), .runtime 0 (.reader none), .publish 0] ++
    List.replicate 4 (Input.task 2 plainAnswer) ++ List.replicate 4 (Input.task 1 plainAnswer)

theorem settled_of_lt {world : World δ} {n : Nat} (hlate : ∀ t, n ≤ t → (world.tasks t).todo = [])
    (h : ∀ t, t < n → (world.tasks t).bridge = none → (world.tasks t).todo = []) :
    world.Settled := by
  intro t hbridge
  by_cases ht : t < n
  · exact h t ht hbridge
  · exact hlate t (Nat.le_of_not_lt ht)

theorem settled_plainRun (inputs : List Input)
    (h : ∀ t, t < (plainRun inputs).nextTask → ((plainRun inputs).tasks t).bridge = none →
      ((plainRun inputs).tasks t).todo = []) : (plainRun inputs).Settled :=
  settled_of_lt (sound_run plainSetup (.create ⟨"server"⟩) inputs).idle h

/-- A launched agent is listed after the restart as it was before. -/
theorem restart_lists_iff_launching :
    (((plainRun (launching ++ shuttingDown)).step plainSetup (.restart 2 none)).Listed ↔
      (plainRun launching).Listed) ↔
    World.entry plainSetup (.create ⟨"server"⟩ : Store Unit) launching = .kept :=
  restart_lists_iff plainSetup (.create ⟨"server"⟩) launching shuttingDown 2 none
    (by decide +kernel) (settled_plainRun launching (by decide +kernel)) (by decide)
    (by decide +kernel)

/-- The agent is launched and stopped. -/
def stopping : List Input :=
  launching ++ [Input.request .stop] ++ List.replicate 3 (Input.task 2 plainAnswer) ++
    [Input.runtime 0 (.childWait (.ok ⟨some 0, true⟩)), .runtime 0 (.reader none), .publish 0] ++
    List.replicate 6 (Input.task 2 plainAnswer) ++ List.replicate 4 (Input.task 1 plainAnswer)

/-- A stopped agent is not listed, and after a restart it is. -/
theorem restart_lists_stopped :
    (plainRun stopping).Settled ∧ ¬ (plainRun stopping).Listed ∧
      ((plainRun (stopping ++ [.request .shutdown, .task 3 plainAnswer])).step plainSetup
        (.restart 2 none)).Listed ∧
      World.entry plainSetup (.create ⟨"server"⟩ : Store Unit) stopping = .dropped :=
  ⟨settled_plainRun stopping (by decide +kernel), by decide +kernel, by decide +kernel,
    by decide +kernel⟩

end OmpRemote.Ompd.Supervision

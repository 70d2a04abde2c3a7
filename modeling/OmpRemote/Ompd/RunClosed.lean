import OmpRemote.Ompd.PromptFailure

/-!
# Runs of agents that are over

A run is ended by the bridge when OMP ends its turn, by an abort, or by the prompt whose
call fails; a lifecycle is set by whoever learns that the runtime is over. Neither knows
of the other.

- `AgentSnapshot.hasOrphan`: the agent is over, and one of its runs is active.
- `Op.mayClose`, `World.MayClose`: the operations, and the tasks, that may change that.
- `World.ClosesRuns`: the condition that whoever comes last leaves no such agent behind.
- `runs_closed`: then no agent that is over has an active run when all tasks are through.
- `exited_runs_on`: the child exits in the middle of a turn.
-/

namespace OmpRemote

/-- The lifecycle is terminal, but a run is active. -/
def AgentSnapshot.hasOrphan (snapshot : AgentSnapshot) : Bool :=
  snapshot.lifecycle.isTerminal && snapshot.activeRun.isSome

namespace Ompd.Supervision

open ControlPlane Lib Rpc OmpRemote.Runtime

variable {δ : Type}

/-- An operation that may end a run, or set a lifecycle that is not terminal, or have
its task or a bridge do so. -/
def Op.mayClose : Op → Bool
  | .endRun .. | .prompt | .receive | .spawnEventBridge => true
  | .change _ (.lifecycleChanged lifecycle) => !lifecycle.isTerminal
  | _ => false

namespace World

/-- The task has such an operation left. -/
def MayClose (world : World δ) (t : TaskId) : Prop :=
  ∃ op ∈ (world.tasks t).todo, op.mayClose = true

instance (world : World δ) (t : TaskId) : Decidable (world.MayClose t) :=
  inferInstanceAs (Decidable (∃ op ∈ (world.tasks t).todo, _))

/-- An agent of the daemon that is over and has an active run may still be put right. -/
def Guarded (world : World δ) : Prop :=
  ∀ actor, world.firstActor ≤ actor → (world.actors actor).snapshot.hasOrphan = true →
    ∃ t, t < world.nextTask ∧ world.MayClose t

/-- The operation leaves something to do that may put it right, if it goes well: a call of
OMP that fails, a receiver that is not at its end, a new bridge. -/
def addsCloser (world : World δ) (task : Task) (answer : Answer) : Op → Bool
  | .prompt =>
    match answer.reply with
    | .error _ => true
    | .ok _ => false
  | .receive => task.bridge.any fun r =>
    match (world.runtime r).events.recv task.next with
    | .value event => !event.isFinal
    | .lagged _ | .pending => true
    | .closed => false
  | .spawnEventBridge => true
  | _ => false

/-- After the operation the task may still close runs. -/
def ClosesLater (setup : Setup) (world : World δ) (t : TaskId) (answer : Answer) (op : Op)
    (rest : List Op) : Prop :=
  (world.attempt setup t answer op rest).1 = true ∧
    (rest.any Op.mayClose = true ∨ world.addsCloser (world.tasks t) answer op = true)

instance (setup : Setup) (world : World δ) (t : TaskId) (answer : Answer) (op : Op)
    (rest : List Op) : Decidable (world.ClosesLater setup t answer op rest) :=
  inferInstanceAs (Decidable (_ ∧ (_ ∨ _)))

/-- The step ends the run that is active, or sets a lifecycle that is not terminal. -/
def Closes (world : World δ) (input : Input) (actor : ActorId) : Prop :=
  (∃ upsert ∈ world.upserts input, upsert.1 = actor ∧ upsert.2.lifecycle.isTerminal = true ∧
    (world.actors actor).snapshot.isActive upsert.2.runId = true) ∨
  ∃ written ∈ world.writes input, written.1 = actor ∧ written.2.isTerminal = false

instance (world : World δ) (input : Input) (actor : ActorId) :
    Decidable (world.Closes input actor) :=
  inferInstanceAs (Decidable ((∃ upsert ∈ world.upserts input, _) ∨
    ∃ written ∈ world.writes input, _))

/-- The step makes the agent no orphan of its active run, and leaves none. -/
structure LeavesClosed (world : World δ) (input : Input) (actor : ActorId) : Prop where
  orphan : (world.actors actor).snapshot.hasOrphan = true →
    (world.actors actor).hasRoom = true ∧ world.Closes input actor
  writes : ∀ written ∈ world.writes input, written.1 = actor → written.2.isTerminal = true →
    (world.actors actor).hasRoom = true → (world.actors actor).snapshot.activeRun = none

instance (world : World δ) (input : Input) (actor : ActorId) :
    Decidable (world.LeavesClosed input actor) :=
  decidable_of_iff (_ ∧ _) ⟨fun h => ⟨h.1, h.2⟩, fun h => ⟨h.1, h.2⟩⟩

/-- So it is with what the task has to do, for all agents of the daemon, unless another
task may still close runs, or this one. -/
def ClosesTodo (setup : Setup) (world : World δ) (t : TaskId) (answer : Answer) : List Op → Prop
  | [] => True
  | op :: rest => (∀ u < world.nextTask, u ≠ t → ¬ world.MayClose u) →
    ¬ world.ClosesLater setup t answer op rest →
    ∀ actor < world.nextActor, world.firstActor ≤ actor →
      world.LeavesClosed (.task t answer) actor

instance (setup : Setup) (world : World δ) (t : TaskId) (answer : Answer) :
    ∀ todo, Decidable (world.ClosesTodo setup t answer todo)
  | [] => inferInstanceAs (Decidable True)
  | _ :: _ => inferInstanceAs (Decidable (_ → _ → ∀ actor < world.nextActor, _))

/-- The task that is the last that may close runs leaves no agent of the daemon with a
terminal lifecycle and an active run. -/
def ClosesRuns (setup : Setup) (world : World δ) : Input → Prop
  | .task t answer => world.ClosesTodo setup t answer (world.tasks t).todo
  | _ => True

instance (setup : Setup) (world : World δ) : ∀ input, Decidable (world.ClosesRuns setup input)
  | .task t answer => inferInstanceAs (Decidable (world.ClosesTodo setup t answer _))
  | .request _ | .runtime .. | .publish _ | .stderr .. | .close _ | .actor .. | .restart .. =>
    inferInstanceAs (Decidable True)

end World

/-! ## What a step changes -/

section Step

variable (setup : Setup) {world : World δ} {t : TaskId} {answer : Answer} {op : Op}
  {rest : List Op} {actor : ActorId}

/-- A step that writes a lifecycle is a call to its actor. -/
theorem step_writes {input : Input} {lifecycle : AgentLifecycle}
    (hwrites : world.writes input = some (actor, lifecycle)) :
    (world.step setup input).actors actor =
      ((world.actors actor).turn (.command (.change (.lifecycleChanged lifecycle)))).2 := by
  cases input with
  | task t answer =>
    obtain ⟨op, hhead, hop⟩ := Option.bind_eq_some_iff.mp hwrites
    obtain ⟨agent, hagent, hwritten⟩ := Option.bind_eq_some_iff.mp hop
    obtain ⟨written, hlifecycle, heq⟩ := Option.bind_eq_some_iff.mp hwritten
    cases heq
    obtain ⟨rest, htodo⟩ := List.head?_eq_some_iff.mp hhead
    have hcommand : ({ world.tasks t with todo := rest } : Task).command answer op =
        some (actor, .change (.lifecycleChanged lifecycle)) := by
      unfold Op.lifecycle at hlifecycle
      split at hlifecycle
      · cases hlifecycle
        simp [Task.command, hagent]
      · cases hlifecycle
    rw [(step_call setup htodo hcommand).1, Function.update_self]
  | request | runtime | publish | stderr | close | actor | restart => cases hwrites

/-- A prompt whose call fails goes on to fail the active run. -/
theorem step_callFails {error : RequestError} (htodo : (world.tasks t).todo = .prompt :: rest)
    (hreply : answer.reply = .error error) :
    ((world.step setup (.task t answer)).tasks t).todo = failActiveRun error.message ++ rest := by
  simp only [World.step, World.stepTask, htodo, World.attempt, Task.command, World.perform, hreply,
    World.resolve, if_true]
  rw [World.tasks_setTask_self]

/-- Whoever may close runs later is there after the step. -/
theorem World.ClosesLater.step (h : world.ClosesLater setup t answer op rest) (hsound : Sound world)
    (htodo : (world.tasks t).todo = op :: rest) :
    world.step setup (.task t answer) = world ∨
      ∃ u, u < (world.step setup (.task t answer)).nextTask ∧
        (world.step setup (.task t answer)).MayClose u := by
  have hstep : TaskStep setup world t answer op rest (world.step setup (.task t answer)) :=
    stepTask_cases htodo
  have hlt := Nat.lt_of_lt_of_le (hsound.allocated htodo) hstep.nextTask_le
  obtain ⟨hok, hrest | hadds⟩ := h
  · obtain ⟨closer, hmem, hcloses⟩ := List.any_eq_true.mp hrest
    -- an operation behind this one closes the run, and stays in the todo
    rcases hstep.todo (hsound.allocated htodo) with hsame | ⟨-, hfails⟩ | ⟨ops, -, hafter⟩
    · exact .inl hsame
    · rw [hok] at hfails
      cases hfails
    · refine .inr ⟨t, hlt, closer, ?_, hcloses⟩
      rw [hafter]
      exact List.mem_append_right _ hmem
  · cases op with
    | prompt =>
      simp only [World.addsCloser] at hadds
      split at hadds
      · rename_i error hreply
        refine .inr ⟨t, hlt, .endRun false (.failed error.message), ?_, rfl⟩
        -- OMP refuses the prompt, and the task puts the end of the run in front of the rest
        rw [step_callFails setup htodo hreply]
        exact List.mem_append_left _ (List.mem_cons_of_mem _ List.mem_cons_self)
      · cases hadds
    | receive =>
      obtain ⟨r, hbridge, hgoesOn⟩ := (Option.any_eq_true _ _).mp hadds
      -- as long as the bridge receives it may meet the end of the run
      have hreceive : ∀ {task : Task}, .receive ∈ task.todo →
          ∃ op ∈ task.todo, op.mayClose = true := fun hmem => ⟨_, hmem, rfl⟩
      have hreceives := hstep.receive hbridge
      generalize world.step setup (.task t answer) = world' at hreceives hlt
      cases hreceives with
      | waits => exact .inl rfl
      | value event hrecv =>
        rw [hrecv] at hgoesOn
        refine .inr ⟨t, hlt, ?_⟩
        rw [World.MayClose, World.tasks_setTask_self]
        refine hreceive (List.mem_append_left _ (handleEvent_goesOn ?_))
        simpa using hgoesOn
      | lagged next hrecv =>
        refine .inr ⟨t, hlt, ?_⟩
        rw [World.MayClose, World.tasks_setTask_self]
        exact hreceive (List.mem_append_left _ (by simp [handleLag]))
      | closed hrecv =>
        rw [hrecv] at hgoesOn
        cases hgoesOn
    | spawnEventBridge =>
      refine hstep.spawnEventBridge.imp_right fun hspawned => ?_
      rw [hspawned]
      refine ⟨world.nextTask, Nat.lt_succ_self _, .receive, ?_, rfl⟩
      rw [tasks_eventBridge]
      exact List.mem_singleton_self _
    | _ => cases hadds

/-- A prompt that creates a run goes on to call OMP. -/
theorem closesLater_startRun {run : RunSnapshot} (hends : op.endsForGood = true)
    (hstarts : StartsPrompt (op :: rest)) (htodo : (world.tasks t).todo = op :: rest)
    (hupserts : world.upserts (.task t answer) = some (actor, run))
    (hroom : (world.actors actor).hasRoom = true) (hgoesOn : run.lifecycle.isTerminal = false) :
    world.ClosesLater setup t answer op rest := by
  obtain ⟨_, hhead, hop⟩ := Option.bind_eq_some_iff.mp hupserts
  obtain ⟨_, hagent, hrun⟩ := Option.bind_eq_some_iff.mp hop
  obtain ⟨_, hupserted, heq⟩ := Option.bind_eq_some_iff.mp hrun
  cases heq
  rw [htodo] at hhead
  cases hhead
  cases op with
  | startRun =>
    cases hupserted
    obtain rfl : rest = promptTail := hstarts rest List.suffix_rfl
    refine ⟨?_, .inl rfl⟩
    have hsucceeds : ((world.actors actor).turn (.command (.change (.runUpserted
        ⟨answer.runId, .running, answer.nowMs, none⟩)))).1.succeeds = true := by
      by_contra hfails
      rw [(ActorState.turn_change_refused (Bool.eq_false_iff.mpr hfails)).1] at hroom
      cases hroom
    simp [World.attempt, Task.command, hagent, call_eq, hsucceeds]
  | endRun strict lifecycle =>
    obtain ⟨snapshot, -, hended⟩ := Option.bind_eq_some_iff.mp hupserted
    obtain ⟨ended, -, heq⟩ := Option.bind_eq_some_iff.mp hended
    cases heq
    exact absurd (hends.symm.trans hgoesOn) (by decide)
  | _ => cases hupserted

/-- The last step that may close runs leaves the agent no active run if it is over. -/
theorem World.LeavesClosed.step (hcloses : world.LeavesClosed (.task t answer) actor)
    (hfollowed : Followed world) (hends : op.endsForGood = true)
    (hstarts : StartsPrompt (op :: rest)) (htodo : (world.tasks t).todo = op :: rest)
    (hlast : ¬ world.ClosesLater setup t answer op rest) (hlt : actor < world.nextActor) :
    ((world.step setup (.task t answer)).actors actor).snapshot.hasOrphan = false := by
  rw [Bool.eq_false_iff]
  intro horphan
  obtain ⟨hover, hactive⟩ := Bool.and_eq_true_iff.mp horphan
  -- the lifecycle is not written now
  have hoverBefore : (world.actors actor).snapshot.lifecycle.isTerminal = true := by
    rcases step_lifecycle setup (.task t answer) hlt with hsame | ⟨lifecycle, hwrites, hset⟩
    · rwa [hsame] at hover
    rw [step_writes setup hwrites] at hover hactive hset
    cases hroom : (world.actors actor).hasRoom with
    | false =>
      rwa [ActorState.turn_change_no_room hroom] at hover
    | true =>
      have hchanged := ActorState.turn_change_ok hroom (.lifecycleChanged lifecycle)
      have hnone := hcloses.writes _ hwrites rfl (hset ▸ hover) hroom
      rw [hchanged.activeRun] at hactive
      exact absurd hactive (by simp [applyChange, hnone])
  -- the run is not created now
  have hactiveBefore : (world.actors actor).snapshot.activeRun.isSome = true := by
    rcases step_runs setup hfollowed.scripted hfollowed.unused (.task t answer) actor with
      hsame | ⟨run, hupserts, hroom, hchanged⟩
    · rwa [hsame.activeRun] at hactive
    cases hterminal : run.lifecycle.isTerminal with
    | false =>
      exact absurd (closesLater_startRun setup hends hstarts htodo hupserts hroom hterminal) hlast
    | true =>
      rw [hchanged.activeRun] at hactive
      simp only [applyChange, hterminal, if_true] at hactive
      split at hactive
      · cases hactive
      · exact hactive
  have hbefore : (world.actors actor).snapshot.hasOrphan = true :=
    Bool.and_eq_true_iff.mpr ⟨hoverBefore, hactiveBefore⟩
  obtain ⟨hroom, hcloses⟩ := hcloses.orphan hbefore
  rcases hcloses with ⟨⟨_, run⟩, hupserts, rfl, hterminal, hsame⟩ |
    ⟨⟨_, lifecycle⟩, hwrites, rfl, hup⟩
  · have hchanged := ActorState.turn_change_ok hroom (.runUpserted run)
    rw [step_upserts setup hupserts, hchanged.activeRun] at hactive
    simp [applyChange, hterminal, hsame] at hactive
  · have hchanged := ActorState.turn_change_ok hroom (.lifecycleChanged lifecycle)
    rw [step_writes setup hwrites, hchanged.lifecycle] at hover
    exact absurd (hover.symm.trans hup) (by decide)

theorem TaskStep.firstActor_eq {world' : World δ}
    (h : TaskStep setup world t answer op rest world') : world'.firstActor = world.firstActor := by
  cases h with
  | calls called command task =>
    rw [noteRecorded_eq]
    rfl
  | waits | fails | goesOn | pushes | locks | spawns | finds | creates | inserts | bridges | takes
  | gets | removes | upserts | receives | lags | closes => rfl

/-- A step of something else restarts the daemon, or leaves the tasks where they are. -/
theorem step_besides {input : Input} (htask : ∀ t answer, input ≠ .task t answer) :
    (world.step setup input).firstActor = world.nextActor ∨
      (world.step setup input).firstActor = world.firstActor ∧
        ∀ u < world.nextTask, u < (world.step setup input).nextTask ∧
          (world.step setup input).tasks u = world.tasks u := by
  have hstep := step_cases setup world input
  generalize world.step setup input = world' at hstep
  cases hstep with
  | turns => exact absurd rfl (htask _ _)
  | keeps htasks hnext hfirst =>
    rw [htasks, hnext]
    exact .inr ⟨hfirst, fun u hu => ⟨hu, rfl⟩⟩
  | joins hjoins =>
    rw [hjoins]
    exact .inr ⟨rfl, fun u hu =>
      ⟨Nat.lt_succ_of_lt hu, Function.update_of_ne (Nat.ne_of_lt hu) _ _⟩⟩
  | restarts _ hfirst => exact .inl hfirst

end Step

/-! ## Runs of the daemon -/

section Runs

variable (setup : Setup) {world : World δ}

/-- What carries `Guarded` through a run. -/
structure Guarding (world : World δ) : Prop where
  followed : Followed world
  once : world.RunsOnce
  ends : world.Scripted fun op => op.endsForGood = true
  starts : ∀ t, StartsPrompt (world.tasks t).todo
  guarded : world.Guarded

theorem guarding_create (store : Store δ) : Guarding (World.create setup store) where
  followed := followed_create setup store
  once := fun _ => AgentSnapshot.runsOnce_of_no_runs rfl rfl
  ends _ _ hop := by cases hop
  starts := fun _ => law_startsPrompt.done
  guarded _ _ horphan := by cases horphan

/-- Actors that a step creates have no active run. -/
theorem Followed.allocated_of_orphan (h : Followed world) {input : Input} {actor : ActorId}
    (horphan : ((world.step setup input).actors actor).snapshot.hasOrphan = true) :
    actor < world.nextActor := by
  refine Nat.lt_of_not_le fun hle => ?_
  obtain ⟨-, hactive⟩ := Bool.and_eq_true_iff.mp horphan
  rcases step_runs setup h.scripted h.unused input actor with hsame | ⟨run, hupserts, -, -⟩
  · rw [hsame.activeRun, (h.unused actor hle).1] at hactive
    cases hactive
  · exact absurd (h.sound.upserts_lt hupserts) (Nat.not_lt.mpr hle)

theorem Guarding.task (h : Guarding world) {t : TaskId} {answer : Answer} {op : Op}
    {rest : List Op} (htodo : (world.tasks t).todo = op :: rest)
    (hcloses : world.ClosesTodo setup t answer (op :: rest)) :
    (world.step setup (.task t answer)).Guarded := by
  have hstep : TaskStep setup world t answer op rest (world.step setup (.task t answer)) :=
    stepTask_cases htodo
  intro actor hfirst horphan
  by_cases hothers : ∃ u < world.nextTask, u ≠ t ∧ world.MayClose u
  · obtain ⟨u, hu, hne, hmay⟩ := hothers
    refine ⟨u, Nat.lt_of_lt_of_le hu hstep.nextTask_le, ?_⟩
    rcases hstep.todo_other hne with hsame | ⟨hnew, -, -⟩
    · rwa [World.MayClose, hsame]
    · exact absurd hu (by rw [hnew]; exact Nat.lt_irrefl _)
  by_cases hlater : world.ClosesLater setup t answer op rest
  · rcases hlater.step setup h.followed.sound htodo with hsame | hmay
    · rw [hsame] at hfirst horphan ⊢
      exact h.guarded actor hfirst horphan
    · exact hmay
  · -- it is the last one that may
    have hlt := h.followed.allocated_of_orphan setup horphan
    rw [hstep.firstActor_eq] at hfirst
    have hleaves : world.LeavesClosed (.task t answer) actor :=
      hcloses (fun u hu hne hmay => hothers ⟨u, hu, hne, hmay⟩) hlater actor hlt hfirst
    have hends : op.endsForGood = true := h.ends t op (by rw [htodo]; exact List.mem_cons_self)
    have hclosed := hleaves.step setup h.followed hends (htodo ▸ h.starts t) htodo hlater hlt
    exact absurd (hclosed.symm.trans horphan) (by decide)

/-- Steps of something else than a task neither end agents nor create runs. -/
theorem Guarding.besides (h : Guarding world) {input : Input}
    (htask : ∀ t answer, input ≠ .task t answer) : (world.step setup input).Guarded := by
  intro actor hfirst horphan
  have hlt := h.followed.allocated_of_orphan setup horphan
  rcases step_besides setup htask with hrestarted | ⟨hkept, htasks⟩
  · rw [hrestarted] at hfirst
    exact absurd hlt (Nat.not_lt.mpr hfirst)
  have hbefore : (world.actors actor).snapshot.hasOrphan = true := by
    have hwrites : world.writes input = none := by
      cases input with
      | task t answer => exact absurd rfl (htask t answer)
      | _ => rfl
    have hupserts : world.upserts input = none := by
      cases input with
      | task t answer => exact absurd rfl (htask t answer)
      | _ => rfl
    rcases step_lifecycle setup input hlt with hlifecycle | ⟨_, hwritten, -⟩
    · rcases step_runs setup h.followed.scripted h.followed.unused input actor with
        hsame | ⟨run, hupserted, -, -⟩
      · rwa [AgentSnapshot.hasOrphan, hlifecycle, hsame.activeRun] at horphan
      · rw [hupserts] at hupserted
        cases hupserted
    · rw [hwrites] at hwritten
      cases hwritten
  rw [hkept] at hfirst
  obtain ⟨u, hu, hmay⟩ := h.guarded actor hfirst hbefore
  obtain ⟨hu', hsame⟩ := htasks u hu
  exact ⟨u, hu', by rwa [World.MayClose, hsame]⟩

/-- The step lemma. -/
theorem Guarding.step (h : Guarding world) {input : Input}
    (hcloses : world.ClosesRuns setup input) : Guarding (world.step setup input) where
  followed := h.followed.step setup input
  once := h.followed.runsOnce setup h.once input
  ends := h.ends.step (scripts_runs.imp fun _ h => h.2) setup input
  starts := law_startsPrompt.step setup h.starts h.followed.sound input
  guarded := by
    cases input with
    | task t answer =>
      cases htodo : (world.tasks t).todo with
      | nil =>
        simp only [World.step, World.stepTask, htodo]
        exact h.guarded
      | cons op rest =>
        rw [World.ClosesRuns, htodo] at hcloses
        exact h.task setup htodo hcloses
    | _ => exact h.besides setup (fun _ _ heq => by cases heq)

/-- **No active run without a process.** After a run in which the last task that may close
runs leaves no agent that is over with an active one, and no prompt displaces a run: when
all tasks are through, an agent of the daemon that is over has no active run, and every run
that it has ever had is among the recent ones, with a terminal status. -/
theorem runs_closed (store : Store δ) (inputs later : List Input)
    (hcloses : Along (World.step setup) (World.ClosesRuns setup) (.create setup store)
      (inputs ++ later))
    (hcareful : Along (World.step setup) World.Undisplaced (.create setup store)
      (inputs ++ later)) :
    let before := run (World.step setup) (.create setup store) inputs
    let world := run (World.step setup) (.create setup store) (inputs ++ later)
    (∀ t < world.nextTask, (world.tasks t).todo = []) →
    ∀ actor, world.firstActor ≤ actor →
      (world.actors actor).snapshot.lifecycle.isTerminal = true →
      (world.actors actor).snapshot.activeRun = none ∧
        ∀ runId, (before.actors actor).snapshot.HasRun runId →
          ∃ run ∈ (world.actors actor).snapshot.recentRuns,
            run.runId = runId ∧ run.lifecycle.isTerminal = true := by
  intro before world hquiet actor hfirst hover
  have hguarding : Guarding world :=
    run_invariant_along (fun _ _ h hcloses => h.step setup hcloses) (guarding_create setup store)
      hcloses
  have hnone : (world.actors actor).snapshot.activeRun = none := by
    by_contra hactive
    obtain ⟨t, ht, op, hop, -⟩ := hguarding.guarded actor hfirst
      (Bool.and_eq_true_iff.mpr ⟨hover, Option.isSome_iff_ne_none.mpr hactive⟩)
    rw [hquiet t ht] at hop
    cases hop
  refine ⟨hnone, fun runId hrun => ?_⟩
  have hworld : world = run (World.step setup) before later := run_append ..
  obtain ⟨-, hlater⟩ := along_append.mp hcareful
  have hkept : (world.actors actor).snapshot.HasRun runId := by
    rw [hworld]
    exact ((followed_create setup store).run setup inputs).keepsRuns_run setup hlater actor hrun
  obtain ⟨run, hmem, hid⟩ := hkept
  have hrecent : run ∈ (world.actors actor).snapshot.recentRuns := by
    refine (AgentSnapshot.mem_runs.mp hmem).resolve_left fun hactive => ?_
    rw [hnone] at hactive
    cases hactive
  exact ⟨run, hrecent, hid, (hguarding.once actor).recent run hrecent⟩

/-- The child exits, and the bridge is through with that. -/
def exitHandled : List Input :=
  [Input.runtime 0 (.childWait (.ok ⟨some 0, true⟩)), .runtime 0 (.reader none), .publish 0] ++
    List.replicate 4 (Input.task 1 plainAnswer)

theorem runs_closed_ending :
    let before := plainRun prompting
    let world := plainRun (prompting ++ (ending ++ exitHandled))
    (before.actors 0).snapshot.isActive ⟨"first"⟩ = true ∧
      (world.actors 0).snapshot.lifecycle = .stopped ∧
      (world.actors 0).snapshot.activeRun = none ∧
        ∀ runId, (before.actors 0).snapshot.HasRun runId →
          ∃ run ∈ (world.actors 0).snapshot.recentRuns,
            run.runId = runId ∧ run.lifecycle.isTerminal = true :=
  ⟨by decide +kernel, by decide +kernel,
    runs_closed plainSetup (.create ⟨"server"⟩) prompting (ending ++ exitHandled)
      (by decide +kernel) (by decide +kernel) (by decide +kernel) 0 (by decide +kernel)
      (by decide +kernel)⟩

/-- The child exits while the run is active. All tasks are through, the agent is stopped, and
the run is still the active one. -/
theorem exited_runs_on :
    let world := plainRun (prompting ++ exitHandled)
    (∀ t < world.nextTask, (world.tasks t).todo = []) ∧ world.registry = some 0 ∧
      (world.actors 0).snapshot.lifecycle = .stopped ∧
      (world.runtime 0).actor.phase = .ended ∧
      (world.actors 0).snapshot.isActive ⟨"first"⟩ = true ∧
      ¬ (world.actors 0).snapshot.Ended ⟨"first"⟩ := by
  decide +kernel

end Runs

end Ompd.Supervision

end OmpRemote

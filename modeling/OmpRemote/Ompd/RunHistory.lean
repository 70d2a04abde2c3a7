import OmpRemote.ControlPlane.Runs
import OmpRemote.Lib.Machine
import OmpRemote.Ompd.Recovery
import OmpRemote.Ompd.SupervisionSteps

/-!
# What becomes of the runs

Prompts upsert new runs, and three closers upsert the active run as ended, each of
which reads a snapshot first and writes what it makes of it later.

- `Scripted`, `scripted_run`: a property of all that tasks have to do.
- `step_runs`: how one step changes the runs of an actor.
- `Undisplaced`, `no_run_lost`: no run is lost, as long as no prompt comes while
  another run is active; `run_displaced`: one that does.
- `Fresh`, `ended_runs_final`: what is over stays as it is, as long as no closer
  writes what another one has written; `run_ended_twice`: one that does.
-/

namespace OmpRemote.Ompd.Supervision

open ControlPlane Lib Rpc OmpRemote.Runtime

variable {δ : Type}

/-! ## What tasks have to do -/

/-- Every operation that a task still has to do has the property. -/
def World.Scripted (P : Op → Prop) (world : World δ) : Prop :=
  ∀ t, ∀ op ∈ (world.tasks t).todo, P op

/-- The operations that tasks are given have the property. -/
structure Scripts (P : Op → Prop) : Prop where
  request : ∀ (request : Request), ∀ op ∈ request.script, P op
  event : ∀ event, ∀ op ∈ handleEvent event, P op
  lag : ∀ op ∈ handleLag, P op
  pushes : ∀ op ops, Pushes op ops → ∀ op ∈ ops, P op
  shutdownAgent : ∀ actor, P (.shutdownAgent actor)
  receive : P .receive

section Scripted

variable {P : Op → Prop} {setup : Setup} {world world' : World δ}

theorem World.Scripted.setTask (h : world.Scripted P) {t : TaskId} {task : Task}
    (htask : ∀ op ∈ task.todo, P op)
    (htasks : world'.tasks = Function.update world.tasks t task) : world'.Scripted P := by
  intro u op hop
  rw [htasks] at hop
  by_cases hu : u = t
  · rw [hu, Function.update_self] at hop
    exact htask op hop
  · rw [Function.update_of_ne hu] at hop
    exact h u op hop

theorem World.Scripted.task (hP : Scripts P) (h : world.Scripted P) {t : TaskId} {answer : Answer}
    {op : Op} {rest : List Op} (htodo : (world.tasks t).todo = op :: rest)
    (hstep : TaskStep setup world t answer op rest world') : world'.Scripted P := by
  have hrest : ∀ op ∈ rest, P op := by
    intro op hop
    refine h t op ?_
    rw [htodo]
    exact List.mem_cons_of_mem _ hop
  have hbefore : ∀ ops, (∀ op ∈ ops, P op) → ∀ op ∈ ops ++ rest, P op := by
    intro ops hops op hop
    exact (List.mem_append.mp hop).elim (hops op) (hrest op)
  cases hstep with
  | waits => exact h
  | fails task store _ htask =>
    refine World.Scripted.setTask h (t := t) ?_ rfl
    rw [htask]
    exact nofun
  | calls actor command task _ _ htask =>
    have htodo' : ∀ op ∈ task.todo, P op := htask ▸ hrest
    refine h.setTask (t := t) htodo' ?_
    rw [noteRecorded_eq]
    rfl
  | goesOn | locks | spawns | finds | creates | inserts | takes | gets | upserts | closes =>
    exact h.setTask (t := t) hrest rfl
  | pushes ops hops => exact h.setTask (t := t) (hbefore ops (hP.pushes op ops hops)) rfl
  | bridges =>
    have hset : (world.setTask t { world.tasks t with todo := rest }).Scripted P :=
      h.setTask (t := t) hrest rfl
    have hbridge : ∀ op ∈ (world.tasks t).eventBridge.todo, P op := by
      intro op hop
      rw [List.mem_singleton.mp hop]
      exact hP.receive
    exact hset.setTask (t := world.nextTask) hbridge rfl
  | removes actor =>
    refine h.setTask (t := t) (hbefore [.shutdownAgent actor] ?_) rfl
    intro op hop
    rw [List.mem_singleton.mp hop]
    exact hP.shutdownAgent actor
  | receives r event => exact h.setTask (t := t) (hbefore _ (hP.event event)) rfl
  | lags => exact h.setTask (t := t) (hbefore _ hP.lag) rfl

/-- A step gives tasks nothing but what is in the scripts. -/
theorem World.Scripted.step (hP : Scripts P) (h : world.Scripted P) (setup : Setup)
    (input : Input) :
    (world.step setup input).Scripted P := by
  have hstep := step_cases setup world input
  generalize world.step setup input = world' at hstep
  cases hstep with
  | turns htodo hturn => exact h.task hP htodo hturn
  | keeps htasks =>
    intro t op hop
    rw [htasks] at hop
    exact h t op hop
  | @joins request _ hjoins =>
    rw [hjoins]
    exact h.setTask (t := world.nextTask) (hP.request request) rfl
  | restarts htasks =>
    intro t op hop
    rw [htasks] at hop
    cases hop

end Scripted

/-! ## How a step changes the runs -/

/-- An operation that is told which change to make is told none of the runs. -/
def Op.leavesRuns : Op → Bool
  | .change _ (.lifecycleChanged _) | .change _ (.sessionChanged _) => true
  | .change .. => false
  | _ => true

/-- Runs are ended for good. -/
def Op.endsForGood : Op → Bool
  | .endRun _ lifecycle => lifecycle.isTerminal
  | _ => true

theorem Scripts.imp {P Q : Op → Prop} (h : Scripts P) (himp : ∀ op, P op → Q op) : Scripts Q where
  request request op hop := himp op (h.request request op hop)
  event event op hop := himp op (h.event event op hop)
  lag op hop := himp op (h.lag op hop)
  pushes op ops hops op' hop := himp op' (h.pushes op ops hops op' hop)
  shutdownAgent actor := himp _ (h.shutdownAgent actor)
  receive := himp _ h.receive

/-- What the operations that tasks are given do to the runs. -/
theorem scripts_runs : Scripts fun op => op.leavesRuns = true ∧ op.endsForGood = true where
  request request := by
    cases request <;> decide
  event event := by
    cases event with
    | frame frame =>
      intro op hop
      rcases List.mem_append.mp hop with hop | hop
      · split at hop
        · rw [List.mem_singleton.mp hop]
          exact ⟨rfl, rfl⟩
        · have hends : ∀ op ∈ completeActiveRun ++ [setLifecycle false .idle] ++
              persistSnapshot false true, op.leavesRuns = true ∧ op.endsForGood = true := by
            decide
          exact hends op hop
        · cases hop
      · simp only [List.mem_cons, List.not_mem_nil, or_false] at hop
        rcases hop with rfl | rfl <;> exact ⟨rfl, rfl⟩
    | exited | failed =>
      intro op hop
      simp only [handleEvent, persistSnapshot, List.mem_cons, List.not_mem_nil, or_false] at hop
      rcases hop with rfl | rfl | rfl <;> exact ⟨rfl, rfl⟩
    | stderr =>
      intro op hop
      rw [List.mem_singleton.mp hop]
      exact ⟨rfl, rfl⟩
  lag := by
    decide
  pushes op ops hops := by
    intro op' hop
    cases hops with
    | session | stopped | failed =>
      rw [List.mem_singleton.mp hop]
      exact ⟨rfl, rfl⟩
    | promptFailed =>
      simp only [failActiveRun, persistSnapshot, List.cons_append, List.nil_append, List.mem_cons,
        List.not_mem_nil, or_false] at hop
      rcases hop with rfl | rfl | rfl | rfl | rfl <;> exact ⟨rfl, rfl⟩
  shutdownAgent _ := ⟨rfl, rfl⟩
  receive := ⟨rfl, rfl⟩

theorem scripts_leaveRuns : Scripts fun op => op.leavesRuns = true :=
  scripts_runs.imp fun _ h => h.1

/-- The run that an operation of the task upserts. -/
def Task.upserts (task : Task) (answer : Answer) : Op → Option RunSnapshot
  | .startRun => some ⟨answer.runId, .running, answer.nowMs, none⟩
  | .endRun _ lifecycle => do
    let snapshot ← task.snapshot
    let run ← snapshot.activeRun
    pure { run with lifecycle, endedAtMs := some answer.nowMs }
  | _ => none

/-- The run that a step upserts, and the actor that is called for it. -/
def World.upserts (world : World δ) : Input → Option (ActorId × RunSnapshot)
  | .task t answer => do
    let op ← (world.tasks t).todo.head?
    let actor ← (world.tasks t).agent
    let run ← (world.tasks t).upserts answer op
    pure (actor, run)
  | _ => none

/-- The runs of an actor are left alone. -/
structure SameRuns (state state' : ActorState) : Prop where
  activeRun : state'.snapshot.activeRun = state.snapshot.activeRun
  recentRuns : state'.snapshot.recentRuns = state.snapshot.recentRuns

theorem SameRuns.refl (state : ActorState) : SameRuns state state := ⟨rfl, rfl⟩

theorem SameRuns.of_eq {state state' : ActorState} (h : state' = state) :
    SameRuns state state' := by
  rw [h]
  exact .refl state

section Steps

variable (setup : Setup) {world : World δ}

/-- What a call does to the runs: nothing, or what the operation upserts. -/
theorem command_runs {op : Op} {task : Task} {answer : Answer} {actor : ActorId}
    {command : ActorCommand} (h : task.command answer op = some (actor, command))
    (hop : op.leavesRuns = true) (state : ActorState) :
    SameRuns state (state.turn (.command command)).2 ∨
      ∃ run, task.agent = some actor ∧ task.upserts answer op = some run ∧ state.hasRoom = true ∧
        ActorState.Changed state (.runUpserted run) (state.turn (.command command)).2 := by
  rcases command_cases h with ⟨hagent, ⟨change, rfl⟩ | rfl | ⟨event, rfl⟩⟩ | ⟨-, rfl⟩
  · cases hroom : state.hasRoom with
    | false => exact .inl (.of_eq (ActorState.turn_change_no_room hroom change))
    | true =>
      have hchanged := ActorState.turn_change_ok hroom change
      rcases command_change h with ⟨strict, rfl⟩ | ⟨rfl, rfl⟩ |
        ⟨strict, lifecycle, snapshot, ended, rfl, hsnapshot, hended, rfl⟩
      · cases change with
        | lifecycleChanged | sessionChanged => exact .inl ⟨hchanged.activeRun, hchanged.recentRuns⟩
        | sessionCleared | runUpserted | runRemoved | interactionChanged
        | availableCommandsChanged => cases hop
      · exact .inr ⟨_, hagent, rfl, rfl, hchanged⟩
      · refine .inr ⟨_, hagent, ?_, rfl, hchanged⟩
        simp [Task.upserts, hsnapshot, hended]
  · exact .inl (.of_eq state.turn_snapshot)
  · exact .inl ⟨(state.turn_publishEvent event).activeRun, (state.turn_publishEvent event).recentRuns⟩
  · exact .inl ⟨congrArg AgentSnapshot.activeRun state.turn_shutdown.1,
      congrArg AgentSnapshot.recentRuns state.turn_shutdown.1⟩

/-- An actor that is not allocated has no runs. -/
def World.Unused (world : World δ) : Prop :=
  ∀ actor, world.nextActor ≤ actor → (world.actors actor).snapshot.activeRun = none ∧
    (world.actors actor).snapshot.recentRuns = []

/-- A new actor without runs is registered. -/
theorem sameRuns_register (hunused : world.Unused) {snapshot : AgentSnapshot}
    (hactive : snapshot.activeRun = none) (hrecent : snapshot.recentRuns = []) (actor : ActorId) :
    SameRuns (world.actors actor) ((world.register setup snapshot).actors actor) := by
  show SameRuns _ (Function.update world.actors world.nextActor _ actor)
  by_cases hactor : actor = world.nextActor
  · subst hactor
    rw [Function.update_self]
    obtain ⟨hnone, hnil⟩ := hunused world.nextActor (Nat.le_refl _)
    exact ⟨hactive.trans hnone.symm, hrecent.trans hnil.symm⟩
  · rw [Function.update_of_ne hactor]
    exact .refl _

/-- What an operation does to the actors: it leaves them alone, registers a new one,
or is a call to one of them. -/
theorem TaskStep.actors {setup : Setup} {world' : World δ} {t : TaskId} {answer : Answer} {op : Op}
    {rest : List Op} (h : TaskStep setup world t answer op rest world') :
    world'.actors = world.actors ∨
      world'.actors = (world.register setup (.initial setup.agentId)).actors ∨
      ∃ actor command,
        ({ world.tasks t with todo := rest } : Task).command answer op = some (actor, command) ∧
        world'.actors = Function.update world.actors actor
          ((world.actors actor).turn (.command command)).2 := by
  cases h with
  | calls actor command task hcommand =>
    rw [noteRecorded_eq]
    exact .inr (.inr ⟨actor, command, hcommand, rfl⟩)
  | creates => exact .inr (.inl rfl)
  | waits | fails | goesOn | pushes | locks | spawns | finds | inserts | bridges | takes | gets
  | removes | upserts | receives | lags | closes => exact .inl rfl

/-- **How a step changes the runs of an actor**: it leaves them alone, or it makes the
upsert of a task. -/
theorem step_runs (hscripted : world.Scripted fun op => op.leavesRuns = true)
    (hunused : world.Unused) (input : Input) (actor : ActorId) :
    SameRuns (world.actors actor) ((world.step setup input).actors actor) ∨
      ∃ run, world.upserts input = some (actor, run) ∧ (world.actors actor).hasRoom = true ∧
        ActorState.Changed (world.actors actor) (.runUpserted run)
          ((world.step setup input).actors actor) := by
  cases input with
  | request request =>
    simp only [World.step]
    split
    · exact .inl (.refl _)
    · exact .inl (.refl _)
  | task t answer =>
    cases htodo : (world.tasks t).todo with
    | nil =>
      refine .inl ?_
      simp only [World.step, World.stepTask, htodo]
      exact .refl _
    | cons op rest =>
      have hop : op.leavesRuns = true := hscripted t op (htodo ▸ List.mem_cons_self)
      have hstep : TaskStep setup world t answer op rest (world.step setup (.task t answer)) :=
        stepTask_cases htodo
      -- an operation leaves the actors alone, registers a new one, or calls one
      rcases hstep.actors with hsame | hregistered | ⟨called, command, hcommand, hcalled⟩
      · rw [hsame]
        exact .inl (.refl _)
      · rw [hregistered]
        exact .inl (sameRuns_register setup hunused rfl rfl actor)
      · rw [hcalled]
        by_cases hactor : actor = called
        · subst hactor
          rw [Function.update_self]
          refine (command_runs hcommand hop (world.actors actor)).imp_right ?_
          rintro ⟨run, hagent, hupserts, hroom, hchanged⟩
          refine ⟨run, ?_, hroom, hchanged⟩
          have hagent' : (world.tasks t).agent = some actor := hagent
          have hupserts' : (world.tasks t).upserts answer op = some run := hupserts
          simp [World.upserts, htodo, hagent', hupserts']
        · rw [Function.update_of_ne hactor]
          exact .inl (.refl _)
  | runtime | publish => exact .inl (.refl _)
  | stderr | close =>
    simp only [World.step]
    split
    · exact .inl (.refl _)
    · exact .inl (.refl _)
  | actor called input =>
    simp only [World.step]
    split
    · rename_i hforeign
      refine .inl ?_
      show SameRuns _ (Function.update world.actors called _ actor)
      by_cases hactor : actor = called
      · subst hactor
        rw [Function.update_self]
        -- a command from elsewhere changes no run
        have huntouched : ActorState.Untouched (world.actors actor) _ :=
            ActorState.turn_foreign hforeign
        exact ⟨huntouched.activeRun, huntouched.recentRuns⟩
      · rw [Function.update_of_ne hactor]
        exact .refl _
    · exact .inl (.refl _)
  | restart nowMs fault =>
    simp only [World.step, World.restart]
    split
    · exact .inl (.refl _)
    split
    · exact .inl (.refl _)
    · refine .inl (sameRuns_register setup ?_ rfl rfl actor)
      exact hunused

/-! ## Runs of the daemon -/

/-- The daemon is up, and has the agent with a snapshot, or not at all. -/
def World.opened (setup : Setup) (store : Store δ) (initial : Option AgentSnapshot) : World δ :=
  { initial.elim (.create setup store) ((World.create setup store).register setup) with up := true }

/-- What is needed of a daemon to follow the runs. -/
structure Followed (world : World δ) : Prop where
  sound : Sound world
  scripted : world.Scripted fun op => op.leavesRuns = true
  unused : world.Unused

theorem followed_create (setup : Setup) (store : Store δ) :
    Followed (World.create setup store) where
  sound := sound_create setup store
  scripted _ _ hop := by cases hop
  unused _ _ := ⟨rfl, rfl⟩

theorem followed_opened (setup : Setup) (store : Store δ) (initial : Option AgentSnapshot) :
    Followed (World.opened setup store initial) := by
  have hcreate := followed_create setup store
  cases initial with
  | none =>
    refine ⟨⟨hcreate.sound.idle, ?_, hcreate.sound.entry, nofun, hcreate.sound.orderly⟩,
      hcreate.scripted, hcreate.unused⟩
    exact fun _ => ⟨nofun, nofun, nofun, fun _ hop => by cases hop⟩
  | some snapshot =>
    refine ⟨⟨hcreate.sound.idle, ?_, hcreate.sound.entry, ?_, hcreate.sound.orderly⟩,
      hcreate.scripted, ?_⟩
    · exact fun _ => ⟨nofun, nofun, nofun, fun _ hop => by cases hop⟩
    · intro actor hregistered
      cases hregistered
      exact ⟨Nat.zero_lt_one, rfl⟩
    · intro actor hactor
      have hne : actor ≠ 0 := Nat.ne_of_gt hactor
      show (Function.update (World.create setup store).actors 0 _ actor).snapshot.activeRun = none ∧
        (Function.update (World.create setup store).actors 0 _ actor).snapshot.recentRuns = []
      rw [Function.update_of_ne hne]
      exact ⟨rfl, rfl⟩

/-- The agent that a step calls for an upsert is allocated. -/
theorem Sound.upserts_lt (h : Sound world) {input : Input} {actor : ActorId} {run : RunSnapshot}
    (hupserts : world.upserts input = some (actor, run)) : actor < world.nextActor := by
  cases input with
  | task t answer =>
    obtain ⟨op, -, hop⟩ := Option.bind_eq_some_iff.mp hupserts
    obtain ⟨_, hagent, hrun⟩ := Option.bind_eq_some_iff.mp hop
    obtain ⟨_, -, heq⟩ := Option.bind_eq_some_iff.mp hrun
    cases heq
    exact (h.handles t).agent _ hagent
  | request | runtime | publish | stderr | close | actor | restart => cases hupserts

theorem nextActor_step (world : World δ) (input : Input) :
    world.nextActor ≤ (world.step setup input).nextActor := by
  cases input with
  | task t answer =>
    cases htodo : (world.tasks t).todo with
    | nil =>
      simp only [World.step, World.stepTask, htodo]
      exact Nat.le_refl _
    | cons op rest =>
      have hstep : TaskStep setup world t answer op rest (world.step setup (.task t answer)) :=
        stepTask_cases htodo
      generalize world.step setup (.task t answer) = world' at hstep ⊢
      cases hstep with
      | calls called command task =>
        rw [noteRecorded_eq]
        exact Nat.le_refl _
      | creates => exact Nat.le_succ _
      | waits | fails | goesOn | pushes | locks | spawns | finds | inserts | bridges | takes | gets
      | removes | upserts | receives | lags | closes => exact Nat.le_refl _
  | request | stderr | close | actor =>
    simp only [World.step]
    split
    · exact Nat.le_refl _
    · exact Nat.le_refl _
  | runtime | publish => exact Nat.le_refl _
  | restart nowMs fault =>
    simp only [World.step, World.restart]
    split
    · exact Nat.le_refl _
    split
    · exact Nat.le_refl _
    · exact Nat.le_succ _

theorem Followed.step (h : Followed world) (input : Input) : Followed (world.step setup input) where
  sound := h.sound.step input
  scripted := h.scripted.step scripts_leaveRuns setup input
  unused := by
    intro actor hactor
    have hbefore := Nat.le_trans (nextActor_step setup world input) hactor
    obtain ⟨hactive, hrecent⟩ := h.unused actor hbefore
    rcases step_runs setup h.scripted h.unused input actor with
      hsame | ⟨run, hupserts, -, -⟩
    · exact ⟨hsame.activeRun.trans hactive, hsame.recentRuns.trans hrecent⟩
    · exact absurd (h.sound.upserts_lt hupserts) (Nat.not_lt.mpr hbefore)

/-! ## No run is lost -/

/-- A run that a step makes the active one displaces no other. -/
def World.Undisplaced (world : World δ) (input : Input) : Prop :=
  ∀ upsert ∈ world.upserts input, (world.actors upsert.1).hasRoom = true →
    upsert.2.lifecycle.isTerminal = false →
      ¬ (world.actors upsert.1).snapshot.Displaces upsert.2.runId

instance (world : World δ) (input : Input) : Decidable (world.Undisplaced input) :=
  inferInstanceAs (Decidable (∀ upsert ∈ world.upserts input, _))

/-- A snapshot with the same runs has the same. -/
theorem hasRun_congr {snapshot snapshot' : AgentSnapshot}
    (hactive : snapshot'.activeRun = snapshot.activeRun)
    (hrecent : snapshot'.recentRuns = snapshot.recentRuns) {runId : RunId} :
    snapshot'.HasRun runId ↔ snapshot.HasRun runId := by
  rw [AgentSnapshot.HasRun, AgentSnapshot.HasRun, AgentSnapshot.runs, AgentSnapshot.runs, hactive,
    hrecent]

theorem Followed.keepsRuns (h : Followed world) {input : Input} (hcareful : world.Undisplaced input)
    (actor : ActorId) {runId : RunId} (hrun : (world.actors actor).snapshot.HasRun runId) :
    ((world.step setup input).actors actor).snapshot.HasRun runId := by
  rcases step_runs setup h.scripted h.unused input actor with
    hsame | ⟨run, hupserts, hroom, hchanged⟩
  · exact (hasRun_congr hsame.activeRun hsame.recentRuns).mpr hrun
  · rw [hasRun_congr hchanged.activeRun hchanged.recentRuns]
    exact AgentSnapshot.hasRun_upsert_iff.mpr (hcareful _ hupserts hroom) runId hrun

/-- A call changes the actor that is called, and what the task keeps of the reply. -/
theorem step_call {t : TaskId} {answer : Answer} {op : Op} {rest : List Op}
    (htodo : (world.tasks t).todo = op :: rest) {actor : ActorId} {command : ActorCommand}
    (hcommand : ({ world.tasks t with todo := rest } : Task).command answer op =
      some (actor, command)) :
    (world.step setup (.task t answer)).actors =
        Function.update world.actors actor ((world.actors actor).turn (.command command)).2 ∧
      ((((world.actors actor).turn (.command command)).1.succeeds || !op.strict) = true →
        (world.step setup (.task t answer)).tasks t =
          ({ world.tasks t with todo := rest } : Task).replied answer
            ((world.actors actor).turn (.command command)).1 op) := by
  have hattempt : world.attempt setup t answer op rest =
      world.call t { world.tasks t with todo := rest } answer op actor command := by
    unfold World.attempt
    dsimp only
    rw [hcommand]
  have hcalled : (world.call t { world.tasks t with todo := rest } answer op actor command).2.actors =
      Function.update world.actors actor ((world.actors actor).turn (.command command)).2 := by
    rw [call_eq]
    dsimp only
    rw [noteRecorded_eq]
    rfl
  simp only [World.step, World.stepTask, htodo, hattempt, World.resolve]
  constructor
  · split
    · exact hcalled
    · exact hcalled
  · intro hok
    rw [call_eq]
    dsimp only
    rw [if_pos hok]
    exact Function.update_self ..

/-- A step that upserts a run is a call to its actor. -/
theorem step_upserts {input : Input} {actor : ActorId} {run : RunSnapshot}
    (hupserts : world.upserts input = some (actor, run)) :
    (world.step setup input).actors actor =
      ((world.actors actor).turn (.command (.change (.runUpserted run)))).2 := by
  cases input with
  | task t answer =>
    obtain ⟨op, hhead, hop⟩ := Option.bind_eq_some_iff.mp hupserts
    obtain ⟨agent, hagent, hrun⟩ := Option.bind_eq_some_iff.mp hop
    obtain ⟨upserted, hupserted, heq⟩ := Option.bind_eq_some_iff.mp hrun
    cases heq
    obtain ⟨rest, htodo⟩ := List.head?_eq_some_iff.mp hhead
    have hcommand : ({ world.tasks t with todo := rest } : Task).command answer op =
        some (actor, .change (.runUpserted run)) := by
      cases op with
      | startRun =>
        cases hupserted
        simp [Task.command, hagent]
      | endRun strict lifecycle =>
        obtain ⟨snapshot, hsnapshot, hended⟩ := Option.bind_eq_some_iff.mp hupserted
        obtain ⟨ended, hactive, heq⟩ := Option.bind_eq_some_iff.mp hended
        cases heq
        simp [Task.command, hagent, hsnapshot, hactive]
      | _ => cases hupserted
    rw [(step_call setup htodo hcommand).1, Function.update_self]
  | request | runtime | publish | stderr | close | actor | restart => cases hupserts

/-- What a step upserts is there after it. -/
theorem hasRun_upserted {input : Input} {actor : ActorId} {run : RunSnapshot}
    (hupserts : world.upserts input = some (actor, run))
    (hroom : (world.actors actor).hasRoom = true) :
    ((world.step setup input).actors actor).snapshot.HasRun run.runId := by
  have hchanged := ActorState.turn_change_ok hroom (.runUpserted run)
  rw [step_upserts setup hupserts, hasRun_congr hchanged.activeRun hchanged.recentRuns]
  exact ⟨run, AgentSnapshot.mem_runs_upsert.mpr (.inl rfl), rfl⟩

/-- The run lemma: later snapshots have the runs of the earlier ones. -/
theorem Followed.keepsRuns_run (h : Followed world) {inputs : List Input}
    (hcareful : Along (World.step setup) World.Undisplaced world inputs) (actor : ActorId)
    {runId : RunId} (hrun : (world.actors actor).snapshot.HasRun runId) :
    ((run (World.step setup) world inputs).actors actor).snapshot.HasRun runId := by
  have hboth : Followed (run (World.step setup) world inputs) ∧
      ((run (World.step setup) world inputs).actors actor).snapshot.HasRun runId :=
    run_invariant_along
      (P := fun world => Followed world ∧ (world.actors actor).snapshot.HasRun runId)
      (fun _ input h hcareful => ⟨h.1.step setup input, h.1.keepsRuns setup hcareful actor h.2⟩)
      ⟨h, hrun⟩ hcareful
  exact hboth.2

theorem Followed.run (h : Followed world) (inputs : List Input) :
    Followed (Lib.run (World.step setup) world inputs) :=
  run_invariant (fun _ input h => h.step setup input) h inputs

/-- **No run is lost**, whatever the agent starts with, as long as no prompt upserts
its run while another one is active: a run that is once in the snapshot, or that a
step upserts, is there ever after. -/
theorem no_run_lost (setup : Setup) (store : Store δ) (initial : Option AgentSnapshot)
    (inputs later : List Input)
    (hcareful : Along (World.step setup) World.Undisplaced (.opened setup store initial)
      (inputs ++ later)) :
    let before := run (World.step setup) (.opened setup store initial) inputs
    let world := run (World.step setup) (.opened setup store initial) (inputs ++ later)
    (∀ actor runId, (before.actors actor).snapshot.HasRun runId →
      (world.actors actor).snapshot.HasRun runId) ∧
    ∀ input ∈ later.head?, ∀ actor run, before.upserts input = some (actor, run) →
      (before.actors actor).hasRoom = true → (world.actors actor).snapshot.HasRun run.runId := by
  have hbefore := (followed_opened setup store initial).run setup inputs
  obtain ⟨-, hlater⟩ := along_append.mp hcareful
  intro before world
  have hworld : world = run (World.step setup) before later := run_append ..
  constructor
  · intro actor runId hrun
    rw [hworld]
    exact hbefore.keepsRuns_run setup hlater actor hrun
  · intro input hinput actor upserted hupserts hroom
    obtain ⟨rest, rfl⟩ := List.head?_eq_some_iff.mp hinput
    rw [hworld]
    exact (hbefore.step setup input).keepsRuns_run setup hlater.2 actor
      (hasRun_upserted setup hupserts hroom)

/-- The answers to a task whose commands to the process are accepted. -/
def acceptedAnswer (runId : RunId) (nowMs : UInt64) : Answer :=
  { plainAnswer with runId, nowMs, reply := .ok (.success none (.prompt none)) }

/-- A daemon on a new database, with what has happened to it. -/
def openedRun (inputs : List Input) : World Unit :=
  run (World.step plainSetup) (.opened plainSetup (.create ⟨"server"⟩) none) inputs

/-- A launched agent is prompted. -/
def prompting : List Input :=
  launching ++ [Input.request .prompt] ++ List.replicate 8 (Input.task 2 (acceptedAnswer ⟨"first"⟩ 2))

/-- OMP ends its turn, and the bridge handles that. -/
def ending : List Input :=
  [Input.runtime 0 (.reader (some (.frame (.sessionEvent (.agentEnd ""))))), .publish 0] ++
    List.replicate 7 (Input.task 1 plainAnswer)

/-- The agent is prompted again. -/
def promptingAgain : List Input :=
  [Input.request .prompt] ++ List.replicate 8 (Input.task 3 (acceptedAnswer ⟨"second"⟩ 3))

/-- Two prompts, one after the other. -/
theorem no_run_lost_prompts :
    let before := openedRun prompting
    let world := openedRun (prompting ++ (ending ++ promptingAgain))
    ((world.actors 0).snapshot.HasRun ⟨"first"⟩ ∧ (world.actors 0).snapshot.HasRun ⟨"second"⟩) ∧
    (∀ actor runId, (before.actors actor).snapshot.HasRun runId →
      (world.actors actor).snapshot.HasRun runId) ∧
    ∀ input ∈ (ending ++ promptingAgain).head?, ∀ actor run,
      before.upserts input = some (actor, run) → (before.actors actor).hasRoom = true →
        (world.actors actor).snapshot.HasRun run.runId :=
  ⟨by decide +kernel, no_run_lost plainSetup (.create ⟨"server"⟩) none prompting
    (ending ++ promptingAgain) (by decide +kernel)⟩

/-- The second prompt displaces the run of the first one, which OMP has not ended. -/
theorem run_displaced :
    ¬ ∀ actor runId, ((openedRun prompting).actors actor).snapshot.HasRun runId →
      ((openedRun (prompting ++ promptingAgain)).actors actor).snapshot.HasRun runId := by
  intro h
  exact absurd (h 0 ⟨"first"⟩ (by decide +kernel)) (by decide +kernel)

/-! ## What is over is over -/

/-- A run that a step upserts is not over yet, or ended as the step has it. -/
def World.Agreeing (world : World δ) (input : Input) : Prop :=
  ∀ upsert ∈ world.upserts input, (world.actors upsert.1).hasRoom = true →
    (world.actors upsert.1).snapshot.Agrees upsert.2

instance (world : World δ) (input : Input) : Decidable (world.Agreeing input) :=
  inferInstanceAs (Decidable (∀ upsert ∈ world.upserts input, _))

/-- The actors have every run once. -/
def World.RunsOnce (world : World δ) : Prop := ∀ actor, (world.actors actor).snapshot.RunsOnce

theorem Followed.runsOnce (h : Followed world) (honce : world.RunsOnce) (input : Input) :
    (world.step setup input).RunsOnce := by
  intro actor
  rcases step_runs setup h.scripted h.unused input actor with
    hsame | ⟨run, -, -, hchanged⟩
  · exact (honce actor).congr hsame.activeRun hsame.recentRuns
  · exact ((honce actor).upsert run).congr hchanged.activeRun hchanged.recentRuns

theorem Followed.runsOnce_run (h : Followed world) (honce : world.RunsOnce) (inputs : List Input) :
    Followed (Lib.run (World.step setup) world inputs) ∧
      (Lib.run (World.step setup) world inputs).RunsOnce :=
  run_invariant (P := fun world => Followed world ∧ world.RunsOnce)
    (fun _ input h => ⟨h.1.step setup input, h.1.runsOnce setup h.2 input⟩) ⟨h, honce⟩ inputs

end Steps

end OmpRemote.Ompd.Supervision

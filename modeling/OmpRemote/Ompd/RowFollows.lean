import Mathlib.Tactic.IntervalCases
import OmpRemote.Ompd.Rows
import OmpRemote.Ompd.TodoOrder

/-!
# The row follows the actor

The row repeats the actor's lifecycle and active run and the process id of the
runtime. Whoever changes one of these has to write the row, or leave that to a task
that will; and the last who writes must write what is so.

- `World.RowFollows`: the row says what it should.
- `World.Owes`: a task has still to write the row.
- `row_follows`: as long as nobody leaves a change unwritten, or writes last what is
  no longer so, the row follows the actor when all is quiet.
- `row_left_behind`: the agent starts a turn that was not asked for by a prompt.
-/

namespace OmpRemote.Ompd.Supervision

open ControlPlane Lib Rpc OmpRemote.Runtime

variable {δ : Type}

/-! ## What the row should say -/

/-- What the row says of the agent. -/
structure Shown where
  lifecycle : AgentLifecycle
  processId : Option UInt32
  activeRunId : Option RunId
  deriving DecidableEq

def Shown.of (snapshot : AgentSnapshot) (processId : Option UInt32) : Shown :=
  ⟨snapshot.lifecycle, processId, snapshot.activeRun.map RunSnapshot.runId⟩

/-- The runtime that the task is about to insert. -/
def Task.inserts (task : Task) : Option RuntimeId :=
  if task.todo.head? = some .insertRuntime then task.runtime else none

namespace World

/-- The runtime in the map, or the one that a launch is about to insert there. -/
def live (world : World δ) : Option RuntimeId :=
  world.runtimes.or (world.lock.bind fun t => (world.tasks t).inserts)

def livePid (world : World δ) : Option UInt32 :=
  world.live.bind fun r => (world.runtime r).processId

def row (setup : Setup) (world : World δ) : Option Shown :=
  (world.store.agent setup.agentId).map fun record =>
    ⟨record.lifecycle, record.processId, record.activeRunId⟩

/-- The row says what it should. -/
def RowFollows (setup : Setup) (world : World δ) (actor : ActorId) : Prop :=
  world.row setup = some (.of (world.actors actor).snapshot world.livePid)

instance (setup : Setup) (world : World δ) (actor : ActorId) :
    Decidable (world.RowFollows setup actor) := inferInstanceAs (Decidable (_ = _))

/-- What the row says once an operation has written it. -/
def rowAfter (setup : Setup) (world : World δ) (t : TaskId) : Op → Option Shown
  | .upsertAgent _ active =>
    match (world.tasks t).snapshot with
    | none => world.row setup
    | some snapshot => some ⟨snapshot.lifecycle,
      if active then (world.tasks t).processId else none,
      if active then (world.tasks t).runId else none⟩
  | _ => world.row setup

/-! ## Who will write it -/

/-- The task owes the row a write: it is to upsert it, or it is the bridge of a runtime
that has ended, or the launch that spawns that bridge, before the news of the end. -/
def Owes (world : World δ) (task : Task) : Prop :=
  (∃ op ∈ task.todo, op.upserts = true) ∨
  (.receive ∈ task.todo ∧ ∃ r ∈ task.bridge, (world.runtime r).actor.phase = .ended ∧
    (world.runtime r).EndAhead task.next) ∨
  (task.todo = [.insertRuntime, .spawnEventBridge] ∨ task.todo = [.spawnEventBridge]) ∧
    ∃ r ∈ task.runtime, (world.runtime r).actor.phase = .ended

/-- Another task than `t` does. -/
def OwesBut (world : World δ) (t : TaskId) : Prop :=
  ∃ u, u < world.nextTask ∧ u ≠ t ∧ world.Owes (world.tasks u)

/-- Some task does. -/
def Owing (world : World δ) : Prop := ∃ t, t < world.nextTask ∧ world.Owes (world.tasks t)

/-- Some task does when `t` has only the rest to do. -/
def OwingAfter (world : World δ) (t : TaskId) (rest : List Op) : Prop :=
  world.Owes { world.tasks t with todo := rest } ∨ world.OwesBut t

instance (world : World δ) (task : Task) : Decidable (world.Owes task) :=
  inferInstanceAs (Decidable (_ ∨ _ ∨ _))

instance (world : World δ) (t : TaskId) : Decidable (world.OwesBut t) :=
  inferInstanceAs (Decidable (∃ u, u < world.nextTask ∧ _))

instance (world : World δ) : Decidable world.Owing :=
  inferInstanceAs (Decidable (∃ t, t < world.nextTask ∧ _))

instance (world : World δ) (t : TaskId) (rest : List Op) : Decidable (world.OwingAfter t rest) :=
  inferInstanceAs (Decidable (_ ∨ _))

/-- The bridge has lagged, and skips the news that its runtime has ended. -/
def skipsEnd (world : World δ) (task : Task) : Bool :=
  task.bridge.any fun r =>
    match (world.runtime r).events.recv task.next with
    | .lagged next => !decide ((world.runtime r).EndAhead next)
    | _ => false

/-- The change that an operation asks the actor for. -/
def changes (world : World δ) (t : TaskId) (answer : Answer) (op : Op) :
    Option (ActorId × AgentStateChange) := do
  match ← (world.tasks t).command answer op with
  | (actor, .change change) => pure (actor, change)
  | _ => none

/-- Who writes last writes what is so; who changes what the row repeats leaves a write
to somebody; and who gives up has left nothing to write, or leaves it to another. -/
structure CarefulOp (setup : Setup) (world : World δ) (t : TaskId) (answer : Answer) (op : Op)
    (rest : List Op) (actor : ActorId) : Prop where
  writes : op.upserts = true → ¬ world.OwingAfter t rest →
    world.rowAfter setup t op = some (.of (world.actors actor).snapshot
      (world.setTask t { world.tasks t with todo := rest }).livePid)
  changes : ∀ called ∈ world.changes t answer op, called.1 = actor →
    (world.actors actor).hasRoom = true →
    Shown.of (applyChange (world.actors actor).snapshot called.2) none ≠
      .of (world.actors actor).snapshot none → world.OwingAfter t rest
  givesUp : (world.attempt setup t answer op rest).1 = false ∨
      op = .receive ∧ world.skipsEnd (world.tasks t) = true →
    world.RowFollows setup actor ∨ world.OwesBut t

instance (setup : Setup) (world : World δ) (t : TaskId) (answer : Answer) (op : Op)
    (rest : List Op) (actor : ActorId) : Decidable (world.CarefulOp setup t answer op rest actor) :=
  decidable_of_iff (_ ∧ _ ∧ _) ⟨fun h => ⟨h.1, h.2.1, h.2.2⟩, fun h => ⟨h.1, h.2, h.3⟩⟩

/-- So it is with what a task has to do next. -/
def CarefulOps (setup : Setup) (world : World δ) (t : TaskId) (answer : Answer) : List Op → Prop
  | [] => True
  | op :: rest => ∀ actor ∈ world.registry, world.CarefulOp setup t answer op rest actor

instance (setup : Setup) (world : World δ) (t : TaskId) (answer : Answer) :
    ∀ todo, Decidable (world.CarefulOps setup t answer todo)
  | [] => inferInstanceAs (Decidable True)
  | _ :: _ => inferInstanceAs (Decidable (∀ actor ∈ world.registry, _))

/-- The steps after which the row follows. -/
def KeepsRow (setup : Setup) (world : World δ) : Input → Prop
  | .task t answer => world.CarefulOps setup t answer (world.tasks t).todo
  -- the row that recovery leaves as it is
  | .restart .. => ∀ record ∈ world.store.agent setup.agentId,
    record.isRecovered = true ∨ record.processId = none ∧ record.activeRunId = none
  | _ => True

instance (setup : Setup) (world : World δ) : ∀ input, Decidable (world.KeepsRow setup input)
  | .task t answer => inferInstanceAs (Decidable (world.CarefulOps setup t answer _))
  | .restart .. => inferInstanceAs (Decidable (∀ record ∈ world.store.agent setup.agentId, _))
  | .request _ | .runtime .. | .publish _ | .stderr .. | .close _ | .actor .. =>
    inferInstanceAs (Decidable True)

/-- The store makes the write of the step. -/
def Stored (setup : Setup) (world : World δ) : Input → Prop
  | .task t answer => ∀ op ∈ (world.tasks t).todo.head?,
    ∀ result ∈ world.write setup t answer op, result.1.isOk = true
  | _ => True

instance (setup : Setup) (world : World δ) : ∀ input, Decidable (world.Stored setup input)
  | .task t _ => inferInstanceAs (Decidable (∀ op ∈ (world.tasks t).todo.head?, _))
  | .restart .. | .request _ | .runtime .. | .publish _ | .stderr .. | .close _ | .actor .. =>
    inferInstanceAs (Decidable True)

/-- The row follows, or somebody owes it a write. -/
def Kept (setup : Setup) (world : World δ) : Prop :=
  ∀ actor, world.registry = some actor → world.RowFollows setup actor ∨ world.Owing

end World

/-! ## What a step leaves as it was -/

section Same

variable {setup : Setup} {world world' : World δ} {t : TaskId} {answer : Answer} {op : Op}
  {ops rest : List Op}

/-! ### The process id -/

theorem processId_same {runtime runtime' : OmpRuntime} (h : runtime.Same runtime') :
    runtime'.processId = runtime.processId := by
  unfold OmpRuntime.processId
  rw [h.actor]

/-- A runtime that is about to be inserted has been spawned. -/
theorem live_lt (hsound : Sound world) {r : RuntimeId} (h : world.live = some r) :
    r < world.nextRuntime := by
  unfold World.live at h
  rcases Option.or_eq_some_iff.mp h with hentry | ⟨-, hlock⟩
  · exact hsound.entry r hentry
  · obtain ⟨t, -, hinserts⟩ := Option.bind_eq_some_iff.mp hlock
    unfold Task.inserts at hinserts
    split at hinserts
    · exact (hsound.handles t).runtime r hinserts
    · cases hinserts

theorem livePid_congr (hlive : world'.live = world.live) (hruntime : ∀ r, world.live = some r →
    (world'.runtime r).processId = (world.runtime r).processId) :
    world'.livePid = world.livePid := by
  unfold World.livePid
  rw [hlive]
  cases hentry : world.live with
  | none => rfl
  | some r => exact hruntime r hentry

theorem live_congr (hruntimes : world'.runtimes = world.runtimes) (hlock : world'.lock = world.lock)
    (htasks : ∀ u, (world'.tasks u).inserts = (world.tasks u).inserts) :
    world'.live = world.live := by
  unfold World.live
  rw [hruntimes, hlock]
  congr 1
  exact Option.bind_congr fun u _ => htasks u

theorem inserts_of_head {task : Task} (h : task.todo.head? ≠ some .insertRuntime) :
    task.inserts = none := if_neg h

theorem TaskStep.inserts_other (h : TaskStep setup world t answer op rest world')
    (hsound : Sound world) {u : TaskId} (hu : u ≠ t) :
    (world'.tasks u).inserts = (world.tasks u).inserts := by
  rcases h.todo_other hu with hsame | ⟨rfl, -, hnew⟩
  · rw [hsame]
  · have hbefore : (world.tasks world.nextTask).inserts = none := by
      refine inserts_of_head ?_
      rw [hsound.idle _ (Nat.le_refl _)]
      nofun
    rw [hbefore, hnew]
    exact inserts_of_head (by nofun)

/-- An operation leaves the process id as it is, unless it takes the runtime, or a
launch writes it. -/
theorem TaskStep.livePid (h : TaskStep setup world t answer op rest world') (hsound : Sound world)
    (hlaunches : Launches world) (htodo : (world.tasks t).todo = op :: rest)
    (htidy : Tidy.Head op rest) (hinserts : (world'.tasks t).inserts = none)
    (hop : op.unsettles = true → (world'.tasks t).todo = []) : world'.livePid = world.livePid := by
  -- only `insertRuntime` at the head makes a task hold a runtime outside the map
  have hbefore : op ≠ .insertRuntime → (world.tasks t).inserts = none := by
    intro hop
    refine inserts_of_head ?_
    rw [htodo]
    simpa using hop
  have hpid : ∀ r, world.live = some r →
      (world'.runtime r).processId = (world.runtime r).processId :=
    fun r hr => processId_same (h.same (live_lt hsound hr))
  have hsame : op ≠ .insertRuntime → world'.runtimes = world.runtimes → world'.lock = world.lock →
      world'.livePid = world.livePid := by
    intro hop hruntimes hlock
    refine livePid_congr (live_congr hruntimes hlock fun u => ?_) hpid
    by_cases hu : u = t
    · rw [hu, hinserts, hbefore hop]
    · exact h.inserts_other hsound hu
  cases h with
  | waits => rfl
  | fails task store hfails =>
    have hop : op ≠ .insertRuntime := by
      rintro rfl
      cases hfails
    -- the lock of a failed launch goes back, and the map is empty while it is held
    by_cases hlock : world.lock = some t
    · have hnone : world.runtimes = none := hlaunches.locked (by rw [hlock]; rfl)
      refine livePid_congr ?_ hpid
      simp only [World.live, hlock, hnone, if_true, Option.bind_some, hbefore hop]
      exact congrArg (Option.or · none) hnone
    · exact hsame hop rfl (if_neg hlock)
  | calls actor command task hcommand =>
    refine hsame ?_ ?_ ?_
    · rintro rfl
      cases hcommand
    · rw [noteRecorded_eq]
      rfl
    · rw [noteRecorded_eq]
      rfl
  | locks hlocks hfree hidle =>
    -- the runtime that leaves the map is not running, so it has no process id to lose
    have hnone : ∀ r, world.runtimes = some r → (world.runtime r).processId = none := by
      intro r hr
      rw [hr, Option.any_some] at hidle
      unfold OmpRuntime.processId
      unfold OmpRuntime.isRunning at hidle
      split
      · rename_i hstatus
        rw [hstatus] at hidle
        cases hidle
      · rfl
      · rfl
    have hlive : world.live = world.runtimes := by
      simp only [World.live, hfree, Option.bind_none, Option.or_none]
    have hafter : World.live { world.setTask t { world.tasks t with todo := rest } with
        runtimes := none, lock := some t } = none := hinserts
    rw [World.livePid, World.livePid, hafter, hlive]
    cases hr : world.runtimes with
    | none => rfl
    | some r => exact (hnone r hr).symm
  | inserts hinsert =>
    subst hinsert
    obtain ⟨-, -, hlock, -⟩ := (hlaunches.stages t).insertRuntime htodo
    have hnone : world.runtimes = none := hlaunches.locked (by rw [hlock]; rfl)
    refine livePid_congr ?_ hpid
    simp only [World.live, hlock, hnone, Option.bind_some, Option.none_or, Option.bind_none,
      Option.or_none, Task.inserts, htodo, List.head?_cons, if_true]
  | takes r htake =>
    subst htake
    -- a write stands behind the taking, so the task is not at its end
    have hnone : rest = [] := by
      have hdone := hop rfl
      rwa [World.tasks_setTask_self] at hdone
    have hwrites := htidy.unsettles rfl
    rw [hnone] at hwrites
    cases hwrites
  | goesOn processId hsilent =>
    refine hsame ?_ rfl rfl
    rintro rfl
    cases hsilent
  | pushes ops hpushes => exact hsame (by rintro rfl; cases hpushes) rfl rfl
  | finds actor hfinds => exact hsame (by rintro rfl; rcases hfinds with h | h <;> cases h) rfl rfl
  | upserts strict active store hop' | removes _ hop' | spawns _ hop' | creates hop' | bridges hop'
  | gets _ hop' | receives _ _ hop' | lags _ _ hop' | closes _ hop' =>
    exact hsame (by rw [hop']; nofun) rfl rfl

/-! ### The row -/

/-- A write that the store makes leaves what it should. -/
theorem row_stepTask (htodo : (world.tasks t).todo = op :: rest)
    (hstored : ∀ result ∈ world.write setup t answer op, result.1.isOk = true) :
    (world.stepTask setup t answer).row setup = world.rowAfter setup t op := by
  rw [World.row, stepTask_store htodo]
  cases hwrite : world.write setup t answer op with
  | none =>
    have hnone : world.rowAfter setup t op = world.row setup := by
      cases op with
      | upsertAgent strict active =>
        have hsnapshot := Option.map_eq_none_iff.mp hwrite
        simp only [World.rowAfter, hsnapshot]
      | _ => rfl
    rw [hnone]
    rfl
  | some result =>
    rcases write_cases hwrite with ⟨herror, -⟩ |
      ⟨strict, active, snapshot, createdAtMs, rfl, hsnapshot, -, hrow⟩
    · rw [hstored result hwrite] at herror
      cases herror
    · simp only [Option.elim_some, hrow, Option.map_some, World.rowAfter, hsnapshot]

/-- A task that gives up has not written it. -/
theorem row_fails (htodo : (world.tasks t).todo = op :: rest)
    (hstored : ∀ result ∈ world.write setup t answer op, result.1.isOk = true)
    (hfails : (world.attempt setup t answer op rest).1 = false) :
    (world.stepTask setup t answer).row setup = world.row setup := by
  rw [row_stepTask htodo hstored]
  cases op with
  | upsertAgent strict active =>
    cases hsnapshot : (world.tasks t).snapshot with
    | none => simp only [World.rowAfter, hsnapshot]
    | some snapshot =>
      exfalso
      rw [attempt_upsert] at hfails
      have hok := hstored _ (Option.map_eq_some_iff.mpr ⟨snapshot, hsnapshot, rfl⟩)
      simp only [World.write, hsnapshot, Option.map_some, Option.any_some, hok, Bool.true_or] at hfails
      cases hfails
  | _ => rfl

/-! ### The actor -/

theorem Shown.of_congr {snapshot snapshot' : AgentSnapshot}
    (hlifecycle : snapshot'.lifecycle = snapshot.lifecycle)
    (hactive : snapshot'.activeRun.map RunSnapshot.runId = snapshot.activeRun.map RunSnapshot.runId)
    (processId : Option UInt32) : Shown.of snapshot' processId = .of snapshot processId := by
  rw [Shown.of, Shown.of, hlifecycle, hactive]

/-- A call that is no change, or one that does not show, shows nothing. -/
theorem shown_command {task : Task} {actor : ActorId} {command : ActorCommand}
    (hcommand : task.command answer op = some (actor, command)) {state : ActorState}
    (hchange : ∀ change, command = .change change → state.hasRoom = true →
      Shown.of (applyChange state.snapshot change) none = .of state.snapshot none)
    (processId : Option UInt32) :
    Shown.of (state.turn (.command command)).2.snapshot processId = .of state.snapshot processId := by
  rcases command_cases hcommand with ⟨-, ⟨change, rfl⟩ | rfl | ⟨event, rfl⟩⟩ | ⟨-, rfl⟩
  · cases hroom : state.hasRoom with
    | false => rw [ActorState.turn_change_no_room hroom change]
    | true =>
      have hchanged := ActorState.turn_change_ok hroom change
      have hshown := hchange change rfl hroom
      simp only [Shown.of, Shown.mk.injEq, true_and] at hshown
      refine Shown.of_congr (hchanged.lifecycle.trans hshown.1) ?_ processId
      rw [hchanged.activeRun]
      exact hshown.2
  · rw [state.turn_snapshot]
  · have huntouched := state.turn_publishEvent event
    exact Shown.of_congr huntouched.lifecycle (congrArg _ huntouched.activeRun) processId
  · rw [state.turn_shutdown.1]

/-- A step whose change does not show in the row shows nothing. -/
theorem TaskStep.shown (h : TaskStep setup world t answer op rest world') {actor : ActorId}
    (hlt : actor < world.nextActor)
    (hchanges : ∀ called ∈ world.changes t answer op, called.1 = actor →
      (world.actors actor).hasRoom = true →
      Shown.of (applyChange (world.actors actor).snapshot called.2) none =
        .of (world.actors actor).snapshot none) (processId : Option UInt32) :
    Shown.of (world'.actors actor).snapshot processId =
      .of (world.actors actor).snapshot processId := by
  rcases h.actors with hsame | hnew | ⟨called, command, hcommand, hcalled⟩
  · rw [hsame]
  · rw [hnew]
    show Shown.of (Function.update world.actors world.nextActor _ actor).snapshot processId = _
    rw [Function.update_of_ne (Nat.ne_of_lt hlt)]
  · rw [hcalled]
    by_cases hactor : actor = called
    · subst hactor
      rw [Function.update_self]
      refine shown_command hcommand ?_ processId
      rintro change rfl hroom
      refine hchanges (actor, change) ?_ rfl hroom
      have hasked : (world.tasks t).command answer op = some (actor, .change change) := by
        rw [← hcommand]
        cases op <;> rfl
      rw [World.changes, hasked]
      rfl
    · rw [Function.update_of_ne hactor]

/-! ### Who owes a write -/

/-- Only the loop of a bridge comes after an operation on the map. -/
theorem Stage.isKey_of_receive {task : Task} (h : Stage world t task)
    (htodo : task.todo = op :: rest) (hmem : .receive ∈ rest) : op.isKey = false := by
  by_contra hkey
  have hkeys : task.keys = op :: rest.filter Op.isKey := by
    rw [keys_of_todo htodo, if_pos (by simpa using hkey)]
  have hreceive : .receive ∈ rest.filter Op.isKey := List.mem_filter.mpr ⟨hmem, rfl⟩
  have hin : ∀ keys, task.keys = keys → .receive ∈ keys.tail := by
    intro keys h
    rw [← h, hkeys]
    exact hreceive
  cases h with
  | done h => exact absurd (hin _ h) (by decide)
  | before _ h => rcases h with h | h | h | h <;> exact absurd (hin _ h) (by decide)
  | locked _ h | spawned _ _ h | inserted _ _ h | bridge _ h => exact absurd (hin _ h) (by decide)

/-- A task that is left alone owes what it did. -/
theorem World.Owes.same {task : Task} (h : world.Owes task) (hhandles : Handles world task)
    (hsame : ∀ r, r < world.nextRuntime → (world.runtime r).Same (world'.runtime r)) :
    world'.Owes task := by
  rcases h with hwrites | ⟨hreceive, r, hbridge, hended, hahead⟩ | ⟨hshape, r, hruntime, hended⟩
  · exact .inl hwrites
  · have hr := hsame r (hhandles.bridge r hbridge).1
    refine .inr (.inl ⟨hreceive, r, hbridge, ?_, ?_⟩)
    · rw [hr.actor]
      exact hended
    · rw [OmpRuntime.EndAhead, hr.events]
      exact hahead
  · have hr := hsame r (hhandles.runtime r hruntime)
    refine .inr (.inr ⟨hshape, r, hruntime, ?_⟩)
    rw [hr.actor]
    exact hended

theorem World.OwesBut.owing (h : world.OwesBut t) (hsound : Sound world)
    (hstep : TaskStep setup world t answer op rest world') : world'.Owing := by
  obtain ⟨u, hlt, hu, howes⟩ := h
  refine ⟨u, Nat.lt_of_lt_of_le hlt hstep.nextTask_le, ?_⟩
  rcases hstep.todo_other hu with hsame | ⟨rfl, -⟩
  · rw [hsame]
    exact howes.same (hsound.handles u) fun r hr => hstep.same hr
  · exact absurd hlt (Nat.lt_irrefl _)

/-- What the rest of a task owes is still owed when it goes on. -/
theorem World.OwingAfter.owing (h : world.OwingAfter t rest) (hsound : Sound world)
    (hlaunches : Launches world) (htodo : (world.tasks t).todo = op :: rest)
    (htidy : Tidy.Head op rest) (hstep : TaskStep setup world t answer op rest world')
    (hadds : Adds op ops) (hmore : (world'.tasks t).todo = ops ++ rest) : world'.Owing := by
  rcases h with howes | hbut
  swap
  · exact hbut.owing hsound hstep
  have ht := hsound.allocated htodo
  refine ⟨t, Nat.lt_of_lt_of_le ht hstep.nextTask_le, ?_⟩
  rcases howes with ⟨op', hmem, hwrites⟩ | ⟨hreceive, r, hbridge, hended, hahead⟩ |
    ⟨hshape, r, hruntime, hended⟩
  · refine .inl ⟨op', ?_, hwrites⟩
    rw [hmore]
    exact List.mem_append_right _ hmem
  · obtain ⟨hbridge', hnext, -⟩ :=
      hstep.handles_eq (.inl ((hlaunches.stages t).isKey_of_receive htodo hreceive))
    have hr := hstep.same ((hsound.handles t).bridge r hbridge).1
    refine .inr (.inl ⟨?_, r, hbridge'.trans hbridge, ?_, ?_⟩)
    · rw [hmore]
      exact List.mem_append_right _ hreceive
    · rw [hr.actor]
      exact hended
    · rw [OmpRuntime.EndAhead, hr.events, hnext]
      exact hahead
  · -- only an upsert or the insertion comes right before that
    have hop : op.upserts = true ∨ op = .insertRuntime := by
      have hallows := htidy.allows
      rcases hshape with hrest | hrest
      · have hrest' : rest = [.insertRuntime, .spawnEventBridge] := hrest
        rw [hrest'] at hallows
        exact .inl hallows
      · have hrest' : rest = [.spawnEventBridge] := hrest
        rw [hrest'] at hallows
        exact .inr (of_decide_eq_true hallows)
    have hops : ops = [] := by
      by_contra hops
      obtain ⟨hupserts, hinserts⟩ := hadds.plain_head hops
      rcases hop with hop | hop
      · rw [hupserts] at hop
        cases hop
      · exact hinserts hop
    have hkey : op.isKey = false ∨ op = .insertRuntime := by
      rcases hop with hop | hop
      · cases op <;> first | exact .inl rfl | cases hop
      · exact .inr hop
    have hruntime' := (hstep.handles_eq hkey).2.2
    have hr := hstep.same ((hsound.handles t).runtime r hruntime)
    refine .inr (.inr ⟨?_, r, hruntime'.trans hruntime, ?_⟩)
    · rw [hmore, hops]
      exact hshape
    · rw [hr.actor]
      exact hended

/-- A bridge that has to hear of the end hears of it, or has still to. -/
theorem World.owing_receive (hsound : Sound world) (htodo : (world.tasks t).todo = .receive :: rest)
    {r : RuntimeId} (hbridge : (world.tasks t).bridge = some r)
    (hended : (world.runtime r).actor.phase = .ended)
    (hahead : (world.runtime r).EndAhead (world.tasks t).next)
    (hskips : world.skipsEnd (world.tasks t) = false)
    (hstep : TaskStep setup world t answer .receive rest world') : world'.Owing := by
  have ht := hsound.allocated htodo
  cases hstep.receive hbridge with
  | waits =>
    refine ⟨t, ht, .inr (.inl ⟨?_, r, hbridge, hended, hahead⟩)⟩
    rw [htodo]
    exact List.mem_cons_self
  | value event hrecv =>
    refine ⟨t, ht, ?_⟩
    rw [World.tasks_setTask_self]
    cases hfinal : event.isFinal with
    | true => exact .inl ⟨_, List.mem_append_left _ (handleEvent_upserts hfinal), rfl⟩
    | false =>
      refine .inr (.inl ⟨List.mem_append_left _ (handleEvent_goesOn hfinal), r, hbridge, hended, ?_⟩)
      intro earlier hearlier
      replace hearlier : earlier ∈ (world.runtime r).events.passed ((world.tasks t).next + 1) :=
        hearlier
      rw [(Broadcast.recv_value hrecv).2] at hearlier
      rcases List.mem_append.mp hearlier with hold | hnew
      · exact hahead earlier hold
      · rw [List.mem_singleton.mp hnew]
        exact hfinal
  | lagged next hrecv =>
    -- the lag may skip the end of the run; `hskips` says that it does not
    have hnews : (world.runtime r).EndAhead next := by
      simpa only [skipsEnd, hbridge, Option.any_some, hrecv, Bool.not_eq_false',
        decide_eq_true_eq] using hskips
    have hsame := same_setRuntime world r { world.runtime r with
      missed := (world.runtime r).missed ||
        !(frames ((world.runtime r).events.skipped (world.tasks t).next next)).isEmpty }
      ⟨rfl, rfl, rfl⟩ r
    refine ⟨t, ht, ?_⟩
    rw [World.tasks_setTask_self]
    refine .inr (.inl ⟨List.mem_append_left _ (by decide), r, hbridge, ?_, ?_⟩)
    · exact (congrArg RuntimeActor.phase hsame.actor).trans hended
    · intro earlier hearlier
      refine hnews earlier ?_
      rw [← hsame.events]
      exact hearlier
  | closed hrecv =>
    -- a channel closes behind the final event, so that event is not ahead
    have hclosed := (hsound.orderly r).closed (Broadcast.recv_closed hrecv)
    exact absurd hahead ((hsound.orderly r).not_endAhead (.inr hrecv) hclosed.1 hclosed.2)

/-- The bridge that a launch spawns will hear of the end. -/
theorem World.owing_bridge (hsound : Sound world)
    (htodo : (world.tasks t).todo = [.spawnEventBridge])
    {r : RuntimeId} (hruntime : (world.tasks t).runtime = some r)
    (hended : (world.runtime r).actor.phase = .ended)
    (hstep : TaskStep setup world t answer .spawnEventBridge [] world') : world'.Owing := by
  rcases hstep.spawnEventBridge with rfl | rfl
  · exact ⟨t, hsound.allocated htodo, .inr (.inr ⟨.inr htodo, r, hruntime, hended⟩)⟩
  · refine ⟨world.nextTask, Nat.lt_succ_self _, ?_⟩
    rw [tasks_eventBridge]
    refine .inr (.inl ⟨List.mem_singleton_self _, r, hruntime, hended, ?_⟩)
    intro event hevent
    cases hevent

end Same

/-! ## Steps -/

section Step

variable {setup : Setup} {world world' : World δ} {t : TaskId} {answer : Answer} {op : Op}
  {ops rest : List Op}

/-- A task that gives up leaves the actors as they were. -/
theorem TaskStep.actors_fails (h : TaskStep setup world t answer op rest world')
    (hfails : (world.attempt setup t answer op rest).1 = false) : world'.actors = world.actors := by
  cases h with
  | calls actor command task hcommand hok =>
    unfold World.attempt at hfails
    dsimp only at hfails
    rw [hcommand] at hfails
    dsimp only at hfails
    rw [call_eq, hok] at hfails
    cases hfails
  | creates hop hregistry =>
    subst hop
    simp only [World.attempt, Task.command, World.perform, hregistry] at hfails
    cases hfails
  | waits | fails | goesOn | pushes | locks | spawns | finds | inserts | bridges | takes | gets
  | removes | upserts | receives | lags | closes => rfl

/-- It leaves nothing to do, and gives up only when there is nothing to write, or
somebody else will. -/
theorem World.Kept.fails (hsound : Sound world) (hlaunches : Launches world)
    (htodo : (world.tasks t).todo = op :: rest) (htidy : Tidy.Head op rest)
    (hstored : ∀ result ∈ world.write setup t answer op, result.1.isOk = true)
    (careful : ∀ actor ∈ world.registry, world.CarefulOp setup t answer op rest actor)
    (hfails : (world.attempt setup t answer op rest).1 = false) :
    (world.stepTask setup t answer).Kept setup := by
  have hstep : TaskStep setup world t answer op rest (world.stepTask setup t answer) :=
    stepTask_cases htodo
  have hdone : ((world.stepTask setup t answer).tasks t).todo = [] := by
    simp [World.stepTask, htodo, World.resolve, hfails, World.fail]
  intro actor hregistered
  have hregistry : world.registry = some actor := by
    rcases hstep.registry_cases with hkept | rfl | ⟨-, hnone⟩
    · rw [← hkept]
      exact hregistered
    · simp only [World.attempt, Task.command, World.perform] at hfails
      split at hfails <;> cases hfails
    · rw [hnone] at hregistered
      cases hregistered
  rcases (careful actor hregistry).givesUp (.inl hfails) with hfollows | hbut
  · refine .inl ?_
    have hpid := hstep.livePid hsound hlaunches htodo htidy
      (inserts_of_head (by rw [hdone]; rintro ⟨⟩)) fun _ => hdone
    rw [RowFollows, row_fails htodo hstored hfails, hpid, hstep.actors_fails hfails]
    exact hfollows
  · exact .inr (hbut.owing hsound hstep)

/-- While nobody owes a write but the task itself, an operation that is no upsert leaves
a row that follows as it is, or leaves a write to be made. -/
theorem World.RowFollows.task (hsound : Sound world) (hlaunches : Launches world)
    (htodo : (world.tasks t).todo = op :: rest) (htidy : Tidy.Head op rest)
    (hstored : ∀ result ∈ world.write setup t answer op, result.1.isOk = true)
    {actor : ActorId} (hregistry : world.registry = some actor)
    (careful : world.CarefulOp setup t answer op rest actor)
    (hnobody : ¬ world.OwingAfter t rest) (hop : op.upserts = false)
    (hstep : TaskStep setup world t answer op rest (world.stepTask setup t answer))
    (hadds : Adds op ops) (hmore : ((world.stepTask setup t answer).tasks t).todo = ops ++ rest)
    (h : world.RowFollows setup actor) :
    (world.stepTask setup t answer).RowFollows setup actor := by
  have hrow : (world.stepTask setup t answer).row setup = world.row setup := by
    rw [row_stepTask htodo hstored]
    cases op <;> first | rfl | cases hop
  have hinserts : ((world.stepTask setup t answer).tasks t).inserts = none := by
    refine inserts_of_head ?_
    rw [hmore]
    cases ops with
    | nil =>
      intro hhead
      have hallows := htidy.allows
      rw [show rest.head? = some .insertRuntime from hhead] at hallows
      rw [show op.upserts = true from hallows] at hop
      cases hop
    | cons next ops =>
      intro hhead
      have hplain := hadds.isPlain next List.mem_cons_self
      rw [Option.some.inj hhead] at hplain
      cases hplain
  have hunsettles : op.unsettles = true → ((world.stepTask setup t answer).tasks t).todo = [] := by
    intro hunsettles
    obtain ⟨op', hmem, hwrites⟩ := List.any_eq_true.mp (htidy.unsettles hunsettles)
    exact absurd (.inl (.inl ⟨op', hmem, hwrites⟩)) hnobody
  have hpid := hstep.livePid hsound hlaunches htodo htidy hinserts hunsettles
  have hshown := hstep.shown (hsound.registered actor hregistry).1
    (fun called hcalled hactor hroom => by
      by_contra hshows
      exact hnobody (careful.changes called hcalled hactor hroom hshows)) world.livePid
  rw [World.RowFollows, hrow, hpid, hshown]
  exact h

theorem World.Kept.succeeds (h : world.Kept setup) (hsound : Sound world)
    (hlaunches : Launches world) (htodo : (world.tasks t).todo = op :: rest)
    (htidy : Tidy.Head op rest)
    (hstored : ∀ result ∈ world.write setup t answer op, result.1.isOk = true)
    (careful : ∀ actor ∈ world.registry, world.CarefulOp setup t answer op rest actor)
    (hattempt : (world.attempt setup t answer op rest).1 = true) :
    (world.stepTask setup t answer).Kept setup := by
  have hstep : TaskStep setup world t answer op rest (world.stepTask setup t answer) :=
    stepTask_cases htodo
  rcases hstep.todo (hsound.allocated htodo) with hsame | ⟨-, hfails⟩ | ⟨ops, hadds, hmore⟩
  · rw [hsame]
    exact h
  · rw [hattempt] at hfails
    cases hfails
  by_cases hnobody : world.OwingAfter t rest
  · exact fun actor _ => .inr (hnobody.owing hsound hlaunches htodo htidy hstep hadds hmore)
  intro actor hregistered
  have hsettles : op.unsettles = false := by
    by_contra hunsettles
    obtain ⟨op', hmem, hwrites⟩ := List.any_eq_true.mp (htidy.unsettles (by simpa using hunsettles))
    exact hnobody (.inl (.inl ⟨op', hmem, hwrites⟩))
  have hregistry : world.registry = some actor := by
    rcases hstep.registry_cases with hkept | rfl | ⟨-, hnone⟩
    · rw [← hkept]
      exact hregistered
    · cases hsettles
    · rw [hnone] at hregistered
      cases hregistered
  have hcareful := careful actor hregistry
  cases hop : op.upserts with
  | true =>
    -- it writes last
    refine .inl ?_
    obtain ⟨strict, active, rfl⟩ : ∃ strict active, op = .upsertAgent strict active := by
      cases op <;> first | exact ⟨_, _, rfl⟩ | cases hop
    have hrow := row_stepTask htodo hstored
    rw [RowFollows, hrow, hcareful.writes rfl hnobody]
    simp only [stepTask, htodo, resolve, hattempt, if_true]
    rw [attempt_upsert]
    rfl
  | false =>
    have hfollows (hrow : world.RowFollows setup actor) :
        (world.stepTask setup t answer).RowFollows setup actor :=
      hrow.task hsound hlaunches htodo htidy hstored hregistry hcareful hnobody hop hstep hadds hmore
    rcases h actor hregistry with hrow | ⟨u, hlt, howes⟩
    · exact .inl (hfollows hrow)
    -- nobody but the task itself owes a write, and that by its operation
    have hu : u = t := by
      by_contra hu
      exact hnobody (.inr ⟨u, hlt, hu, howes⟩)
    subst hu
    rcases howes with ⟨op', hmem, hwrites⟩ | ⟨hreceive, r, hbridge, hended, hahead⟩ |
      ⟨hshape, r, hruntime, hended⟩
    · exfalso
      rw [htodo] at hmem
      rcases List.mem_cons.mp hmem with rfl | hmem
      · rw [hop] at hwrites
        cases hwrites
      · exact hnobody (.inl (.inl ⟨op', hmem, hwrites⟩))
    · rw [htodo] at hreceive
      rcases List.mem_cons.mp hreceive with rfl | hreceive
      · cases hskips : world.skipsEnd (world.tasks u) with
        | true =>
          refine (hcareful.givesUp (.inr ⟨rfl, hskips⟩)).imp hfollows fun hbut => ?_
          exact absurd (.inr hbut) hnobody
        | false => exact .inr (owing_receive hsound htodo hbridge hended hahead hskips hstep)
      · exact absurd (.inl (.inr (.inl ⟨hreceive, r, hbridge, hended, hahead⟩))) hnobody
    · rw [htodo] at hshape
      rcases hshape with hshape | hshape
      · obtain ⟨rfl, rfl⟩ := List.cons.inj hshape
        exact absurd (.inl (.inr (.inr ⟨.inr rfl, r, hruntime, hended⟩))) hnobody
      · obtain ⟨rfl, rfl⟩ := List.cons.inj hshape
        exact .inr (owing_bridge hsound htodo hruntime hended hstep)

theorem World.Kept.task (h : world.Kept setup) (hsound : Sound world) (hlaunches : Launches world)
    (htidy : AllTidy world) (htodo : (world.tasks t).todo = op :: rest)
    (hstored : ∀ result ∈ world.write setup t answer op, result.1.isOk = true)
    (careful : ∀ actor ∈ world.registry, world.CarefulOp setup t answer op rest actor) :
    (world.stepTask setup t answer).Kept setup := by
  have hhead := htidy t
  rw [htodo, tidy_cons] at hhead
  cases hattempt : (world.attempt setup t answer op rest).1 with
  | false => exact .fails hsound hlaunches htodo hhead hstored careful hattempt
  | true => exact h.succeeds hsound hlaunches htodo hhead hstored careful hattempt

/-! ### Steps of runtimes -/

/-- A task owes no less when runtimes end or send more. -/
theorem World.Owes.mono {task : Task} (h : world.Owes task) (hhandles : Handles world task)
    (hended : ∀ r, (world.runtime r).actor.phase = .ended → (world'.runtime r).actor.phase = .ended)
    (hpassed : ∀ r next, next ≤ (world.runtime r).events.sent.length →
      (world'.runtime r).events.passed next = (world.runtime r).events.passed next) :
    world'.Owes task := by
  rcases h with hwrites | ⟨hreceive, r, hbridge, hphase, hahead⟩ | ⟨hshape, r, hruntime, hphase⟩
  · exact .inl hwrites
  · refine .inr (.inl ⟨hreceive, r, hbridge, hended r hphase, ?_⟩)
    rw [OmpRuntime.EndAhead, hpassed r _ (hhandles.bridge r hbridge).2]
    exact hahead
  · exact .inr (.inr ⟨hshape, r, hruntime, hended r hphase⟩)

/-- A step of a runtime that leaves the process id as it is, or ends a runtime whose
bridge will hear of that. -/
theorem World.Kept.setRuntime (h : world.Kept setup) (hsound : Sound world) (r : RuntimeId)
    {runtime : OmpRuntime}
    (hended : (world.runtime r).actor.phase = .ended → runtime.actor.phase = .ended)
    (hpassed : ∀ next, next ≤ (world.runtime r).events.sent.length →
      runtime.events.passed next = (world.runtime r).events.passed next)
    (hpid : world.live = some r → runtime.processId = (world.runtime r).processId ∨
      (world.setRuntime r runtime).Owing) : (world.setRuntime r runtime).Kept setup := by
  have hat : ∀ r', (world.setRuntime r runtime).runtime r' =
      if r' = r then runtime else world.runtime r' := by
    intro r'
    exact Function.update_apply ..
  intro actor hregistered
  rcases h actor hregistered with hfollows | ⟨t, hlt, howes⟩
  · by_cases howing : (world.setRuntime r runtime).Owing
    · exact .inr howing
    refine .inl ?_
    have hsame : (world.setRuntime r runtime).livePid = world.livePid := by
      refine livePid_congr rfl fun r' hlive => ?_
      rw [hat]
      split
      · rename_i hr
        subst hr
        exact (hpid hlive).resolve_right howing
      · rfl
    rw [RowFollows, hsame]
    exact hfollows
  · refine .inr ⟨t, hlt, howes.mono (hsound.handles t) ?_ ?_⟩
    · intro r' hphase
      rw [hat]
      split
      · rename_i hr
        subst hr
        exact hended hphase
      · exact hphase
    · intro r' next hnext
      rw [hat]
      split
      · rename_i hr
        subst hr
        exact hpassed next hnext
      · rfl

/-- When the live runtime ends, somebody has still to hear of it. -/
theorem World.owing_end (hsound : Sound world) (htidy : AllTidy world) (hattended : Attended world)
    {r : RuntimeId} {runtime : OmpRuntime} (hlive : world.live = some r)
    (hgoesOn : (world.runtime r).actor.phase ≠ .ended) (hended : runtime.actor.phase = .ended)
    (hevents : runtime.events = (world.runtime r).events) :
    (world.setRuntime r runtime).Owing := by
  have hat : (world.setRuntime r runtime).runtime r = runtime := Function.update_self ..
  rcases Option.or_eq_some_iff.mp hlive with hentry | ⟨-, hlock⟩
  · obtain ⟨t, hlt, ⟨hbridge, hreceive⟩ | ⟨hruntime, hspawns⟩⟩ := hattended r hentry hgoesOn
    · refine ⟨t, hlt, .inr (.inl ⟨hreceive, r, hbridge, ?_, ?_⟩)⟩
      · rw [hat]
        exact hended
      · intro event hevent
        rw [hat, hevents] at hevent
        exact (hsound.orderly r).goesOn hgoesOn event
          (List.mem_append_left _ (Broadcast.passed_prefix.subset hevent))
    · refine ⟨t, hlt, .inr (.inr ⟨.inr hspawns, r, hruntime, ?_⟩)⟩
      rw [hat]
      exact hended
  · obtain ⟨t, -, hinserts⟩ := Option.bind_eq_some_iff.mp hlock
    unfold Task.inserts at hinserts
    split at hinserts
    · rename_i hhead
      cases htodo : (world.tasks t).todo with
      | nil =>
        rw [htodo] at hhead
        cases hhead
      | cons op rest =>
        rw [htodo] at hhead
        cases Option.some.inj hhead
        have hordered := htidy t
        rw [htodo, tidy_cons] at hordered
        have hshape : (world.tasks t).todo = [.insertRuntime, .spawnEventBridge] := by
          rw [htodo, hordered.spawns rfl]
        refine ⟨t, hsound.allocated htodo, .inr (.inr ⟨.inl hshape, r, hinserts, ?_⟩)⟩
        rw [hat]
        exact hended
    · cases hinserts

theorem World.Kept.runtime (h : world.Kept setup) (hsound : Sound world) (htidy : AllTidy world)
    (hattended : Attended world) (r : RuntimeId) (input : RuntimeInput) :
    (world.step setup (.runtime r input)).Kept setup := by
  refine h.setRuntime hsound r (fun hended => step_ended hended input) (fun _ _ => rfl) ?_
  intro hlive
  have hpid (hstatus : ((world.runtime r).actor.step input).2.status =
      (world.runtime r).actor.status) : OmpRuntime.processId { world.runtime r with
        actor := ((world.runtime r).actor.step input).2
        outbox := (world.runtime r).outbox ++
          publishedEvents ((world.runtime r).actor.step input).1 } =
      (world.runtime r).processId := by
    unfold OmpRuntime.processId
    rw [← hstatus]
  by_cases hended : (world.runtime r).actor.phase = .ended
  · refine .inl (hpid ?_)
    rw [RuntimeActor.step_after_end hended]
  · rcases RuntimeActor.step_publishes hended input with ⟨-, hstatus, -⟩ | ⟨hends, -, -⟩
    · exact .inl (hpid hstatus)
    · exact .inr (owing_end hsound htidy hattended hlive hended hends rfl)

/-- The restored agent has no runtime and no run, and the row that is restored must not
have any. -/
theorem World.kept_restart {nowMs : UInt64} {fault : Option Nat}
    (careful : ∀ record ∈ world.store.agent setup.agentId,
      record.isRecovered = true ∨ record.processId = none ∧ record.activeRunId = none) :
    (world.restart setup nowMs fault).Kept setup := by
  intro actor hregistered
  refine .inl ?_
  unfold World.restart at hregistered ⊢
  cases hrecover : world.store.recoverInterrupted nowMs fault with
  | mk result store =>
    rw [hrecover] at hregistered
    cases result with
    | error error => cases hregistered
    | ok result =>
      dsimp only at hregistered ⊢
      split at hregistered
      · cases hregistered
      rename_i row hrow
      cases hregistered
      have hrow' := hrow
      rw [Store.recoverInterrupted_agent hrecover] at hrow'
      obtain ⟨record, hrecord, rfl⟩ := Option.map_eq_some_iff.mp hrow'
      have hnone : (Store.interruptAgent nowMs record).processId = none ∧
          (Store.interruptAgent nowMs record).activeRunId = none := by
        have hrecovered := careful record hrecord
        unfold AgentRecord.isRecovered at hrecovered
        unfold Store.interruptAgent
        cases hlifecycle : record.lifecycle with
        | starting | running | stopping => exact ⟨rfl, rfl⟩
        | idle | stopped | interrupted | failed =>
          rw [hlifecycle] at hrecovered
          exact hrecovered.resolve_left (by nofun)
      show (store.agent setup.agentId).map _ = some (Shown.of (Function.update world.actors
        world.nextActor _ world.nextActor).snapshot none)
      rw [Function.update_self, hrow, Option.map_some, hnone.1, hnone.2]
      rfl

/-- The step lemma. -/
theorem World.Kept.step (h : world.Kept setup) (hsound : Sound world) (hlaunches : Launches world)
    (htidy : AllTidy world) (hattended : Attended world) {input : Input}
    (hstored : world.Stored setup input) (careful : world.KeepsRow setup input) :
    (world.step setup input).Kept setup := by
  cases input with
  | request request =>
    simp only [World.step]
    split
    · -- a new task is at its first operation and owes the row nothing
      have hold : ∀ u, u < world.nextTask →
          (world.addTask (.new request.script)).tasks u = world.tasks u :=
        fun u hlt => Function.update_of_ne (Nat.ne_of_lt hlt) _ _
      have hinserts : ∀ u,
          ((world.addTask (.new request.script)).tasks u).inserts = (world.tasks u).inserts := by
        intro u
        by_cases hu : u = world.nextTask
        · have hnew : (world.addTask (.new request.script)).tasks u = .new request.script := by
            rw [hu]
            exact Function.update_self ..
          have hnone : (Task.new request.script).inserts = none :=
            inserts_of_head (by cases request <;> rintro ⟨⟩)
          rw [hnew, hnone, hu]
          refine (inserts_of_head ?_).symm
          rw [hsound.idle _ (Nat.le_refl _)]
          rintro ⟨⟩
        · exact congrArg Task.inserts (Function.update_of_ne hu _ _)
      have hpid : (world.addTask (.new request.script)).livePid = world.livePid :=
        livePid_congr (live_congr rfl rfl hinserts) fun _ _ => rfl
      intro actor hregistered
      rcases h actor hregistered with hfollows | ⟨u, hlt, howes⟩
      · refine .inl ?_
        rw [RowFollows, hpid]
        exact hfollows
      · refine .inr ⟨u, Nat.lt_succ_of_lt hlt, ?_⟩
        rw [hold u hlt]
        exact howes
    · exact h
  | task t answer =>
    show (world.stepTask setup t answer).Kept setup
    cases htodo : (world.tasks t).todo with
    | nil =>
      unfold World.stepTask
      rw [htodo]
      exact h
    | cons op rest =>
      simp only [KeepsRow, CarefulOps, htodo] at careful
      simp only [Stored, htodo, List.head?_cons, Option.mem_some_iff, forall_eq'] at hstored
      exact h.task hsound hlaunches htidy htodo hstored careful
  | runtime r input => exact h.runtime hsound htidy hattended r input
  | publish r =>
    -- a publication reaches the broadcast, not the process id
    refine h.setRuntime hsound r ?_ ?_ fun _ => .inl ?_ <;> unfold OmpRuntime.publish <;> split
    · exact id
    · exact id
    · exact fun _ _ => rfl
    · exact fun next hnext => Broadcast.passed_send hnext _
    · rfl
    · rfl
  | stderr r text =>
    simp only [World.step]
    split
    · exact h.setRuntime hsound r id (fun next hnext => Broadcast.passed_send hnext _)
        fun _ => .inl rfl
    · exact h
  | close r =>
    simp only [World.step]
    split
    · exact h.setRuntime hsound r id (fun _ _ => Broadcast.passed_close) fun _ => .inl rfl
    · exact h
  | actor actor input =>
    simp only [World.step]
    split
    · rename_i hforeign
      -- a foreign input leaves what the row shows of the actor
      have huntouched : ActorState.Untouched (world.actors actor)
          ((world.actors actor).turn input).2 := ActorState.turn_foreign hforeign
      intro registered hregistered
      refine (h registered hregistered).imp ?_ id
      have hshown : Shown.of ((world.setActor actor ((world.actors actor).turn input).2).actors
          registered).snapshot world.livePid =
            .of (world.actors registered).snapshot world.livePid := by
        show Shown.of (Function.update world.actors actor _ registered).snapshot _ = _
        by_cases hactor : registered = actor
        · rw [hactor, Function.update_self]
          exact Shown.of_congr huntouched.lifecycle (congrArg _ huntouched.activeRun) _
        · rw [Function.update_of_ne hactor]
      intro hfollows
      exact hfollows.trans (congrArg some hshown.symm)
    · exact h
  | restart nowMs fault => exact kept_restart careful

end Step

/-! ## Runs -/

/-- No request is in flight, and every bridge is through with what its runtime has
published. -/
def World.Through (world : World δ) : Prop :=
  ∀ t, t < world.nextTask → (world.tasks t).todo = [] ∨
    (world.tasks t).todo = [.receive] ∧ ∃ r, (world.tasks t).bridge = some r ∧
      ((world.runtime r).events.recv (world.tasks t).next = .pending ∨
        (world.runtime r).events.recv (world.tasks t).next = .closed) ∧
      (world.runtime r).outbox = []

/-- Nobody owes a write then. -/
theorem World.Through.not_owing {world : World δ} (h : world.Through) (hsound : Sound world) :
    ¬ world.Owing := by
  rintro ⟨t, hlt, howes⟩
  rcases h t hlt with hnone | ⟨htodo, r, hbridge, hrecv, hempty⟩
  · rcases howes with ⟨op, hmem, -⟩ | ⟨hmem, -⟩ | ⟨hshape | hshape, -⟩
    · rw [hnone] at hmem
      cases hmem
    · rw [hnone] at hmem
      cases hmem
    · rw [hnone] at hshape
      cases hshape
    · rw [hnone] at hshape
      cases hshape
  · rcases howes with ⟨op, hmem, hwrites⟩ | ⟨-, r', hbridge', hended, hahead⟩ |
      ⟨hshape | hshape, -⟩
    · rw [htodo] at hmem
      rw [List.mem_singleton.mp hmem] at hwrites
      cases hwrites
    · cases hbridge.symm.trans hbridge'
      exact (hsound.orderly r).not_endAhead hrecv hended hempty hahead
    · rw [htodo] at hshape
      cases hshape
    · rw [htodo] at hshape
      cases hshape

/-- **The row follows the actor.** After a run without store errors in which whoever
writes last writes what is so, whoever changes what the row repeats leaves a write to
somebody, and nobody gives up who should write: when no request is in flight and every
bridge is through, the agent's row has the lifecycle and the active run of the actor,
and the process id of the runtime in the map. -/
theorem row_follows (setup : Setup) (store : Store δ) (inputs : List Input)
    (hstored : Along (World.step setup) (World.Stored setup) (.create setup store) inputs)
    (hkeeps : Along (World.step setup) (World.KeepsRow setup) (.create setup store) inputs)
    (hthrough : (run (World.step setup) (.create setup store) inputs).Through) (actor : ActorId)
    (hregistered : (run (World.step setup) (.create setup store) inputs).registry = some actor) :
    let world := run (World.step setup) (.create setup store) inputs
    ∃ record, world.store.agent setup.agentId = some record ∧
      record.lifecycle = (world.actors actor).snapshot.lifecycle ∧
      record.processId = world.runtimes.bind (fun r => (world.runtime r).processId) ∧
      record.activeRunId = (world.actors actor).snapshot.activeRun.map RunSnapshot.runId := by
  intro world
  have hinvariant : (Sound world ∧ Launches world ∧ AllTidy world ∧ Attended world) ∧
      world.Bridging ∧ world.Kept setup := by
    refine run_invariant_along
      (P := fun world : World δ => (Sound world ∧ Launches world ∧ AllTidy world ∧ Attended world) ∧
        world.Bridging ∧ world.Kept setup) ?_ ?_ (hstored.and hkeeps)
    · rintro world input ⟨⟨hsound, hlaunches, htidy, hattended⟩, hbridging, hkept⟩ ⟨hstored, hkeeps⟩
      exact ⟨⟨hsound.step input, hlaunches.step hsound input, htidy.step hsound setup input,
        hattended.step hsound hbridging htidy setup input⟩, hbridging.step hsound setup input,
        hkept.step hsound hlaunches htidy hattended hstored hkeeps⟩
    · refine ⟨⟨sound_create setup store, launches_create setup store, fun _ => rfl, ?_⟩, ?_, ?_⟩
      · intro r hnone
        cases hnone
      · intro t r hnone
        cases hnone
      · intro actor hnone
        cases hnone
  obtain ⟨⟨hsound, hlaunches, -, -⟩, -, hkept⟩ := hinvariant
  have hfollows := (hkept actor hregistered).resolve_right (hthrough.not_owing hsound)
  have hlive : world.live = world.runtimes := by
    unfold World.live
    have hnone : (world.lock.bind fun t => (world.tasks t).inserts) = none := by
      refine Option.bind_eq_none_iff.mpr fun t _ => inserts_of_head fun hhead => ?_
      by_cases hlt : t < world.nextTask
      · rcases hthrough t hlt with hidle | ⟨hreceive, -⟩
        · rw [hidle] at hhead
          cases hhead
        · rw [hreceive] at hhead
          cases hhead
      · rw [hsound.idle t (Nat.le_of_not_lt hlt)] at hhead
        cases hhead
    rw [hnone, Option.or_none]
  obtain ⟨record, hrecord, hshown⟩ := Option.map_eq_some_iff.mp hfollows
  simp only [Shown.of, Shown.mk.injEq, World.livePid, hlive] at hshown
  exact ⟨record, hrecord, hshown⟩

/-- An agent is launched and prompted, and OMP ends its turn. -/
def turnTaken : List Input :=
  beforePrompt ++ .task 2 (acceptedAnswer ⟨"first"⟩ 2) :: promptEnded

theorem row_follows_turnTaken :
    let world := plainRun turnTaken
    ∃ record, world.store.agent ⟨"agent"⟩ = some record ∧
      record.lifecycle = (world.actors 0).snapshot.lifecycle ∧
      record.processId = world.runtimes.bind (fun r => (world.runtime r).processId) ∧
      record.activeRunId = (world.actors 0).snapshot.activeRun.map RunSnapshot.runId := by
  refine row_follows plainSetup (.create ⟨"server"⟩) turnTaken (by decide +kernel)
    (by decide +kernel) ?_ 0 rfl
  intro t ht
  have hlt : t < 3 := ht
  interval_cases t
  · exact .inl rfl
  · exact .inr ⟨rfl, 0, rfl, .inl rfl, rfl⟩
  · exact .inl rfl

/-- A follow-up is sent to an idle agent, and it starts a turn. -/
def turnUnasked : List Input :=
  launching ++ [Input.request .steer] ++ List.replicate 2 (Input.task 2 (acceptedAnswer ⟨"none"⟩ 2)) ++
  [Input.runtime 0 (.reader (some (.frame (.sessionEvent .agentStart)))), .publish 0] ++
    List.replicate 3 (Input.task 1 plainAnswer)

/-- The agent is running, and its row says that it is idle. -/
theorem row_left_behind :
    Along (World.step plainSetup) (World.Stored plainSetup)
        (World.create plainSetup (.create ⟨"server"⟩) : World Unit) turnUnasked ∧
      (plainRun turnUnasked).Through ∧ (plainRun turnUnasked).registry = some 0 ∧
      ((plainRun turnUnasked).actors 0).snapshot.lifecycle = .running ∧
      ((plainRun turnUnasked).store.agent ⟨"agent"⟩).map AgentRecord.lifecycle = some .idle := by
  refine ⟨by decide +kernel, ?_, rfl, rfl, rfl⟩
  intro t ht
  have hlt : t < 3 := ht
  interval_cases t
  · exact .inl rfl
  · exact .inr ⟨rfl, 0, rfl, .inl rfl, rfl⟩
  · exact .inl rfl

end OmpRemote.Ompd.Supervision

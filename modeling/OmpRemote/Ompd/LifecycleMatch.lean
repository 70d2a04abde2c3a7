import Mathlib.Tactic.IntervalCases
import OmpRemote.Lib.Machine
import OmpRemote.Ompd.LaunchOrder
import OmpRemote.Ompd.Recovery

/-!
# The lifecycle matches the process

When all is quiet, an agent that is published as idle, running or stopping should
have a live runtime. Somebody has to write the lifecycle last: the bridge when the
runtime has ended, or a stop, or a launch that goes on to spawn a bridge.

- `World.Settles`: a task will still write the lifecycle that is right, or spawn
  the bridge that will.
- `lifecycle_matches`: as long as a request writes `Idle`, `Running` or `Stopping`
  only while somebody will, and nobody who should gives up, the lifecycle is right.
- `lifecycle_left_idle`: a prompt to a runtime that has ended.
-/

namespace OmpRemote

def AgentLifecycle.isUp : AgentLifecycle → Bool
  | .idle | .running | .stopping => true
  | .starting | .stopped | .interrupted | .failed _ => false

def AgentLifecycle.isTerminal : AgentLifecycle → Bool
  | .stopped | .interrupted | .failed _ => true
  | .starting | .idle | .running | .stopping => false

theorem AgentLifecycle.isUp_of_isTerminal {lifecycle : AgentLifecycle}
    (h : lifecycle.isTerminal = true) : lifecycle.isUp = false := by
  cases lifecycle <;> first | rfl | cases h

namespace Ompd.Supervision

open ControlPlane Lib Rpc OmpRemote.Runtime

variable {δ : Type}

/-- The lifecycle that an operation writes. -/
def Op.lifecycle : Op → Option AgentLifecycle
  | .change _ (.lifecycleChanged lifecycle) => some lifecycle
  | _ => none

namespace World

/-- The operation will settle the lifecycle of the task's agent: it writes a
terminal one, or it spawns or is the loop of a bridge that will. -/
def settles (world : World δ) (task : Task) : Op → Bool
  | .change _ (.lifecycleChanged lifecycle) => lifecycle.isTerminal
  | .spawnEventBridge | .shutdownOrFail => true
  | .receive => task.bridge.any fun r => decide ((world.runtime r).EndAhead task.next)
  | _ => false

/-- The task will settle the lifecycle of the actor. -/
def Settles (world : World δ) (t : TaskId) (actor : ActorId) : Prop :=
  (world.tasks t).agent = some actor ∧
    ∃ op ∈ (world.tasks t).todo, world.settles (world.tasks t) op = true

/-- Some task will. -/
def Settling (world : World δ) (actor : ActorId) : Prop :=
  ∃ t, t < world.nextTask ∧ world.Settles t actor

instance (world : World δ) (t : TaskId) (actor : ActorId) : Decidable (world.Settles t actor) :=
  inferInstanceAs (Decidable (_ ∧ _))

instance (world : World δ) (actor : ActorId) : Decidable (world.Settling actor) :=
  inferInstanceAs (Decidable (∃ t, t < world.nextTask ∧ _))

/-- No request is in flight, and every bridge is through with the events of its
runtime: it has ended, or the runtime lives and has nothing to say. A runtime that
is in no map has ended, since nobody holds it. -/
structure Quiet (world : World δ) : Prop where
  tasks : ∀ t, t < world.nextTask → (world.tasks t).todo = [] ∨
    (world.tasks t).todo = [.receive] ∧ ∃ r, (world.tasks t).bridge = some r ∧
      (world.runtime r).events.recv (world.tasks t).next = .pending
  runtimes : ∀ r, r < world.nextRuntime → (world.runtime r).outbox = [] ∧
    ((world.runtime r).actor.phase = .ended ∨
      (world.runtime r).actor.phase = .running ∧ world.runtimes = some r)

/-- An operation writes the published lifecycle only if that is settled later, and
if it settles it, then the actor can record it; and an operation fails only if the
lifecycle is settled by another task, or is not up. -/
structure CarefulTask (setup : Setup) (world : World δ) (t : TaskId) (answer : Answer) (op : Op)
    (rest : List Op) (actor : ActorId) : Prop where
  up : ∀ lifecycle ∈ op.lifecycle, lifecycle.isUp = true → world.Settling actor
  terminal : ∀ lifecycle ∈ op.lifecycle, lifecycle.isTerminal = true →
    (world.actors actor).hasRoom = true
  fails : (world.attempt setup t answer op rest).1 = false →
    (world.actors actor).snapshot.lifecycle.isUp = true →
    ∃ u, u < world.nextTask ∧ u ≠ t ∧ world.Settles u actor

instance (setup : Setup) (world : World δ) (t : TaskId) (answer : Answer) (op : Op)
    (rest : List Op) (actor : ActorId) :
    Decidable (world.CarefulTask setup t answer op rest actor) :=
  decidable_of_iff (_ ∧ _ ∧ _) ⟨fun h => ⟨h.1, h.2.1, h.2.2⟩, fun h => ⟨h.1, h.2, h.3⟩⟩

/-- So it is with what a task has to do next. -/
def CarefulTodo (setup : Setup) (world : World δ) (t : TaskId) (answer : Answer) : List Op → Prop
  | [] => True
  | op :: rest => ∀ actor ∈ (world.tasks t).agent, world.registry = some actor →
    world.CarefulTask setup t answer op rest actor

instance (setup : Setup) (world : World δ) (t : TaskId) (answer : Answer) :
    ∀ todo, Decidable (world.CarefulTodo setup t answer todo)
  | [] => inferInstanceAs (Decidable True)
  | _ :: _ => inferInstanceAs (Decidable (∀ actor ∈ (world.tasks t).agent, _ → _))

/-- The steps after which the lifecycle is right. -/
def Careful (setup : Setup) (world : World δ) : Input → Prop
  | .task t answer => world.CarefulTodo setup t answer (world.tasks t).todo
  -- the row that is restored
  | .restart .. => ∀ record ∈ world.store.agent setup.agentId, record.lifecycle ≠ .idle
  | _ => True

instance (setup : Setup) (world : World δ) : ∀ input, Decidable (world.Careful setup input)
  | .task t answer => inferInstanceAs (Decidable (world.CarefulTodo setup t answer _))
  | .restart .. => inferInstanceAs (Decidable (∀ record ∈ world.store.agent setup.agentId, _))
  | .request _ | .runtime .. | .publish _ | .stderr .. | .close _ | .actor .. =>
    inferInstanceAs (Decidable True)

/-- A lifecycle that is up will be settled. -/
def Covered (world : World δ) : Prop :=
  ∀ actor, world.registry = some actor →
    (world.actors actor).snapshot.lifecycle.isUp = true → world.Settling actor

/-! ## What a step leaves settled -/

section Settles

variable {world world' : World δ} {t : TaskId} {actor : ActorId}

/-- Whether an operation settles the lifecycle is seen from the bridge's receiver. -/
theorem settles_congr {task task' : Task} (hbridge : task'.bridge = task.bridge)
    (hnext : task'.next = task.next)
    (hevents : ∀ r, task.bridge = some r → (world'.runtime r).events = (world.runtime r).events)
    (op : Op) : world'.settles task' op = world.settles task op := by
  cases op with
  | receive =>
    simp only [settles, hbridge, hnext]
    cases hr : task.bridge with
    | none => rfl
    | some r =>
      refine decide_eq_decide.mpr ?_
      rw [OmpRuntime.EndAhead, OmpRuntime.EndAhead, hevents r hr]
  | change strict change => cases change <;> rfl
  | _ => rfl

/-- Only that of the loop does. -/
theorem settles_of_ne_receive {task task' : Task} {op : Op} (h : op ≠ .receive) :
    world'.settles task' op = world.settles task op := by
  cases op with
  | receive => exact absurd rfl h
  | change strict change => cases change <;> rfl
  | _ => rfl

/-- A task that is left alone, with the events of its runtime. -/
theorem Settles.other {u : TaskId} (h : world.Settles u actor) (hsound : Sound world)
    (htask : world'.tasks u = world.tasks u)
    (hevents : ∀ r, r < world.nextRuntime →
      (world'.runtime r).events = (world.runtime r).events) : world'.Settles u actor := by
  obtain ⟨hagent, op, hmem, hop⟩ := h
  rw [Settles, htask]
  refine ⟨hagent, op, hmem, ?_⟩
  rw [settles_congr rfl rfl (fun r hr => hevents r ((hsound.handles u).bridge r hr).1)]
  exact hop

/-- The rest of a task. -/
theorem Settles.rest {op : Op} {rest : List Op} {task : Task} (h : world.Settles t actor)
    (hsound : Sound world) (htodo : (world.tasks t).todo = op :: rest)
    (hhead : world.settles (world.tasks t) op = false) (htask : world'.tasks t = task)
    (hagent : task.agent = some actor) (hbridge : task.bridge = (world.tasks t).bridge)
    (hnext : task.next = (world.tasks t).next) (hrest : ∀ op ∈ rest, op ∈ task.todo)
    (hevents : ∀ r, r < world.nextRuntime →
      (world'.runtime r).events = (world.runtime r).events) : world'.Settles t actor := by
  obtain ⟨-, settling, hmem, hsettles⟩ := h
  rw [htodo] at hmem
  rcases List.mem_cons.mp hmem with rfl | hmem
  · rw [hhead] at hsettles
    cases hsettles
  · rw [Settles, htask]
    refine ⟨hagent, settling, hrest settling hmem, ?_⟩
    rw [settles_congr hbridge hnext
      (fun r hr => hevents r ((hsound.handles t).bridge r hr).1)]
    exact hsettles

/-- A step of one task: the others still settle what they did. -/
theorem Settling.next (h : world.Settling actor) (hsound : Sound world)
    (htasks : ∀ u, u < world.nextTask → u ≠ t → world'.tasks u = world.tasks u)
    (hnextTask : world.nextTask ≤ world'.nextTask)
    (hevents : ∀ r, r < world.nextRuntime → (world'.runtime r).events = (world.runtime r).events)
    (hself : world.Settles t actor → world'.Settling actor) : world'.Settling actor := by
  obtain ⟨u, hlt, hsettles⟩ := h
  by_cases hu : u = t
  · exact hself (hu ▸ hsettles)
  · exact ⟨u, Nat.lt_of_lt_of_le hlt hnextTask, hsettles.other hsound (htasks u hlt hu) hevents⟩

end Settles

/-! ## Steps -/

section Step

variable {setup : Setup} {world world' : World δ} {t : TaskId} {answer : Answer} {op : Op}
  {rest : List Op}

/-- A step that neither registers an actor nor changes a lifecycle. -/
theorem Covered.next (h : Covered world) (hsound : Sound world)
    (hregistry : ∀ actor, world'.registry = some actor → world.registry = some actor)
    (hactors : world'.actors = world.actors)
    (htasks : ∀ u, u < world.nextTask → u ≠ t → world'.tasks u = world.tasks u)
    (hnextTask : world.nextTask ≤ world'.nextTask)
    (hevents : ∀ r, r < world.nextRuntime → (world'.runtime r).events = (world.runtime r).events)
    (hself : ∀ actor, world.registry = some actor →
      (world.actors actor).snapshot.lifecycle.isUp = true → world.Settles t actor →
        world'.Settling actor) : Covered world' := by
  intro actor hregistered hup
  rw [hactors] at hup
  have hbefore := hregistry actor hregistered
  exact (h actor hbefore hup).next hsound htasks hnextTask hevents (hself actor hbefore hup)

theorem tasks_setTask_of_ne {task : Task} {u : TaskId} (h : u ≠ t) :
    (world.setTask t task).tasks u = world.tasks u := Function.update_of_ne h _ _

theorem tasks_setTask_self {task : Task} : (world.setTask t task).tasks t = task :=
  Function.update_self ..

/-- What a bridge has to do about an event settles the lifecycle, unless it is but
standard error. -/
theorem settles_handleEvent {r : RuntimeId} {event : RuntimeEvent} {task : Task}
    (horderly : (world.runtime r).Orderly)
    (hrecv : (world.runtime r).events.recv (world.tasks t).next = .value event)
    (hevent : ∀ text, event ≠ .stderr text) (hbridge : task.bridge = some r)
    (hnext : task.next = (world.tasks t).next + 1)
    (hevents : (world'.runtime r).events = (world.runtime r).events) :
    ∃ op ∈ handleEvent event ++ rest, world'.settles task op = true := by
  cases event with
  | frame frame =>
    refine ⟨.receive, List.mem_append_left _ (List.mem_append_right _ (by simp)), ?_⟩
    have hahead := horderly.endAhead_of_frame hrecv rfl
    simp only [settles, hbridge, Option.any_some, decide_eq_true_eq, OmpRuntime.EndAhead, hnext,
      hevents]
    exact hahead
  | exited exit =>
    refine ⟨_, List.mem_cons_self, ?_⟩
    simp only [settles, setLifecycle]
    split <;> rfl
  | failed message => exact ⟨_, List.mem_cons_self, rfl⟩
  | stderr text => exact absurd rfl (hevent text)

/-- Standard error does not end a runtime. -/
theorem endAhead_stderr {runtime : OmpRuntime} {next : Nat} {text : String}
    (hrecv : runtime.events.recv next = .value (.stderr text)) (hahead : runtime.EndAhead next) :
    runtime.EndAhead (next + 1) := by
  intro event hevent
  rw [(Broadcast.recv_value hrecv).2] at hevent
  rcases List.mem_append.mp hevent with hold | hnew
  · exact hahead event hold
  · rw [List.mem_singleton.mp hnew]
    rfl

/-- The call of an operation other than a terminal lifecycle settles nothing. -/
theorem settles_of_command {task : Task} {actor : ActorId} {command : ActorCommand}
    (h : task.command answer op = some (actor, command)) (task' : Task)
    (hop : ∀ strict lifecycle, op = setLifecycle strict lifecycle →
      lifecycle.isTerminal = false) : world.settles task' op = false := by
  cases op with
  | change strict change =>
    cases change with
    | lifecycleChanged lifecycle => exact hop strict lifecycle rfl
    | _ => rfl
  | spawnEventBridge | shutdownOrFail | receive => cases h
  | _ => rfl

/-- The call of a task keeps the lifecycle covered. -/
theorem Covered.calls (h : Covered world) (hsound : Sound world)
    (htodo : (world.tasks t).todo = op :: rest)
    (careful : ∀ actor ∈ (world.tasks t).agent, world.registry = some actor →
      world.CarefulTask setup t answer op rest actor) {called : ActorId} {command : ActorCommand}
    {task : Task}
    (hcommand : ({ world.tasks t with todo := rest } : Task).command answer op =
      some (called, command)) (htask : task.todo = rest) (hkeeps : (world.tasks t).Keeps task)
    {runtime : RuntimeId → OmpRuntime} (hsame : ∀ r, (world.runtime r).Same (runtime r)) :
    Covered (({ world.setActor called ((world.actors called).turn (.command command)).2 with
      runtime } : World δ).setTask t task) := by
  intro actor hregistered hup
  have hregistry : world.registry = some actor := hregistered
  replace hup : (Function.update world.actors called
    ((world.actors called).turn (.command command)).2 actor).snapshot.lifecycle.isUp = true := hup
  -- a terminal lifecycle is recorded
  have hnotTerminal : ∀ strict lifecycle, op = setLifecycle strict lifecycle →
      (world.tasks t).agent = some actor → lifecycle.isTerminal = false := by
    rintro strict lifecycle rfl hagent
    by_contra hterminal
    rw [Bool.not_eq_false] at hterminal
    obtain ⟨_, hfound, heq⟩ := Option.map_eq_some_iff.mp hcommand
    cases heq
    have hcalled : called = actor := Option.some.inj (hfound.symm.trans hagent)
    subst hcalled
    have hroom := (careful called hagent hregistry).terminal lifecycle rfl hterminal
    have hlifecycle := (ActorState.turn_change_ok hroom (.lifecycleChanged lifecycle)).lifecycle
    rw [Function.update_self, hlifecycle] at hup
    have hdown := AgentLifecycle.isUp_of_isTerminal hterminal
    exact absurd (hdown.symm.trans hup) (by decide)
  have hsettling : world.Settling actor := by
    by_cases hactor : actor = called
    · subst hactor
      rw [Function.update_self] at hup
      rcases command_lifecycle hcommand (world.actors actor) with hkept |
        ⟨strict, lifecycle, hop, hset⟩
      · rw [hkept] at hup
        exact h actor hregistry hup
      · rw [hset] at hup
        have hagent : (world.tasks t).agent = some actor := by
          subst hop
          obtain ⟨_, hfound, heq⟩ := Option.map_eq_some_iff.mp hcommand
          cases heq
          exact hfound
        exact (careful actor hagent hregistry).up lifecycle (hop ▸ rfl) hup
    · rw [Function.update_of_ne hactor] at hup
      exact h actor hregistry hup
  have hevents : ∀ r, r < world.nextRuntime → (runtime r).events = (world.runtime r).events :=
    fun r _ => (hsame r).events
  refine hsettling.next hsound (fun u _ hu => tasks_setTask_of_ne hu) (Nat.le_refl _) hevents ?_
  intro hsettles
  refine ⟨t, hsound.allocated htodo, hsettles.rest hsound htodo ?_ tasks_setTask_self
    (hkeeps.agent.trans hsettles.1) hkeeps.bridge hkeeps.next (fun _ hop => htask ▸ hop) hevents⟩
  exact settles_of_command hcommand _ fun strict lifecycle hop =>
    hnotTerminal strict lifecycle hop hsettles.1

/-- Operations that do not settle the lifecycle themselves. -/
theorem settles_silent (hsilent : op.isSilent = true)
    (hnone : ({ world.tasks t with todo := rest } : Task).command answer op = none)
    {actor : ActorId} (hagent : (world.tasks t).agent = some actor) :
    world.settles (world.tasks t) op = false := by
  cases op with
  | change strict change =>
    have hsome : ({ world.tasks t with todo := rest } : Task).command answer
        (.change strict change) = some (actor, .change change) := by
      show (world.tasks t).agent.map _ = _
      rw [hagent]
      rfl
    rw [hsome] at hnone
    cases hnone
  | spawnEventBridge | shutdownOrFail | receive => cases hsilent
  | _ => rfl

/-- An operation that does not settle the lifecycle and leaves the rest of its task
to be done. -/
theorem Covered.plain (h : Covered world) (hsound : Sound world)
    (htodo : (world.tasks t).todo = op :: rest) {task : Task}
    (hop : world.settles (world.tasks t) op = false)
    (htasks : world'.tasks = Function.update world.tasks t task)
    (hnextTask : world'.nextTask = world.nextTask)
    (hregistry : ∀ actor, world'.registry = some actor → world.registry = some actor)
    (hactors : world'.actors = world.actors)
    (hevents : ∀ r, r < world.nextRuntime → (world'.runtime r).events = (world.runtime r).events)
    (hagent : ∀ actor, world.registry = some actor → (world.tasks t).agent = some actor →
      task.agent = some actor)
    (hbridge : task.bridge = (world.tasks t).bridge) (hnext : task.next = (world.tasks t).next)
    (hrest : ∀ op ∈ rest, op ∈ task.todo) : Covered world' := by
  have hother : ∀ u, u < world.nextTask → u ≠ t → world'.tasks u = world.tasks u := by
    intro u _ hu
    rw [htasks, Function.update_of_ne hu]
  have htask : world'.tasks t = task := by rw [htasks, Function.update_self]
  refine h.next hsound hregistry hactors hother (Nat.le_of_eq hnextTask.symm) hevents ?_
  intro actor hregistered _ hsettles
  exact ⟨t, hnextTask ▸ hsound.allocated htodo, hsettles.rest hsound htodo hop htask
    (hagent actor hregistered hsettles.1) hbridge hnext hrest hevents⟩

theorem Covered.task (h : Covered world) (hsound : Sound world) (hlaunches : Launches world)
    (htodo : (world.tasks t).todo = op :: rest)
    (careful : ∀ actor ∈ (world.tasks t).agent, world.registry = some actor →
      world.CarefulTask setup t answer op rest actor)
    (hstep : TaskStep setup world t answer op rest world') : Covered world' := by
  have ht := hsound.allocated htodo
  cases hstep with
  | waits => exact h
  | fails task store hfails hnone hkeeps =>
    intro actor hregistered hup
    have hbefore : world.Settling actor := h actor hregistered hup
    refine hbefore.next hsound (t := t) (fun u _ hu => tasks_setTask_of_ne hu) (Nat.le_refl _)
      (fun _ _ => rfl) ?_
    intro hsettles
    obtain ⟨u, hlt, hu, hother⟩ := (careful actor hsettles.1 hregistered).fails hfails hup
    exact ⟨u, hlt, hother.other hsound (tasks_setTask_of_ne hu) fun _ _ => rfl⟩
  | calls actor command task hcommand hok htask hkeeps =>
    rw [noteRecorded_eq]
    exact h.calls hsound htodo careful hcommand htask hkeeps
      (noteRecorded_same (world.setActor actor _) _ op _)
  | goesOn processId hsilent hnone =>
    refine h.next hsound (t := t) (fun _ heq => heq) rfl (fun u _ hu => tasks_setTask_of_ne hu)
      (Nat.le_refl _) (fun _ _ => rfl) ?_
    intro actor _ _ hsettles
    exact ⟨t, ht, hsettles.rest hsound htodo (settles_silent hsilent hnone hsettles.1)
      tasks_setTask_self hsettles.1 rfl rfl (fun _ hop => hop) fun _ _ => rfl⟩
  | pushes ops hpushes =>
    cases hpushes with
    | session summary =>
      exact h.plain hsound htodo rfl rfl rfl (fun _ heq => heq) rfl (fun _ _ => rfl)
        (fun _ _ heq => heq) rfl rfl fun _ hop => List.mem_append_right _ hop
    | promptFailed reason =>
      exact h.plain hsound htodo rfl rfl rfl (fun _ heq => heq) rfl (fun _ _ => rfl)
        (fun _ _ heq => heq) rfl rfl fun _ hop => List.mem_append_right _ hop
    | stopped | failed =>
      -- what is put first is the lifecycle that settles it
      refine h.next hsound (t := t) (fun _ heq => heq) rfl (fun u _ hu => tasks_setTask_of_ne hu)
        (Nat.le_refl _) (fun _ _ => rfl) ?_
      intro actor _ _ hsettles
      refine ⟨t, ht, ?_⟩
      rw [Settles, tasks_setTask_self]
      exact ⟨hsettles.1, _, List.mem_cons_self, rfl⟩
  | locks hop hlock hidle =>
    subst hop
    exact h.plain hsound htodo rfl rfl rfl (fun _ heq => heq) rfl (fun _ _ => rfl)
      (fun _ _ heq => heq) rfl rfl fun _ hop => hop
  | spawns startup hop =>
    subst hop
    refine h.plain hsound htodo rfl rfl rfl (fun _ heq => heq) rfl ?_ (fun _ _ heq => heq) rfl rfl
      fun _ hop => hop
    intro r hr
    show (Function.update world.runtime world.nextRuntime _ r).events = _
    rw [Function.update_of_ne (Nat.ne_of_lt hr)]
  | finds actor hop hregistry =>
    have hhead : world.settles (world.tasks t) op = false := by
      rcases hop with rfl | rfl <;> rfl
    refine h.plain hsound htodo hhead rfl rfl (fun _ heq => heq) rfl (fun _ _ => rfl) ?_ rfl rfl
      fun _ hop => hop
    intro registered hregistered _
    rw [← hregistered, ← hregistry]
  | creates hop hregistry =>
    intro actor hregistered hup
    cases Option.some.inj hregistered
    -- a new actor is starting
    replace hup : (Function.update world.actors world.nextActor _
      world.nextActor).snapshot.lifecycle.isUp = true := hup
    rw [Function.update_self] at hup
    cases hup
  | inserts hop =>
    subst hop
    exact h.plain hsound htodo rfl rfl rfl (fun _ heq => heq) rfl (fun _ _ => rfl)
      (fun _ _ heq => heq) rfl rfl fun _ hop => hop
  | bridges hop =>
    refine h.next hsound (t := t) (fun _ heq => heq) rfl ?_ (Nat.le_succ _) (fun _ _ => rfl) ?_
    · intro u hlt hu
      show Function.update (Function.update world.tasks t _) world.nextTask _ u = _
      rw [Function.update_of_ne (Nat.ne_of_lt hlt), Function.update_of_ne hu]
    · -- the bridge takes over
      intro actor _ _ hsettles
      subst hop
      obtain ⟨-, -, r, hruntime⟩ := (hlaunches.stages t).spawnEventBridge htodo
      refine ⟨world.nextTask, Nat.lt_succ_self _, ?_⟩
      have htask : ((world.setTask t { world.tasks t with todo := rest }).addTask
          (world.tasks t).eventBridge).tasks world.nextTask = (world.tasks t).eventBridge :=
        Function.update_self ..
      rw [Settles, htask]
      refine ⟨hsettles.1, .receive, List.mem_singleton_self _, ?_⟩
      simp only [settles, Task.eventBridge, hruntime, Option.any_some, decide_eq_true_eq]
      intro event hevent
      rw [Broadcast.passed_zero] at hevent
      cases hevent
  | takes r hop hlock hruntimes =>
    subst hop
    exact h.plain hsound htodo rfl rfl rfl (fun _ heq => heq) rfl (fun _ _ => rfl)
      (fun _ _ heq => heq) rfl rfl fun _ hop => hop
  | gets r hop hlock hruntimes =>
    subst hop
    exact h.plain hsound htodo rfl rfl rfl (fun _ heq => heq) rfl (fun _ _ => rfl)
      (fun _ _ heq => heq) rfl rfl fun _ hop => hop
  | removes actor hop hregistry =>
    intro actor hregistered _
    cases hregistered
  | upserts strict active store hop =>
    subst hop
    exact h.plain hsound htodo rfl rfl rfl (fun _ heq => heq) rfl (fun _ _ => rfl)
      (fun _ _ heq => heq) rfl rfl fun _ hop => hop
  | receives r event hop hbridge hrecv =>
    refine h.next hsound (t := t) (fun _ heq => heq) rfl (fun u _ hu => tasks_setTask_of_ne hu)
      (Nat.le_refl _) (fun _ _ => rfl) ?_
    intro actor _ _ hsettles
    refine ⟨t, ht, ?_⟩
    rw [Settles, tasks_setTask_self]
    refine ⟨hsettles.1, ?_⟩
    by_cases hevent : ∀ text, event ≠ .stderr text
    · exact settles_handleEvent (hsound.orderly r) hrecv hevent hbridge rfl rfl
    · -- the loop is still before the news
      obtain ⟨text, rfl⟩ := not_forall_not.mp hevent
      obtain ⟨-, settling, hmem, hsettling⟩ := hsettles
      by_cases hreceive : settling = .receive
      · subst hreceive
        simp only [settles, hbridge, Option.any_some, decide_eq_true_eq] at hsettling
        refine ⟨.receive, List.mem_cons_self, ?_⟩
        simp only [settles, hbridge, Option.any_some, decide_eq_true_eq]
        exact endAhead_stderr hrecv hsettling
      · rw [htodo, hop] at hmem
        rcases List.mem_cons.mp hmem with hhead | hmem
        · exact absurd hhead hreceive
        · refine ⟨settling, List.mem_cons_of_mem _ hmem, ?_⟩
          rw [settles_of_ne_receive hreceive]
          exact hsettling
  | lags r next hop hbridge hrecv =>
    have hsame := same_setRuntime world r { world.runtime r with
      missed := (world.runtime r).missed ||
        !(frames ((world.runtime r).events.skipped (world.tasks t).next next)).isEmpty }
      ⟨rfl, rfl, rfl⟩
    refine h.next hsound (t := t) (fun _ heq => heq) rfl (fun u _ hu => tasks_setTask_of_ne hu)
      (Nat.le_refl _) (fun r' _ => (hsame r').events) ?_
    intro actor _ _ hsettles
    refine ⟨t, ht, ?_⟩
    rw [Settles, tasks_setTask_self]
    exact ⟨hsettles.1, _, List.mem_cons_self, rfl⟩
  | closes r hop hbridge hrecv =>
    have hclosed := (hsound.orderly r).closed (Broadcast.recv_closed hrecv)
    have hend := (hsound.orderly r).not_endAhead (.inr hrecv) hclosed.1 hclosed.2
    have hhead : world.settles (world.tasks t) op = false := by
      subst hop
      simp only [settles, hbridge, Option.any_some, decide_eq_false_iff_not]
      exact hend
    exact h.plain hsound htodo hhead rfl rfl (fun _ heq => heq) rfl (fun _ _ => rfl)
      (fun _ _ heq => heq) rfl rfl fun _ hop => hop

/-- A step of a runtime, which sends events at most. -/
theorem Covered.setRuntime (h : Covered world) (hsound : Sound world) (r : RuntimeId)
    {runtime : OmpRuntime} (hpassed : ∀ next, next ≤ (world.runtime r).events.sent.length →
      runtime.events.passed next = (world.runtime r).events.passed next) :
    Covered (world.setRuntime r runtime) := by
  intro actor hregistered hup
  obtain ⟨u, hlt, hagent, op, hmem, hop⟩ := h actor hregistered hup
  refine ⟨u, hlt, hagent, op, hmem, ?_⟩
  by_cases hreceive : op = .receive
  · subst hreceive
    simp only [settles] at hop ⊢
    cases hbridge : (world.tasks u).bridge with
    | none =>
      rw [hbridge] at hop
      cases hop
    | some fed =>
      have hnext := ((hsound.handles u).bridge fed hbridge).2
      rw [hbridge] at hop
      have hahead : (world.runtime fed).EndAhead (world.tasks u).next := by simpa using hop
      have htask : ((world.setRuntime r runtime).tasks u).bridge = some fed := hbridge
      rw [htask]
      simp only [Option.any_some, decide_eq_true_eq]
      intro event hevent
      replace hevent : event ∈ (Function.update world.runtime r runtime fed).events.passed
        (world.tasks u).next := hevent
      by_cases hfed : fed = r
      · subst hfed
        rw [Function.update_self, hpassed _ hnext] at hevent
        exact hahead event hevent
      · rw [Function.update_of_ne hfed] at hevent
        exact hahead event hevent
  · rw [settles_of_ne_receive hreceive]
    exact hop

/-- Only an idle row restores a lifecycle that is up. -/
theorem covered_restart {nowMs : UInt64} {fault : Option Nat}
    (careful : ∀ record ∈ world.store.agent setup.agentId, record.lifecycle ≠ .idle) :
    Covered (world.restart setup nowMs fault) := by
  intro actor hregistered hup
  unfold World.restart at hregistered hup
  cases hrecover : world.store.recoverInterrupted nowMs fault with
  | mk result store =>
    rw [hrecover] at hregistered hup
    cases result with
    | error error => cases hregistered
    | ok result =>
      dsimp only at hregistered hup
      split at hregistered
      · cases hregistered
      · rename_i row hrow
        rw [hrow] at hup
        cases hregistered
        replace hup : (Function.update world.actors world.nextActor _
          world.nextActor).snapshot.lifecycle.isUp = true := hup
        rw [Function.update_self] at hup
        rw [Store.recoverInterrupted_agent hrecover] at hrow
        obtain ⟨record, hrecord, rfl⟩ := Option.map_eq_some_iff.mp hrow
        have hidle := careful record hrecord
        replace hup : (Store.interruptAgent nowMs record).lifecycle.isUp = true := hup
        unfold Store.interruptAgent at hup
        cases hlifecycle : record.lifecycle with
        | idle => exact absurd hlifecycle hidle
        | starting | running | stopping =>
          rw [hlifecycle] at hup
          cases hup
        | stopped | interrupted | failed =>
          rw [hlifecycle] at hup
          dsimp only at hup
          rw [hlifecycle] at hup
          cases hup

end Step

/-- The step lemma. -/
theorem Covered.step {setup : Setup} {world : World δ} (h : Covered world) (hsound : Sound world)
    (hlaunches : Launches world) {input : Input} (careful : world.Careful setup input) :
    Covered (world.step setup input) := by
  cases input with
  | request request =>
    simp only [World.step]
    split
    · refine h.next hsound (t := world.nextTask) (fun _ heq => heq) rfl
        (fun u _ hu => Function.update_of_ne hu _ _) (Nat.le_succ _) (fun _ _ => rfl) ?_
      intro actor _ _ hsettles
      -- the new task stands where no task had anything to do
      obtain ⟨-, op, hmem, -⟩ := hsettles
      rw [hsound.idle world.nextTask (Nat.le_refl _)] at hmem
      cases hmem
    · exact h
  | task t answer =>
    show Covered (world.stepTask setup t answer)
    cases htodo : (world.tasks t).todo with
    | nil =>
      unfold World.stepTask
      rw [htodo]
      exact h
    | cons op rest =>
      simp only [World.Careful, CarefulTodo, htodo] at careful
      exact h.task hsound hlaunches htodo careful (stepTask_cases htodo)
  | runtime r input => exact h.setRuntime hsound r fun _ _ => rfl
  | publish r =>
    refine h.setRuntime hsound r ?_
    intro next hnext
    unfold OmpRuntime.publish
    split
    · rfl
    · exact Broadcast.passed_send hnext _
  | stderr r text =>
    simp only [World.step]
    split
    · exact h.setRuntime hsound r fun next hnext => Broadcast.passed_send hnext _
    · exact h
  | close r =>
    simp only [World.step]
    split
    · exact h.setRuntime hsound r fun _ _ => Broadcast.passed_close
    · exact h
  | actor actor input =>
    simp only [World.step]
    split
    · rename_i hforeign
      intro registered hregistered hup
      -- a foreign turn leaves the lifecycle of every actor
      have hlifecycle : ((world.setActor actor ((world.actors actor).turn input).2).actors
          registered).snapshot.lifecycle = (world.actors registered).snapshot.lifecycle := by
        show (Function.update world.actors actor _ registered).snapshot.lifecycle = _
        by_cases hactor : registered = actor
        · rw [hactor, Function.update_self]
          exact (ActorState.turn_foreign hforeign).lifecycle
        · rw [Function.update_of_ne hactor]
      rw [hlifecycle] at hup
      exact h registered hregistered hup
    · exact h
  | restart nowMs fault => exact covered_restart careful

/-! ## Runs -/

/-- **The lifecycle matches the process.** After a run whose steps are careful, when
all is quiet, an agent that is published as idle, running or stopping has a live
runtime in the map. -/
theorem lifecycle_matches (setup : Setup) (store : Store δ) (inputs : List Input)
    (careful : Along (World.step setup) (World.Careful setup) (create setup store) inputs)
    (quiet : (run (World.step setup) (create setup store) inputs).Quiet) (actor : ActorId)
    (hregistered : (run (World.step setup) (create setup store) inputs).registry = some actor)
    (hup : ((run (World.step setup) (create setup store) inputs).actors
      actor).snapshot.lifecycle.isUp = true) :
    ∃ r, (run (World.step setup) (create setup store) inputs).runtimes = some r ∧
      ((run (World.step setup) (create setup store) inputs).runtime r).isRunning = true := by
  have hsound := sound_run setup store inputs
  have hcovered : Covered (run (World.step setup) (create setup store) inputs) := by
    have hinvariant := run_invariant_along (C := World.Careful setup)
      (P := fun world : World δ => Sound world ∧ Launches world ∧ Covered world)
      (fun world input h hcareful => ⟨h.1.step input, h.2.1.step h.1 input,
        h.2.2.step h.1 h.2.1 hcareful⟩)
      ⟨sound_create setup store, launches_create setup store,
        by intro actor hnone; cases hnone⟩ careful
    exact hinvariant.2.2
  generalize run (World.step setup) (create setup store) inputs = world at *
  obtain ⟨t, hlt, -, op, hmem, hop⟩ := hcovered actor hregistered hup
  rcases quiet.tasks t hlt with hidle | ⟨hreceive, r, hbridge, hpending⟩
  · rw [hidle] at hmem
    cases hmem
  · -- the bridge waits for news of its runtime
    rw [hreceive] at hmem
    cases List.mem_singleton.mp hmem
    simp only [settles, hbridge, Option.any_some, decide_eq_true_eq] at hop
    have hr := ((hsound.handles t).bridge r hbridge).1
    obtain ⟨hempty, hended | ⟨hrunning, hentry⟩⟩ := quiet.runtimes r hr
    · exact absurd hop ((hsound.orderly r).not_endAhead (.inl hpending) hended hempty)
    · refine ⟨r, hentry, (hsound.orderly r).running ?_⟩
      rw [hrunning]
      decide

/-- The launch of an agent is careful. -/
theorem lifecycle_matches_launching :
    ∃ r, (plainRun launching).runtimes = some r ∧
      ((plainRun launching).runtime r).isRunning = true := by
  refine lifecycle_matches plainSetup (.create ⟨"server"⟩) launching (by decide +kernel) ?_ 0 rfl
    (by decide +kernel)
  refine ⟨?_, ?_⟩
  · intro t ht
    have hlt : t < 2 := ht
    interval_cases t
    · exact .inl rfl
    · exact .inr ⟨rfl, 0, rfl, rfl⟩
  · intro r hr
    have hlt : r < 1 := hr
    interval_cases r
    exact ⟨rfl, .inr ⟨rfl, rfl⟩⟩

/-- The child of the launched agent exits, and the bridge is through with that. Then
somebody prompts. -/
def promptingTheDead : List Input :=
  launching ++ [Input.runtime 0 (.childWait (.ok ⟨some 1, false⟩)), .runtime 0 (.reader none),
    .publish 0] ++ List.replicate 4 (Input.task 1 plainAnswer) ++ [Input.request .prompt] ++
    List.replicate 13 (Input.task 2 plainAnswer)

/-- The prompt fails and leaves the agent idle, though its process is gone. -/
theorem lifecycle_left_idle :
    (plainRun promptingTheDead).Quiet ∧ (plainRun promptingTheDead).registry = some 0 ∧
      ((plainRun promptingTheDead).actors 0).snapshot.lifecycle = .idle ∧
      ¬ ∃ r, (plainRun promptingTheDead).runtimes = some r ∧
        ((plainRun promptingTheDead).runtime r).isRunning = true := by
  refine ⟨⟨?_, ?_⟩, rfl, rfl, ?_⟩
  · intro t ht
    have hlt : t < 3 := ht
    interval_cases t <;> exact .inl rfl
  · intro r hr
    have hlt : r < 1 := hr
    interval_cases r
    exact ⟨rfl, .inl rfl⟩
  · rintro ⟨r, hentry, hrunning⟩
    have hr : (plainRun promptingTheDead).runtimes = some 0 := rfl
    rw [hr] at hentry
    cases hentry
    cases hrunning

end World

end Ompd.Supervision

end OmpRemote

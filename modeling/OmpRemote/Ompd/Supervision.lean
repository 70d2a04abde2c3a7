import Mathlib.Logic.Function.Basic
import OmpRemote.ControlPlane.Calls
import OmpRemote.Lib.Broadcast
import OmpRemote.Ompd.Incarnation
import OmpRemote.Runtime.Events

/-!
# Supervising an agent

How the controller follows one agent: requests that launch, stop, switch, prompt
and abort, and for each runtime an event bridge that turns what the runtime
publishes into changes of the agent and rows of the store. All of them are tasks
that run side by side. `Lifecycle` has the same launches and stops, and follows
processes alone; here the agent's snapshot, its row and its events are followed.

- `Op`, and the functions of the controller as lists of operations: an operation
  is what a task does at one `await`, or between two.
- `Task`: where a request or a bridge is, with its local variables.
- `World.step`: one operation of a task, or something outside.
-/

namespace OmpRemote.Ompd.Supervision

open ControlPlane Lib Rpc OmpRemote.Runtime

/-- A runtime, counted in the order of spawning. -/
abbrev RuntimeId := Nat

/-- An actor of the agent, counted in the order of creation. -/
abbrev ActorId := Nat

/-- A request or a bridge, counted in the order of arrival. -/
abbrev TaskId := Nat

/-! ## Operations -/

/-- What a task does next. `strict` says that an error is passed on with `?`, so
that the task ends; otherwise it is ignored. -/
inductive Op where
  /-- Lock the map of runtimes, unless one is running there. -/
  | lockRuntimes
  /-- `OmpRuntime::spawn`. -/
  | spawn
  | getOrCreateAgent
  /-- Ask the runtime for its state, and keep the session it reports. -/
  | getState
  /-- Insert the runtime and unlock the map. -/
  | insertRuntime
  | spawnEventBridge
  | takeRuntime
  | getRuntime
  | getAgent
  /-- `runtime.shutdown`. -/
  | shutdown
  /-- `runtime.shutdown`, and set the lifecycle by its result. -/
  | shutdownOrFail
  | removeAgent
  | shutdownAgent (actor : ActorId)
  /-- `runtime_process_id`. -/
  | processId
  /-- `runtime.request`, and `ensure_rpc_success`. -/
  | request
  /-- `runtime.prompt`, and `fail_active_run` if it fails. -/
  | prompt
  | change (strict : Bool) (change : AgentStateChange)
  | snapshot (strict : Bool)
  /-- Upsert a new run. -/
  | startRun
  /-- Upsert the active run of the snapshot, if any, as ended. -/
  | endRun (strict : Bool) (lifecycle : RunLifecycle)
  /-- Write the agent's row; `active` if with its process and run. -/
  | upsertAgent (strict active : Bool)
  | publishEvent (frame : ServerMessage)
  /-- `events.recv`. -/
  | receive
  deriving DecidableEq, Repr

def setLifecycle (strict : Bool) (lifecycle : AgentLifecycle) : Op :=
  .change strict (.lifecycleChanged lifecycle)

def persistSnapshot (strict active : Bool) : List Op :=
  [.snapshot strict, .upsertAgent strict active]

def launch : List Op :=
  [.lockRuntimes, .spawn, .getOrCreateAgent, setLifecycle true .idle, .getState, .processId] ++
    persistSnapshot true true ++ [.insertRuntime, .spawnEventBridge]

def stop : List Op :=
  [.takeRuntime, .getAgent, setLifecycle true .stopping, .shutdown,
    setLifecycle true .stopped] ++ persistSnapshot true false ++ [.removeAgent]

/-- `DaemonController::shutdown`, as far as it concerns the agent. -/
def shutdownController : List Op :=
  [.takeRuntime, .getAgent, setLifecycle false .stopping, .shutdownOrFail] ++
    persistSnapshot false false

def failActiveRun (reason : String) : List Op :=
  [.snapshot false, .endRun false (.failed reason), setLifecycle false .idle] ++
    persistSnapshot false false

def completeActiveRun : List Op := [.snapshot false, .endRun false .completed]

inductive Request where
  | launch | stop | switchSession | prompt | abort
  /-- `Steer` or `FollowUp`. -/
  | steer
  /-- The daemon is told to shut down. -/
  | shutdown
  deriving DecidableEq, Repr

/-- What `execute_inner` does for a request. -/
def Request.script : Request → List Op
  | .launch => Supervision.launch
  | .stop => Supervision.stop
  | .switchSession => Supervision.stop ++ Supervision.launch
  | .prompt =>
    [.getRuntime, .getAgent, .startRun, setLifecycle true .running, .processId] ++
      persistSnapshot true true ++ [.prompt]
  | .abort => [.getRuntime, .request, .getAgent, .snapshot false, .getAgent, .endRun true .aborted]
  | .steer => [.getRuntime, .request]
  | .shutdown => shutdownController

/-- `{:?}` of an exit code. -/
def debugCode : Option Int32 → String
  | none => "None"
  | some code => "Some(" ++ toString code.toInt ++ ")"

/-- What the bridge does with an event. -/
def handleEvent : RuntimeEvent → List Op
  | .frame frame =>
    (match frame with
      | .sessionEvent .agentStart => [setLifecycle false .running]
      | .sessionEvent (.agentEnd _) =>
        completeActiveRun ++ [setLifecycle false .idle] ++ persistSnapshot false true
      | _ => []) ++ [.publishEvent frame, .receive]
  | .exited exit =>
    setLifecycle false (if exit.success then .stopped
        else .failed ("OMP exited with status " ++ debugCode exit.code)) ::
      persistSnapshot false false
  | .failed error => setLifecycle false (.failed error) :: persistSnapshot false false
  | .stderr _ => [.receive]

/-- What the bridge does when it has lagged. -/
def handleLag : List Op :=
  [setLifecycle false (.failed "local OMP event bridge fell behind"), .receive]

/-! ## State -/

structure Task where
  /-- The runtime whose events the task forwards, if it is a bridge. -/
  bridge : Option RuntimeId
  /-- The position of a bridge's receiver. -/
  next : Nat
  agent : Option ActorId
  runtime : Option RuntimeId
  processId : Option UInt32
  runId : Option RunId
  snapshot : Option AgentSnapshot
  todo : List Op
  deriving DecidableEq

namespace Task

def new (todo : List Op) : Task := ⟨none, 0, none, none, none, none, none, todo⟩

/-- The bridge that a launch spawns. -/
def eventBridge (launch : Task) : Task :=
  ⟨launch.runtime, 0, launch.agent, none, launch.processId, none, none, [.receive]⟩

end Task

/-- A child that has started well. -/
structure Startup where
  processId : UInt32
  maxFrameBytes : Nat
  initialEvents : List ServerMessage

/-- A runtime and the channel to its bridge. `recorded` and `missed` are ghosts:
the frames that the bridge has got recorded, and whether it has lost one. -/
structure OmpRuntime where
  actor : RuntimeActor
  /-- What is published and still to be sent. -/
  outbox : List RuntimeEvent
  events : Broadcast RuntimeEvent
  recorded : List ServerMessage
  missed : Bool

namespace OmpRuntime

def spawn (eventSlots : Nat) (startup : Startup) : OmpRuntime where
  actor := .spawn startup.processId startup.maxFrameBytes
  outbox := startup.initialEvents.map .frame
  events := .new eventSlots
  recorded := []
  missed := false

def isRunning (runtime : OmpRuntime) : Bool :=
  match runtime.actor.status with
  | .running _ => true
  | .exited _ | .failed _ => false

/-- `runtime_process_id`. -/
def processId (runtime : OmpRuntime) : Option UInt32 :=
  match runtime.actor.status with
  | .running processId => some processId
  | .exited _ | .failed _ => none

/-- What `shutdown` returns once it does. `answered` is whether the task answers
it; otherwise the task ends with the request in its queue. -/
def shutdown (runtime : OmpRuntime) (answered : Bool) : Option (Except RequestError RuntimeExit) :=
  match runtime.actor.status with
  | .running _ => none
  | .exited exit => some (if answered then .ok exit else .error .runtimeStopped)
  | .failed message => some (.error (if answered then .transport message else .runtimeStopped))

def publish (runtime : OmpRuntime) : OmpRuntime :=
  match runtime.outbox with
  | [] => runtime
  | event :: outbox => { runtime with outbox, events := runtime.events.send event }

end OmpRuntime

/-- What a daemon is started with. `eventSlots` is the size of the event channels,
which is the configured capacity rounded up to a power of two. -/
structure Setup where
  agentId : AgentId
  actors : AgentActorConfig
  eventSlots : Nat

/-- The agent in a daemon. The runtimes and tasks are those of the daemon at hand;
actors are kept beyond it. -/
structure World (δ : Type) where
  up : Bool
  store : Store δ
  actors : ActorId → ActorState
  nextActor : ActorId
  /-- The actors before it belong to earlier daemons. -/
  firstActor : ActorId
  /-- The agent's entry in the registry. -/
  registry : Option ActorId
  runtime : RuntimeId → OmpRuntime
  nextRuntime : RuntimeId
  /-- The agent's entry in the map of runtimes. -/
  runtimes : Option RuntimeId
  /-- The launch that has the map locked. -/
  lock : Option TaskId
  tasks : TaskId → Task
  nextTask : TaskId

/-- What a task gets from outside: the time, the statement that the store refuses,
a random run id, and the results of calls. -/
structure Answer where
  nowMs : UInt64
  fault : Option Nat
  runId : RunId
  startup : Option Startup
  reply : Except RequestError Response
  answered : Bool

inductive Input where
  | request (request : Request)
  | task (task : TaskId) (answer : Answer)
  /-- Something happens to the task of the runtime. -/
  | runtime (runtime : RuntimeId) (input : RuntimeInput)
  /-- The task of the runtime sends the next event it has published. -/
  | publish (runtime : RuntimeId)
  | stderr (runtime : RuntimeId) (text : String)
  /-- The last sender of the runtime's events is dropped. -/
  | close (runtime : RuntimeId)
  /-- A connection, or the lease timer, uses the actor. -/
  | actor (actor : ActorId) (input : ActorInput)
  /-- The daemon ends, in whatever way, and is started again. -/
  | restart (nowMs : UInt64) (fault : Option Nat)

/-! ## Calls to the actor -/

/-- The call to the actor that an operation consists of. -/
def Task.command (task : Task) (answer : Answer) : Op → Option (ActorId × ActorCommand)
  | .change _ change => task.agent.map fun actor => (actor, .change change)
  | .snapshot _ => task.agent.map fun actor => (actor, .snapshot)
  | .startRun => task.agent.map fun actor =>
    (actor, .change (.runUpserted ⟨answer.runId, .running, answer.nowMs, none⟩))
  | .endRun _ lifecycle => do
    let actor ← task.agent
    let snapshot ← task.snapshot
    let run ← snapshot.activeRun
    pure (actor, .change (.runUpserted
      { run with lifecycle, endedAtMs := some answer.nowMs }))
  | .publishEvent frame => task.agent.map fun actor => (actor, .publishEvent frame)
  | .shutdownAgent actor => some (actor, .shutdown)
  | _ => none

def Op.strict : Op → Bool
  | .change strict _ | .snapshot strict | .endRun strict _ | .upsertAgent strict _ => strict
  | .publishEvent _ => false
  | _ => true

/-- What a task keeps of the reply. -/
def Task.replied (task : Task) (answer : Answer) (reply : ActorReply) : Op → Task
  | .snapshot _ =>
    { task with snapshot := match reply with | .snapshot taken => some taken | _ => none }
  | .startRun => { task with runId := some answer.runId }
  | _ => task

namespace World

variable {δ : Type}

/-- No runtime. -/
def noRuntime : OmpRuntime := ⟨.spawn 0 0, [], .new 0, [], false⟩

/-- The daemon before it is first started, on a database. -/
def create (setup : Setup) (store : Store δ) : World δ where
  up := false
  store := store
  actors := fun _ => .spawn (.initial setup.agentId) setup.actors
  nextActor := 0
  firstActor := 0
  registry := none
  runtime := fun _ => noRuntime
  nextRuntime := 0
  runtimes := none
  lock := none
  tasks := fun _ => .new []
  nextTask := 0

def setTask (world : World δ) (t : TaskId) (task : Task) : World δ :=
  { world with tasks := Function.update world.tasks t task }

def addTask (world : World δ) (task : Task) : World δ :=
  { world.setTask world.nextTask task with nextTask := world.nextTask + 1 }

def setRuntime (world : World δ) (r : RuntimeId) (runtime : OmpRuntime) : World δ :=
  { world with runtime := Function.update world.runtime r runtime }

def setActor (world : World δ) (actor : ActorId) (state : ActorState) : World δ :=
  { world with actors := Function.update world.actors actor state }

/-- A new actor, which the registry gets. -/
def register (world : World δ) (setup : Setup) (snapshot : AgentSnapshot) : World δ :=
  { world.setActor world.nextActor (.spawn snapshot setup.actors) with
    nextActor := world.nextActor + 1
    registry := some world.nextActor }

/-- The task ends with an error, and drops what it has. -/
def fail (world : World δ) (t : TaskId) : World δ :=
  { world.setTask t { world.tasks t with todo := [] } with
    lock := if world.lock = some t then none else world.lock }

/-- The bridge of `r` has got a frame recorded. -/
def noteRecorded (world : World δ) (bridge : Option RuntimeId) (op : Op) (reply : ActorReply) :
    World δ :=
  match bridge, op, reply with
  | some r, .publishEvent frame, .published (.ok _) =>
    world.setRuntime r { world.runtime r with recorded := (world.runtime r).recorded ++ [frame] }
  | _, _, _ => world

/-- The task calls the actor, which answers. -/
def call (world : World δ) (t : TaskId) (task : Task) (answer : Answer) (op : Op)
    (actor : ActorId) (command : ActorCommand) : Bool × World δ :=
  let (reply, state) := (world.actors actor).turn (.command command)
  (reply.succeeds || !op.strict,
    ((world.setActor actor state).noteRecorded task.bridge op reply).setTask t
      (task.replied answer reply op))

/-! ## Steps -/

/-- The bridge polls its receiver. -/
def receive (world : World δ) (t : TaskId) (task : Task) (r : RuntimeId) : World δ :=
  let runtime := world.runtime r
  match runtime.events.recv task.next with
  | .value event =>
    world.setTask t { task with next := task.next + 1, todo := handleEvent event ++ task.todo }
  | .lagged next =>
    let skipped := runtime.events.skipped task.next next
    (world.setRuntime r { runtime with missed := runtime.missed || !(frames skipped).isEmpty })
      |>.setTask t { task with next, todo := handleLag ++ task.todo }
  | .closed => world.setTask t task
  | .pending => world

/-- The operations that are no calls to an actor; whether they go well. `task` is
the task with the operation taken off. One that waits leaves all as it is. -/
def perform (setup : Setup) (world : World δ) (t : TaskId) (task : Task) (answer : Answer) :
    Op → Bool × World δ
  | .lockRuntimes =>
    if world.lock.isSome then (true, world)
    else if world.runtimes.any fun r => (world.runtime r).isRunning then (false, world)
    else (true, { world.setTask t task with runtimes := none, lock := some t })
  | .spawn =>
    match answer.startup with
    | none => (false, world)
    | some startup =>
      (true, { (world.setRuntime world.nextRuntime (.spawn setup.eventSlots startup)).setTask t
          { task with runtime := some world.nextRuntime } with
        nextRuntime := world.nextRuntime + 1 })
  | .getOrCreateAgent =>
    match world.registry with
    | some actor => (true, world.setTask t { task with agent := some actor })
    | none =>
      (true, (world.register setup (.initial setup.agentId)).setTask t
        { task with agent := some world.nextActor })
  | .getState =>
    match answer.reply with
    | .ok (.success _ (.getState data)) =>
      (true, world.setTask t { task with todo := .change true (.sessionChanged
        ⟨data.sessionId, data.sessionFile, data.sessionName, data.messageCount⟩) :: task.todo })
    | _ => (true, world.setTask t task)
  | .insertRuntime => (true, { world.setTask t task with runtimes := task.runtime, lock := none })
  | .spawnEventBridge => (true, (world.setTask t task).addTask task.eventBridge)
  | .takeRuntime =>
    if world.lock.isSome then (true, world)
    else match world.runtimes with
      | none => (false, world)
      | some r => (true, { world.setTask t { task with runtime := some r } with runtimes := none })
  | .getRuntime =>
    if world.lock.isSome then (true, world)
    else match world.runtimes with
      | none => (false, world)
      | some r => (true, world.setTask t { task with runtime := some r })
  | .getAgent =>
    match world.registry with
    | none => (false, world)
    | some actor => (true, world.setTask t { task with agent := some actor })
  | .shutdown =>
    match task.runtime.bind fun r => (world.runtime r).shutdown answer.answered with
    | none => (true, world)
    | some (.error _) => (false, world)
    | some (.ok _) => (true, world.setTask t task)
  | .shutdownOrFail =>
    match task.runtime.bind fun r => (world.runtime r).shutdown answer.answered with
    | none => (true, world)
    | some (.error error) =>
      (true, world.setTask t
        { task with todo := setLifecycle false (.failed error.message) :: task.todo })
    | some (.ok _) =>
      (true, world.setTask t { task with todo := setLifecycle false .stopped :: task.todo })
  | .removeAgent =>
    match world.registry with
    | none => (false, world)
    | some actor =>
      (true, { world.setTask t { task with todo := .shutdownAgent actor :: task.todo } with
        registry := none })
  | .processId =>
    (true, world.setTask t
      { task with processId := task.runtime.bind fun r => (world.runtime r).processId })
  | .request =>
    match answer.reply with
    | .ok (.success ..) => (true, world.setTask t task)
    | _ => (false, world)
  | .prompt =>
    match answer.reply with
    | .ok (.success ..) => (true, world.setTask t task)
    | .ok (.error ..) => (false, world)
    | .error error =>
      (true, world.setTask t { task with todo := failActiveRun error.message ++ task.todo })
  | .upsertAgent strict active =>
    match task.snapshot with
    | none => (!strict, world.setTask t task)
    | some snapshot =>
      let (result, store) := Ompd.persistSnapshot world.store setup.agentId snapshot
        (if active then task.processId else none) (if active then task.runId else none)
        answer.nowMs answer.fault
      (result.isOk || !strict, { world.setTask t task with store })
  | .receive =>
    match task.bridge with
    | none => (false, world)
    | some r => (true, world.receive t task r)
  -- a call to an actor that the task does not make
  | .change .. | .snapshot _ | .startRun | .endRun .. | .publishEvent _ | .shutdownAgent _ =>
    (true, world.setTask t task)

/-- A task does its next operation; whether it goes well. -/
def attempt (setup : Setup) (world : World δ) (t : TaskId) (answer : Answer) (op : Op)
    (rest : List Op) : Bool × World δ :=
  let task := { world.tasks t with todo := rest }
  match task.command answer op with
  | some (actor, command) => world.call t task answer op actor command
  | none => world.perform setup t task answer op

/-- The task goes on, or ends with an error. -/
def resolve (t : TaskId) (attempted : Bool × World δ) : World δ :=
  if attempted.1 then attempted.2 else attempted.2.fail t

def stepTask (setup : Setup) (world : World δ) (t : TaskId) (answer : Answer) : World δ :=
  match (world.tasks t).todo with
  | [] => world
  | op :: rest => resolve t (world.attempt setup t answer op rest)

/-- `Store::open` and `DaemonController::new`, after the daemon has ended. -/
def restart (setup : Setup) (world : World δ) (nowMs : UInt64) (fault : Option Nat) : World δ :=
  let (recovered, store) := world.store.recoverInterrupted nowMs fault
  let world : World δ :=
    { create setup store with
      actors := world.actors, nextActor := world.nextActor, firstActor := world.nextActor }
  match recovered with
  | .error _ => world
  | .ok () =>
    match store.agent setup.agentId with
    | none => { world with up := true }
    | some record =>
      { world.register setup
          (restoredSnapshot setup.agentId record (store.session setup.agentId)) with up := true }

def step (setup : Setup) (world : World δ) : Input → World δ
  | .request request => if world.up then world.addTask (.new request.script) else world
  | .task t answer => world.stepTask setup t answer
  | .runtime r input =>
    let runtime := world.runtime r
    let (effects, actor) := runtime.actor.step input
    world.setRuntime r { runtime with actor, outbox := runtime.outbox ++ publishedEvents effects }
  | .publish r => world.setRuntime r (world.runtime r).publish
  | .stderr r text =>
    let runtime := world.runtime r
    if runtime.events.senderOpen then
      world.setRuntime r { runtime with events := runtime.events.send (.stderr text) }
    else world
  | .close r =>
    let runtime := world.runtime r
    if runtime.actor.phase = .ended && runtime.outbox.isEmpty then
      world.setRuntime r { runtime with events := runtime.events.close }
    else world
  | .actor actor input =>
    if input.isForeign then world.setActor actor ((world.actors actor).turn input).2 else world
  | .restart nowMs fault => world.restart setup nowMs fault

end World

end OmpRemote.Ompd.Supervision

import Mathlib.Logic.Function.Basic

/-!
# Launching, stopping and switching

What concurrent `LaunchAgent`, `StopAgent` and `SwitchSession` requests for one
agent id do to its OMP processes, to the controller's map of runtimes and to the
agent registry. A launch keeps the map locked from its check to its insertion; a
stop locks it only to take the runtime out. While a launch of another agent has
the map, no task of this agent gets it.

- `Task`: where a request is; a step of the model is what happens up to the next
  `await`.
- `World.step`: the requests, the processes and the two maps.
-/

namespace OmpRemote.Ompd.Lifecycle

/-- An OMP process with its runtime, counted in the order of spawning. -/
abbrev ProcessId := Nat

/-- An actor of the agent, counted in the order of creation. -/
abbrev ActorId := Nat

/-- A request, counted in the order of arrival. -/
abbrev TaskId := Nat

structure Process where
  /-- The child has not exited. -/
  live : Bool
  /-- It has been told to shut down, or killed. -/
  told : Bool
  /-- The runtime's status is `Running`. -/
  running : Bool
  deriving DecidableEq, Repr

/-- What `launch` awaits once it has its runtime and its actor. -/
inductive LaunchPhase where
  | settingIdle | gettingState | settingSession | persisting
  deriving DecidableEq, Repr

/-- What `stop` awaits once it has taken the runtime out of the map. -/
inductive StopPhase where
  | settingStopping | tellingRuntime | awaitingExit | settingStopped | persisting
  deriving DecidableEq, Repr

inductive Task where
  /-- `launch` waits for the lock. -/
  | launch
  /-- `launch` awaits `OmpRuntime::spawn`. -/
  | starting (process : ProcessId)
  | launching (process : ProcessId) (actor : ActorId) (phase : LaunchPhase)
  /-- `stop` waits for the lock; `switch` if a launch follows. -/
  | stop (switch : Bool)
  | stopping (switch : Bool) (process : ProcessId) (actor : ActorId) (phase : StopPhase)
  /-- `stop` awaits the shutdown of the actor it has removed. -/
  | removing (switch : Bool) (actor : ActorId)
  /-- The request has been answered. -/
  | done
  deriving DecidableEq, Repr

structure World where
  process : ProcessId → Process
  nextProcess : ProcessId
  /-- The actor the event bridge of a process's runtime feeds. -/
  bridge : ProcessId → Option ActorId
  stopped : ActorId → Bool
  nextActor : ActorId
  /-- The agent's entry in the controller's map of runtimes. -/
  runtimes : Option ProcessId
  /-- The agent's entry in the registry. -/
  registry : Option ActorId
  /-- The launch that holds the lock of the map. -/
  lock : Option TaskId
  tasks : List Task

inductive RequestKind where
  | launch | stop | switch
  deriving DecidableEq, Repr

/-- Where a request starts. -/
def RequestKind.task : RequestKind → Task
  | .launch => .launch
  | .stop => .stop false
  | .switch => .stop true

inductive Input where
  | request (kind : RequestKind)
  /-- The task gets the lock; `spawned` is whether a launch can start its child. -/
  | lock (task : TaskId) (spawned : Bool)
  /-- The call that the task awaits returns, well or not. -/
  | resume (task : TaskId) (ok : Bool)
  /-- The child exits. -/
  | exits (process : ProcessId)
  /-- The runtime's transport fails and it kills its child. -/
  | fails (process : ProcessId)
  /-- The runtime publishes that it has ended. -/
  | reports (process : ProcessId)
  deriving DecidableEq, Repr

namespace World

/-- The controller at its start: the agent is registered if the store knows it. -/
def initial (restored : Bool) : World where
  process := fun _ => ⟨false, false, false⟩
  nextProcess := 0
  bridge := fun _ => none
  stopped := fun _ => false
  nextActor := 1
  runtimes := none
  registry := if restored then some 0 else none
  lock := none
  tasks := []

def setTask (world : World) (task : TaskId) (state : Task) : World :=
  { world with tasks := world.tasks.set task state }

/-- The last handle of the runtime is dropped, or it is asked to shut down. -/
def tell (world : World) (process : ProcessId) : World :=
  { world with
    process := Function.update world.process process { world.process process with told := true } }

def unlock (world : World) : World := { world with lock := none }

/-- A launch fails: its runtime is dropped and the lock released. -/
def abandon (world : World) (task : TaskId) (process : ProcessId) : World :=
  ((world.tell process).unlock).setTask task .done

/-- `registry.get`, or `registry.create`. -/
def findActor (world : World) : ActorId × World :=
  match world.registry with
  | some actor => (actor, world)
  | none =>
    (world.nextActor,
      { world with registry := some world.nextActor, nextActor := world.nextActor + 1 })

/-- `launch` has the lock: check that no runtime is running, and spawn. -/
def launchLocked (world : World) (task : TaskId) (spawned : Bool) : World :=
  if world.runtimes.any fun process => (world.process process).running then
    world.setTask task .done
  else
    let world := { world with runtimes := none }
    if !spawned then world.setTask task .done
    else
      ({ world with
        process := Function.update world.process world.nextProcess ⟨true, false, true⟩
        nextProcess := world.nextProcess + 1
        lock := some task }).setTask task (.starting world.nextProcess)

/-- `launch` has awaited a call that has not failed. -/
def launchNext (world : World) (task : TaskId) (process : ProcessId) (actor : ActorId) :
    LaunchPhase → Bool → World
  | .settingIdle, _ => world.setTask task (.launching process actor .gettingState)
  | .gettingState, true => world.setTask task (.launching process actor .settingSession)
  | .gettingState, false | .settingSession, _ =>
    world.setTask task (.launching process actor .persisting)
  | .persisting, _ =>
    (({ world with
      runtimes := some process
      bridge := Function.update world.bridge process (some actor) }).unlock).setTask task .done

/-- `stop` has the lock: take the runtime out, release the lock, get the actor. -/
def stopLocked (world : World) (task : TaskId) (switch : Bool) : World :=
  match world.runtimes with
  | none => world.setTask task .done
  | some process =>
    let world := { world with runtimes := none }
    match world.registry with
    | none => (world.tell process).setTask task .done
    | some actor => world.setTask task (.stopping switch process actor .settingStopping)

/-- `registry.remove`: whatever actor is registered goes. -/
def removeActor (world : World) (task : TaskId) (switch : Bool) : World :=
  match world.registry with
  | none => world.setTask task .done
  | some actor => { world with registry := none }.setTask task (.removing switch actor)

/-- `stop` has awaited a call that returned well. -/
def stopNext (world : World) (task : TaskId) (switch : Bool) (process : ProcessId)
    (actor : ActorId) : StopPhase → World
  | .settingStopping =>
    let runtime := world.process process
    if runtime.running then
      world.setTask task (.stopping switch process actor .tellingRuntime)
    else if runtime.live then (world.tell process).setTask task .done
    else world.setTask task (.stopping switch process actor .settingStopped)
  | .tellingRuntime =>
    (world.tell process).setTask task (.stopping switch process actor .awaitingExit)
  | .awaitingExit => world.setTask task (.stopping switch process actor .settingStopped)
  | .settingStopped => world.setTask task (.stopping switch process actor .persisting)
  | .persisting => world.removeActor task switch

/-- Whether the call that `stop` awaits can return well: an actor that was shut
down answers no more, and a shutdown is over when the child has exited. -/
def canReturn (world : World) (process : ProcessId) (actor : ActorId) : StopPhase → Bool
  | .tellingRuntime => true
  | .awaitingExit => !(world.process process).live
  | _ => !world.stopped actor

/-- The call that a task awaits returns. -/
def resume (world : World) (task : TaskId) (ok : Bool) : World :=
  match world.tasks[task]? with
  | some (.starting process) =>
    if ok then
      let (actor, world) := world.findActor
      world.setTask task (.launching process actor .settingIdle)
    else world.abandon task process
  | some (.launching process actor phase) =>
    if phase ≠ .gettingState && !(ok && !world.stopped actor) then world.abandon task process
    else world.launchNext task process actor phase ok
  | some (.stopping switch process actor phase) =>
    if ok && world.canReturn process actor phase then
      world.stopNext task switch process actor phase
    else (world.tell process).setTask task .done
  | some (.removing switch actor) =>
    { world with stopped := Function.update world.stopped actor true }.setTask task
      (if ok && switch then .launch else .done)
  | _ => world

def step (world : World) : Input → World
  | .request kind => { world with tasks := world.tasks ++ [kind.task] }
  | .lock task spawned =>
    if world.lock.isSome then world
    else match world.tasks[task]? with
      | some .launch => world.launchLocked task spawned
      | some (.stop switch) => world.stopLocked task switch
      | _ => world
  | .resume task ok => world.resume task ok
  | .exits process =>
    { world with process :=
        Function.update world.process process { world.process process with live := false } }
  | .fails process => world.tell process
  | .reports process =>
    let runtime := world.process process
    if runtime.live && !runtime.told then world
    else { world with process :=
        Function.update world.process process { runtime with running := false } }

/-- The step is a stop that removes the registry's entry. -/
def removesEntry (world : World) : Input → Bool
  | .resume task ok =>
    match world.tasks[task]? with
    | some (.stopping _ process actor .persisting) =>
      ok && world.canReturn process actor .persisting && world.registry.isSome
    | _ => false
  | _ => false

/-- A launch from its request to its end. -/
def launchInputs (t : TaskId) : List Input :=
  [.request .launch, .lock t true, .resume t true, .resume t true, .resume t true,
    .resume t true, .resume t true]

section Registry

variable {world : World} {actor : ActorId}

theorem registry_launchLocked (task : TaskId) (spawned : Bool) :
    (world.launchLocked task spawned).registry = world.registry := by
  unfold launchLocked
  split
  · rfl
  dsimp only
  split <;> rfl

theorem registry_stopLocked (task : TaskId) (switch : Bool) :
    (world.stopLocked task switch).registry = world.registry := by
  unfold stopLocked
  split
  · rfl
  dsimp only
  split <;> rfl

theorem registry_findActor (h : world.registry = some actor) :
    world.findActor = (actor, world) := by
  unfold findActor
  rw [h]

theorem registry_launchNext (task : TaskId) (process : ProcessId) (actor : ActorId)
    (phase : LaunchPhase) (ok : Bool) :
    (world.launchNext task process actor phase ok).registry = world.registry := by
  unfold launchNext
  split <;> rfl

theorem registry_stopNext (task : TaskId) (switch : Bool) (process : ProcessId) (actor : ActorId)
    {phase : StopPhase} (hphase : phase ≠ .persisting) :
    (world.stopNext task switch process actor phase).registry = world.registry := by
  cases phase with
  | settingStopping =>
    simp only [stopNext]
    split
    · rfl
    split <;> rfl
  | persisting => exact absurd rfl hphase
  | tellingRuntime | awaitingExit | settingStopped => rfl

/-- An entry of the registry stays until a stop removes it. -/
theorem registry_step (input : Input) (h : world.registry = some actor)
    (hkeep : world.removesEntry input = false) : (world.step input).registry = some actor := by
  cases input with
  | request | exits | fails => exact h
  | reports process =>
    simp only [step]
    split <;> exact h
  | lock task spawned =>
    simp only [step]
    split
    · exact h
    split
    · exact (registry_launchLocked task spawned).trans h
    · exact (registry_stopLocked task _).trans h
    · exact h
  | resume task ok =>
    show (world.resume task ok).registry = some actor
    unfold resume
    split
    · split
      · rw [registry_findActor h]
        exact h
      · exact h
    · split
      · exact h
      · exact (registry_launchNext task _ _ _ ok).trans h
    · rename_i switch process stopping phase htask
      split
      · rename_i hreturns
        by_cases hphase : phase = .persisting
        · subst hphase
          simp [removesEntry, htask, hreturns, h] at hkeep
        · exact (registry_stopNext task switch process stopping hphase).trans h
      · exact h
    · exact h
    · exact h

end Registry

end World

end OmpRemote.Ompd.Lifecycle

import OmpRemote.ControlPlane.Lease
import OmpRemote.Ompd.Lifecycle
import OmpRemote.Ompd.Records

/-!
# Forwarding UI responses

`send_ui_response` checks the lease on a copy of the agent's snapshot and then
awaits the map of runtimes, which a launch may hold for long, and the runtime's
queue. The model runs any number of such calls for one agent beside the requests
that launch and stop it and whatever else is asked of its actors.

- `World.step`: a step is what happens up to the next `await`; its result is the
  response that is handed to a runtime.
- `World.leaseInForce`: the lease that should cover the hand-over.
- `leased_forwarding`: it does, as long as nothing ends it after the check.
- `lease_lost_before_handOver`: what a release in between does.
-/

namespace OmpRemote.Ompd.UiResponse

open Lib Rpc ControlPlane
open Lifecycle (ActorId ProcessId TaskId)

/-- What a call of `send_ui_response` awaits. -/
inductive Phase where
  /-- The actor's snapshot. -/
  | snapshot (actor : ActorId)
  /-- The copy has arrived and is not checked yet. -/
  | copied (snapshot : AgentSnapshot)
  /-- The lock of the map of runtimes. -/
  | runtime
  /-- Room in the queue of the runtime. -/
  | send (process : ProcessId)
  | done
  deriving DecidableEq, Repr

/-- A call of `send_ui_response`, with the operation it executes. -/
structure Task where
  key : OperationKey
  holder : LeaseHolderId
  response : ExtensionUiResponseFrame
  phase : Phase
  deriving DecidableEq, Repr

/-- The copied snapshot has been checked, and the response is still to be handed over. -/
def Task.checked (task : Task) : Bool :=
  match task.phase with
  | .runtime | .send _ => true
  | _ => false

/-- A response that is handed to a runtime. -/
structure HandOver where
  key : OperationKey
  holder : LeaseHolderId
  response : ExtensionUiResponseFrame
  process : ProcessId
  deriving DecidableEq, Repr

structure World where
  /-- The requests that launch and stop the agent, the map and the registry. -/
  life : Lifecycle.World
  actors : ActorId → ActorState
  nowMs : UInt64
  tasks : List Task

inductive Input where
  | life (input : Lifecycle.Input)
  | actor (actor : ActorId) (input : ActorInput)
  | clock (nowMs : UInt64)
  | submit (key : OperationKey) (holder : LeaseHolderId) (response : ExtensionUiResponseFrame)
  /-- What the call awaits returns, well or not. -/
  | resume (task : TaskId) (ok : Bool)

/-- What the daemon asks of an actor that is registered: only `registry.remove`
shuts it down, and only the lease commands change the interaction. -/
def asks : ActorInput → Bool
  | .disconnected | .command .shutdown | .command (.change (.interactionChanged _)) => false
  | _ => true

namespace World

/-- The daemon at its start; the agent is restored if the store knows it. -/
def initial (agentId : AgentId) (config : AgentActorConfig) (restored : Option AgentSnapshot)
    (nowMs : UInt64) : World where
  life := .initial restored.isSome
  actors := fun actor =>
    .spawn (if actor = 0 then restored.getD (.initial agentId) else .initial agentId) config
  nowMs := nowMs
  tasks := []

def setPhase (world : World) (index : TaskId) (task : Task) (phase : Phase) : World :=
  { world with tasks := world.tasks.set index { task with phase } }

/-- `send_ui_response` looks the actor up. -/
def submit (world : World) (key : OperationKey) (holder : LeaseHolderId)
    (response : ExtensionUiResponseFrame) : World :=
  let phase := match world.life.registry with
    | none => .done
    | some actor => .snapshot actor
  { world with tasks := world.tasks ++ [⟨key, holder, response, phase⟩] }

/-- The call at `index` goes on. -/
def resume (world : World) (index : TaskId) (ok : Bool) : Option HandOver × World :=
  match world.tasks[index]? with
  | none => (none, world)
  | some task =>
    match task.phase with
    | .snapshot actor =>
      (none, world.setPhase index task
        (if ok && !world.life.stopped actor then .copied (world.actors actor).snapshot else .done))
    | .copied snapshot =>
      (none, world.setPhase index task
        (if snapshot.leasedTo task.holder world.nowMs then .runtime else .done))
    | .runtime =>
      -- the launch that holds the map has to end first
      if world.life.lock.isSome then (none, world)
      else
        (none, world.setPhase index task (match world.life.runtimes with
          | none => .done
          | some process => .send process))
    | .send process =>
      (if ok then some ⟨task.key, task.holder, task.response, process⟩ else none,
        world.setPhase index task .done)
    | .done => (none, world)

def step (world : World) : Input → Option HandOver × World
  | .life input => (none, { world with life := world.life.step input })
  | .actor actor input =>
    if asks input && !world.life.stopped actor && actor < world.life.nextActor then
      (none, { world with
        actors := Function.update world.actors actor ((world.actors actor).turn input).2 })
    else (none, world)
  | .clock nowMs => (none, { world with nowMs })
  | .submit key holder response => (none, world.submit key holder response)
  | .resume index ok => world.resume index ok

/-! ## The condition -/

/-- `holder` holds the agent's lease, and the lease has not expired. -/
def leaseInForce (world : World) (holder : LeaseHolderId) : Bool :=
  world.life.registry.any fun actor =>
    (world.actors actor).snapshot.leasedTo holder world.nowMs

/-- The step ends the lease that `holder` has in force. -/
def endsLease (world : World) (holder : LeaseHolderId) : Input → Bool
  | .life input => world.life.removesEntry input
  | .actor actor input =>
    world.life.registry = some actor && asks input &&
      (world.actors actor).endsLease holder world.nowMs input
  | .clock nowMs => !{ world with nowMs }.leaseInForce holder
  | _ => false

/-- The step checks a copy that shows a lease which has ended since. -/
def checksStale (world : World) : Input → Bool
  | .resume index _ =>
    match world.tasks[index]? with
    | some ⟨_, holder, _, .copied snapshot⟩ =>
      snapshot.leasedTo holder world.nowMs && !world.leaseInForce holder
    | _ => false
  | _ => false

/-- The step leaves alone what a response between its check and its hand-over
relies on. -/
def Careful (world : World) (input : Input) : Prop :=
  world.checksStale input = false ∧
    ∀ task ∈ world.tasks, task.checked = true → world.endsLease task.holder input = false

instance (world : World) (input : Input) : Decidable (world.Careful input) :=
  inferInstanceAs (Decidable (_ ∧ _))

/-- Every response that is checked is covered by its lease. -/
def Covered (world : World) : Prop :=
  ∀ task ∈ world.tasks, task.checked = true → world.leaseInForce task.holder = true

variable {world : World} {holder : LeaseHolderId}

theorem leaseInForce_iff : world.leaseInForce holder = true ↔
    ∃ actor, world.life.registry = some actor ∧
      (world.actors actor).snapshot.leasedTo holder world.nowMs = true :=
  Option.any_eq_true _ _

/-! ## What a step leaves in force -/

theorem leaseInForce_resume (index : TaskId) (ok : Bool) :
    (world.resume index ok).2.leaseInForce = world.leaseInForce := by
  unfold resume
  split
  · rfl
  split
  · rfl
  · rfl
  · split <;> rfl
  · rfl
  · rfl

/-- A lease in force stays in force over every step but those that end it. -/
theorem leaseInForce_step (input : Input) (h : world.leaseInForce holder = true)
    (hkeep : world.endsLease holder input = false) :
    (world.step input).2.leaseInForce holder = true := by
  obtain ⟨actor, hregistry, hleased⟩ := leaseInForce_iff.mp h
  cases input with
  | life input =>
    exact leaseInForce_iff.mpr ⟨actor, Lifecycle.World.registry_step input hregistry hkeep, hleased⟩
  | actor asked input =>
    simp only [step]
    split
    · rename_i henabled
      refine leaseInForce_iff.mpr ⟨actor, hregistry, ?_⟩
      by_cases hactor : actor = asked
      · subst hactor
        have hasks : asks input = true := by
          simp only [Bool.and_eq_true] at henabled
          exact henabled.1.1
        simp only [endsLease, hregistry, hasks, decide_true, Bool.true_and] at hkeep
        simp only [Function.update_self]
        exact ActorState.leasedTo_turn input hleased hkeep
      · simp only [Function.update_of_ne hactor]
        exact hleased
    · exact h
  | clock nowMs =>
    show { world with nowMs }.leaseInForce holder = true
    simpa [endsLease] using hkeep
  | submit key holder response => exact h
  | resume index ok =>
    show (world.resume index ok).2.leaseInForce holder = true
    rw [leaseInForce_resume]
    exact h

/-- What one step of a call can do: nothing, or move on, the last time by handing
the response over or not. -/
theorem resume_cases (world : World) (index : TaskId) (ok : Bool) :
    world.resume index ok = (none, world) ∨
      ∃ task phase, world.tasks[index]? = some task ∧ task.phase ≠ .done ∧
        (world.resume index ok).2 = world.setPhase index task phase ∧
        ((world.resume index ok).1 = none ∨ phase = .done ∧ ∃ process,
          task.phase = .send process ∧ (world.resume index ok).1 =
            some ⟨task.key, task.holder, task.response, process⟩) := by
  unfold resume
  split
  · exact .inl rfl
  rename_i task htask
  split
  · rename_i hphase
    exact .inr ⟨task, _, htask, by rw [hphase]; nofun, rfl, .inl rfl⟩
  · rename_i hphase
    exact .inr ⟨task, _, htask, by rw [hphase]; nofun, rfl, .inl rfl⟩
  · rename_i hphase
    split
    · exact .inl rfl
    · exact .inr ⟨task, _, htask, by rw [hphase]; nofun, rfl, .inl rfl⟩
  · rename_i process hphase
    refine .inr ⟨task, .done, htask, by rw [hphase]; nofun, rfl, ?_⟩
    cases ok with
    | true => exact .inr ⟨rfl, process, hphase, rfl⟩
    | false => exact .inl rfl
  · exact .inl rfl

/-- Where the calls of a world come from: they were there, or one has moved on. -/
theorem mem_setPhase {index : TaskId} {task moved : Task} {phase : Phase}
    (h : moved ∈ (world.setPhase index task phase).tasks) :
    moved ∈ world.tasks ∨ moved = { task with phase } :=
  List.mem_or_eq_of_mem_set h

/-- A call that is checked after the step was checked before, or is the one whose
check the step has made. -/
theorem checked_resume {index : TaskId} {ok : Bool} {task : Task}
    (hmem : task ∈ (world.resume index ok).2.tasks) (hchecked : task.checked = true) :
    ∃ before, before.key = task.key ∧ before.holder = task.holder ∧
      (before ∈ world.tasks ∧ before.checked = true ∨
        ∃ snapshot, world.tasks[index]? = some before ∧ before.phase = .copied snapshot ∧
          snapshot.leasedTo before.holder world.nowMs = true) := by
  unfold resume at hmem
  split at hmem
  · exact ⟨task, rfl, rfl, .inl ⟨hmem, hchecked⟩⟩
  rename_i before hbefore
  have hthere := List.mem_of_getElem? hbefore
  split at hmem
  · rcases mem_setPhase hmem with hold | rfl
    · exact ⟨task, rfl, rfl, .inl ⟨hold, hchecked⟩⟩
    · split at hchecked <;> cases hchecked
  · rename_i snapshot hphase
    rcases mem_setPhase hmem with hold | rfl
    · exact ⟨task, rfl, rfl, .inl ⟨hold, hchecked⟩⟩
    · split at hchecked
      · rename_i hleased
        exact ⟨before, rfl, rfl, .inr ⟨snapshot, hbefore, hphase, hleased⟩⟩
      · cases hchecked
  · rename_i hphase
    have hwas : before.checked = true := by rw [Task.checked, hphase]
    split at hmem
    · exact ⟨task, rfl, rfl, .inl ⟨hmem, hchecked⟩⟩
    · rcases mem_setPhase hmem with hold | rfl
      · exact ⟨task, rfl, rfl, .inl ⟨hold, hchecked⟩⟩
      · exact ⟨before, rfl, rfl, .inl ⟨hthere, hwas⟩⟩
  · rcases mem_setPhase hmem with hold | rfl
    · exact ⟨task, rfl, rfl, .inl ⟨hold, hchecked⟩⟩
    · cases hchecked
  · exact ⟨task, rfl, rfl, .inl ⟨hmem, hchecked⟩⟩

/-- A copy that a call has after the step it had before, or the actor has just
given it. -/
theorem copied_resume {index : TaskId} {ok : Bool} {task : Task} {snapshot : AgentSnapshot}
    (hmem : task ∈ (world.resume index ok).2.tasks) (hphase : task.phase = .copied snapshot) :
    task ∈ world.tasks ∨ ∃ actor, (world.actors actor).snapshot = snapshot := by
  unfold resume at hmem
  split at hmem
  · exact .inl hmem
  split at hmem
  · rename_i actor _
    rcases mem_setPhase hmem with hold | rfl
    · exact .inl hold
    · dsimp only at hphase
      split at hphase
      · cases hphase
        exact .inr ⟨actor, rfl⟩
      · cases hphase
  · rcases mem_setPhase hmem with hold | rfl
    · exact .inl hold
    · dsimp only at hphase
      split at hphase <;> cases hphase
  · split at hmem
    · exact .inl hmem
    rcases mem_setPhase hmem with hold | rfl
    · exact .inl hold
    · dsimp only at hphase
      split at hphase <;> cases hphase
  · rcases mem_setPhase hmem with hold | rfl
    · exact .inl hold
    · cases hphase
  · exact .inl hmem

theorem covered_initial (agentId : AgentId) (config : AgentActorConfig)
    (restored : Option AgentSnapshot) (nowMs : UInt64) :
    Covered (initial agentId config restored nowMs) := by
  intro task hmem
  cases hmem

/-- The step lemma: a careful step keeps every checked response covered. -/
theorem Covered.step (h : Covered world) (input : Input) (hcareful : world.Careful input) :
    Covered (world.step input).2 := by
  intro task hmem hchecked
  cases input with
  | life input => exact leaseInForce_step _ (h task hmem hchecked) (hcareful.2 task hmem hchecked)
  | clock nowMs => exact leaseInForce_step _ (h task hmem hchecked) (hcareful.2 task hmem hchecked)
  | actor actor input =>
    have hbefore : task ∈ world.tasks := by
      simp only [World.step] at hmem
      split at hmem <;> exact hmem
    exact leaseInForce_step _ (h task hbefore hchecked) (hcareful.2 task hbefore hchecked)
  | submit key holder response =>
    rcases List.mem_append.mp hmem with hold | hnew
    · exact h task hold hchecked
    · -- a new call has not even a copy
      rw [List.mem_singleton.mp hnew] at hchecked
      cases hregistry : world.life.registry with
      | none =>
        rw [hregistry] at hchecked
        cases hchecked
      | some actor =>
        rw [hregistry] at hchecked
        cases hchecked
  | resume index ok =>
    show (world.resume index ok).2.leaseInForce task.holder = true
    rw [leaseInForce_resume]
    obtain ⟨before, -, hholder, ⟨hbefore, hwas⟩ | ⟨snapshot, hbefore, hphase, hleased⟩⟩ :=
      checked_resume hmem hchecked
    · rw [← hholder]
      exact h before hbefore hwas
    · have hfresh := hcareful.1
      obtain ⟨key, holder, response, phase⟩ := before
      cases hphase
      cases hholder
      simpa [checksStale, hbefore, hleased] using hfresh

/-- A response that is handed over was checked. -/
theorem checked_of_handOver {input : Input} {handOver : HandOver}
    (h : (world.step input).1 = some handOver) :
    ∃ task ∈ world.tasks, task.checked = true ∧ task.holder = handOver.holder := by
  cases input with
  | life | clock | submit => cases h
  | actor actor input =>
    simp only [step] at h
    split at h <;> cases h
  | resume index ok =>
    replace h : (world.resume index ok).1 = some handOver := h
    rcases resume_cases world index ok with hidle | ⟨task, phase, htask, -, -, hquiet | hhanded⟩
    · rw [hidle] at h
      cases h
    · rw [hquiet] at h
      cases h
    · obtain ⟨-, process, hphase, hhanded⟩ := hhanded
      rw [hhanded] at h
      cases h
      exact ⟨task, List.mem_of_getElem? htask, by rw [Task.checked, hphase], rfl⟩

/-- **Leased forwarding**: as long as no response is checked on a copy whose lease
has ended, and no step ends the lease of a response between its check and its
hand-over, every response is handed to the runtime while its holder's lease is in
force. -/
theorem leased_forwarding (agentId : AgentId) (config : AgentActorConfig)
    (restored : Option AgentSnapshot) (nowMs : UInt64) (inputs : List Input)
    (careful : Along (fun world input => (step world input).2) Careful
      (initial agentId config restored nowMs) inputs) :
    ∀ e ∈ Mealy.trace step (initial agentId config restored nowMs) inputs, ∀ handOver,
      e.output = some handOver → e.before.leaseInForce handOver.holder = true := by
  intro e he handOver houtput
  have hstart := covered_initial agentId config restored nowMs
  have hkeeps : ∀ (world : World) input, Covered world → world.Careful input →
      Covered (world.step input).2 := fun _ input h hcareful => h.step input hcareful
  obtain ⟨hcovered, -⟩ := Mealy.along_trace (P := Covered) hkeeps hstart careful he
  have hstep : (step e.before e.input).1 = some handOver := by
    rw [← houtput, Mealy.mem_trace he]
    rfl
  obtain ⟨task, htask, hchecked, hholder⟩ := checked_of_handOver hstep
  rw [← hholder]
  exact hcovered task htask hchecked

/-! ## A lease that is lost -/

section Example

def agent : AgentId := ⟨"agent"⟩

def key (operation : String) : OperationKey := ⟨⟨"device"⟩, ⟨operation⟩⟩

def answer : ExtensionUiResponseFrame := ⟨"question", .confirmed true⟩

theorem leaseTtl_ne : (1000 : UInt64) ≠ 0 := by decide

def acquire (holder : String) : Input :=
  .actor 1 (.command (.acquireLease ⟨holder⟩ 0 ⟨1000, leaseTtl_ne⟩ (some 1000)))

/-- The agent is launched, and the first holder's response is checked. -/
def checkedInputs : List Input :=
  (Lifecycle.World.launchInputs 0).map .life ++
    [acquire "first", .submit (key "operation") ⟨"first"⟩ answer, .resume 0 true, .resume 0 true]

def handedOver : List Input := checkedInputs ++ [Input.resume 0 true, .resume 0 true]

def lost : List Input :=
  checkedInputs ++ [Input.actor 1 (.command (.releaseLease ⟨"first"⟩)), acquire "second",
    .resume 0 true, .resume 0 true]

theorem leased_forwarding_handedOver :
    (∃ e ∈ Mealy.trace step (initial agent .default none 0) handedOver, e.output.isSome) ∧
    ∀ e ∈ Mealy.trace step (initial agent .default none 0) handedOver, ∀ handOver,
      e.output = some handOver → e.before.leaseInForce handOver.holder = true := by
  refine ⟨?_, leased_forwarding agent .default none 0 handedOver ?_⟩
  · decide
  · decide

/-- The first holder releases its lease and the second acquires one before the
first one's response is handed over. -/
theorem lease_lost_before_handOver :
    ¬ ∀ e ∈ Mealy.trace step (initial agent .default none 0) lost, ∀ handOver,
      e.output = some handOver → e.before.leaseInForce handOver.holder = true := by
  decide

end Example

end World

end OmpRemote.Ompd.UiResponse

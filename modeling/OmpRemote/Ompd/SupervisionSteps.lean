import OmpRemote.Ompd.Supervision

/-!
# What a task does at a step

- `TaskStep`, `stepTask_cases`: everything one operation of a task can do. The
  invariants of the daemon are case analyses over it.
- `Sound`, `sound_run`: what holds of the parts of the daemon after every run. Ids
  in use are allocated, the registered actor is alive, and a runtime's events end
  with the news of its end.
-/

namespace OmpRemote.Ompd.Supervision

open ControlPlane Lib Rpc OmpRemote.Runtime

variable {δ : Type}

/-! ## One operation -/

/-- The handles of a task, and its receiver if it is a bridge. -/
structure Task.Keeps (task task' : Task) : Prop where
  bridge : task'.bridge = task.bridge
  next : task'.next = task.next
  agent : task'.agent = task.agent
  runtime : task'.runtime = task.runtime

theorem Task.Keeps.refl (task : Task) (todo : List Op) : task.Keeps { task with todo } :=
  ⟨rfl, rfl, rfl, rfl⟩

/-- What an operation puts before the rest of its task. -/
inductive Pushes : Op → List Op → Prop where
  | session (summary : SessionSummary) : Pushes .getState [.change true (.sessionChanged summary)]
  | stopped : Pushes .shutdownOrFail [setLifecycle false .stopped]
  | failed (reason : String) : Pushes .shutdownOrFail [setLifecycle false (.failed reason)]
  | promptFailed (reason : String) : Pushes .prompt (failActiveRun reason)

/-- The operations that may do nothing but note a process id. -/
def Op.isSilent : Op → Bool
  | .getState | .shutdown | .request | .prompt | .processId | .change .. | .snapshot _ | .startRun
  | .endRun .. | .publishEvent _ => true
  | _ => false

/-- What the operation `op` of the task `t` can do, if `rest` follows it. -/
inductive TaskStep (setup : Setup) (world : World δ) (t : TaskId) (answer : Answer) (op : Op)
    (rest : List Op) : World δ → Prop where
  | waits : TaskStep setup world t answer op rest world
  | fails (task : Task) (store : Store δ) : (world.attempt setup t answer op rest).1 = false →
    task.todo = [] → (world.tasks t).Keeps task →
    TaskStep setup world t answer op rest { world.setTask t task with
      store, lock := if world.lock = some t then none else world.lock }
  | calls (actor : ActorId) (command : ActorCommand) (task : Task) :
    ({ world.tasks t with todo := rest } : Task).command answer op = some (actor, command) →
    (((world.actors actor).turn (.command command)).1.succeeds || !op.strict) = true →
    task.todo = rest → (world.tasks t).Keeps task →
    TaskStep setup world t answer op rest
      (((world.setActor actor ((world.actors actor).turn (.command command)).2).noteRecorded
        (world.tasks t).bridge op ((world.actors actor).turn (.command command)).1).setTask t task)
  | goesOn (processId : Option UInt32) : op.isSilent = true →
    ({ world.tasks t with todo := rest } : Task).command answer op = none →
    TaskStep setup world t answer op rest
      (world.setTask t { world.tasks t with processId, todo := rest })
  | pushes (ops : List Op) : Pushes op ops →
    TaskStep setup world t answer op rest
      (world.setTask t { world.tasks t with todo := ops ++ rest })
  | locks : op = .lockRuntimes → world.lock = none →
    (world.runtimes.any fun r => (world.runtime r).isRunning) = false →
    TaskStep setup world t answer op rest
      { world.setTask t { world.tasks t with todo := rest } with runtimes := none, lock := some t }
  | spawns (startup : Startup) : op = .spawn →
    TaskStep setup world t answer op rest
      { (world.setRuntime world.nextRuntime (.spawn setup.eventSlots startup)).setTask t
        { world.tasks t with runtime := some world.nextRuntime, todo := rest } with
        nextRuntime := world.nextRuntime + 1 }
  | finds (actor : ActorId) : op = .getAgent ∨ op = .getOrCreateAgent →
    world.registry = some actor →
    TaskStep setup world t answer op rest
      (world.setTask t { world.tasks t with agent := some actor, todo := rest })
  | creates : op = .getOrCreateAgent → world.registry = none →
    TaskStep setup world t answer op rest
      ((world.register setup (.initial setup.agentId)).setTask t
        { world.tasks t with agent := some world.nextActor, todo := rest })
  | inserts : op = .insertRuntime →
    TaskStep setup world t answer op rest
      { world.setTask t { world.tasks t with todo := rest } with
        runtimes := (world.tasks t).runtime, lock := none }
  | bridges : op = .spawnEventBridge →
    TaskStep setup world t answer op rest
      ((world.setTask t { world.tasks t with todo := rest }).addTask (world.tasks t).eventBridge)
  | takes (r : RuntimeId) : op = .takeRuntime → world.lock = none → world.runtimes = some r →
    TaskStep setup world t answer op rest
      { world.setTask t { world.tasks t with runtime := some r, todo := rest } with
        runtimes := none }
  | gets (r : RuntimeId) : op = .getRuntime → world.lock = none → world.runtimes = some r →
    TaskStep setup world t answer op rest
      (world.setTask t { world.tasks t with runtime := some r, todo := rest })
  | removes (actor : ActorId) : op = .removeAgent → world.registry = some actor →
    TaskStep setup world t answer op rest
      { world.setTask t { world.tasks t with todo := .shutdownAgent actor :: rest } with
        registry := none }
  | upserts (strict active : Bool) (store : Store δ) : op = .upsertAgent strict active →
    TaskStep setup world t answer op rest
      { world.setTask t { world.tasks t with todo := rest } with store }
  | receives (r : RuntimeId) (event : RuntimeEvent) : op = .receive →
    (world.tasks t).bridge = some r →
    (world.runtime r).events.recv (world.tasks t).next = .value event →
    TaskStep setup world t answer op rest (world.setTask t { world.tasks t with
      next := (world.tasks t).next + 1, todo := handleEvent event ++ rest })
  | lags (r : RuntimeId) (next : Nat) : op = .receive → (world.tasks t).bridge = some r →
    (world.runtime r).events.recv (world.tasks t).next = .lagged next →
    TaskStep setup world t answer op rest
      ((world.setRuntime r { world.runtime r with
        missed := (world.runtime r).missed ||
          !(frames ((world.runtime r).events.skipped (world.tasks t).next next)).isEmpty }).setTask t
        { world.tasks t with next, todo := handleLag ++ rest })
  | closes (r : RuntimeId) : op = .receive → (world.tasks t).bridge = some r →
    (world.runtime r).events.recv (world.tasks t).next = .closed →
    TaskStep setup world t answer op rest
      (world.setTask t { world.tasks t with todo := rest })

section Cases

variable {setup : Setup} {world : World δ} {t : TaskId} {answer : Answer} {op : Op}
  {rest : List Op}

/-- A task whose operation fails after it has noted something. -/
theorem fail_setTask (task : Task) :
    (world.setTask t task).fail t = { world.setTask t { task with todo := [] } with
      lock := if world.lock = some t then none else world.lock } := by
  unfold World.fail World.setTask
  dsimp only
  rw [Function.update_self, Function.update_idem]

theorem replied_keeps (task : Task) (answer : Answer) (reply : ActorReply) (op : Op) :
    (task.replied answer reply op).todo = task.todo ∧
      task.Keeps (task.replied answer reply op) := by
  cases op <;> exact ⟨rfl, rfl, rfl, rfl, rfl⟩

/-- The calls that tasks make. All but one are to the agent of the task. -/
theorem command_cases {task : Task} {actor : ActorId} {command : ActorCommand}
    (h : task.command answer op = some (actor, command)) :
    (task.agent = some actor ∧ ((∃ change, command = .change change) ∨ command = .snapshot ∨
      ∃ event, command = .publishEvent event)) ∨
      op = .shutdownAgent actor ∧ command = .shutdown := by
  cases op with
  | change strict change =>
    obtain ⟨_, hagent, heq⟩ := Option.map_eq_some_iff.mp h
    cases heq
    exact .inl ⟨hagent, .inl ⟨change, rfl⟩⟩
  | startRun =>
    obtain ⟨_, hagent, heq⟩ := Option.map_eq_some_iff.mp h
    cases heq
    exact .inl ⟨hagent, .inl ⟨_, rfl⟩⟩
  | endRun strict lifecycle =>
    obtain ⟨_, hagent, h⟩ := Option.bind_eq_some_iff.mp h
    obtain ⟨_, -, h⟩ := Option.bind_eq_some_iff.mp h
    obtain ⟨_, -, heq⟩ := Option.bind_eq_some_iff.mp h
    cases heq
    exact .inl ⟨hagent, .inl ⟨_, rfl⟩⟩
  | snapshot strict =>
    obtain ⟨_, hagent, heq⟩ := Option.map_eq_some_iff.mp h
    cases heq
    exact .inl ⟨hagent, .inr (.inl rfl)⟩
  | publishEvent frame =>
    obtain ⟨_, hagent, heq⟩ := Option.map_eq_some_iff.mp h
    cases heq
    exact .inl ⟨hagent, .inr (.inr ⟨frame, rfl⟩)⟩
  | shutdownAgent stopped =>
    cases h
    exact .inr ⟨rfl, rfl⟩
  | _ => cases h

/-- They leave an actor alone if they fail. -/
theorem command_fails {task : Task} {actor : ActorId} {command : ActorCommand}
    (h : task.command answer op = some (actor, command)) {state : ActorState}
    (hfails : (state.turn (.command command)).1.succeeds = false) :
    (state.turn (.command command)).2 = state := by
  rcases command_cases h with ⟨-, ⟨change, rfl⟩ | rfl | ⟨event, rfl⟩⟩ | ⟨-, rfl⟩
  · rcases state.turn_change change with ⟨hsucceeds, -⟩ | ⟨-, hsame⟩
    · rw [hsucceeds] at hfails
      cases hfails
    · exact hsame
  · exact state.turn_snapshot
  · exact ActorState.turn_publishEvent_fails hfails
  · exact ActorState.turn_shutdown_fails hfails

/-- A failed call has got nothing recorded. -/
theorem noteRecorded_fails (world : World δ) (bridge : Option RuntimeId) (op : Op)
    {reply : ActorReply} (h : reply.succeeds = false) :
    world.noteRecorded bridge op reply = world := by
  unfold World.noteRecorded
  split
  · cases h
  · rfl

/-- What comes of an attempted operation is one of the cases. -/
def Resolves (setup : Setup) (world : World δ) (t : TaskId) (answer : Answer) (op : Op)
    (rest : List Op) (attempted : Bool × World δ) : Prop :=
  world.attempt setup t answer op rest = attempted →
    TaskStep setup world t answer op rest (World.resolve t attempted)

theorem resolves_ok {world' : World δ} (h : TaskStep setup world t answer op rest world') :
    Resolves setup world t answer op rest (true, world') := fun _ => h

/-- The operation fails before it has changed anything. -/
theorem resolves_fail : Resolves setup world t answer op rest (false, world) :=
  fun hattempt => .fails { world.tasks t with todo := [] } world.store
    (congrArg Prod.fst hattempt) rfl (.refl _ [])

theorem resolves_setTask {task : Task} (h : (world.tasks t).Keeps task) (ok : Bool)
    (store : Store δ)
    (hok : ok = true → TaskStep setup world t answer op rest { world.setTask t task with store }) :
    Resolves setup world t answer op rest (ok, { world.setTask t task with store }) := by
  intro hattempt
  cases ok with
  | true => exact hok rfl
  | false =>
    show TaskStep setup world t answer op rest
      ((({ world with store } : World δ).setTask t task).fail t)
    rw [fail_setTask]
    exact .fails _ store (congrArg Prod.fst hattempt) rfl ⟨h.1, h.2, h.3, h.4⟩

theorem perform_cases (setup : Setup) {world : World δ} {t : TaskId} {answer : Answer} {op : Op}
    {rest : List Op}
    (hnone : ({ world.tasks t with todo := rest } : Task).command answer op = none) :
    Resolves setup world t answer op rest
      (world.perform setup t { world.tasks t with todo := rest } answer op) := by
  cases op with
  | lockRuntimes =>
    simp only [World.perform]
    split
    · exact resolves_ok .waits
    -- from here on no task holds the map
    rename_i hlock
    split
    · exact resolves_fail
    · rename_i hidle
      exact resolves_ok (.locks rfl (by simpa using hlock) (by simpa using hidle))
  | spawn =>
    simp only [World.perform]
    split
    · exact resolves_fail
    · exact resolves_ok (.spawns _ rfl)
  | getOrCreateAgent =>
    simp only [World.perform]
    split
    · exact resolves_ok (.finds _ (.inr rfl) ‹_›)
    · exact resolves_ok (.creates rfl ‹_›)
  | getState =>
    simp only [World.perform]
    split
    · exact resolves_ok (.pushes _ (.session _))
    · exact resolves_ok (.goesOn _ rfl hnone)
  | insertRuntime => exact resolves_ok (.inserts rfl)
  | spawnEventBridge => exact resolves_ok (.bridges rfl)
  | takeRuntime =>
    simp only [World.perform]
    split
    · exact resolves_ok .waits
    rename_i hlock
    split
    · exact resolves_fail
    · exact resolves_ok (.takes _ rfl (by simpa using hlock) ‹_›)
  | getRuntime =>
    simp only [World.perform]
    split
    · exact resolves_ok .waits
    rename_i hlock
    split
    · exact resolves_fail
    · exact resolves_ok (.gets _ rfl (by simpa using hlock) ‹_›)
  | getAgent =>
    simp only [World.perform]
    split
    · exact resolves_fail
    · exact resolves_ok (.finds _ (.inl rfl) ‹_›)
  | shutdown =>
    simp only [World.perform]
    split
    · exact resolves_ok .waits
    · exact resolves_fail
    · exact resolves_ok (.goesOn _ rfl hnone)
  | shutdownOrFail =>
    simp only [World.perform]
    split
    · exact resolves_ok .waits
    · exact resolves_ok (.pushes _ (.failed _))
    · exact resolves_ok (.pushes _ .stopped)
  | removeAgent =>
    simp only [World.perform]
    split
    · exact resolves_fail
    · exact resolves_ok (.removes _ rfl ‹_›)
  | processId => exact resolves_ok (.goesOn _ rfl hnone)
  | request =>
    simp only [World.perform]
    split
    · exact resolves_ok (.goesOn _ rfl hnone)
    · exact resolves_fail
  | prompt =>
    simp only [World.perform]
    split
    · exact resolves_ok (.goesOn _ rfl hnone)
    · exact resolves_fail
    · exact resolves_ok (.pushes _ (.promptFailed _))
  | upsertAgent strict active =>
    simp only [World.perform]
    split
    · -- without a snapshot there is nothing to write
      exact resolves_setTask (.refl _ rest) _ world.store
        fun _ => .upserts strict active world.store rfl
    · exact resolves_setTask (.refl _ rest) _ _ fun _ => .upserts strict active _ rfl
  | receive =>
    simp only [World.perform]
    split
    · exact resolves_fail
    rename_i r hbridge
    simp only [World.receive]
    split
    · exact resolves_ok (.receives r _ rfl hbridge ‹_›)
    · exact resolves_ok (.lags r _ rfl hbridge ‹_›)
    · exact resolves_ok (.closes r rfl hbridge ‹_›)
    · exact resolves_ok .waits
  | change | snapshot | startRun | endRun | publishEvent => exact resolves_ok (.goesOn _ rfl hnone)
  | shutdownAgent actor => cases hnone

theorem call_eq (world : World δ) (t : TaskId) (task : Task) (answer : Answer) (op : Op)
    (actor : ActorId) (command : ActorCommand) :
    world.call t task answer op actor command =
      (((world.actors actor).turn (.command command)).1.succeeds || !op.strict,
        ((world.setActor actor ((world.actors actor).turn (.command command)).2).noteRecorded
          task.bridge op ((world.actors actor).turn (.command command)).1).setTask t
            (task.replied answer ((world.actors actor).turn (.command command)).1 op)) := rfl

/-- **Everything a task can do at a step.** -/
theorem stepTask_cases (htodo : (world.tasks t).todo = op :: rest) :
    TaskStep setup world t answer op rest (world.stepTask setup t answer) := by
  unfold World.stepTask
  rw [htodo]
  suffices hresolves : Resolves setup world t answer op rest
      (world.attempt setup t answer op rest) by
    exact hresolves rfl
  unfold World.attempt
  dsimp only
  split
  · rename_i actor command hcommand
    obtain ⟨htodo', hkeeps⟩ := replied_keeps ({ world.tasks t with todo := rest } : Task) answer
      ((world.actors actor).turn (.command command)).1 op
    have hkept : (world.tasks t).Keeps (Task.replied { world.tasks t with todo := rest } answer
        ((world.actors actor).turn (.command command)).1 op) :=
      ⟨hkeeps.1, hkeeps.2, hkeeps.3, hkeeps.4⟩
    rw [call_eq]
    cases hok : ((world.actors actor).turn (.command command)).1.succeeds || !op.strict with
    | true => exact resolves_ok (.calls actor command _ hcommand hok htodo' hkept)
    | false =>
      -- the actor is as it was
      have hfails := (Bool.or_eq_false_iff.mp hok).1
      have hself : world.setActor actor (world.actors actor) = world := by
        unfold World.setActor
        rw [Function.update_eq_self]
      rw [noteRecorded_fails _ _ _ hfails, command_fails hcommand hfails, hself]
      exact resolves_setTask hkept false world.store (by intro h; cases h)
  · exact perform_cases setup ‹_›

end Cases

/-! ## The events of a runtime -/

namespace OmpRuntime

variable {runtime : OmpRuntime}

/-- Everything published, sent or not. -/
def published (runtime : OmpRuntime) : List RuntimeEvent := runtime.events.sent ++ runtime.outbox

/-- A runtime publishes its end when it ends and no frames afterwards; its channel
is closed only then, and until then it is known as running. -/
structure Orderly (runtime : OmpRuntime) : Prop where
  goesOn : runtime.actor.phase ≠ .ended → ∀ event ∈ runtime.published, event.isFinal = false
  ended : runtime.actor.phase = .ended → ∃ event ∈ runtime.published, event.isFinal = true
  last : runtime.published.Pairwise fun earlier later =>
    earlier.isFinal = true → later.toFrame = none
  closed : runtime.events.senderOpen = false →
    runtime.actor.phase = .ended ∧ runtime.outbox = []
  running : runtime.actor.phase ≠ .ended → runtime.isRunning = true

theorem Orderly.spawn (eventSlots : Nat) (startup : Startup) :
    (OmpRuntime.spawn eventSlots startup).Orderly := by
  have hnone : ∀ event ∈ (OmpRuntime.spawn eventSlots startup).published,
      event.isFinal = false := by
    intro event hevent
    obtain ⟨frame, -, rfl⟩ := List.mem_map.mp hevent
    rfl
  refine ⟨fun _ => hnone, ?_, ?_, ?_, fun _ => rfl⟩
  · intro hended
    cases hended
  · refine List.pairwise_of_forall_mem_list ?_
    intro earlier hearlier later _ hfinal
    rw [hnone earlier hearlier] at hfinal
    cases hfinal
  · intro hclosed
    cases hclosed

theorem Orderly.none : World.noRuntime.Orderly := by
  refine ⟨?_, ?_, List.Pairwise.nil, ?_, fun _ => rfl⟩
  · intro _ event hevent
    cases hevent
  · intro hended
    cases hended
  · intro hclosed
    cases hclosed

/-- The frames and the news that a step publishes come last. -/
theorem Orderly.step (h : runtime.Orderly) (input : RuntimeInput) :
    ({ runtime with
      actor := (runtime.actor.step input).2
      outbox := runtime.outbox ++
        publishedEvents (runtime.actor.step input).1 } : OmpRuntime).Orderly := by
  by_cases hphase : runtime.actor.phase = .ended
  · rw [RuntimeActor.step_after_end hphase]
    have hsame : runtime.outbox ++ publishedEvents [] = runtime.outbox := List.append_nil _
    dsimp only
    rw [hsame]
    exact h
  -- what the actor publishes is put behind what it has published
  have hpublished : ({ runtime with
      actor := (runtime.actor.step input).2
      outbox := runtime.outbox ++
        publishedEvents (runtime.actor.step input).1 } : OmpRuntime).published =
      runtime.published ++ publishedEvents (runtime.actor.step input).1 :=
        (List.append_assoc _ _ _).symm
  have hbefore := h.goesOn hphase
  rcases RuntimeActor.step_publishes hphase input with ⟨hgoesOn, hstatus, hframes⟩ |
    ⟨hended, hsome, hfinals⟩
  · -- while the actor goes on nothing final is published
    have hnone : ∀ event ∈ runtime.published ++ publishedEvents (runtime.actor.step input).1,
        event.isFinal = false := by
      intro event hevent
      rcases List.mem_append.mp hevent with hold | hnew
      · exact hbefore event hold
      · exact hframes event hnew
    refine ⟨fun _ => hpublished ▸ hnone, fun hend => absurd hend hgoesOn, ?_, ?_, ?_⟩
    · rw [hpublished]
      refine List.pairwise_of_forall_mem_list ?_
      intro earlier hearlier later _ hfinal
      rw [hnone earlier hearlier] at hfinal
      cases hfinal
    · intro hclosed
      exact absurd (h.closed hclosed).1 hphase
    · intro _
      have hrunning := h.running hphase
      unfold isRunning at hrunning ⊢
      rwa [← hstatus] at hrunning
  · refine ⟨fun hgoesOn => absurd hended hgoesOn, fun _ => ?_, ?_, ?_,
      fun hgoesOn => absurd hended hgoesOn⟩
    · obtain ⟨event, hevent⟩ := List.exists_mem_of_ne_nil _ hsome
      rw [hpublished]
      exact ⟨event, List.mem_append_right _ hevent, hfinals event hevent⟩
    · rw [hpublished, List.pairwise_append]
      refine ⟨h.last, ?_, ?_⟩
      · -- among the events of the last step, all are final
        refine List.pairwise_of_forall_mem_list ?_
        intro earlier _ later hlater _
        have hfinal := hfinals later hlater
        cases later <;> first | rfl | cases hfinal
      · intro earlier hearlier later _ hfinal
        rw [hbefore earlier hearlier] at hfinal
        cases hfinal
    · intro hclosed
      exact absurd (h.closed hclosed).1 hphase

theorem published_publish : runtime.publish.published = runtime.published := by
  unfold publish published
  split
  · rfl
  · rename_i event outbox hbox
    rw [hbox]
    exact List.append_assoc _ _ _

theorem Orderly.publish (h : runtime.Orderly) : runtime.publish.Orderly := by
  have hactor : runtime.publish.actor = runtime.actor := by
    unfold OmpRuntime.publish
    split <;> rfl
  refine ⟨?_, ?_, ?_, ?_, ?_⟩
  · rw [hactor, published_publish]
    exact h.goesOn
  · rw [hactor, published_publish]
    exact h.ended
  · rw [published_publish]
    exact h.last
  rotate_left
  · unfold isRunning
    rw [hactor]
    exact h.running
  · rw [hactor]
    unfold OmpRuntime.publish
    split
    · exact h.closed
    · rename_i event outbox hbox
      intro hclosed
      have hempty := (h.closed hclosed).2
      rw [hbox] at hempty
      cases hempty

/-- Standard error is no news. -/
theorem Orderly.stderr (h : runtime.Orderly) (hopen : runtime.events.senderOpen = true)
    (text : String) :
    ({ runtime with events := runtime.events.send (.stderr text) } : OmpRuntime).Orderly := by
  have hmem : ∀ event, event ∈ ({ runtime with
      events := runtime.events.send (.stderr text) } : OmpRuntime).published ↔
      event ∈ runtime.published ∨ event = .stderr text := by
    intro event
    simp only [published, Broadcast.sent_send, List.mem_append, List.mem_singleton]
    tauto
  refine ⟨?_, ?_, ?_, ?_, h.running⟩
  · intro hphase event hevent
    rcases (hmem event).mp hevent with hold | rfl
    · exact h.goesOn hphase event hold
    · rfl
  · intro hphase
    obtain ⟨event, hevent, hfinal⟩ := h.ended hphase
    exact ⟨event, (hmem event).mpr (.inl hevent), hfinal⟩
  · obtain ⟨hsent, hbox, hacross⟩ := List.pairwise_append.mp h.last
    refine List.pairwise_append.mpr ⟨List.pairwise_append.mpr ⟨hsent, List.pairwise_singleton _ _, ?_⟩,
      hbox, ?_⟩
    · intro earlier _ later hlater _
      rw [List.mem_singleton.mp hlater]
      rfl
    · intro earlier hearlier later hlater
      rcases List.mem_append.mp hearlier with hold | hnew
      · exact hacross earlier hold later hlater
      · intro hfinal
        rw [List.mem_singleton.mp hnew] at hfinal
        cases hfinal
  · intro hclosed
    rw [show (runtime.events.send (.stderr text)).senderOpen = runtime.events.senderOpen from rfl,
      hopen] at hclosed
    cases hclosed

theorem Orderly.close (h : runtime.Orderly) (hended : runtime.actor.phase = .ended)
    (hempty : runtime.outbox = []) :
    ({ runtime with events := runtime.events.close } : OmpRuntime).Orderly :=
  ⟨h.goesOn, h.ended, h.last, fun _ => ⟨hended, hempty⟩, h.running⟩

/-- The news that the runtime has ended is still ahead of a receiver. -/
def EndAhead (runtime : OmpRuntime) (next : Nat) : Prop :=
  ∀ event ∈ runtime.events.passed next, event.isFinal = false

instance (runtime : OmpRuntime) (next : Nat) : Decidable (runtime.EndAhead next) :=
  inferInstanceAs (Decidable (∀ event ∈ runtime.events.passed next, event.isFinal = false))

/-- No frame comes after the news. -/
theorem Orderly.endAhead_of_frame (h : runtime.Orderly) {next : Nat} {event : RuntimeEvent}
    (hrecv : runtime.events.recv next = .value event) (hframe : event.toFrame.isSome = true) :
    runtime.EndAhead (next + 1) := by
  obtain ⟨-, hpassed⟩ := Broadcast.recv_value hrecv
  have hlast := (List.pairwise_append.mp h.last).1
  have hprefix : runtime.events.passed (next + 1) <+: runtime.events.sent :=
    Broadcast.passed_prefix
  have hpairs := hlast.sublist hprefix.sublist
  rw [hpassed] at hpairs
  intro earlier hearlier
  rw [hpassed] at hearlier
  rcases List.mem_append.mp hearlier with hold | hnew
  · cases hfinal : earlier.isFinal with
    | false => rfl
    | true =>
      have hnone := (List.pairwise_append.mp hpairs).2.2 earlier hold event
        (List.mem_singleton_self _) hfinal
      rw [hnone] at hframe
      cases hframe
  · rw [List.mem_singleton.mp hnew]
    cases event <;> first | rfl | cases hframe

/-- A receiver that is through has seen the news if the runtime has ended. -/
theorem Orderly.not_endAhead (h : runtime.Orderly) {next : Nat}
    (hrecv : runtime.events.recv next = .pending ∨ runtime.events.recv next = .closed)
    (hended : runtime.actor.phase = .ended) (hempty : runtime.outbox = []) :
    ¬ runtime.EndAhead next := by
  intro hahead
  obtain ⟨event, hevent, hfinal⟩ := h.ended hended
  rw [published, hempty, List.append_nil, ← Broadcast.recv_end hrecv] at hevent
  rw [hahead event hevent] at hfinal
  cases hfinal

end OmpRuntime

/-! ## What holds after every run -/

section Fields

variable (world : World δ) (t : TaskId) (task : Task) (bridge : Option RuntimeId) (op : Op)
  (reply : ActorReply)

@[simp] theorem setTask_tasks : (world.setTask t task).tasks = Function.update world.tasks t task :=
  rfl
@[simp] theorem setTask_runtime : (world.setTask t task).runtime = world.runtime := rfl
@[simp] theorem setTask_actors : (world.setTask t task).actors = world.actors := rfl
@[simp] theorem setTask_registry : (world.setTask t task).registry = world.registry := rfl

/-- Noting what is recorded changes the ghost of one runtime. -/
theorem noteRecorded_cases :
    world.noteRecorded bridge op reply = world ∨
      ∃ r frame seq, bridge = some r ∧ op = .publishEvent frame ∧ reply = .published (.ok seq) ∧
        world.noteRecorded bridge op reply = world.setRuntime r { world.runtime r with
          recorded := (world.runtime r).recorded ++ [frame] } := by
  unfold World.noteRecorded
  split
  · exact .inr ⟨_, _, _, rfl, rfl, rfl, rfl⟩
  · exact .inl rfl

end Fields

/-- What a runtime has sent, and whether it is done, is not changed. -/
structure OmpRuntime.Same (runtime runtime' : OmpRuntime) : Prop where
  actor : runtime'.actor = runtime.actor
  outbox : runtime'.outbox = runtime.outbox
  events : runtime'.events = runtime.events

theorem OmpRuntime.Same.orderly {runtime runtime' : OmpRuntime} (h : runtime.Same runtime')
    (horderly : runtime.Orderly) : runtime'.Orderly := by
  have hpublished : runtime'.published = runtime.published := by
    rw [published, published, h.events, h.outbox]
  refine ⟨?_, ?_, ?_, ?_, ?_⟩
  · rw [h.actor, hpublished]
    exact horderly.goesOn
  · rw [h.actor, hpublished]
    exact horderly.ended
  · rw [hpublished]
    exact horderly.last
  · rw [h.events, h.actor, h.outbox]
    exact horderly.closed
  · unfold OmpRuntime.isRunning
    rw [h.actor]
    exact horderly.running

/-- A runtime is changed in its ghosts at most. -/
theorem same_setRuntime (world : World δ) (r : RuntimeId) (runtime : OmpRuntime)
    (h : (world.runtime r).Same runtime) (r' : RuntimeId) :
    (world.runtime r').Same ((world.setRuntime r runtime).runtime r') := by
  show (world.runtime r').Same (Function.update world.runtime r runtime r')
  by_cases hr : r' = r
  · rw [hr, Function.update_self]
    exact h
  · rw [Function.update_of_ne hr]
    exact ⟨rfl, rfl, rfl⟩

/-- So is every runtime when it is noted what is recorded. -/
theorem noteRecorded_same (world : World δ) (bridge : Option RuntimeId) (op : Op)
    (reply : ActorReply) (r : RuntimeId) :
    (world.runtime r).Same ((world.noteRecorded bridge op reply).runtime r) := by
  rcases noteRecorded_cases world bridge op reply with hsame | ⟨r', frame, seq, -, -, -, hnoted⟩
  · rw [hsame]
    exact ⟨rfl, rfl, rfl⟩
  · rw [hnoted]
    refine same_setRuntime world r' { world.runtime r' with
      recorded := (world.runtime r').recorded ++ [frame] } ?_ r
    exact ⟨rfl, rfl, rfl⟩

/-- Only the runtimes are touched. -/
theorem noteRecorded_eq (world : World δ) (bridge : Option RuntimeId) (op : Op)
    (reply : ActorReply) : world.noteRecorded bridge op reply =
      { world with runtime := (world.noteRecorded bridge op reply).runtime } := by
  unfold World.noteRecorded
  split <;> rfl

/-- The handles of a task are of things that are there, and it shuts down only an
actor that the registry has given up. -/
structure Handles (world : World δ) (task : Task) : Prop where
  bridge : ∀ r, task.bridge = some r →
    r < world.nextRuntime ∧ task.next ≤ (world.runtime r).events.sent.length
  runtime : ∀ r, task.runtime = some r → r < world.nextRuntime
  agent : ∀ actor, task.agent = some actor → actor < world.nextActor
  removed : ∀ actor, .shutdownAgent actor ∈ task.todo →
    actor < world.nextActor ∧ world.registry ≠ some actor

structure Sound (world : World δ) : Prop where
  idle : ∀ t, world.nextTask ≤ t → (world.tasks t).todo = []
  handles : ∀ t, Handles world (world.tasks t)
  entry : ∀ r, world.runtimes = some r → r < world.nextRuntime
  registered : ∀ actor, world.registry = some actor →
    actor < world.nextActor ∧ (world.actors actor).running = true
  orderly : ∀ r, (world.runtime r).Orderly

/-- Nothing that is allocated goes away, and what the registry gains is new. -/
structure Grows (world world' : World δ) : Prop where
  nextRuntime : world.nextRuntime ≤ world'.nextRuntime
  nextActor : world.nextActor ≤ world'.nextActor
  sent : ∀ r, r < world.nextRuntime →
    (world.runtime r).events.sent.length ≤ (world'.runtime r).events.sent.length
  registry : ∀ actor, actor < world.nextActor → world'.registry = some actor →
    world.registry = some actor

theorem Handles.grow {world world' : World δ} {task : Task} (h : Handles world task)
    (hgrows : Grows world world') : Handles world' task := by
  refine ⟨?_, ?_, ?_, ?_⟩
  · intro r hr
    obtain ⟨hlt, hnext⟩ := h.bridge r hr
    exact ⟨Nat.lt_of_lt_of_le hlt hgrows.nextRuntime, Nat.le_trans hnext (hgrows.sent r hlt)⟩
  · intro r hr
    exact Nat.lt_of_lt_of_le (h.runtime r hr) hgrows.nextRuntime
  · intro actor hactor
    exact Nat.lt_of_lt_of_le (h.agent actor hactor) hgrows.nextActor
  · intro actor hmem
    obtain ⟨hlt, hgone⟩ := h.removed actor hmem
    exact ⟨Nat.lt_of_lt_of_le hlt hgrows.nextActor, fun heq => hgone (hgrows.registry actor hlt heq)⟩

/-- A task that keeps its handles, and shuts down no other actor. -/
theorem Handles.keep {world : World δ} {task task' : Task} (h : Handles world task)
    (hkeeps : task.Keeps task')
    (hremoved : ∀ actor, .shutdownAgent actor ∈ task'.todo → .shutdownAgent actor ∈ task.todo) :
    Handles world task' := by
  refine ⟨?_, ?_, ?_, ?_⟩
  · rw [hkeeps.bridge, hkeeps.next]
    exact h.bridge
  · rw [hkeeps.runtime]
    exact h.runtime
  · rw [hkeeps.agent]
    exact h.agent
  · intro actor hmem
    exact h.removed actor (hremoved actor hmem)

/-- A step that rewrites one task. -/
theorem Sound.next {world world' : World δ} (h : Sound world) {t : TaskId} {task : Task}
    (ht : t < world.nextTask) (hgrows : Grows world world')
    (htasks : world'.tasks = Function.update world.tasks t task)
    (hnextTask : world'.nextTask = world.nextTask) (htask : Handles world' task)
    (hentry : ∀ r, world'.runtimes = some r → r < world'.nextRuntime)
    (hregistered : ∀ actor, world'.registry = some actor →
      actor < world'.nextActor ∧ (world'.actors actor).running = true)
    (horderly : ∀ r, (world'.runtime r).Orderly) : Sound world' := by
  refine ⟨?_, ?_, hentry, hregistered, horderly⟩
  · intro u hu
    rw [hnextTask] at hu
    rw [htasks, Function.update_of_ne (Nat.ne_of_gt (Nat.lt_of_lt_of_le ht hu))]
    exact h.idle u hu
  · intro u
    rw [htasks]
    by_cases hu : u = t
    · rw [hu, Function.update_self]
      exact htask
    · rw [Function.update_of_ne hu]
      exact (h.handles u).grow hgrows

/-- A step that rewrites one task and no more. -/
theorem Sound.setTask {world : World δ} (h : Sound world) {t : TaskId} {task : Task}
    (ht : t < world.nextTask) (htask : Handles world task) : Sound (world.setTask t task) := by
  have hgrows : Grows world (world.setTask t task) :=
    ⟨Nat.le_refl _, Nat.le_refl _, fun _ _ => Nat.le_refl _, fun _ _ h => h⟩
  exact h.next ht hgrows rfl rfl (htask.grow hgrows) h.entry h.registered h.orderly

theorem Sound.addTask {world : World δ} (h : Sound world) {task : Task}
    (htask : Handles world task) : Sound (world.addTask task) := by
  have hgrows : Grows world (world.addTask task) :=
    ⟨Nat.le_refl _, Nat.le_refl _, fun _ _ => Nat.le_refl _, fun _ _ h => h⟩
  refine ⟨?_, ?_, h.entry, h.registered, h.orderly⟩
  · intro u hu
    have hu' : world.nextTask + 1 ≤ u := hu
    show (Function.update world.tasks world.nextTask task u).todo = []
    rw [Function.update_of_ne (Nat.ne_of_gt hu')]
    exact h.idle u (Nat.le_of_succ_le hu')
  · intro u
    show Handles _ (Function.update world.tasks world.nextTask task u)
    by_cases hu : u = world.nextTask
    · rw [hu, Function.update_self]
      exact htask.grow hgrows
    · rw [Function.update_of_ne hu]
      exact (h.handles u).grow hgrows

/-- A task that has something to do is allocated. -/
theorem Sound.allocated {world : World δ} (h : Sound world) {t : TaskId} {op : Op}
    {rest : List Op} (htodo : (world.tasks t).todo = op :: rest) : t < world.nextTask := by
  by_contra hge
  rw [h.idle t (Nat.le_of_not_lt hge)] at htodo
  cases htodo

theorem handleEvent_removed {event : RuntimeEvent} {actor : ActorId} :
    .shutdownAgent actor ∉ handleEvent event := by
  cases event with
  | frame frame =>
    simp only [handleEvent, List.mem_append, not_or]
    refine ⟨?_, by simp⟩
    split <;> simp [completeActiveRun, persistSnapshot, setLifecycle]
  | exited | failed | stderr => simp [handleEvent, persistSnapshot, setLifecycle]

theorem Pushes.removed {op : Op} {ops : List Op} (h : Pushes op ops) {actor : ActorId} :
    .shutdownAgent actor ∉ ops := by
  cases h <;> simp [failActiveRun, persistSnapshot, setLifecycle]

/-- The changes that tasks make: the one they are given, a new run, or the active
run as ended. -/
theorem command_change {op : Op} {task : Task} {answer : Answer} {actor : ActorId}
    {change : AgentStateChange} (h : task.command answer op = some (actor, .change change)) :
    (∃ strict, op = .change strict change) ∨
      (op = .startRun ∧ change = .runUpserted ⟨answer.runId, .running, answer.nowMs, none⟩) ∨
      ∃ strict lifecycle snapshot run, op = .endRun strict lifecycle ∧
        task.snapshot = some snapshot ∧ snapshot.activeRun = some run ∧
        change = .runUpserted { run with lifecycle, endedAtMs := some answer.nowMs } := by
  cases op with
  | change strict change =>
    obtain ⟨_, -, heq⟩ := Option.map_eq_some_iff.mp h
    cases heq
    exact .inl ⟨strict, rfl⟩
  | startRun =>
    obtain ⟨_, -, heq⟩ := Option.map_eq_some_iff.mp h
    cases heq
    exact .inr (.inl ⟨rfl, rfl⟩)
  | endRun strict lifecycle =>
    obtain ⟨_, -, h⟩ := Option.bind_eq_some_iff.mp h
    obtain ⟨snapshot, hsnapshot, h⟩ := Option.bind_eq_some_iff.mp h
    obtain ⟨run, hrun, heq⟩ := Option.bind_eq_some_iff.mp h
    cases heq
    exact .inr (.inr ⟨strict, lifecycle, snapshot, run, rfl, hsnapshot, hrun, rfl⟩)
  | snapshot | publishEvent =>
    obtain ⟨_, -, heq⟩ := Option.map_eq_some_iff.mp h
    cases heq
  | _ => cases h

/-- What a call does to the lifecycle: it sets it, or leaves it. -/
theorem command_lifecycle {op : Op} {task : Task} {answer : Answer} {actor : ActorId}
    {command : ActorCommand} (h : task.command answer op = some (actor, command))
    (state : ActorState) :
    (state.turn (.command command)).2.snapshot.lifecycle = state.snapshot.lifecycle ∨
      ∃ strict lifecycle, op = setLifecycle strict lifecycle ∧
        (state.turn (.command command)).2.snapshot.lifecycle = lifecycle := by
  rcases command_cases h with ⟨-, ⟨change, rfl⟩ | rfl | ⟨event, rfl⟩⟩ | ⟨-, rfl⟩
  · rcases state.turn_change change with ⟨-, hchanged⟩ | ⟨-, hsame⟩
    · have hlifecycle := hchanged.lifecycle
      rcases command_change h with ⟨strict, rfl⟩ | ⟨-, rfl⟩ | ⟨_, _, _, _, -, -, -, rfl⟩
      · cases change with
        | lifecycleChanged lifecycle => exact .inr ⟨strict, lifecycle, rfl, hlifecycle⟩
        | runUpserted run => exact .inl (hlifecycle.trans (applyChange_upsert_lifecycle _ run))
        | sessionChanged | sessionCleared | runRemoved | interactionChanged
        | availableCommandsChanged => exact .inl hlifecycle
      · exact .inl (hlifecycle.trans (applyChange_upsert_lifecycle _ _))
      · exact .inl (hlifecycle.trans (applyChange_upsert_lifecycle _ _))
    · exact .inl (congrArg (fun state => state.snapshot.lifecycle) hsame)
  · exact .inl (congrArg (fun state => state.snapshot.lifecycle) state.turn_snapshot)
  · exact .inl (state.turn_publishEvent event).lifecycle
  · exact .inl (congrArg AgentSnapshot.lifecycle state.turn_shutdown.1)

/-- An actor that is called goes on running, unless it is told to end. -/
theorem command_running {op : Op} {task : Task} {answer : Answer} {actor : ActorId}
    {command : ActorCommand} (h : task.command answer op = some (actor, command))
    (hop : op ≠ .shutdownAgent actor) (state : ActorState) :
    (state.turn (.command command)).2.running = state.running := by
  rcases command_cases h with ⟨-, ⟨change, rfl⟩ | rfl | ⟨event, rfl⟩⟩ | ⟨heq, -⟩
  · rcases state.turn_change change with ⟨-, hchanged⟩ | ⟨-, hsame⟩
    · exact hchanged.running
    · rw [hsame]
  · rw [state.turn_snapshot]
  · exact (state.turn_publishEvent event).running
  · exact absurd heq hop

theorem Sound.task {setup : Setup} {world world' : World δ} (h : Sound world) {t : TaskId}
    {answer : Answer} {op : Op} {rest : List Op} (htodo : (world.tasks t).todo = op :: rest)
    (hstep : TaskStep setup world t answer op rest world') : Sound world' := by
  have ht := h.allocated htodo
  have hold := h.handles t
  -- what is left to do of a task was to do before
  have hrest : ∀ actor, .shutdownAgent actor ∈ rest → .shutdownAgent actor ∈ (world.tasks t).todo := by
    intro actor hmem
    rw [htodo]
    exact List.mem_cons_of_mem _ hmem
  have hkept : Handles world { world.tasks t with todo := rest } := hold.keep (.refl _ rest) hrest
  cases hstep with
  | waits => exact h
  | fails task store hfails hnone hkeeps =>
    have hgrows : Grows world { world.setTask t task with
        store, lock := if world.lock = some t then none else world.lock } :=
      ⟨Nat.le_refl _, Nat.le_refl _, fun _ _ => Nat.le_refl _, fun _ _ h => h⟩
    refine h.next ht hgrows rfl rfl (Handles.grow (hold.keep hkeeps ?_) hgrows) h.entry
      h.registered h.orderly
    intro actor hmem
    rw [hnone] at hmem
    cases hmem
  | calls actor command task hcommand hok htask hkeeps =>
    generalize hturn : (world.actors actor).turn (.command command) = turned
    have hsame := noteRecorded_same (world.setActor actor turned.2) (world.tasks t).bridge op turned.1
    rw [noteRecorded_eq]
    generalize ((world.setActor actor turned.2).noteRecorded (world.tasks t).bridge op
      turned.1).runtime = runtime at hsame
    have hgrows : Grows world
        (({ world.setActor actor turned.2 with runtime } : World δ).setTask t task) :=
      ⟨Nat.le_refl _, Nat.le_refl _,
        fun r _ => Nat.le_of_eq (by rw [setTask_runtime, (hsame r).events]; rfl), fun _ _ h => h⟩
    refine h.next ht hgrows rfl rfl (Handles.grow (hold.keep hkeeps ?_) hgrows) h.entry ?_
      fun r => (hsame r).orderly (h.orderly r)
    · rw [htask]
      exact hrest
    · intro registered hregistry
      obtain ⟨hlt, hrunning⟩ := h.registered registered hregistry
      refine ⟨hlt, ?_⟩
      show (Function.update world.actors actor turned.2 registered).running = true
      by_cases hactor : registered = actor
      · have hop : op ≠ .shutdownAgent actor := by
          rintro rfl
          have hmem : Op.shutdownAgent actor ∈ (world.tasks t).todo := by
            rw [htodo]
            exact List.mem_cons_self
          exact (hold.removed actor hmem).2 (hactor ▸ hregistry)
        have hkeep := command_running hcommand hop (world.actors actor)
        rw [hturn] at hkeep
        rw [hactor, Function.update_self, hkeep, ← hactor]
        exact hrunning
      · rw [Function.update_of_ne hactor]
        exact hrunning
  | goesOn processId hsilent hnone =>
    exact h.setTask ht (hold.keep ⟨rfl, rfl, rfl, rfl⟩ hrest)
  | pushes ops hpushes =>
    refine h.setTask ht (hold.keep (.refl _ _) ?_)
    intro actor hmem
    rcases List.mem_append.mp hmem with hpushed | hmem
    · exact absurd hpushed hpushes.removed
    · exact hrest actor hmem
  | locks hop hlock hidle =>
    have hgrows : Grows world { world.setTask t { world.tasks t with todo := rest } with
        runtimes := none, lock := some t } :=
      ⟨Nat.le_refl _, Nat.le_refl _, fun _ _ => Nat.le_refl _, fun _ _ h => h⟩
    refine h.next ht hgrows rfl rfl (hkept.grow hgrows) ?_ h.registered h.orderly
    intro r hr
    cases hr
  | spawns startup hop =>
    have hgrows : Grows world { (world.setRuntime world.nextRuntime
        (.spawn setup.eventSlots startup)).setTask t
          { world.tasks t with runtime := some world.nextRuntime, todo := rest } with
        nextRuntime := world.nextRuntime + 1 } := by
      refine ⟨Nat.le_succ _, Nat.le_refl _, ?_, fun _ _ h => h⟩
      intro r hr
      show _ ≤ (Function.update world.runtime world.nextRuntime _ r).events.sent.length
      rw [Function.update_of_ne (Nat.ne_of_lt hr)]
    have hgrown := hkept.grow hgrows
    refine h.next ht hgrows rfl rfl ⟨hgrown.bridge, ?_, hgrown.agent, hgrown.removed⟩ ?_
      h.registered ?_
    · intro r hr
      cases hr
      exact Nat.lt_succ_self _
    · intro r hr
      exact Nat.lt_succ_of_lt (h.entry r hr)
    · intro r
      show (Function.update world.runtime world.nextRuntime _ r).Orderly
      by_cases hr : r = world.nextRuntime
      · rw [hr, Function.update_self]
        exact .spawn setup.eventSlots startup
      · rw [Function.update_of_ne hr]
        exact h.orderly r
  | finds actor hop hregistry =>
    refine h.setTask ht ⟨hold.bridge, hold.runtime, ?_, hkept.removed⟩
    intro found hfound
    cases hfound
    exact (h.registered actor hregistry).1
  | creates hop hregistry =>
    have hgrows : Grows world ((world.register setup (.initial setup.agentId)).setTask t
        { world.tasks t with agent := some world.nextActor, todo := rest }) := by
      refine ⟨Nat.le_refl _, Nat.le_succ _, fun _ _ => Nat.le_refl _, ?_⟩
      intro actor hlt heq
      cases heq
      exact absurd hlt (Nat.lt_irrefl _)
    have hgrown := hkept.grow hgrows
    refine h.next ht hgrows rfl rfl ⟨hgrown.bridge, hgrown.runtime, ?_, hgrown.removed⟩ h.entry
      ?_ h.orderly
    · intro actor heq
      cases heq
      exact Nat.lt_succ_self _
    · intro actor heq
      cases heq
      refine ⟨Nat.lt_succ_self _, ?_⟩
      show (Function.update world.actors world.nextActor _ world.nextActor).running = true
      rw [Function.update_self]
      rfl
  | inserts hop =>
    have hgrows : Grows world { world.setTask t { world.tasks t with todo := rest } with
        runtimes := (world.tasks t).runtime, lock := none } :=
      ⟨Nat.le_refl _, Nat.le_refl _, fun _ _ => Nat.le_refl _, fun _ _ h => h⟩
    exact h.next ht hgrows rfl rfl (hkept.grow hgrows) hold.runtime h.registered h.orderly
  | bridges hop =>
    refine (h.setTask ht hkept).addTask ⟨?_, ?_, hold.agent, ?_⟩
    · intro r hr
      exact ⟨hold.runtime r hr, Nat.zero_le _⟩
    · intro r hr
      cases hr
    · intro actor hmem
      cases List.mem_singleton.mp hmem
  | takes r hop hlock hruntimes =>
    have hgrows : Grows world { world.setTask t
        { world.tasks t with runtime := some r, todo := rest } with runtimes := none } :=
      ⟨Nat.le_refl _, Nat.le_refl _, fun _ _ => Nat.le_refl _, fun _ _ h => h⟩
    have htaken : Handles world { world.tasks t with runtime := some r, todo := rest } := by
      refine ⟨hold.bridge, ?_, hold.agent, hkept.removed⟩
      intro taken heq
      cases heq
      exact h.entry r hruntimes
    refine h.next ht hgrows rfl rfl (htaken.grow hgrows) ?_ h.registered h.orderly
    intro r' hr'
    cases hr'
  | gets r hop hlock hruntimes =>
    refine h.setTask ht ⟨hold.bridge, ?_, hold.agent, hkept.removed⟩
    intro got heq
    cases heq
    exact h.entry r hruntimes
  | removes actor hop hregistry =>
    have hgrows : Grows world { world.setTask t
        { world.tasks t with todo := .shutdownAgent actor :: rest } with registry := none } :=
      ⟨Nat.le_refl _, Nat.le_refl _, fun _ _ => Nat.le_refl _, by intro _ _ heq; cases heq⟩
    have hgrown := hkept.grow hgrows
    refine h.next ht hgrows rfl rfl ⟨hgrown.bridge, hgrown.runtime, hgrown.agent, ?_⟩ h.entry
      (by intro _ heq; cases heq) h.orderly
    intro removed hmem
    rcases List.mem_cons.mp hmem with heq | hmem
    · cases heq
      exact ⟨(h.registered actor hregistry).1, by intro heq; cases heq⟩
    · exact hgrown.removed removed hmem
  | upserts strict active store hop =>
    have hgrows : Grows world { world.setTask t { world.tasks t with todo := rest } with store } :=
      ⟨Nat.le_refl _, Nat.le_refl _, fun _ _ => Nat.le_refl _, fun _ _ h => h⟩
    exact h.next ht hgrows rfl rfl (hkept.grow hgrows) h.entry h.registered h.orderly
  | receives r event hop hbridge hrecv =>
    refine h.setTask ht ⟨?_, hold.runtime, hold.agent, ?_⟩
    · intro r' hr'
      have heq : r = r' := Option.some.inj (hbridge.symm.trans hr')
      exact ⟨(hold.bridge r' hr').1, heq ▸ (Broadcast.recv_value hrecv).1⟩
    · intro actor hmem
      rcases List.mem_append.mp hmem with hhandled | hmem
      · exact absurd hhandled handleEvent_removed
      · exact hkept.removed actor hmem
  | lags r next hop hbridge hrecv =>
    have hsame := same_setRuntime world r { world.runtime r with
      missed := (world.runtime r).missed ||
        !(frames ((world.runtime r).events.skipped (world.tasks t).next next)).isEmpty }
      ⟨rfl, rfl, rfl⟩
    have hgrows : Grows world ((world.setRuntime r { world.runtime r with
        missed := (world.runtime r).missed ||
          !(frames ((world.runtime r).events.skipped (world.tasks t).next next)).isEmpty }).setTask t
        { world.tasks t with next, todo := handleLag ++ rest }) :=
      ⟨Nat.le_refl _, Nat.le_refl _,
        fun r' _ => Nat.le_of_eq (by rw [setTask_runtime, (hsame r').events]), fun _ _ h => h⟩
    have hgrown := hkept.grow hgrows
    refine h.next ht hgrows rfl rfl ⟨?_, hgrown.runtime, hgrown.agent, ?_⟩ h.entry h.registered
      fun r' => (hsame r').orderly (h.orderly r')
    · intro r' hr'
      have heq : r = r' := Option.some.inj (hbridge.symm.trans hr')
      refine ⟨(hold.bridge r' hr').1, ?_⟩
      rw [← heq, setTask_runtime, (hsame r).events]
      exact (Broadcast.recv_lagged hrecv).1
    · intro actor hmem
      rcases List.mem_append.mp hmem with hhandled | hmem
      · simp [handleLag, setLifecycle] at hhandled
      · exact hgrown.removed actor hmem
  | closes r hop hbridge hrecv => exact h.setTask ht hkept

/-- A step of the runtimes themselves: no events get lost. -/
theorem Sound.setRuntime {world : World δ} (h : Sound world) (r : RuntimeId) {runtime : OmpRuntime}
    (hsent : (world.runtime r).events.sent.length ≤ runtime.events.sent.length)
    (horderly : runtime.Orderly) : Sound (world.setRuntime r runtime) := by
  have hgrows : Grows world (world.setRuntime r runtime) := by
    refine ⟨Nat.le_refl _, Nat.le_refl _, ?_, fun _ _ h => h⟩
    intro r' _
    show _ ≤ (Function.update world.runtime r runtime r').events.sent.length
    by_cases hr : r' = r
    · rw [hr, Function.update_self]
      exact hsent
    · rw [Function.update_of_ne hr]
  refine ⟨h.idle, fun t => (h.handles t).grow hgrows, h.entry, h.registered, ?_⟩
  intro r'
  show (Function.update world.runtime r runtime r').Orderly
  by_cases hr : r' = r
  · rw [hr, Function.update_self]
    exact horderly
  · rw [Function.update_of_ne hr]
    exact h.orderly r'

theorem sound_create (setup : Setup) (store : Store δ) : Sound (World.create setup store) := by
  refine ⟨fun _ _ => rfl, fun _ => ⟨?_, ?_, ?_, ?_⟩, ?_, ?_, fun _ => .none⟩
  · intro r hr
    cases hr
  · intro r hr
    cases hr
  · intro actor hactor
    cases hactor
  · intro actor hmem
    cases hmem
  · intro r hr
    cases hr
  · intro actor hactor
    cases hactor

/-- A daemon that has just been started has no tasks and no runtimes, and at most
the actor it has restored. -/
theorem sound_restart (setup : Setup) (world : World δ) (nowMs : UInt64) (fault : Option Nat) :
    Sound (world.restart setup nowMs fault) := by
  have hcreated := sound_create setup (world.store.recoverInterrupted nowMs fault).2
  have hhandles : ∀ world' : World δ, world'.nextTask = 0 → world'.runtimes = none →
      (world'.tasks = fun _ => .new []) → (world'.runtime = fun _ => World.noRuntime) →
      (∀ actor, world'.registry = some actor →
        actor < world'.nextActor ∧ (world'.actors actor).running = true) → Sound world' := by
    intro world' _ hruntimes htasks hruntime hregistered
    refine ⟨?_, ?_, ?_, hregistered, ?_⟩
    · intro t _
      rw [htasks]
      rfl
    · intro t
      rw [htasks]
      refine ⟨?_, ?_, ?_, ?_⟩
      · intro r hr
        cases hr
      · intro r hr
        cases hr
      · intro actor hactor
        cases hactor
      · intro actor hmem
        cases hmem
    · intro r hr
      rw [hruntimes] at hr
      cases hr
    · intro r
      rw [hruntime]
      exact .none
  unfold World.restart
  generalize world.store.recoverInterrupted nowMs fault = recovered
  obtain ⟨result, store⟩ := recovered
  cases result with
  | error error => exact hhandles _ rfl rfl rfl rfl (by intro _ heq; cases heq)
  | ok result =>
    dsimp only
    split
    · exact hhandles _ rfl rfl rfl rfl (by intro _ heq; cases heq)
    · refine hhandles _ rfl rfl rfl rfl ?_
      intro actor heq
      cases heq
      refine ⟨Nat.lt_succ_self _, ?_⟩
      show (Function.update world.actors world.nextActor _ world.nextActor).running = true
      rw [Function.update_self]
      rfl

theorem Request.script_removed (request : Request) {actor : ActorId} :
    .shutdownAgent actor ∉ request.script := by
  cases request <;>
    simp [script, Supervision.launch, Supervision.stop, shutdownController, persistSnapshot,
      setLifecycle]

/-- The step lemma. -/
theorem Sound.step {setup : Setup} {world : World δ} (h : Sound world) (input : Input) :
    Sound (world.step setup input) := by
  cases input with
  | request request =>
    simp only [World.step]
    split
    · refine h.addTask ⟨?_, ?_, ?_, ?_⟩
      · intro r hr
        cases hr
      · intro r hr
        cases hr
      · intro actor hactor
        cases hactor
      · intro actor hmem
        exact absurd hmem request.script_removed
    · exact h
  | task t answer =>
    show Sound (world.stepTask setup t answer)
    cases htodo : (world.tasks t).todo with
    | nil =>
      unfold World.stepTask
      rw [htodo]
      exact h
    | cons op rest => exact h.task htodo (stepTask_cases htodo)
  | runtime r input => exact h.setRuntime r (Nat.le_refl _) ((h.orderly r).step input)
  | publish r =>
    refine h.setRuntime r ?_ (h.orderly r).publish
    unfold OmpRuntime.publish
    split
    · exact Nat.le_refl _
    · simp
  | stderr r text =>
    simp only [World.step]
    split
    · rename_i hopen
      exact h.setRuntime r (by simp) ((h.orderly r).stderr hopen text)
    · exact h
  | close r =>
    simp only [World.step]
    split
    · -- the stream closes once the actor is at its end and all is published
      rename_i hended
      simp only [Bool.and_eq_true, decide_eq_true_eq, List.isEmpty_iff] at hended
      exact h.setRuntime r (Nat.le_refl _) ((h.orderly r).close hended.1 hended.2)
    · exact h
  | actor actor input =>
    simp only [World.step]
    split
    · rename_i hforeign
      -- a foreign turn of an actor stops nobody
      have hgrows : Grows world (world.setActor actor ((world.actors actor).turn input).2) :=
        ⟨Nat.le_refl _, Nat.le_refl _, fun _ _ => Nat.le_refl _, fun _ _ h => h⟩
      refine ⟨h.idle, fun t => (h.handles t).grow hgrows, h.entry, ?_, h.orderly⟩
      intro registered hregistry
      obtain ⟨hlt, hrunning⟩ := h.registered registered hregistry
      refine ⟨hlt, ?_⟩
      show (Function.update world.actors actor _ registered).running = true
      by_cases hactor : registered = actor
      · rw [hactor, Function.update_self, (ActorState.turn_foreign hforeign).running, ← hactor]
        exact hrunning
      · rw [Function.update_of_ne hactor]
        exact hrunning
    · exact h
  | restart nowMs fault => exact sound_restart setup world nowMs fault

theorem sound_run (setup : Setup) (store : Store δ) (inputs : List Input) :
    Sound (run (World.step setup) (World.create setup store) inputs) :=
  run_invariant (fun _ input h => h.step input) (sound_create setup store) inputs

/-! ## What becomes of the tasks -/

/-- What a step does to the tasks: one of them makes its turn, or they are left alone, or
a request joins them, or the daemon starts without any. -/
inductive TasksStep (setup : Setup) (world : World δ) : Input → World δ → Prop where
  | turns {t : TaskId} {answer : Answer} {op : Op} {rest : List Op} {world' : World δ} :
    (world.tasks t).todo = op :: rest → TaskStep setup world t answer op rest world' →
    TasksStep setup world (.task t answer) world'
  | keeps {input : Input} {world' : World δ} : world'.tasks = world.tasks →
    world'.nextTask = world.nextTask → world'.firstActor = world.firstActor →
    TasksStep setup world input world'
  | joins {request : Request} {world' : World δ} :
    world' = world.addTask (.new request.script) →
    TasksStep setup world (.request request) world'
  | restarts {nowMs : UInt64} {fault : Option Nat} {world' : World δ} :
    (world'.tasks = fun _ => .new []) → world'.firstActor = world.nextActor →
    TasksStep setup world (.restart nowMs fault) world'

theorem step_cases (setup : Setup) (world : World δ) (input : Input) :
    TasksStep setup world input (world.step setup input) := by
  cases input with
  | request request =>
    simp only [World.step]
    split
    · exact .joins rfl
    · exact .keeps rfl rfl rfl
  | task t answer =>
    cases htodo : (world.tasks t).todo with
    | nil =>
      simp only [World.step, World.stepTask, htodo]
      exact .keeps rfl rfl rfl
    | cons op rest => exact .turns htodo (stepTask_cases htodo)
  | runtime | publish => exact .keeps rfl rfl rfl
  | stderr | close | actor =>
    simp only [World.step]
    split
    · exact .keeps rfl rfl rfl
    · exact .keeps rfl rfl rfl
  | restart nowMs fault =>
    simp only [World.step, World.restart]
    split
    · exact .restarts rfl rfl
    split
    · exact .restarts rfl rfl
    · exact .restarts rfl rfl

end OmpRemote.Ompd.Supervision

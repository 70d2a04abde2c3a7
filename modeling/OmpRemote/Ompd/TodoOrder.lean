import OmpRemote.Ompd.PromptEnd

/-!
# The order of a task's operations

A task does its operations one after the other and is given others while it does. What
may come after what is kept: a request that takes the runtime or finds the actor goes
on to write the row, and a launch goes on to spawn the bridge of its runtime.

- `Adds`, `TaskStep.todo`: what a step leaves a task to do.
- `TodoLaw.step`: what is so of what tasks have to do.
- `Tidy`, `AllTidy.step`: the order of operations.
- `Receives`: how a bridge is at its receiver.
- `Attended`, `Attended.step`: a runtime in the map has a bridge until it ends.
-/

namespace OmpRemote.Ompd.Supervision

open ControlPlane Lib Rpc OmpRemote.Runtime

variable {δ : Type}

/-! ## What a step leaves to do -/

/-- What an operation puts before the rest of its task, if anything. -/
inductive Adds : Op → List Op → Prop where
  | nothing (op : Op) : Adds op []
  | pushes {op : Op} {ops : List Op} : Pushes op ops → Adds op ops
  | event (event : RuntimeEvent) : Adds .receive (handleEvent event)
  | lag : Adds .receive handleLag
  | removed (actor : ActorId) : Adds .removeAgent [.shutdownAgent actor]

section Todo

variable {setup : Setup} {world world' : World δ} {t : TaskId} {answer : Answer} {op : Op}
  {rest : List Op}

/-- A task waits, or gives up, or goes on to the rest. -/
theorem TaskStep.todo (h : TaskStep setup world t answer op rest world')
    (hlt : t < world.nextTask) :
    world' = world ∨
      ((world'.tasks t).todo = [] ∧ (world.attempt setup t answer op rest).1 = false) ∨
      ∃ ops, Adds op ops ∧ (world'.tasks t).todo = ops ++ rest := by
  have hset : ∀ task : Task, (Function.update world.tasks t task t).todo = task.todo := by
    intro task
    rw [Function.update_self]
  have hgoesOn : ∀ task : Task, task.todo = rest → world'.tasks = Function.update world.tasks t task →
      ∃ ops, Adds op ops ∧ (world'.tasks t).todo = ops ++ rest := by
    intro task hrest htasks
    exact ⟨[], .nothing op, by rw [htasks, hset, hrest]; rfl⟩
  cases h with
  | waits => exact .inl rfl
  | fails task store hfails hdone => exact .inr (.inl ⟨(hset task).trans hdone, hfails⟩)
  | calls actor command task _ _ hrest =>
    rw [noteRecorded_eq] at hgoesOn ⊢
    exact .inr (.inr (hgoesOn task hrest rfl))
  | bridges =>
    refine .inr (.inr ⟨[], .nothing op, ?_⟩)
    show (Function.update (Function.update world.tasks t _) world.nextTask _ t).todo = _
    rw [Function.update_of_ne (Nat.ne_of_lt hlt)]
    exact hset _
  | pushes ops hpushes => exact .inr (.inr ⟨ops, .pushes hpushes, hset _⟩)
  | removes actor hop =>
    subst hop
    exact .inr (.inr ⟨[.shutdownAgent actor], .removed actor, hset _⟩)
  | receives r event hop =>
    subst hop
    exact .inr (.inr ⟨handleEvent event, .event event, hset _⟩)
  | lags r next hop =>
    subst hop
    exact .inr (.inr ⟨handleLag, .lag, hset _⟩)
  | goesOn | locks | spawns | finds | creates | inserts | takes | gets | upserts | closes =>
    exact .inr (.inr (hgoesOn _ rfl rfl))

/-- A task whose operation fails has nothing left to do, and holds no lock. -/
theorem step_fails (htodo : (world.tasks t).todo = op :: rest)
    (hfails : (world.attempt setup t answer op rest).1 = false) :
    ((world.step setup (.task t answer)).tasks t).todo = [] ∧
      (world.step setup (.task t answer)).lock ≠ some t := by
  have hstep : world.step setup (.task t answer) =
      (world.attempt setup t answer op rest).2.fail t := by
    simp only [World.step, World.stepTask, htodo, World.resolve]
    rw [if_neg (by simp [hfails])]
  rw [hstep, World.fail]
  constructor
  · rw [World.tasks_setTask_self]
  · dsimp only
    split
    · rintro ⟨⟩
    · assumption

/-- Another task is left alone, or is a new bridge. -/
theorem TaskStep.todo_other (h : TaskStep setup world t answer op rest world') {u : TaskId}
    (hu : u ≠ t) : world'.tasks u = world.tasks u ∨
      u = world.nextTask ∧ op = .spawnEventBridge ∧
        world'.tasks u = (world.tasks t).eventBridge := by
  have hset : ∀ task, Function.update world.tasks t task u = world.tasks u :=
    fun _ => Function.update_of_ne hu _ _
  cases h with
  | waits => exact .inl rfl
  | calls actor command task =>
    rw [noteRecorded_eq]
    exact .inl (hset _)
  | bridges hop =>
    show Function.update (Function.update world.tasks t _) world.nextTask _ u = _ ∨
      u = _ ∧ _ ∧ Function.update (Function.update world.tasks t _) world.nextTask _ u = _
    by_cases hnew : u = world.nextTask
    · rw [hnew, Function.update_self]
      exact .inr ⟨rfl, hop, rfl⟩
    · rw [Function.update_of_ne hnew]
      exact .inl (hset _)
  | fails | goesOn | pushes | locks | spawns | finds | creates | inserts | takes | gets | removes
  | upserts | receives | lags | closes => exact .inl (hset _)

/-- A task that is there afterwards was there, or is a new bridge. -/
theorem TaskStep.allocated (h : TaskStep setup world t answer op rest world') {u : TaskId}
    (hu : u ≠ t) (hlt : u < world'.nextTask) :
    u < world.nextTask ∧ world'.tasks u = world.tasks u ∨
      op = .spawnEventBridge ∧ world'.tasks u = (world.tasks t).eventBridge := by
  have hold : world'.nextTask = world.nextTask ∨ op = .spawnEventBridge ∧
      world'.nextTask = world.nextTask + 1 ∧
      world'.tasks world.nextTask = (world.tasks t).eventBridge := by
    cases h with
    | calls actor command task =>
      rw [noteRecorded_eq]
      exact .inl rfl
    | bridges hop => exact .inr ⟨hop, rfl, Function.update_self ..⟩
    | waits | fails | goesOn | pushes | locks | spawns | finds | creates | inserts | takes | gets
    | removes | upserts | receives | lags | closes => exact .inl rfl
  by_cases hbefore : u < world.nextTask
  · rcases h.todo_other hu with hsame | ⟨rfl, -, -⟩
    · exact .inl ⟨hbefore, hsame⟩
    · exact absurd hbefore (Nat.lt_irrefl _)
  · rcases hold with hsame | ⟨hop, hnext, hnew⟩
    · exact absurd (hsame ▸ hlt) hbefore
    · rw [hnext] at hlt
      have hlast : u = world.nextTask :=
        Nat.le_antisymm (Nat.le_of_lt_succ hlt) (Nat.le_of_not_lt hbefore)
      rw [hlast]
      exact .inr ⟨hop, hnew⟩

/-- An operation of a task leaves the runtimes there are alone, but for the ghosts. -/
theorem TaskStep.same (h : TaskStep setup world t answer op rest world') {r : RuntimeId}
    (hr : r < world.nextRuntime) : (world.runtime r).Same (world'.runtime r) := by
  cases h with
  | calls actor command task =>
    exact noteRecorded_same (world.setActor actor _) _ op _ r
  | spawns startup =>
    show OmpRuntime.Same _ (Function.update world.runtime world.nextRuntime _ r)
    rw [Function.update_of_ne (Nat.ne_of_lt hr)]
    exact ⟨rfl, rfl, rfl⟩
  | lags r' next =>
    have hsame := same_setRuntime world r' { world.runtime r' with
      missed := (world.runtime r').missed ||
        !(frames ((world.runtime r').events.skipped (world.tasks t).next next)).isEmpty }
      ⟨rfl, rfl, rfl⟩
    exact hsame r
  | waits | fails | goesOn | pushes | locks | finds | creates | inserts | bridges | takes | gets
  | removes | upserts | receives | closes => exact ⟨rfl, rfl, rfl⟩

theorem TaskStep.nextTask_le (h : TaskStep setup world t answer op rest world') :
    world.nextTask ≤ world'.nextTask := by
  cases h with
  | calls actor command task =>
    rw [noteRecorded_eq]
    exact Nat.le_refl _
  | bridges => exact Nat.le_succ _
  | waits | fails | goesOn | pushes | locks | spawns | finds | creates | inserts | takes | gets
  | removes | upserts | receives | lags | closes => exact Nat.le_refl _

/-- Only the operations on the map and the loop of a bridge change its handles. -/
theorem TaskStep.handles_eq (h : TaskStep setup world t answer op rest world')
    (hop : op.isKey = false ∨ op = .insertRuntime) :
    (world'.tasks t).bridge = (world.tasks t).bridge ∧
      (world'.tasks t).next = (world.tasks t).next ∧
      (world'.tasks t).runtime = (world.tasks t).runtime := by
  have hset : ∀ task : Task, task.bridge = (world.tasks t).bridge →
      task.next = (world.tasks t).next → task.runtime = (world.tasks t).runtime →
      (Function.update world.tasks t task t).bridge = (world.tasks t).bridge ∧
      (Function.update world.tasks t task t).next = (world.tasks t).next ∧
      (Function.update world.tasks t task t).runtime = (world.tasks t).runtime := by
    intro task hbridge hnext hruntime
    rw [Function.update_self]
    exact ⟨hbridge, hnext, hruntime⟩
  cases h with
  | waits => exact ⟨rfl, rfl, rfl⟩
  | fails task _ _ _ hkeeps => exact hset task hkeeps.bridge hkeeps.next hkeeps.runtime
  | calls actor command task _ _ _ hkeeps =>
    rw [noteRecorded_eq]
    exact hset task hkeeps.bridge hkeeps.next hkeeps.runtime
  | goesOn | pushes | inserts | removes | upserts | finds | creates => exact hset _ rfl rfl rfl
  | locks hkey | bridges hkey | spawns _ hkey | takes _ hkey | gets _ hkey | receives _ _ hkey
  | lags _ _ hkey | closes _ hkey =>
    rw [hkey] at hop
    rcases hop with hop | hop <;> cases hop

end Todo

/-! ## Laws of todos -/

/-- What is so of the todos that requests and bridges begin with, and stays so when an
operation is done. -/
structure TodoLaw (P : List Op → Prop) : Prop where
  request : ∀ request : Request, P request.script
  done : P []
  receive : P [.receive]
  adds : ∀ {op : Op} {ops rest : List Op}, P (op :: rest) → Adds op ops → P (ops ++ rest)

/-- The step lemma: it is so of all tasks. -/
theorem TodoLaw.step {P : List Op → Prop} (hP : TodoLaw P) (setup : Setup) {world : World δ}
    (h : ∀ t, P (world.tasks t).todo) (hsound : Sound world) (input : Input) (t : TaskId) :
    P ((world.step setup input).tasks t).todo := by
  have hstep := step_cases setup world input
  generalize world.step setup input = world' at hstep
  cases hstep with
  | @turns u answer op rest _ htodo hturn =>
    by_cases ht : t = u
    · subst ht
      rcases hturn.todo (hsound.allocated htodo) with rfl | ⟨hnone, -⟩ | ⟨ops, hadds, hmore⟩
      · exact h t
      · rw [hnone]
        exact hP.done
      · rw [hmore]
        exact hP.adds (htodo ▸ h t) hadds
    · rcases hturn.todo_other ht with hsame | ⟨-, -, hnew⟩
      · rw [hsame]
        exact h t
      · rw [hnew]
        exact hP.receive
  | keeps htasks =>
    rw [htasks]
    exact h t
  | @joins request _ hjoins =>
    rw [hjoins]
    show P (Function.update world.tasks world.nextTask (.new request.script) t).todo
    by_cases ht : t = world.nextTask
    · rw [ht, Function.update_self]
      exact hP.request request
    · rw [Function.update_of_ne ht]
      exact h t
  | restarts htasks =>
    rw [htasks]
    exact hP.done

/-! ## The order of operations -/

def Op.upserts : Op → Bool
  | .upsertAgent .. => true
  | _ => false

/-- After the operation there is another runtime in the map, or another actor in the
registry. -/
def Op.unsettles : Op → Bool
  | .takeRuntime | .getOrCreateAgent => true
  | _ => false

/-- What may come right after the operation. -/
def Op.allows (op : Op) : Option Op → Bool
  | some .insertRuntime => op.upserts
  | some .spawnEventBridge => op = .insertRuntime
  | _ => true

/-- Once the runtime is taken or the actor is found, the row is written, and so it is
right before a launch inserts its runtime and spawns the bridge. -/
def Tidy : List Op → Bool
  | [] => true
  | op :: rest => (!op.unsettles || rest.any Op.upserts) && op.allows rest.head? &&
    (op ≠ .insertRuntime || rest = [.spawnEventBridge]) && Tidy rest

section Tidy

variable {setup : Setup} {world world' : World δ} {t : TaskId} {answer : Answer} {op : Op}
  {ops rest : List Op}

structure Tidy.Head (op : Op) (rest : List Op) : Prop where
  unsettles : op.unsettles = true → rest.any Op.upserts = true
  allows : op.allows rest.head? = true
  spawns : op = .insertRuntime → rest = [.spawnEventBridge]
  rest : Tidy rest = true

theorem tidy_cons : Tidy (op :: rest) = true ↔ Tidy.Head op rest := by
  constructor
  · intro h
    simp only [Tidy, Bool.and_eq_true, Bool.or_eq_true, Bool.not_eq_true', decide_eq_true_eq] at h
    obtain ⟨⟨⟨hunsettles, hallows⟩, hspawns⟩, hrest⟩ := h
    exact ⟨fun hop => hunsettles.resolve_left (by simp [hop]), hallows,
      fun hop => hspawns.resolve_left (not_not_intro hop), hrest⟩
  · intro h
    simp only [Tidy, Bool.and_eq_true, Bool.or_eq_true, Bool.not_eq_true', decide_eq_true_eq]
    refine ⟨⟨⟨?_, h.allows⟩, ?_⟩, h.rest⟩
    · cases hop : op.unsettles with
      | false => exact .inl rfl
      | true => exact .inr (h.unsettles hop)
    · by_cases hop : op = .insertRuntime
      · exact .inr (h.spawns hop)
      · exact .inl hop

/-- Operations that may be put before any others. -/
def Op.isPlain (op : Op) : Bool :=
  !op.unsettles && op ≠ .insertRuntime && op ≠ .spawnEventBridge

theorem allows_plain {next : Op} (h : next.isPlain = true) : op.allows (some next) = true := by
  cases next <;> first | rfl | cases h

theorem tidy_append (hrest : Tidy rest = true) (hhead : ∀ op : Op, op.allows rest.head? = true)
    (hops : ∀ op ∈ ops, op.isPlain = true) : Tidy (ops ++ rest) = true := by
  induction ops with
  | nil => exact hrest
  | cons op ops ih =>
    rw [List.forall_mem_cons] at hops
    obtain ⟨⟨hunsettles, hinserts⟩, -⟩ :
        (op.unsettles = false ∧ op ≠ .insertRuntime) ∧ op ≠ .spawnEventBridge := by
      simpa [Op.isPlain] using hops.1
    refine tidy_cons.mpr ⟨?_, ?_, fun hop => absurd hop hinserts, ih hops.2⟩
    · intro hop
      rw [hunsettles] at hop
      cases hop
    · cases ops with
      | nil => exact hhead op
      | cons next ops => exact allows_plain (hops.2 next List.mem_cons_self)

theorem Adds.isPlain (h : Adds op ops) : ∀ op ∈ ops, op.isPlain = true := by
  cases h with
  | nothing => nofun
  | pushes hpushes => cases hpushes <;>
      simp [failActiveRun, setLifecycle, persistSnapshot, Op.isPlain, Op.unsettles]
  | event event =>
    intro op hop
    have hbridge := ofBridge_handleEvent event op hop
    cases op <;> first | rfl | cases hbridge
  | lag => decide
  | removed => simp [Op.isPlain, Op.unsettles]

theorem Adds.plain_head (h : Adds op ops) (hops : ops ≠ []) :
    op.upserts = false ∧ op ≠ .insertRuntime := by
  cases h with
  | nothing => exact absurd rfl hops
  | pushes hpushes => cases hpushes <;> exact ⟨rfl, nofun⟩
  | event | lag | removed => exact ⟨rfl, nofun⟩

/-- What may come after an operation that neither upserts nor inserts may come after
any. -/
theorem allows_of_plain {head : Op} {next : Option Op} (h : head.allows next = true)
    (hop : head.upserts = false ∧ head ≠ .insertRuntime) (op : Op) : op.allows next = true := by
  unfold Op.allows at h ⊢
  split
  · rw [hop.1] at h
    cases h
  · exact absurd (of_decide_eq_true h) hop.2
  · rfl

theorem tidy_script (request : Request) : Tidy request.script = true := by
  cases request <;> decide

theorem law_tidy : TodoLaw fun todo => Tidy todo = true where
  request := tidy_script
  done := rfl
  receive := rfl
  adds := by
    intro op ops rest h hadds
    have hhead := tidy_cons.mp h
    by_cases hops : ops = []
    · rw [hops]
      exact hhead.rest
    · exact tidy_append hhead.rest (allows_of_plain hhead.allows (hadds.plain_head hops))
        hadds.isPlain

/-- The operations of all tasks are in order. -/
def AllTidy (world : World δ) : Prop := ∀ t, Tidy (world.tasks t).todo = true

theorem AllTidy.step (h : AllTidy world) (hsound : Sound world) (setup : Setup) (input : Input) :
    AllTidy (world.step setup input) := law_tidy.step setup h hsound input

end Tidy

/-! ## The loop of a bridge -/

section Bridge

variable {setup : Setup} {world world' : World δ} {t : TaskId} {answer : Answer} {op : Op}
  {rest : List Op} {r : RuntimeId}

/-- The bridge goes on to listen, unless it writes the row about the end. -/
theorem handleEvent_goesOn {event : RuntimeEvent} (h : event.isFinal = false) :
    .receive ∈ handleEvent event := by
  cases event with
  | frame frame => exact List.mem_append_right _ (List.mem_cons_of_mem _ List.mem_cons_self)
  | stderr => exact List.mem_singleton_self _
  | exited | failed => cases h

theorem handleEvent_upserts {event : RuntimeEvent} (h : event.isFinal = true) :
    .upsertAgent false false ∈ handleEvent event := by
  cases event with
  | exited | failed => simp [handleEvent, persistSnapshot]
  | frame | stderr => cases h

/-- What a bridge of `r` does at its receiver. -/
inductive Receives (world : World δ) (t : TaskId) (r : RuntimeId) (rest : List Op) :
    World δ → Prop where
  | waits : Receives world t r rest world
  | value (event : RuntimeEvent) :
    (world.runtime r).events.recv (world.tasks t).next = .value event →
    Receives world t r rest (world.setTask t { world.tasks t with
      next := (world.tasks t).next + 1, todo := handleEvent event ++ rest })
  | lagged (next : Nat) :
    (world.runtime r).events.recv (world.tasks t).next = .lagged next →
    Receives world t r rest ((world.setRuntime r { world.runtime r with
        missed := (world.runtime r).missed ||
          !(frames ((world.runtime r).events.skipped (world.tasks t).next next)).isEmpty }).setTask t
      { world.tasks t with next, todo := handleLag ++ rest })
  | closed : (world.runtime r).events.recv (world.tasks t).next = .closed →
    Receives world t r rest (world.setTask t { world.tasks t with todo := rest })

theorem TaskStep.receive (h : TaskStep setup world t answer .receive rest world')
    (hbridge : (world.tasks t).bridge = some r) : Receives world t r rest world' := by
  cases h with
  | waits => exact .waits
  | fails task store hfails =>
    rw [attempt_ofBridge rfl (by rw [hbridge]; rfl)] at hfails
    cases hfails
  | receives r' event _ hbridge' hrecv =>
    cases hbridge.symm.trans hbridge'
    exact .value event hrecv
  | lags r' next _ hbridge' hrecv =>
    cases hbridge.symm.trans hbridge'
    exact .lagged next hrecv
  | closes r' _ hbridge' hrecv =>
    cases hbridge.symm.trans hbridge'
    exact .closed hrecv
  | calls _ _ _ hcommand => cases hcommand
  | goesOn _ hsilent => cases hsilent
  | pushes _ hpushes => cases hpushes
  | finds _ hfinds => rcases hfinds with h | h <;> cases h
  | locks h | spawns _ h | creates h | inserts h | bridges h | takes _ h | gets _ h | removes _ h
  | upserts _ _ _ h => cases h

theorem TaskStep.spawnEventBridge
    (h : TaskStep setup world t answer .spawnEventBridge rest world') :
    world' = world ∨ world' = (world.setTask t { world.tasks t with todo := rest }).addTask
      (world.tasks t).eventBridge := by
  cases h with
  | waits => exact .inl rfl
  | bridges => exact .inr rfl
  | fails task store hfails => cases hfails
  | calls _ _ _ hcommand => cases hcommand
  | goesOn _ hsilent => cases hsilent
  | pushes _ hpushes => cases hpushes
  | finds _ hfinds => rcases hfinds with h | h <;> cases h
  | locks h | spawns _ h | creates h | inserts h | takes _ h | gets _ h | removes _ h
  | upserts _ _ _ h | receives _ _ h | lags _ _ h | closes _ h => cases h

/-- The bridge is the task that a launch adds. -/
theorem tasks_eventBridge (rest : List Op) :
    ((world.setTask t { world.tasks t with todo := rest }).addTask
      (world.tasks t).eventBridge).tasks world.nextTask = (world.tasks t).eventBridge :=
  Function.update_self ..

end Bridge

/-! ## The bridge of a runtime -/

section Attended

variable {setup : Setup} {world world' : World δ} {t : TaskId} {answer : Answer} {op : Op}
  {rest : List Op}

/-- The task is the bridge of the runtime, or the launch that spawns it next. -/
def World.Attends (world : World δ) (t : TaskId) (r : RuntimeId) : Prop :=
  ((world.tasks t).bridge = some r ∧ .receive ∈ (world.tasks t).todo) ∨
  (world.tasks t).runtime = some r ∧ (world.tasks t).todo = [.spawnEventBridge]

/-- A runtime in the map has one until it ends. -/
def Attended (world : World δ) : Prop :=
  ∀ r, world.runtimes = some r → (world.runtime r).actor.phase ≠ .ended →
    ∃ t, t < world.nextTask ∧ world.Attends t r

theorem TaskStep.runtimes_cases (h : TaskStep setup world t answer op rest world') :
    world'.runtimes = world.runtimes ∨ world'.runtimes = none ∨
      op = .insertRuntime ∧ world'.runtimes = (world.tasks t).runtime ∧
        world'.tasks = Function.update world.tasks t { world.tasks t with todo := rest } := by
  cases h with
  | calls actor command task =>
    rw [noteRecorded_eq]
    exact .inl rfl
  | inserts hop => exact .inr (.inr ⟨hop, rfl, rfl⟩)
  | locks | takes => exact .inr (.inl rfl)
  | waits | fails | goesOn | pushes | spawns | finds | creates | bridges | gets | removes | upserts
  | receives | lags | closes => exact .inl rfl

/-- A bridge stops listening only when its runtime has ended. -/
theorem World.Attends.receive (hsound : Sound world)
    (htodo : (world.tasks t).todo = .receive :: rest) {r : RuntimeId}
    (hbridge : (world.tasks t).bridge = some r)
    (hphase : (world.runtime r).actor.phase ≠ .ended)
    (hstep : TaskStep setup world t answer .receive rest world') : world'.Attends t r := by
  cases hstep.receive hbridge with
  | waits => exact .inl ⟨hbridge, by rw [htodo]; exact List.mem_cons_self⟩
  | value event hrecv =>
    have hgoesOn : event.isFinal = false := by
      refine (hsound.orderly r).goesOn hphase event (List.mem_append_left _ ?_)
      exact List.mem_of_getElem? (Broadcast.recv_value_get hrecv)
    rw [Attends, World.tasks_setTask_self]
    exact .inl ⟨hbridge, List.mem_append_left _ (handleEvent_goesOn hgoesOn)⟩
  | lagged next hrecv =>
    rw [Attends, World.tasks_setTask_self]
    exact .inl ⟨hbridge, List.mem_append_left _ (by decide)⟩
  | closed hrecv =>
    exact absurd ((hsound.orderly r).closed (Broadcast.recv_closed hrecv)).1 hphase

theorem World.Attends.task {r : RuntimeId} (h : world.Attends t r) (hsound : Sound world)
    (hbridging : world.Bridging) (htodo : (world.tasks t).todo = op :: rest)
    (hphase : (world.runtime r).actor.phase ≠ .ended)
    (hstep : TaskStep setup world t answer op rest world') :
    ∃ u, u < world'.nextTask ∧ world'.Attends u r := by
  have ht := Nat.lt_of_lt_of_le (hsound.allocated htodo) hstep.nextTask_le
  rcases h with ⟨hbridge, hreceive⟩ | ⟨hruntime, hspawns⟩
  · have hop : op.ofBridge = true := by
      refine hbridging t r hbridge op ?_
      rw [htodo]
      exact List.mem_cons_self
    rw [htodo] at hreceive
    rcases List.mem_cons.mp hreceive with rfl | hrest
    · exact ⟨t, ht, .receive hsound htodo hbridge hphase hstep⟩
    · refine ⟨t, ht, .inl ⟨(hstep.bridge_eq (hsound.allocated htodo)).trans hbridge, ?_⟩⟩
      rcases hstep.todo (hsound.allocated htodo) with rfl | ⟨-, hfails⟩ | ⟨ops, -, hmore⟩
      · rw [htodo]
        exact hreceive
      · rw [attempt_ofBridge hop (by rw [hbridge]; rfl)] at hfails
        cases hfails
      · rw [hmore]
        exact List.mem_append_right _ hrest
  · rw [htodo] at hspawns
    obtain ⟨rfl, rfl⟩ := List.cons.inj hspawns
    rcases hstep.spawnEventBridge with rfl | rfl
    · exact ⟨t, ht, .inr ⟨hruntime, htodo⟩⟩
    · refine ⟨world.nextTask, Nat.lt_succ_self _, ?_⟩
      rw [Attends, tasks_eventBridge]
      exact .inl ⟨hruntime, List.mem_singleton_self _⟩

theorem Attended.task (h : Attended world) (hsound : Sound world) (hbridging : world.Bridging)
    (htidy : AllTidy world) (htodo : (world.tasks t).todo = op :: rest)
    (hstep : TaskStep setup world t answer op rest world') : Attended world' := by
  have ht := Nat.lt_of_lt_of_le (hsound.allocated htodo) hstep.nextTask_le
  intro r hentry hphase
  have hbefore : world.runtimes = some r → ∃ u, u < world'.nextTask ∧ world'.Attends u r := by
    intro hold
    have hsame := hstep.same (hsound.entry r hold)
    rw [hsame.actor] at hphase
    obtain ⟨u, hlt, hattends⟩ := h r hold hphase
    by_cases hu : u = t
    · subst hu
      exact hattends.task hsound hbridging htodo hphase hstep
    · refine ⟨u, Nat.lt_of_lt_of_le hlt hstep.nextTask_le, ?_⟩
      rcases hstep.todo_other hu with hkept | ⟨rfl, -, -⟩
      · rw [World.Attends, hkept]
        exact hattends
      · exact absurd hlt (Nat.lt_irrefl _)
  rcases hstep.runtimes_cases with hkept | hnone | ⟨rfl, hinserted, htasks⟩
  · exact hbefore (hkept.symm.trans hentry)
  · rw [hnone] at hentry
    cases hentry
  · -- the launch is about to spawn the bridge
    refine ⟨t, ht, .inr ?_⟩
    have hhead := htidy t
    rw [htodo, tidy_cons] at hhead
    rw [htasks, Function.update_self]
    exact ⟨hinserted.symm.trans hentry, hhead.spawns rfl⟩

/-- A runtime that has ended stays so. -/
theorem step_ended {runtime : RuntimeActor} (h : runtime.phase = .ended) (input : RuntimeInput) :
    (runtime.step input).2.phase = .ended := by
  rw [RuntimeActor.step_after_end h]
  exact h

theorem Attended.step (h : Attended world) (hsound : Sound world) (hbridging : world.Bridging)
    (htidy : AllTidy world) (setup : Setup) (input : Input) :
    Attended (world.step setup input) := by
  -- a runtime that does not come back to life is attended as before
  have hset : ∀ r (runtime : OmpRuntime),
      (runtime.actor.phase ≠ .ended → (world.runtime r).actor.phase ≠ .ended) →
      Attended (world.setRuntime r runtime) := by
    intro r runtime hgoesOn r' hentry hphase
    refine h r' hentry ?_
    replace hphase : (Function.update world.runtime r runtime r').actor.phase ≠ .ended := hphase
    by_cases hr : r' = r
    · subst hr
      rw [Function.update_self] at hphase
      exact hgoesOn hphase
    · rwa [Function.update_of_ne hr] at hphase
  cases input with
  | request request =>
    simp only [World.step]
    split
    · intro r hentry hphase
      obtain ⟨t, hlt, hattends⟩ := h r hentry hphase
      have htask : (world.addTask (.new request.script)).tasks t = world.tasks t :=
        Function.update_of_ne (Nat.ne_of_lt hlt) _ _
      refine ⟨t, Nat.lt_succ_of_lt hlt, ?_⟩
      rw [World.Attends, htask]
      exact hattends
    · exact h
  | task t answer =>
    show Attended (world.stepTask setup t answer)
    cases htodo : (world.tasks t).todo with
    | nil =>
      unfold World.stepTask
      rw [htodo]
      exact h
    | cons op rest => exact h.task hsound hbridging htidy htodo (stepTask_cases htodo)
  | runtime r input => exact hset r _ fun hgoesOn hended => hgoesOn (step_ended hended input)
  | publish r =>
    refine hset r _ ?_
    unfold OmpRuntime.publish
    split
    · exact id
    · exact id
  | stderr r text =>
    simp only [World.step]
    split
    · exact hset r _ id
    · exact h
  | close r =>
    simp only [World.step]
    split
    · exact hset r _ id
    · exact h
  | actor actor input =>
    simp only [World.step]
    split
    · exact h
    · exact h
  | restart nowMs fault =>
    -- after a restart the map is empty, so there is nothing to attend to
    have hnone : (world.restart setup nowMs fault).runtimes = none := by
      unfold World.restart
      dsimp only
      split
      · rfl
      split
      · rfl
      · rfl
    intro r hentry
    rw [show (world.step setup (.restart nowMs fault)).runtimes = none from hnone] at hentry
    cases hentry

end Attended

end OmpRemote.Ompd.Supervision

import OmpRemote.Ompd.TodoOrder

/-!
# How prompts fail

A prompt creates its run, sets the lifecycle, writes the row and calls OMP. If the call
itself fails, the request reads the snapshot and fails the run that is active there.
Every other error ends the request as it is.

- `law_startsPrompt`: what a prompt does once it has created its run.
- `World.refuses`, `step_prompt`: how it gets on, and which errors end it.
- `World.Tended`: the condition that every error is about a run that is over, and that
  a request fails no run but its own.
- `failed_prompts_end`: then a prompt that returns an error has ended its run, and has
  left the others alone.
- `rejected_prompt_runs_on`, `failed_prompt_ends_another`: two that do not.
-/

namespace OmpRemote.Ompd.Supervision

open ControlPlane Lib Rpc OmpRemote.Runtime

variable {δ : Type}

/-! ## The operations of a prompt -/

/-- What a prompt does once it has created its run. -/
def promptTail : List Op :=
  [setLifecycle true .running, .processId] ++ persistSnapshot true true ++ [.prompt]

/-- What it does after failing the active run. -/
def failedTail : List Op := setLifecycle false .idle :: persistSnapshot false false

/-- Runs are created by prompts. -/
def StartsPrompt (todo : List Op) : Prop := ∀ rest, .startRun :: rest <:+ todo → rest = promptTail

/-- A suffix that begins with none of the operations before it. -/
theorem suffix_of_append {op : Op} {tail ops rest : List Op} (hop : op ∉ ops)
    (h : op :: tail <:+ ops ++ rest) : op :: tail <:+ rest := by
  induction ops with
  | nil => exact h
  | cons head ops ih =>
    rw [List.mem_cons, not_or] at hop
    rcases List.suffix_cons_iff.mp h with heq | hsuffix
    · exact absurd (List.cons.inj heq).1 hop.1
    · exact ih hop.2 hsuffix

theorem Adds.startRun {op : Op} {ops : List Op} (h : Adds op ops) : .startRun ∉ ops := by
  cases h with
  | nothing => exact List.not_mem_nil
  | pushes hpushes => cases hpushes <;> simp [failActiveRun, setLifecycle, persistSnapshot]
  | event event =>
    intro hmem
    have hbridge := ofBridge_handleEvent event _ hmem
    cases hbridge
  | lag => decide
  | removed => simp

theorem law_startsPrompt : TodoLaw StartsPrompt where
  request := by
    intro request rest hsuffix
    cases request <;>
      simp [Request.script, launch, stop, shutdownController, setLifecycle, persistSnapshot,
        List.suffix_cons_iff] at hsuffix
    exact hsuffix
  done := by
    intro rest hsuffix
    cases List.suffix_nil.mp hsuffix
  receive := by
    intro rest hsuffix
    simp [List.suffix_cons_iff] at hsuffix
  adds := by
    intro op ops rest h hadds tail hsuffix
    exact h tail ((suffix_of_append hadds.startRun hsuffix).trans (List.suffix_cons op rest))

/-- Where a prompt is that has created its run; `ended` says that the run is over. -/
inductive Prompting (ended : Prop) : List Op → Prop where
  | calls {todo : List Op} : todo <:+ promptTail → Prompting ended todo
  /-- It is about to look which run is active. -/
  | reads (reason : String) : Prompting ended (failActiveRun reason)
  /-- It is about to fail the run it has seen. -/
  | writes (reason : String) : Prompting ended (.endRun false (.failed reason) :: failedTail)
  | failed {todo : List Op} : ended → todo <:+ failedTail → Prompting ended todo

/-- The operations of such a prompt, but for the call of OMP. -/
def Op.ofPrompt : Op → Bool
  | .change _ (.lifecycleChanged _) | .processId | .snapshot _ | .upsertAgent .. => true
  | .endRun strict lifecycle => !strict && lifecycle.isTerminal
  | _ => false

section Stages

variable {ended ended' : Prop} {op : Op} {todo rest : List Op}

/-- The call is the last thing a prompt does, unless it fails. -/
theorem Prompting.cases (h : Prompting ended (op :: rest)) :
    op.ofPrompt = true ∨ op = .prompt ∧ rest = [] := by
  have hall : ∀ reason, ∀ op ∈ failActiveRun reason, op.ofPrompt = true := by
    intro reason op hmem
    simp only [failActiveRun, persistSnapshot, List.cons_append, List.nil_append, List.mem_cons,
      List.not_mem_nil, or_false] at hmem
    rcases hmem with rfl | rfl | rfl | rfl | rfl <;> rfl
  generalize htodo : op :: rest = todo at h
  cases h with
  | calls hsuffix =>
    subst htodo
    simp only [promptTail, persistSnapshot, List.cons_append, List.nil_append,
      List.suffix_cons_iff, List.suffix_nil, List.cons.injEq] at hsuffix
    rcases hsuffix with ⟨rfl, -⟩ | ⟨rfl, -⟩ | ⟨rfl, -⟩ | ⟨rfl, -⟩ | ⟨rfl, rfl⟩ | hnil
    · exact .inl rfl
    · exact .inl rfl
    · exact .inl rfl
    · exact .inl rfl
    · exact .inr ⟨rfl, rfl⟩
    · cases hnil
  | reads reason => exact .inl (hall reason op (htodo ▸ List.mem_cons_self))
  | writes reason =>
    cases htodo
    exact .inl rfl
  | failed _ hsuffix =>
    have hmem : op ∈ failedTail := hsuffix.subset (htodo ▸ List.mem_cons_self)
    exact .inl (hall "" op (List.mem_cons_of_mem _ (List.mem_cons_of_mem _ hmem)))

/-- It gets on to the next stage, or gives up; and if it has failed a run, it is its own. -/
theorem Prompting.next (h : Prompting ended (op :: rest)) (hkept : ended → ended')
    (hwrites : ∀ strict lifecycle, op = .endRun strict lifecycle → ended')
    (htodo : todo = [] ∨ todo = rest) : Prompting ended' todo := by
  rcases htodo with rfl | rfl
  · exact .calls (List.nil_suffix)
  generalize heq : op :: todo = before at h
  cases h with
  | calls hsuffix =>
    subst heq
    exact .calls ((List.suffix_cons op todo).trans hsuffix)
  | reads reason =>
    obtain ⟨-, rfl⟩ := List.cons.inj heq
    exact .writes reason
  | writes reason =>
    obtain ⟨rfl, rfl⟩ := List.cons.inj heq
    exact .failed (hwrites _ _ rfl) List.suffix_rfl
  | failed hended hsuffix =>
    subst heq
    exact .failed (hkept hended) ((List.suffix_cons op todo).trans hsuffix)

theorem Prompting.mono (h : Prompting ended todo) (hkept : ended → ended') :
    Prompting ended' todo := by
  cases h with
  | calls hsuffix => exact .calls hsuffix
  | reads reason => exact .reads reason
  | writes reason => exact .writes reason
  | failed hended hsuffix => exact .failed (hkept hended) hsuffix

/-- A prompt that has done its last operation has called OMP, or its run is over. -/
theorem Prompting.last (h : Prompting ended [op]) : op = .prompt ∨ ended := by
  generalize heq : [op] = todo at h
  cases h with
  | calls hsuffix =>
    subst heq
    refine .inl ?_
    simpa [promptTail, setLifecycle, persistSnapshot, List.suffix_cons_iff] using hsuffix
  | reads | writes => cases heq
  | failed hended => exact .inr hended

end Stages

/-! ## A step of a prompt -/

section Steps

variable (setup : Setup) {world : World δ} {t : TaskId} {answer : Answer} {op : Op}
  {rest : List Op} {actor : ActorId}

/-- The actor, the store or OMP refuses what an operation asks for. -/
def World.refuses (world : World δ) (task : Task) (answer : Answer) : Op → Bool
  | .change strict change => strict && task.agent.any fun actor =>
    !(world.actors actor).running ||
      (world.actors actor).snapshot.wouldChange change && !(world.actors actor).hasRoom
  | .snapshot strict => strict && task.agent.any fun actor => !(world.actors actor).running
  | .upsertAgent strict active => strict && !task.snapshot.any fun snapshot =>
    (Ompd.persistSnapshot world.store setup.agentId snapshot
      (if active then task.processId else none) (if active then task.runId else none)
      answer.nowMs answer.fault).1.isOk
  | .prompt =>
    match answer.reply with
    | .ok (.error ..) => true
    | _ => false
  | _ => false

/-- What is left of a task after an operation of a prompt. -/
structure Task.GoesOn (task task' : Task) (todo : List Op) : Prop where
  todo : task'.todo = todo
  runId : task'.runId = task.runId
  agent : task'.agent = task.agent

/-- An operation fails if it is refused. -/
theorem attempt_ofPrompt (answer : Answer) (rest : List Op) (hop : op.ofPrompt = true)
    (hagent : (world.tasks t).agent = some actor) :
    ((world.attempt setup t answer op rest).1 = false →
      world.refuses setup (world.tasks t) answer op = true) ∧
      (world.tasks t).GoesOn ((world.attempt setup t answer op rest).2.tasks t) rest := by
  -- an operation that calls an actor fails exactly if the turn does and the operation is strict
  have hcall : ∀ command, ({ world.tasks t with todo := rest } : Task).command answer op =
      some (actor, command) → op ≠ .startRun →
      (world.attempt setup t answer op rest).1 =
          (((world.actors actor).turn (.command command)).1.succeeds || !op.strict) ∧
        (world.tasks t).GoesOn ((world.attempt setup t answer op rest).2.tasks t) rest := by
    intro command hcommand hstart
    unfold World.attempt
    dsimp only
    rw [hcommand]
    refine ⟨rfl, ?_⟩
    dsimp only
    rw [call_eq, World.tasks_setTask_self]
    cases op with
    | startRun => exact absurd rfl hstart
    | _ => exact ⟨rfl, rfl, rfl⟩
  cases op with
  | change strict change =>
    obtain ⟨hok, hgoesOn⟩ := hcall (.change change) (by simp [Task.command, hagent]) (by rintro ⟨⟩)
    refine ⟨fun hfails => ?_, hgoesOn⟩
    rw [hok, Bool.or_eq_false_iff] at hfails
    have hrefused := ActorState.turn_change_refused hfails.1
    have hstrict : strict = true := by simpa [Op.strict] using hfails.2
    rcases hrefused.2 with hstopped | hwould
    · simp [World.refuses, hagent, hstrict, hstopped]
    · simp [World.refuses, hagent, hstrict, hrefused.1, hwould]
  | snapshot strict =>
    obtain ⟨hok, hgoesOn⟩ := hcall .snapshot (by simp [Task.command, hagent]) (by rintro ⟨⟩)
    refine ⟨fun hfails => ?_, hgoesOn⟩
    rw [hok, Bool.or_eq_false_iff] at hfails
    have hstrict : strict = true := by simpa [Op.strict] using hfails.2
    cases hrunning : (world.actors actor).running with
    | false => simp [World.refuses, hagent, hstrict, hrunning]
    | true =>
      have hreply := hfails.1
      unfold ActorState.turn at hreply
      rw [if_neg (by simp [hrunning])] at hreply
      cases hreply
  | endRun strict lifecycle =>
    -- ending a run is never strict in a prompt, so it cannot fail
    obtain ⟨hstrict, -⟩ : strict = false ∧ lifecycle.isTerminal = true := by
      simpa [Op.ofPrompt] using hop
    cases hcommand : ({ world.tasks t with todo := rest } : Task).command answer
        (.endRun strict lifecycle) with
    | none =>
      -- a task with no run to end has no command
      unfold World.attempt
      dsimp only
      rw [hcommand]
      refine ⟨by rintro ⟨⟩, ?_⟩
      dsimp only [World.perform]
      rw [World.tasks_setTask_self]
      exact ⟨rfl, rfl, rfl⟩
    | some call =>
      obtain ⟨called, command⟩ := call
      have hcalled : called = actor := by
        rcases command_cases hcommand with ⟨hown, -⟩ | ⟨hshutdown, -⟩
        · exact Option.some.inj (hown.symm.trans hagent)
        · cases hshutdown
      subst hcalled
      obtain ⟨hok, hgoesOn⟩ := hcall command hcommand (by rintro ⟨⟩)
      refine ⟨fun hfails => ?_, hgoesOn⟩
      rw [hok] at hfails
      simp [Op.strict, hstrict] at hfails
  | processId =>
    refine ⟨by rintro ⟨⟩, ?_⟩
    show Task.GoesOn _ ((world.setTask t _).tasks t) rest
    rw [World.tasks_setTask_self]
    exact ⟨rfl, rfl, rfl⟩
  | upsertAgent strict active =>
    unfold World.attempt
    dsimp only [Task.command, World.perform]
    cases hsnapshot : (world.tasks t).snapshot with
    | none =>
      dsimp only
      rw [World.tasks_setTask_self]
      exact ⟨fun hfails => by simpa [World.refuses, hsnapshot] using hfails, rfl, rfl, rfl⟩
    | some snapshot =>
      refine ⟨fun hfails => ?_, ?_⟩
      · rw [Bool.or_eq_false_iff] at hfails
        simp only [World.refuses, hsnapshot, Option.any_some, hfails.1]
        simpa using hfails.2
      · show Task.GoesOn _ ((world.setTask t _).tasks t) rest
        rw [World.tasks_setTask_self]
        exact ⟨rfl, rfl, rfl⟩
  | _ => cases hop

/-- OMP has accepted the prompt. -/
def Answer.accepts (answer : Answer) : Bool :=
  match answer.reply with
  | .ok (.success ..) => true
  | _ => false

/-- What a prompt does at a step: it is refused something and gives up, or goes on, or
is about to fail the active run because the call has failed. -/
theorem step_prompt (answer : Answer) {ended : Prop} (hprompting : Prompting ended (op :: rest))
    (htodo : (world.tasks t).todo = op :: rest) (hagent : (world.tasks t).agent = some actor) :
    ((world.step setup (.task t answer)).tasks t).todo = [] ∧
        world.refuses setup (world.tasks t) answer op = true ∨
      (world.tasks t).GoesOn ((world.step setup (.task t answer)).tasks t) rest ∧
        (op = .prompt → answer.accepts = true) ∨
      op = .prompt ∧ ∃ error : RequestError,
        (world.tasks t).GoesOn ((world.step setup (.task t answer)).tasks t)
          (failActiveRun error.message) := by
  simp only [World.step, World.stepTask, htodo, World.resolve]
  rcases hprompting.cases with hop | ⟨rfl, rfl⟩
  · obtain ⟨hrefused, hgoesOn⟩ :=
      attempt_ofPrompt setup answer rest hop hagent
    split
    · refine .inr (.inl ⟨hgoesOn, ?_⟩)
      rintro rfl
      cases hop
    · rename_i hfails
      refine .inl ⟨?_, hrefused (Bool.eq_false_iff.mpr hfails)⟩
      rw [World.fail, World.tasks_setTask_self]
  · have hattempt : ∀ {attempted}, world.perform setup t { world.tasks t with todo := [] } answer
        .prompt = attempted → world.attempt setup t answer .prompt [] = attempted := fun h => h
    cases hreply : answer.reply with
    | error error =>
      have hfails : world.attempt setup t answer .prompt [] = (true, world.setTask t
          { world.tasks t with todo := failActiveRun error.message ++ [] }) :=
        hattempt (by simp only [World.perform, hreply])
      refine .inr (.inr ⟨rfl, error, ?_⟩)
      rw [hfails, if_pos rfl, World.tasks_setTask_self]
      exact ⟨List.append_nil _, rfl, rfl⟩
    | ok response =>
      cases response with
      | success id result =>
        have haccepted : world.attempt setup t answer .prompt [] =
            (true, world.setTask t { world.tasks t with todo := [] }) :=
          hattempt (by simp only [World.perform, hreply])
        refine .inr (.inl ⟨?_, fun _ => by rw [Answer.accepts, hreply]⟩)
        rw [haccepted, if_pos rfl, World.tasks_setTask_self]
        exact ⟨rfl, rfl, rfl⟩
      | error =>
        have hrefused : world.attempt setup t answer .prompt [] = (false, world) :=
          hattempt (by simp only [World.perform, hreply])
        refine .inl ⟨?_, by simp only [World.refuses, hreply]⟩
        rw [hrefused, if_neg (by simp), World.fail, World.tasks_setTask_self]

/-- A task has created no run, or is left alone, or makes a step. -/
theorem step_tasks (world : World δ) (input : Input) (b : TaskId) :
    ((world.step setup input).tasks b).runId = none ∨
      (world.step setup input).tasks b = world.tasks b ∨
      ∃ answer op rest, input = .task b answer ∧ (world.tasks b).todo = op :: rest := by
  have hstep := step_cases setup world input
  generalize world.step setup input = world' at hstep
  cases hstep with
  | @turns t answer op rest _ htodo hturn =>
    by_cases hb : b = t
    · subst hb
      exact .inr (.inr ⟨answer, op, rest, rfl, htodo⟩)
    · rcases hturn.todo_other hb with hsame | ⟨-, -, hnew⟩
      · exact .inr (.inl hsame)
      · rw [hnew]
        exact .inl rfl
  | keeps htasks =>
    rw [htasks]
    exact .inr (.inl rfl)
  | joins hjoins =>
    rw [hjoins]
    by_cases hb : b = world.nextTask
    · refine .inl ?_
      show (Function.update world.tasks world.nextTask _ b).runId = none
      rw [hb, Function.update_self]
      rfl
    · exact .inr (.inl (Function.update_of_ne hb _ _))
  | restarts htasks =>
    rw [htasks]
    exact .inl rfl

/-! ## Tended prompts -/

/-- A run that a step makes the active one is not over yet. -/
def World.StartsNew (world : World δ) (input : Input) : Prop :=
  ∀ upsert ∈ world.upserts input, (world.actors upsert.1).hasRoom = true →
    upsert.2.lifecycle.isTerminal = false →
      ¬ (world.actors upsert.1).snapshot.Ended upsert.2.runId

instance (world : World δ) (input : Input) : Decidable (world.StartsNew input) :=
  inferInstanceAs (Decidable (∀ upsert ∈ world.upserts input, _))

/-- The run that the task has seen as the active one. -/
def Task.seenRun (task : Task) : Option RunSnapshot := task.snapshot.bind AgentSnapshot.activeRun

def Op.endsRun : Op → Bool
  | .endRun .. => true
  | _ => false

/-- A task that has created the run `runId` gives up only when the run is over. When it
fails a run, it is that one; and if it fails none, that one is over. -/
def World.TendsRun (world : World δ) (task : Task) (answer : Answer) (actor : ActorId)
    (runId : RunId) (op : Op) : Prop :=
  (world.refuses setup task answer op = true → (world.actors actor).snapshot.Ended runId) ∧
  (op.endsRun = true →
    ((world.actors actor).hasRoom = true → ∀ run ∈ task.seenRun, run.runId = runId) ∧
    ((world.actors actor).hasRoom = false ∨ task.seenRun = none →
      (world.actors actor).snapshot.Ended runId))

instance (world : World δ) (task : Task) (answer : Answer) (actor : ActorId) (runId : RunId)
    (op : Op) : Decidable (world.TendsRun setup task answer actor runId op) :=
  inferInstanceAs (Decidable ((_ → _) ∧ (_ → _)))

/-- A prompt whose step it is tends its run, and no prompt draws the id of an old run. -/
def World.Tended (world : World δ) (input : Input) : Prop :=
  world.StartsNew input ∧
  match input with
  | .task t answer =>
    ∀ runId ∈ (world.tasks t).runId, ∀ actor ∈ (world.tasks t).agent,
      ∀ op ∈ (world.tasks t).todo.head?,
        world.TendsRun setup (world.tasks t) answer actor runId op
  | _ => True

instance (world : World δ) (input : Input) : Decidable (world.Tended setup input) := by
  unfold World.Tended
  cases input <;> infer_instance

/-! ## What becomes of the run -/

theorem TaskStep.createsRun {world' : World δ} (h : TaskStep setup world t answer op rest world')
    (htodo : (world.tasks t).todo = op :: rest) (hlt : t < world.nextTask)
    (hworld : world.step setup (.task t answer) = world') :
    (world'.tasks t).todo = [] ∨ (world'.tasks t).runId = (world.tasks t).runId ∨
      op = .startRun ∧ (world'.tasks t).todo = rest ∧ (world.tasks t).agent.isSome ∧
        (world'.tasks t).agent = (world.tasks t).agent := by
  have hset : ∀ task : Task, task.runId = (world.tasks t).runId →
      (Function.update world.tasks t task t).runId = (world.tasks t).runId := by
    intro task htask
    rw [Function.update_self]
    exact htask
  cases h with
  | waits => exact .inr (.inl rfl)
  | fails task store _ hnone =>
    refine .inl ?_
    show (Function.update world.tasks t task t).todo = []
    rw [Function.update_self]
    exact hnone
  | calls actor command task hcommand hok =>
    rw [← hworld, (step_call setup htodo hcommand).2 hok]
    cases op with
    | startRun =>
      refine .inr (.inr ⟨rfl, rfl, ?_, rfl⟩)
      rcases command_cases hcommand with ⟨hagent, -⟩ | ⟨hshutdown, -⟩
      · exact Option.isSome_iff_exists.mpr ⟨actor, hagent⟩
      · cases hshutdown
    | _ => exact .inr (.inl rfl)
  | bridges =>
    refine .inr (.inl ?_)
    show (Function.update (Function.update world.tasks t _) world.nextTask _ t).runId = _
    rw [Function.update_of_ne (Nat.ne_of_lt hlt)]
    exact hset _ rfl
  | goesOn | pushes | locks | spawns | finds | creates | inserts | takes | gets | removes
  | upserts | receives | lags | closes => exact .inr (.inl (hset _ rfl))

/-- A run that is over stays so. -/
theorem Followed.keepsOver (h : Followed world) {input : Input} (hnew : world.StartsNew input)
    {runId : RunId} (hended : (world.actors actor).snapshot.Ended runId) :
    ((world.step setup input).actors actor).snapshot.Ended runId := by
  rcases step_runs setup h.scripted h.unused input actor with
    hsame | ⟨run, hupserts, hroom, hchanged⟩
  · rw [AgentSnapshot.Ended, hsame.recentRuns]
    exact hended
  · rw [AgentSnapshot.Ended, hchanged.recentRuns]
    refine hended.upsert fun hgoesOn hid => ?_
    exact hnew _ hupserts hroom hgoesOn (hid ▸ hended)

/-- After a request has failed a run, its own one is over. -/
theorem Followed.endsOwn (h : Followed world) {runId : RunId} {strict : Bool}
    {lifecycle : RunLifecycle} (htended : world.Tended setup (.task t answer))
    (htodo : (world.tasks t).todo = .endRun strict lifecycle :: rest)
    (hends : lifecycle.isTerminal = true) (hrun : (world.tasks t).runId = some runId)
    (hagent : (world.tasks t).agent = some actor) :
    ((world.step setup (.task t answer)).actors actor).snapshot.Ended runId := by
  obtain ⟨hnew, htends⟩ := htended
  obtain ⟨hown, hnone⟩ := (htends runId hrun actor hagent _ (by rw [htodo]; rfl)).2 rfl
  cases hroom : (world.actors actor).hasRoom with
  | false => exact h.keepsOver setup hnew (hnone (.inl hroom))
  | true =>
    cases hseen : (world.tasks t).seenRun with
    | none => exact h.keepsOver setup hnew (hnone (.inr hseen))
    | some run =>
      obtain ⟨snapshot, hsnapshot, hactive⟩ := Option.bind_eq_some_iff.mp hseen
      have hcommand : ({ world.tasks t with todo := rest } : Task).command answer
          (.endRun strict lifecycle) = some (actor, .change (.runUpserted
            { run with lifecycle, endedAtMs := some answer.nowMs })) := by
        simp [Task.command, hagent, hsnapshot, hactive]
      have hchanged := ActorState.turn_change_ok hroom (.runUpserted
        { run with lifecycle, endedAtMs := some answer.nowMs })
      rw [(step_call setup htodo hcommand).1, Function.update_self, AgentSnapshot.Ended,
        hchanged.recentRuns, ← hown hroom run hseen]
      exact AgentSnapshot.ended_upsert hends

/-- Where the prompts are that have created a run. -/
structure Tending (world : World δ) : Prop where
  followed : Followed world
  once : world.RunsOnce
  starts : ∀ t, StartsPrompt (world.tasks t).todo
  prompts : ∀ t runId, (world.tasks t).runId = some runId → (world.tasks t).todo ≠ [] →
    ∃ actor, (world.tasks t).agent = some actor ∧
      Prompting ((world.actors actor).snapshot.Ended runId) (world.tasks t).todo

theorem tending_create (store : Store δ) : Tending (World.create setup store) where
  followed := followed_create setup store
  once := fun _ => AgentSnapshot.runsOnce_of_no_runs rfl rfl
  starts := fun _ => law_startsPrompt.done
  prompts := fun _ _ hrun => by cases hrun

/-- The step lemma. -/
theorem Tending.step (h : Tending world) {input : Input} (htended : world.Tended setup input) :
    Tending (world.step setup input) where
  followed := h.followed.step setup input
  once := h.followed.runsOnce setup h.once input
  starts := law_startsPrompt.step setup h.starts h.followed.sound input
  prompts := by
    intro b runId hrun hgoesOn
    rcases step_tasks setup world input b with hnone | hsame | ⟨answer, op, rest, rfl, htodo⟩
    · rw [hnone] at hrun
      cases hrun
    · rw [hsame] at hrun hgoesOn ⊢
      obtain ⟨actor, hagent, hprompting⟩ := h.prompts b runId hrun hgoesOn
      exact ⟨actor, hagent, hprompting.mono (h.followed.keepsOver setup htended.1)⟩
    have hbefore : (world.tasks b).todo ≠ [] := by
      rw [htodo]
      exact List.cons_ne_nil op rest
    have hstep : TaskStep setup world b answer op rest (world.step setup (.task b answer)) :=
      stepTask_cases htodo
    rcases hstep.createsRun setup htodo (h.followed.sound.allocated htodo) rfl with
      hdone | hsame | ⟨rfl, hrest, hsome, hagent⟩
    · exact absurd hdone hgoesOn
    · -- it has created its run before
      rw [hsame] at hrun
      obtain ⟨actor, hagent, hprompting⟩ := h.prompts b runId hrun hbefore
      rw [htodo] at hprompting
      rcases step_prompt setup answer hprompting htodo hagent with
        ⟨hdone, -⟩ | ⟨hnext, -⟩ | ⟨rfl, error, hfails⟩
      · exact absurd hdone hgoesOn
      · refine ⟨actor, hnext.agent.trans hagent, ?_⟩
        rw [hnext.todo]
        refine hprompting.next (h.followed.keepsOver setup htended.1) ?_ (.inr rfl)
        rintro strict lifecycle rfl
        rcases hprompting.cases with hop | ⟨hop, -⟩
        · obtain ⟨-, hends⟩ := Bool.and_eq_true_iff.mp hop
          exact h.followed.endsOwn setup htended htodo hends hrun hagent
        · cases hop
      · refine ⟨actor, hfails.agent.trans hagent, ?_⟩
        rw [hfails.todo]
        exact .reads _
    · obtain ⟨actor, hactor⟩ := Option.isSome_iff_exists.mp hsome
      refine ⟨actor, hagent.trans hactor, ?_⟩
      have htail : rest = promptTail := h.starts b rest (by rw [htodo])
      rw [hrest, htail]
      exact .calls List.suffix_rfl

/-- The request ends at the step, and returns an error. -/
def World.ReturnsError (world : World δ) (t : TaskId) (answer : Answer) : Prop :=
  (world.tasks t).todo ≠ [] ∧ ((world.step setup (.task t answer)).tasks t).todo = [] ∧
    ((world.tasks t).todo.head? = some .prompt → answer.accepts = false)

/-- Every run but the one with the id is as it was, in all actors. -/
def World.KeepsOthers (world world' : World δ) (runId : RunId) : Prop :=
  ∀ actor run, run.runId ≠ runId →
    (run ∈ (world'.actors actor).snapshot.runs ↔ run ∈ (world.actors actor).snapshot.runs)

/-- A prompt changes no run but its own. -/
theorem Tending.keepsOthers (h : Tending world) (htended : world.Tended setup (.task t answer))
    {runId : RunId} (hrun : (world.tasks t).runId = some runId) :
    world.KeepsOthers (world.step setup (.task t answer)) runId := by
  intro other candidate hother
  rcases step_runs setup h.followed.scripted h.followed.unused (.task t answer) other with
    hsame | ⟨run, hupserts, hroom, hchanged⟩
  · rw [AgentSnapshot.mem_runs, AgentSnapshot.mem_runs, hsame.activeRun, hsame.recentRuns]
  obtain ⟨op, hhead, hop⟩ := Option.bind_eq_some_iff.mp hupserts
  obtain ⟨agent, hagent, hrest⟩ := Option.bind_eq_some_iff.mp hop
  obtain ⟨upserted, hupserted, heq⟩ := Option.bind_eq_some_iff.mp hrest
  cases heq
  obtain ⟨rest, htodo⟩ := List.head?_eq_some_iff.mp hhead
  obtain ⟨actor, hactor, hprompting⟩ := h.prompts t runId hrun (by rw [htodo]; nofun)
  cases hagent.symm.trans hactor
  rw [htodo] at hprompting
  rcases hprompting.cases with hofPrompt | ⟨rfl, -⟩
  · cases op with
    | endRun strict lifecycle =>
      obtain ⟨-, hends⟩ := Bool.and_eq_true_iff.mp hofPrompt
      obtain ⟨snapshot, hsnapshot, hended⟩ := Option.bind_eq_some_iff.mp hupserted
      obtain ⟨seen, hactive, heq⟩ := Option.bind_eq_some_iff.mp hended
      cases heq
      have hown : seen.runId = runId := by
        refine (htended.2 runId hrun other hagent _ hhead).2 rfl |>.1 hroom seen ?_
        exact Option.bind_eq_some_iff.mpr ⟨snapshot, hsnapshot, hactive⟩
      have hne : candidate ≠ { seen with lifecycle, endedAtMs := some answer.nowMs } := by
        rintro rfl
        exact hother hown
      rw [AgentSnapshot.mem_runs, hchanged.activeRun, hchanged.recentRuns, ← AgentSnapshot.mem_runs,
        AgentSnapshot.mem_runs_upsert, AgentSnapshot.mem_runs]
      constructor
      · rintro (heq | ⟨-, hrecent | ⟨-, hactive⟩⟩)
        · exact absurd heq hne
        · exact .inr hrecent
        · exact .inl hactive
      · rintro (hactive | hrecent)
        · exact .inr ⟨hown ▸ hother, .inr ⟨hends, hactive⟩⟩
        · exact .inr ⟨hown ▸ hother, .inl hrecent⟩
    | startRun => cases hofPrompt
    | _ => cases hupserted
  · cases hupserted

/-- When it returns an error, its run is over. -/
theorem Tending.ends (h : Tending world) (htended : world.Tended setup (.task t answer))
    {runId : RunId} (hrun : (world.tasks t).runId = some runId)
    (hagent : (world.tasks t).agent = some actor) (herror : world.ReturnsError setup t answer) :
    ((world.step setup (.task t answer)).actors actor).snapshot.Ended runId := by
  obtain ⟨hgoesOn, hdone, hprompt⟩ := herror
  obtain ⟨op, rest, htodo⟩ := List.exists_cons_of_ne_nil hgoesOn
  obtain ⟨actor', hactor, hprompting⟩ := h.prompts t runId hrun hgoesOn
  cases hagent.symm.trans hactor
  have hkept : (world.actors actor).snapshot.Ended runId →
      ((world.step setup (.task t answer)).actors actor).snapshot.Ended runId :=
    h.followed.keepsOver setup htended.1
  rw [htodo] at hprompting hprompt
  rcases step_prompt setup answer hprompting htodo hagent with
    ⟨-, hrefused⟩ | ⟨hnext, haccepts⟩ | ⟨rfl, error, hfails⟩
  · exact hkept ((htended.2 runId hrun actor hagent op (by rw [htodo]; rfl)).1 hrefused)
  · rw [← hnext.todo, hdone] at hprompting
    refine hkept (hprompting.last.resolve_left ?_)
    rintro rfl
    rw [hprompt rfl] at haccepts
    cases haccepts rfl
  · rw [hfails.todo] at hdone
    cases hdone

/-- **A failed prompt fails its own run**, as long as no error but that of the call itself
ends it while its run goes on, and the run it sees as active then is its own: when it
returns the error, its run is over and not the active one, and since it has created it,
it has left all others as they were. -/
theorem failed_prompts_end (store : Store δ) (inputs : List Input) (t : TaskId) (answer : Answer)
    (runId : RunId)
    (htended : Along (World.step setup) (World.Tended setup) (.create setup store)
      (inputs ++ [.task t answer])) :
    let before := run (World.step setup) (.create setup store) inputs
    let world := before.step setup (.task t answer)
    (before.tasks t).runId = some runId → (before.tasks t).todo ≠ [] →
      before.KeepsOthers world runId ∧
      ∃ actor, (before.tasks t).agent = some actor ∧ (before.ReturnsError setup t answer →
        (world.actors actor).snapshot.Ended runId ∧
        (world.actors actor).snapshot.isActive runId = false ∧
        ∀ run ∈ (world.actors actor).snapshot.runs, run.runId = runId →
          run.lifecycle.isTerminal = true) := by
  intro before world hrun hgoesOn
  obtain ⟨hearlier, hnow, -⟩ := along_append.mp htended
  have hbefore : Tending before :=
    run_invariant_along (fun _ _ h htended => h.step setup htended)
      (tending_create setup store) hearlier
  have hafter : world.RunsOnce := (hbefore.step setup hnow).once
  obtain ⟨actor, hagent, -⟩ := hbefore.prompts t runId hrun hgoesOn
  refine ⟨hbefore.keepsOthers setup hnow hrun, actor, hagent, fun herror => ?_⟩
  have hended := hbefore.ends setup hnow hrun hagent herror
  exact ⟨hended, (hafter actor).ended hended⟩

/-- An answer to a prompt whose call OMP refuses. -/
def rejectedAnswer : Answer :=
  { acceptedAnswer ⟨"first"⟩ 2 with reply := .ok (.error none "prompt" "busy" none) }

/-- A launched agent is prompted, and OMP is about to be called. -/
def beforeCall : List Input :=
  beforePrompt ++ List.replicate 5 (Input.task 2 (acceptedAnswer ⟨"first"⟩ 2))

/-- The call fails, and the request is about to end. -/
def callFailed : List Input := beforeCall ++ List.replicate 5 (Input.task 2 plainAnswer)

theorem failed_prompts_end_timeout :
    let before := plainRun callFailed
    let world := before.step plainSetup (.task 2 plainAnswer)
    (before.tasks 2).runId = some ⟨"first"⟩ ∧ before.ReturnsError plainSetup 2 plainAnswer ∧
      before.KeepsOthers world ⟨"first"⟩ ∧
      ∃ actor, (before.tasks 2).agent = some actor ∧ (before.ReturnsError plainSetup 2 plainAnswer →
        (world.actors actor).snapshot.Ended ⟨"first"⟩ ∧
        (world.actors actor).snapshot.isActive ⟨"first"⟩ = false ∧
        ∀ run ∈ (world.actors actor).snapshot.runs, run.runId = ⟨"first"⟩ →
          run.lifecycle.isTerminal = true) :=
  ⟨rfl, ⟨by decide +kernel, by decide +kernel, by decide +kernel⟩,
    failed_prompts_end plainSetup (.create ⟨"server"⟩) callFailed 2 plainAnswer ⟨"first"⟩
      (by decide +kernel) rfl (by decide +kernel)⟩

/-- OMP refuses the command. The request returns the error, and the run stays active. -/
theorem rejected_prompt_runs_on :
    let before := plainRun beforeCall
    let world := before.step plainSetup (.task 2 rejectedAnswer)
    (before.tasks 2).runId = some ⟨"first"⟩ ∧ before.ReturnsError plainSetup 2 rejectedAnswer ∧
      (world.actors 0).snapshot.isActive ⟨"first"⟩ = true ∧
      ¬ (world.actors 0).snapshot.Ended ⟨"first"⟩ ∧
      (world.actors 0).snapshot.lifecycle = .running :=
  ⟨rfl, ⟨by decide +kernel, by decide +kernel, by decide +kernel⟩, by decide +kernel,
    by decide +kernel, by decide +kernel⟩

/-- While OMP is called for a prompt another one comes, and is accepted. -/
def crossed : List Input :=
  beforeCall ++ [Input.request .prompt] ++
    List.replicate 8 (Input.task 3 (acceptedAnswer ⟨"second"⟩ 3)) ++
    List.replicate 2 (Input.task 2 plainAnswer)

/-- Then the call for the first one fails, and the request fails the run of the other. -/
theorem failed_prompt_ends_another :
    let before := plainRun crossed
    let world := before.step plainSetup (.task 2 plainAnswer)
    (before.tasks 2).runId = some ⟨"first"⟩ ∧
      (before.actors 0).snapshot.isActive ⟨"second"⟩ = true ∧
      (world.actors 0).snapshot.Ended ⟨"second"⟩ ∧ ¬ (world.actors 0).snapshot.Ended ⟨"first"⟩ :=
  ⟨rfl, by decide +kernel, by decide +kernel, by decide +kernel⟩

end Steps

end OmpRemote.Ompd.Supervision

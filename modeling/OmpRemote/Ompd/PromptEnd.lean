import Mathlib.Tactic.IntervalCases
import OmpRemote.Ompd.LifecycleMatch
import OmpRemote.Ompd.RunHistory

/-!
# How prompts end

OMP says in one of several ways that it is through with a prompt. The bridge closes
the active run at the end of the agent's turn, and at no other frame, so that a prompt
that OMP has handled without the agent leaves its run active.

- `follow_step`: what a step does to a bridge and to the events it receives.
- `Closes`: the bridge is about to close a run.
- `World.Calm`: runs are started one after the other, and actors can record changes.
- `prompts_end`: once the bridge has handled the end of a turn, the run of an earlier
  prompt is over.
- `local_prompt_runs_on`: a prompt that OMP handles locally.
-/

namespace OmpRemote.Ompd.Supervision

open ControlPlane Lib Rpc OmpRemote.Runtime

variable {δ : Type}

/-! ## Following a bridge -/

section Follow

variable {setup : Setup} {world world' : World δ} {t : TaskId} {answer : Answer} {op : Op}
  {rest : List Op}

/-- The task has not begun: it is a request, or a bridge that has received nothing. -/
def Task.IsNew (task : Task) : Prop :=
  task.next = 0 ∧ (task.bridge = none ∨ task.todo = [.receive])

theorem Task.isNew_new (todo : List Op) : (Task.new todo).IsNew := ⟨rfl, .inl rfl⟩

theorem Task.isNew_eventBridge (launch : Task) : launch.eventBridge.IsNew := ⟨rfl, .inr rfl⟩

/-- A task that is not at its turn is left alone, or is new. -/
theorem TaskStep.other (h : TaskStep setup world t answer op rest world') {u : TaskId}
    (hu : u ≠ t) :
    world'.tasks u = world.tasks u ∨ (world'.tasks u).IsNew := by
  have hset : ∀ task, Function.update world.tasks t task u = world.tasks u :=
    fun _ => Function.update_of_ne hu _ _
  cases h with
  | waits => exact .inl rfl
  | calls actor command task =>
    rw [noteRecorded_eq]
    exact .inl (hset _)
  | bridges =>
    show Function.update (Function.update world.tasks t _) world.nextTask _ u = _ ∨ _
    by_cases hnew : u = world.nextTask
    · refine .inr ?_
      show (Function.update (Function.update world.tasks t _) world.nextTask _ u).IsNew
      rw [hnew, Function.update_self]
      exact Task.isNew_eventBridge _
    · rw [Function.update_of_ne hnew]
      exact .inl (hset _)
  | fails | goesOn | pushes | locks | spawns | finds | creates | inserts | takes | gets | removes
  | upserts | receives | lags | closes => exact .inl (hset _)

/-- What a runtime has sent, and that its bridge has lost something, is kept. -/
def OmpRuntime.Extends (runtime runtime' : OmpRuntime) : Prop :=
  runtime.events.sent <+: runtime'.events.sent ∧ (runtime.missed = true → runtime'.missed = true)

theorem OmpRuntime.Extends.refl (runtime : OmpRuntime) : runtime.Extends runtime :=
  ⟨List.prefix_rfl, id⟩

theorem extends_setRuntime (r r' : RuntimeId) {runtime : OmpRuntime}
    (h : (world.runtime r).Extends runtime) :
    (world.runtime r').Extends ((world.setRuntime r runtime).runtime r') := by
  show OmpRuntime.Extends _ (Function.update world.runtime r runtime r')
  by_cases hr : r' = r
  · rw [hr, Function.update_self]
    exact h
  · rw [Function.update_of_ne hr]
    exact .refl _

theorem TaskStep.extends (h : TaskStep setup world t answer op rest world') {r : RuntimeId}
    (hr : r < world.nextRuntime) : (world.runtime r).Extends (world'.runtime r) := by
  cases h with
  | calls actor command task =>
    rcases noteRecorded_cases (world.setActor actor
      ((world.actors actor).turn (.command command)).2) (world.tasks t).bridge op
      ((world.actors actor).turn (.command command)).1 with hsame | ⟨r', frame, seq, -, -, -, hnoted⟩
    · rw [hsame]
      exact .refl _
    · rw [hnoted]
      exact extends_setRuntime r' r (.refl _)
  | spawns startup =>
    show OmpRuntime.Extends _ (Function.update world.runtime world.nextRuntime _ r)
    rw [Function.update_of_ne (Nat.ne_of_lt hr)]
    exact .refl _
  | lags r' next =>
    refine extends_setRuntime r' r ⟨List.prefix_rfl, fun hmissed => ?_⟩
    exact Bool.or_eq_true_iff.mpr (.inl hmissed)
  | waits | fails | goesOn | pushes | locks | finds | creates | inserts | bridges | takes | gets
  | removes | upserts | receives | closes => exact .refl _

/-- What a step does to a task and to what runtimes have sent: the task is new, or
makes the step, or is left alone; and nothing sent is taken back. -/
theorem follow_step (setup : Setup) (world : World δ) (input : Input) (b : TaskId) :
    ((world.step setup input).tasks b).IsNew ∨
      ((∃ answer op rest, input = .task b answer ∧ (world.tasks b).todo = op :: rest ∧
          TaskStep setup world b answer op rest (world.step setup input)) ∨
        (world.step setup input).tasks b = world.tasks b) ∧
      ∀ r, r < world.nextRuntime →
        (world.runtime r).Extends ((world.step setup input).runtime r) := by
  cases input with
  | request request =>
    simp only [World.step]
    split
    · -- only the task that the request spawns is new
      by_cases hb : b = world.nextTask
      · refine .inl ?_
        show (Function.update world.tasks world.nextTask _ b).IsNew
        rw [hb, Function.update_self]
        exact Task.isNew_new _
      · refine .inr ⟨.inr ?_, fun _ _ => .refl _⟩
        show Function.update world.tasks world.nextTask _ b = _
        rw [Function.update_of_ne hb]
    · exact .inr ⟨.inr rfl, fun _ _ => .refl _⟩
  | task t answer =>
    cases htodo : (world.tasks t).todo with
    | nil =>
      simp only [World.step, World.stepTask, htodo]
      exact .inr ⟨.inr trivial, fun _ _ => .refl _⟩
    | cons op rest =>
      have hstep : TaskStep setup world t answer op rest (world.step setup (.task t answer)) :=
        stepTask_cases htodo
      by_cases hb : b = t
      · subst hb
        exact .inr ⟨.inl ⟨answer, op, rest, rfl, htodo, hstep⟩, fun _ hr => hstep.extends hr⟩
      · rcases hstep.other hb with hsame | hnew
        · exact .inr ⟨.inr hsame, fun _ hr => hstep.extends hr⟩
        · exact .inl hnew
  | runtime r input =>
    exact .inr ⟨.inr rfl, fun r' _ => extends_setRuntime r r' (.refl _)⟩
  | publish r =>
    refine .inr ⟨.inr rfl, fun r' _ => extends_setRuntime r r' ?_⟩
    unfold OmpRuntime.publish
    split
    · exact .refl _
    · exact ⟨List.prefix_append _ _, id⟩
  | stderr r text =>
    simp only [World.step]
    split
    · refine .inr ⟨.inr rfl, fun r' _ => extends_setRuntime r r' ?_⟩
      exact ⟨List.prefix_append _ _, id⟩
    · exact .inr ⟨.inr rfl, fun _ _ => .refl _⟩
  | close r =>
    simp only [World.step]
    split
    · exact .inr ⟨.inr rfl, fun r' _ => extends_setRuntime r r' (.refl _)⟩
    · exact .inr ⟨.inr rfl, fun _ _ => .refl _⟩
  | actor actor input =>
    simp only [World.step]
    split
    · exact .inr ⟨.inr rfl, fun _ _ => .refl _⟩
    · exact .inr ⟨.inr rfl, fun _ _ => .refl _⟩
  | restart nowMs fault =>
    refine .inl ?_
    -- every task is gone, and every slot is as new
    simp only [World.step, World.restart]
    split
    · exact Task.isNew_new []
    split
    · exact Task.isNew_new []
    · exact Task.isNew_new []

/-! ## The operations of a bridge -/

/-- The operations that bridges do. None of them fails. -/
def Op.ofBridge : Op → Bool
  | .change strict _ | .snapshot strict | .endRun strict _ | .upsertAgent strict _ => !strict
  | .publishEvent _ | .receive => true
  | _ => false

theorem ofBridge_handleEvent (event : RuntimeEvent) :
    ∀ op ∈ handleEvent event, op.ofBridge = true := by
  cases event with
  | frame frame =>
    intro op hop
    rcases List.mem_append.mp hop with hop | hop
    · split at hop
      · rw [List.mem_singleton.mp hop]
        rfl
      · have hends : ∀ op ∈ completeActiveRun ++ [setLifecycle false .idle] ++
            persistSnapshot false true, op.ofBridge = true := by
          decide
        exact hends op hop
      · cases hop
    · simp only [List.mem_cons, List.not_mem_nil, or_false] at hop
      rcases hop with rfl | rfl <;> rfl
  | exited | failed =>
    intro op hop
    simp only [handleEvent, persistSnapshot, List.mem_cons, List.not_mem_nil, or_false] at hop
    rcases hop with rfl | rfl | rfl <;> rfl
  | stderr =>
    intro op hop
    rw [List.mem_singleton.mp hop]
    rfl

/-- An operation of a bridge goes well. -/
theorem attempt_ofBridge (hop : op.ofBridge = true) (hbridge : (world.tasks t).bridge.isSome) :
    (world.attempt setup t answer op rest).1 = true := by
  have hstrict : op.strict = false ∨ op = .receive := by
    cases op with
    | receive => exact .inr rfl
    | publishEvent => exact .inl rfl
    | change | snapshot | endRun | upsertAgent =>
      exact .inl (by simpa [Op.ofBridge, Op.strict] using hop)
    | _ => cases hop
  unfold World.attempt
  dsimp only
  split
  · rename_i actor command hcommand
    rw [call_eq]
    rcases hstrict with hstrict | rfl
    · simp [hstrict]
    · cases hcommand
  · cases op with
    | receive =>
      obtain ⟨r, hr⟩ := Option.isSome_iff_exists.mp hbridge
      simp [World.perform, hr]
    | upsertAgent strict active =>
      have hfalse : strict = false := by simpa [Op.ofBridge] using hop
      simp only [World.perform, hfalse]
      split
      · rfl
      · exact Bool.or_true _
    | change | snapshot | endRun | publishEvent => rfl
    | _ => cases hop

/-- Bridges do no other operations. -/
def World.Bridging (world : World δ) : Prop :=
  ∀ t r, (world.tasks t).bridge = some r → ∀ op ∈ (world.tasks t).todo, op.ofBridge = true

/-- What a bridge does at its turn: it waits, it goes on, it receives the next event,
or it skips some. -/
inductive BridgeStep (world : World δ) (b : TaskId) (r : RuntimeId) (op : Op) (rest : List Op)
    (world' : World δ) : Prop where
  | waits : world'.tasks b = world.tasks b → BridgeStep world b r op rest world'
  | goesOn : (world.tasks b).Keeps (world'.tasks b) → (world'.tasks b).todo = rest →
    BridgeStep world b r op rest world'
  | receives (event : RuntimeEvent) : op = .receive →
    (world.runtime r).events.recv (world.tasks b).next = .value event →
    world'.tasks b = { world.tasks b with
      next := (world.tasks b).next + 1, todo := handleEvent event ++ rest } →
    BridgeStep world b r op rest world'
  | lags (next : Nat) : op = .receive →
      (world.runtime r).events.recv (world.tasks b).next = .lagged next →
    world'.tasks b = { world.tasks b with next, todo := handleLag ++ rest } →
    (world'.runtime r).missed = ((world.runtime r).missed ||
      !(frames ((world.runtime r).events.skipped (world.tasks b).next next)).isEmpty) →
    BridgeStep world b r op rest world'

theorem TaskStep.bridge (h : TaskStep setup world t answer op rest world') {r : RuntimeId}
    (hbridge : (world.tasks t).bridge = some r) (hop : op.ofBridge = true) :
    BridgeStep world t r op rest world' := by
  have hself : ∀ (world : World δ) task, (world.setTask t task).tasks t = task :=
    fun world task => Function.update_self ..
  -- no operation of a bridge is answered by further operations
  have hpushes : ∀ ops, ¬ Pushes op ops := by
    intro ops hpushes
    cases hpushes <;> cases hop
  cases h with
  | waits => exact .waits rfl
  | fails task store hfails =>
    rw [attempt_ofBridge hop (by rw [hbridge]; rfl)] at hfails
    cases hfails
  | calls actor command task _ _ htodo hkeeps =>
    exact .goesOn ((hself _ task).symm ▸ hkeeps) ((hself _ task).symm ▸ htodo)
  | goesOn =>
    refine .goesOn ?_ ?_
    · rw [hself]
      exact ⟨rfl, rfl, rfl, rfl⟩
    · rw [hself]
  | upserts strict active store =>
    have htask : (({ world.setTask t { world.tasks t with todo := rest } with store } :
        World δ).tasks t) = { world.tasks t with todo := rest } := Function.update_self ..
    refine .goesOn ?_ ?_
    · rw [htask]
      exact ⟨rfl, rfl, rfl, rfl⟩
    · rw [htask]
  | closes =>
    refine .goesOn ?_ ?_
    · rw [hself]
      exact ⟨rfl, rfl, rfl, rfl⟩
    · rw [hself]
  | receives r' event hreceive hr hrecv =>
    cases hbridge.symm.trans hr
    exact .receives event hreceive hrecv (hself _ _)
  | lags r' next hreceive hr hrecv =>
    cases hbridge.symm.trans hr
    refine .lags next hreceive hrecv (hself _ _) ?_
    show (Function.update world.runtime r _ r).missed = _
    rw [Function.update_self]
  | pushes ops hpush => exact absurd hpush (hpushes ops)
  | locks hop' | spawns _ hop' | creates hop' | inserts hop' | bridges hop' | takes _ hop'
  | gets _ hop' | removes _ hop' =>
    rw [hop'] at hop
    cases hop
  | finds _ hop' =>
    rcases hop' with hop' | hop' <;> rw [hop'] at hop <;> cases hop

/-- A bridge goes on serving the actor that its launch has found. -/
theorem BridgeStep.agent_eq {r : RuntimeId} (h : BridgeStep world t r op rest world') :
    (world'.tasks t).agent = (world.tasks t).agent := by
  cases h with
  | waits htask => rw [htask]
  | goesOn hkeeps => exact hkeeps.agent
  | receives _ _ _ htask | lags _ _ _ htask => rw [htask]

/-- No operation makes a bridge of a request. -/
theorem TaskStep.bridge_eq (h : TaskStep setup world t answer op rest world')
    (hlt : t < world.nextTask) : (world'.tasks t).bridge = (world.tasks t).bridge := by
  have hset : ∀ task : Task, task.bridge = (world.tasks t).bridge →
      (Function.update world.tasks t task t).bridge = (world.tasks t).bridge := by
    intro task htask
    rw [Function.update_self]
    exact htask
  cases h with
  | waits => rfl
  | fails task _ _ _ hkeeps => exact hset task hkeeps.bridge
  | calls actor command task _ _ _ hkeeps =>
    rw [noteRecorded_eq]
    exact hset task hkeeps.bridge
  | bridges =>
    show (Function.update (Function.update world.tasks t _) world.nextTask _ t).bridge = _
    rw [Function.update_of_ne (Nat.ne_of_lt hlt)]
    exact hset _ rfl
  | goesOn | pushes | locks | spawns | finds | creates | inserts | takes | gets | removes
  | upserts | receives | lags | closes => exact hset _ rfl

theorem World.Bridging.step (h : world.Bridging) (hsound : Sound world) (setup : Setup)
    (input : Input) : (world.step setup input).Bridging := by
  intro b r hbridge op hop
  rcases follow_step setup world input b with ⟨-, hnew⟩ | ⟨⟨answer, head, rest, -, htodo, hstep⟩ | hsame, -⟩
  · rcases hnew with hnone | honly
    · rw [hnone] at hbridge
      cases hbridge
    · rw [honly, List.mem_singleton] at hop
      rw [hop]
      rfl
  · have hbefore : (world.tasks b).bridge = some r :=
      (hstep.bridge_eq (hsound.allocated htodo)).symm.trans hbridge
    have hall := h b r hbefore
    rw [htodo] at hall
    have hrest : ∀ op ∈ rest, op.ofBridge = true := fun op hop => hall op (List.mem_cons_of_mem _ hop)
    have hadded : ∀ ops, (∀ op ∈ ops, op.ofBridge = true) → op ∈ ops ++ rest →
        op.ofBridge = true := by
      intro ops hops hmem
      exact (List.mem_append.mp hmem).elim (hops op) (hrest op)
    cases hstep.bridge hbefore (hall head List.mem_cons_self) with
    | waits htask =>
      rw [htask, htodo] at hop
      exact hall op hop
    | goesOn hkeeps htodo' =>
      rw [htodo'] at hop
      exact hrest op hop
    | receives event _ hrecv htask =>
      rw [htask] at hop
      exact hadded _ (ofBridge_handleEvent event) hop
    | lags next _ hrecv htask =>
      rw [htask] at hop
      exact hadded _ (by decide) hop
  · rw [hsame] at hbridge hop
    exact h b r hbridge op hop

/-! ## The end of a turn -/

/-- OMP has ended its turn. -/
def endsTurn : RuntimeEvent → Bool
  | .frame (.sessionEvent (.agentEnd _)) => true
  | _ => false

/-- The bridge `b` of the runtime `r`, which serves the actor, has received the end of
a turn as the event `k`, and has lost nothing. -/
structure World.TurnEnded (world : World δ) (b : TaskId) (r : RuntimeId) (actor : ActorId)
    (k : Nat) : Prop where
  bridge : (world.tasks b).bridge = some r
  agent : (world.tasks b).agent = some actor
  received : k < (world.tasks b).next
  event : ∃ event, (world.runtime r).events.sent[k]? = some event ∧ endsTurn event = true
  nothingLost : (world.runtime r).missed = false

/-- What the bridge does then, up to its setting the lifecycle. -/
def closing : List Op := completeActiveRun ++ [setLifecycle false .idle]

theorem handleEvent_endsTurn {event : RuntimeEvent} (h : endsTurn event = true) :
    closing <+: handleEvent event := by
  unfold endsTurn at h
  split at h
  · exact ⟨_, (List.append_assoc ..).symm⟩
  · cases h

/-- A bridge has received the end of a turn before the step, or receives it now. -/
theorem World.TurnEnded.before (hsound : Sound world) (hbridging : world.Bridging) {input : Input}
    {b : TaskId} {r : RuntimeId} {actor : ActorId} {k : Nat}
    (h : (world.step setup input).TurnEnded b r actor k) :
    (world.TurnEnded b r actor k ∧ ((∃ answer op rest, input = .task b answer ∧
        (world.tasks b).todo = op :: rest ∧ BridgeStep world b r op rest (world.step setup input)) ∨
      (world.step setup input).tasks b = world.tasks b)) ∨
    closing <+: ((world.step setup input).tasks b).todo := by
  obtain ⟨hbridge, hagent, hreceived, ⟨event, hevent, hends⟩, hlost⟩ := h
  rcases follow_step setup world input b with ⟨hzero, -⟩ | ⟨hturn, hextends⟩
  · omega
  -- what was received before is what is received
  have hbefore : (world.tasks b).bridge = some r → (world.tasks b).agent = some actor →
      k < (world.tasks b).next → world.TurnEnded b r actor k := by
    intro hbridge hagent hreceived
    obtain ⟨hr, hnext⟩ := (hsound.handles b).bridge r hbridge
    obtain ⟨⟨later, hsent⟩, hmissed⟩ := hextends r hr
    refine ⟨hbridge, hagent, hreceived, ⟨event, ?_, hends⟩, ?_⟩
    · rw [← hsent, List.getElem?_append_left (Nat.lt_of_lt_of_le hreceived hnext)] at hevent
      exact hevent
    · by_contra hyes
      rw [hmissed (by simpa using hyes)] at hlost
      cases hlost
  rcases hturn with ⟨answer, op, rest, hinput, htodo, hstep⟩ | hsame
  · have hbridge' : (world.tasks b).bridge = some r :=
      (hstep.bridge_eq (hsound.allocated htodo)).symm.trans hbridge
    have hop : op.ofBridge = true := by
      refine hbridging b r hbridge' op ?_
      rw [htodo]
      exact List.mem_cons_self
    have hown := hstep.bridge hbridge' hop
    have hturn : ∃ answer op rest, input = .task b answer ∧ (world.tasks b).todo = op :: rest ∧
        BridgeStep world b r op rest (world.step setup input) :=
          ⟨answer, op, rest, hinput, htodo, hown⟩
    obtain ⟨hr, hnext⟩ := (hsound.handles b).bridge r hbridge'
    obtain ⟨⟨later, hsent⟩, -⟩ := hextends r hr
    cases hown with
    | waits htask =>
      rw [htask] at hagent hreceived
      exact .inl ⟨hbefore hbridge' hagent hreceived, .inl hturn⟩
    | goesOn hkeeps =>
      rw [hkeeps.agent] at hagent
      rw [hkeeps.next] at hreceived
      exact .inl ⟨hbefore hbridge' hagent hreceived, .inl hturn⟩
    | receives value _ hrecv htask =>
      rw [htask] at hagent hreceived ⊢
      by_cases hold : k < (world.tasks b).next
      · exact .inl ⟨hbefore hbridge' hagent hold, .inl hturn⟩
      · refine .inr ?_
        have hk : k = (world.tasks b).next := by
          have : k < (world.tasks b).next + 1 := hreceived
          omega
        have hvalue : value = event := by
          obtain ⟨hlt, -⟩ := Broadcast.recv_value hrecv
          have hhere := Broadcast.recv_value_get hrecv
          rw [← hsent, hk, List.getElem?_append_left hlt, hhere] at hevent
          exact Option.some.inj hevent
        rw [hvalue]
        exact (handleEvent_endsTurn hends).trans (List.prefix_append _ _)
    | lags next _ hrecv htask hmissed =>
      rw [htask] at hagent hreceived
      by_cases hold : k < (world.tasks b).next
      · exact .inl ⟨hbefore hbridge' hagent hold, .inl hturn⟩
      · -- the end of the turn is among what is skipped
        exfalso
        have hlt := Nat.lt_of_lt_of_le hreceived (Broadcast.recv_lagged hrecv).1
        rw [← hsent, List.getElem?_append_left hlt] at hevent
        have hskipped := Broadcast.mem_skipped hevent (Nat.le_of_not_lt hold) hreceived
        obtain ⟨frame, hframe⟩ : ∃ frame, event = .frame frame := by
          unfold endsTurn at hends
          split at hends
          · exact ⟨_, rfl⟩
          · cases hends
        have hmem : frame ∈ frames ((world.runtime r).events.skipped (world.tasks b).next next) :=
          List.mem_filterMap.mpr ⟨event, hskipped, by rw [hframe]; rfl⟩
        rw [hmissed, Bool.or_eq_false_iff, Bool.not_eq_false', List.isEmpty_iff] at hlost
        rw [hlost.2] at hmem
        cases hmem
  · rw [hsame] at hbridge hagent hreceived
    exact .inl ⟨hbefore hbridge hagent hreceived, .inr hsame⟩

/-! ## Actors that have ended, and lifecycles -/

/-- An actor that has ended stays as it is. -/
theorem stopped_step (setup : Setup) {input : Input} {actor : ActorId}
    (hlt : actor < world.nextActor)
    (h : (world.actors actor).running = false) :
    (world.step setup input).actors actor = world.actors actor := by
  have hturn : ∀ input, ((world.actors actor).turn input).2 = world.actors actor := by
    intro input
    unfold ActorState.turn
    rw [if_pos (by simp [h])]
  have hregister : ∀ snapshot, (world.register setup snapshot).actors actor = world.actors actor :=
    fun _ => Function.update_of_ne (Nat.ne_of_lt hlt) _ _
  have hcall : ∀ called input, Function.update world.actors called
      ((world.actors called).turn input).2 actor = world.actors actor := by
    intro called input
    by_cases hactor : actor = called
    · subst hactor
      rw [Function.update_self]
      exact hturn input
    · rw [Function.update_of_ne hactor]
  cases input with
  | task t answer =>
    cases htodo : (world.tasks t).todo with
    | nil =>
      simp only [World.step, World.stepTask, htodo]
    | cons op rest =>
      have hstep : TaskStep setup world t answer op rest (world.step setup (.task t answer)) :=
        stepTask_cases htodo
      rcases hstep.actors with hsame | hnew | ⟨called, command, -, hcalled⟩
      · rw [hsame]
      · rw [hnew]
        exact hregister _
      · rw [hcalled]
        exact hcall called _
  | request | stderr | close =>
    simp only [World.step]
    split
    · rfl
    · rfl
  | runtime | publish => rfl
  | actor called input =>
    simp only [World.step]
    split
    · exact hcall called input
    · rfl
  | restart nowMs fault =>
    simp only [World.step, World.restart]
    split
    · rfl
    split
    · rfl
    · exact hregister _

theorem running_before (setup : Setup) {input : Input} {actor : ActorId}
    (hlt : actor < world.nextActor) (h : ((world.step setup input).actors actor).running = true) :
    (world.actors actor).running = true := by
  by_contra hstopped
  rw [stopped_step setup hlt (by simpa using hstopped)] at h
  exact hstopped h

/-- The lifecycle that a step writes, and the actor it writes it to. -/
def World.writes (world : World δ) : Input → Option (ActorId × AgentLifecycle)
  | .task t _ => do
    let op ← (world.tasks t).todo.head?
    let actor ← (world.tasks t).agent
    let lifecycle ← op.lifecycle
    pure (actor, lifecycle)
  | _ => none

/-- How a step changes the lifecycle of an actor: it leaves it, or writes it. -/
theorem step_lifecycle (setup : Setup) (input : Input) {actor : ActorId}
    (hlt : actor < world.nextActor) :
    ((world.step setup input).actors actor).snapshot.lifecycle =
        (world.actors actor).snapshot.lifecycle ∨
      ∃ lifecycle, world.writes input = some (actor, lifecycle) ∧
        ((world.step setup input).actors actor).snapshot.lifecycle = lifecycle := by
  -- a newly registered actor is none of those that were there
  have hregister : ∀ snapshot, (world.register setup snapshot).actors actor = world.actors actor :=
    fun _ => Function.update_of_ne (Nat.ne_of_lt hlt) _ _
  cases input with
  | task t answer =>
    cases htodo : (world.tasks t).todo with
    | nil =>
      refine .inl ?_
      simp only [World.step, World.stepTask, htodo]
    | cons op rest =>
      have hstep : TaskStep setup world t answer op rest (world.step setup (.task t answer)) :=
        stepTask_cases htodo
      rcases hstep.actors with hsame | hnew | ⟨called, command, hcommand, hcalled⟩
      · rw [hsame]
        exact .inl rfl
      · rw [hnew, hregister]
        exact .inl rfl
      · rw [hcalled]
        by_cases hactor : actor = called
        · subst hactor
          rw [Function.update_self]
          refine (command_lifecycle hcommand (world.actors actor)).imp_right ?_
          rintro ⟨strict, lifecycle, rfl, hset⟩
          obtain ⟨_, hagent, heq⟩ := Option.map_eq_some_iff.mp hcommand
          cases heq
          have hagent' : (world.tasks t).agent = some actor := hagent
          exact ⟨lifecycle, by simp [World.writes, htodo, hagent', setLifecycle, Op.lifecycle], hset⟩
        · rw [Function.update_of_ne hactor]
          exact .inl rfl
  | request | stderr | close =>
    simp only [World.step]
    split
    · exact .inl rfl
    · exact .inl rfl
  | runtime | publish => exact .inl rfl
  | actor called input =>
    simp only [World.step]
    split
    · rename_i hforeign
      refine .inl ?_
      show (Function.update world.actors called _ actor).snapshot.lifecycle = _
      by_cases hactor : actor = called
      · subst hactor
        rw [Function.update_self]
        exact (ActorState.turn_foreign hforeign).lifecycle
      · rw [Function.update_of_ne hactor]
    · exact .inl rfl
  | restart nowMs fault =>
    refine .inl ?_
    simp only [World.step, World.restart]
    split
    · rfl
    split
    · rfl
    · exact congrArg (fun state => state.snapshot.lifecycle) (hregister _)

end Follow

/-! ## The end of a run -/

section Ends

variable {setup : Setup} {world : World δ}

/-- The agent that a task serves at a step. -/
def World.serves (world : World δ) : Input → Option ActorId
  | .task t _ => (world.tasks t).agent
  | _ => none

/-- A step starts a run only while no other one is active, and with a new id; and the
counters of the actor that its task serves have not run out. -/
structure World.Calm (world : World δ) (input : Input) : Prop where
  starts : ∀ upsert ∈ world.upserts input, (world.actors upsert.1).hasRoom = true →
    upsert.2.lifecycle.isTerminal = false →
      ¬ (world.actors upsert.1).snapshot.Displaces upsert.2.runId ∧
      ¬ (world.actors upsert.1).snapshot.HasRun upsert.2.runId
  room : ∀ actor ∈ world.serves input, (world.actors actor).running = true →
    (world.actors actor).hasRoom = true

instance (world : World δ) (input : Input) : Decidable (world.Calm input) :=
  decidable_of_iff (_ ∧ _) ⟨fun h => ⟨h.1, h.2⟩, fun h => ⟨h.1, h.2⟩⟩

theorem World.Calm.undisplaced {input : Input} (h : world.Calm input) : world.Undisplaced input :=
  fun upsert hupsert hroom hgoesOn => (h.starts upsert hupsert hroom hgoesOn).1

/-- The bridge is about to end the run: it will read the snapshot, or has read it with
the run as the active one. -/
def Task.Closes (task : Task) (runId : RunId) : Prop :=
  closing <+: task.todo ∨ closing.tail <+: task.todo ∧ ∃ snapshot run,
    task.snapshot = some snapshot ∧ snapshot.activeRun = some run ∧ run.runId = runId

/-- The run is known to the actor, and over once a bridge has handled the end of a turn
that is not among the first events of its runtime. -/
structure World.Ending (world : World δ) (actor : ActorId) (runId : RunId)
    (first : RuntimeId → Nat) : Prop where
  known : (world.actors actor).snapshot.HasRun runId
  ends : ∀ b r k, first r ≤ k → world.TurnEnded b r actor k →
    (world.actors actor).running = true →
    (world.actors actor).snapshot.Ended runId ∨ (world.tasks b).Closes runId

/-- A run that is over stays so. -/
theorem Followed.step_ended (h : Followed world) {input : Input} (hcalm : world.Calm input)
    {actor : ActorId} {runId : RunId} (hknown : (world.actors actor).snapshot.HasRun runId)
    (hended : (world.actors actor).snapshot.Ended runId) :
    ((world.step setup input).actors actor).snapshot.Ended runId := by
  rcases step_runs setup h.scripted h.unused input actor with
    hsame | ⟨run, hupserts, hroom, hchanged⟩
  · rw [AgentSnapshot.Ended, hsame.recentRuns]
    exact hended
  · rw [AgentSnapshot.Ended, hchanged.recentRuns]
    refine hended.upsert fun hgoesOn hid => ?_
    exact (hcalm.starts _ hupserts hroom hgoesOn).2 (hid ▸ hknown)

/-- The bridge ends the run, or comes nearer to it. -/
theorem closes_step {input : Input} (hcalm : world.Calm input) {b : TaskId} {r : RuntimeId}
    {actor : ActorId} {runId : RunId} (hagent : (world.tasks b).agent = some actor)
    (hrunning : (world.actors actor).running = true)
    (hknown : (world.actors actor).snapshot.HasRun runId) (hcloses : (world.tasks b).Closes runId)
    (hturn : (∃ answer op rest, input = .task b answer ∧ (world.tasks b).todo = op :: rest ∧
        BridgeStep world b r op rest (world.step setup input)) ∨
      (world.step setup input).tasks b = world.tasks b) :
    ((world.step setup input).actors actor).snapshot.Ended runId ∨
      ((world.step setup input).tasks b).Closes runId := by
  rcases hturn with ⟨answer, op, rest, rfl, htodo, -⟩ | hsame
  · have hroom := hcalm.room actor hagent hrunning
    rcases hcloses with ⟨later, hclosing⟩ | ⟨⟨later, hclosing⟩, snapshot, run, hsnapshot, hactive, hid⟩
    · -- it reads the snapshot
      rw [htodo] at hclosing
      obtain ⟨rfl, rfl⟩ := List.cons.inj hclosing
      have hcommand : ∀ todo, ({ world.tasks b with todo } : Task).command answer (.snapshot false) =
          some (actor, .snapshot) := by
        simp [Task.command, hagent]
      obtain ⟨hactors, htask⟩ := step_call setup htodo (hcommand _)
      have hreply : ((world.actors actor).turn (.command .snapshot)).1 =
          .snapshot (world.actors actor).snapshot := by
        unfold ActorState.turn
        rw [if_neg (by simp [hrunning])]
        rfl
      rw [htask (by simp [Op.strict])]
      obtain ⟨run, hrun, hid⟩ := hknown
      rcases AgentSnapshot.mem_runs.mp hrun with hactive | hrecent
      · refine .inr (.inr ⟨⟨later, rfl⟩, (world.actors actor).snapshot, run, ?_, hactive, hid⟩)
        simp [Task.replied, hreply]
      · refine .inl ?_
        rw [hactors, Function.update_self, ActorState.turn_snapshot]
        exact ⟨run, hrecent, hid⟩
    · -- it writes the run that it has read
      rw [htodo] at hclosing
      obtain ⟨rfl, rfl⟩ := List.cons.inj hclosing
      have hcommand : ∀ todo, ({ world.tasks b with todo } : Task).command answer
          (.endRun false .completed) = some (actor, .change (.runUpserted
            { run with lifecycle := .completed, endedAtMs := some answer.nowMs })) := by
        simp [Task.command, hagent, hsnapshot, hactive]
      have hchanged := ActorState.turn_change_ok hroom (.runUpserted
        { run with lifecycle := .completed, endedAtMs := some answer.nowMs })
      refine .inl ?_
      rw [(step_call setup htodo (hcommand _)).1, Function.update_self, AgentSnapshot.Ended,
        hchanged.recentRuns, ← hid]
      exact AgentSnapshot.ended_upsert rfl
  · rw [hsame]
    exact .inr hcloses

theorem World.Ending.step (h : Followed world) (hbridging : world.Bridging) {input : Input}
    (hcalm : world.Calm input) {actor : ActorId} (hlt : actor < world.nextActor) {runId : RunId}
    {first : RuntimeId → Nat} (hending : world.Ending actor runId first) :
    (world.step setup input).Ending actor runId first where
  known := h.keepsRuns setup hcalm.undisplaced actor hending.known
  ends := by
    intro b r k hfirst hturn hrunning
    have hbefore := running_before setup hlt hrunning
    rcases hturn.before h.sound hbridging with ⟨hold, htask⟩ | hclosing
    · rcases hending.ends b r k hfirst hold hbefore with hended | hcloses
      · exact .inl (h.step_ended hcalm hending.known hended)
      · exact closes_step hcalm hold.agent hbefore hending.known hcloses htask
    · exact .inr (.inl hclosing)

/-- The bridge has still to set the lifecycle. -/
def Task.Idles (task : Task) : Prop := ∃ ops, ops ≠ [] ∧ ops <:+ closing ∧ ops <+: task.todo

/-- The bridge has handled the end of a turn: the lifecycle is not `Running`, or the
bridge sets it soon. -/
def World.Idling (world : World δ) (b : TaskId) (r : RuntimeId) (actor : ActorId) (k : Nat) :
    Prop :=
  world.TurnEnded b r actor k → (world.actors actor).running = true →
    (world.actors actor).snapshot.lifecycle ≠ .running ∨ (world.tasks b).Idles

theorem idles_step {input : Input} (hcalm : world.Calm input) {b : TaskId} {r : RuntimeId}
    {actor : ActorId} (hagent : (world.tasks b).agent = some actor)
    (hrunning : (world.actors actor).running = true) (hidles : (world.tasks b).Idles)
    (hturn : (∃ answer op rest, input = .task b answer ∧ (world.tasks b).todo = op :: rest ∧
        BridgeStep world b r op rest (world.step setup input)) ∨
      (world.step setup input).tasks b = world.tasks b) :
    ((world.step setup input).actors actor).snapshot.lifecycle ≠ .running ∨
      ((world.step setup input).tasks b).Idles := by
  rcases hturn with ⟨answer, op, rest, rfl, htodo, hstep⟩ | hsame
  · obtain ⟨ops, hne, hsuffix, hprefix⟩ := hidles
    obtain ⟨head, tail, rfl⟩ := List.exists_cons_of_ne_nil hne
    obtain ⟨later, heq⟩ := hprefix
    rw [htodo] at heq
    obtain ⟨rfl, rfl⟩ := List.cons.inj heq
    have hmem : head ∈ closing := hsuffix.subset List.mem_cons_self
    by_cases hlast : tail = []
    · -- it sets the lifecycle
      subst hlast
      obtain ⟨earlier, hearlier⟩ := hsuffix
      have hhead : head = setLifecycle false .idle := by
        have hends : (earlier ++ [head]).getLast? = closing.getLast? := congrArg _ hearlier
        rw [List.getLast?_append] at hends
        exact Option.some.inj hends
      subst hhead
      have hroom := hcalm.room actor hagent hrunning
      have hchanged := ActorState.turn_change_ok hroom (.lifecycleChanged .idle)
      have hcommand : ∀ todo, ({ world.tasks b with todo } : Task).command answer
          (setLifecycle false .idle) = some (actor, .change (.lifecycleChanged .idle)) := by
        simp [Task.command, hagent, setLifecycle]
      refine .inl ?_
      rw [(step_call setup htodo (hcommand _)).1, Function.update_self, hchanged.lifecycle]
      rintro ⟨⟩
    · cases hstep with
      | waits htask =>
        refine .inr ⟨head :: tail, hne, hsuffix, ?_⟩
        rw [htask, htodo]
        exact ⟨later, rfl⟩
      | goesOn hkeeps hrest =>
        refine .inr ⟨tail, hlast, (List.suffix_cons head tail).trans hsuffix, ?_⟩
        rw [hrest]
        exact ⟨later, rfl⟩
      | receives _ hop | lags _ hop =>
        rw [hop] at hmem
        exact absurd hmem (by decide)
  · rw [hsame]
    exact .inr hidles

theorem World.Idling.step (h : Followed world) (hbridging : world.Bridging) {input : Input}
    (hcalm : world.Calm input) {b : TaskId} {r : RuntimeId} {actor : ActorId} {k : Nat}
    (hlt : actor < world.nextActor)
    (hquiet : k < (world.tasks b).next → world.writes input ≠ some (actor, .running))
    (hidling : world.Idling b r actor k) : (world.step setup input).Idling b r actor k := by
  intro hturn hrunning
  have hbefore := running_before setup hlt hrunning
  rcases hturn.before h.sound hbridging with ⟨hold, htask⟩ | hclosing
  · rcases hidling hold hbefore with hdown | hidles
    · refine .inl ?_
      rcases step_lifecycle setup input hlt with hsame | ⟨lifecycle, hwrites, hset⟩
      · rwa [hsame]
      · rw [hset]
        rintro rfl
        exact hquiet hold.received hwrites
    · exact idles_step hcalm hold.agent hbefore hidles htask
  · exact .inr ⟨closing, by decide, List.suffix_rfl, hclosing⟩

/-- What the laws below need of a daemon. -/
structure Served (world : World δ) (actor : ActorId) : Prop where
  followed : Followed world
  bridging : world.Bridging
  once : world.RunsOnce
  allocated : actor < world.nextActor

theorem Served.step {actor : ActorId} (h : Served world actor) (input : Input) :
    Served (world.step setup input) actor where
  followed := h.followed.step setup input
  bridging := h.bridging.step h.followed.sound setup input
  once := h.followed.runsOnce setup h.once input
  allocated := Nat.lt_of_lt_of_le h.allocated (nextActor_step setup world input)

/-- An actor that runs after some steps ran before them. -/
theorem Served.running_before {actor : ActorId} (h : Served world actor) (inputs : List Input)
    (hrunning : ((Lib.run (World.step setup) world inputs).actors actor).running = true) :
    (world.actors actor).running = true := by
  induction inputs generalizing world with
  | nil => exact hrunning
  | cons input inputs ih =>
    exact Supervision.running_before setup h.allocated (ih (h.step input) hrunning)

/-- **Prompts end**, when OMP ends its turn after the run was started and the bridge
has lost nothing: the run of the prompt is over, and if nobody has set the lifecycle to
`Running` since the bridge received that, it is not `Running`. -/
theorem prompts_end (setup : Setup) (store : Store δ) (inputs later : List Input) (t : TaskId)
    (answer : Answer) (hcalm : Along (World.step setup) World.Calm (.create setup store)
      (inputs ++ .task t answer :: later)) :
    let before := run (World.step setup) (.create setup store) inputs
    let started := before.step setup (.task t answer)
    let world := run (World.step setup) started later
    ∀ actor, (before.tasks t).todo.head? = some .startRun → (before.tasks t).agent = some actor →
      world.registry = some actor →
    ∀ b r k, (started.runtime r).published.length ≤ k → world.TurnEnded b r actor k →
      (world.tasks b).todo = [] ∨ (world.tasks b).todo = [.receive] →
      ((world.actors actor).snapshot.Ended answer.runId ∧
        (world.actors actor).snapshot.isActive answer.runId = false ∧
        ∀ run ∈ (world.actors actor).snapshot.runs, run.runId = answer.runId →
          run.lifecycle.isTerminal = true) ∧
      (Along (World.step setup) (fun world input => k < (world.tasks b).next →
          world.writes input ≠ some (actor, .running)) started later →
        (world.actors actor).snapshot.lifecycle ≠ .running) := by
  intro before started world actor hhead hagent hregistry b r k hfirst hturn htodo
  obtain ⟨-, hcalmStep, hcalmLater⟩ := along_append.mp hcalm
  obtain ⟨hfollowed, honce⟩ := (followed_create setup store).runsOnce_run setup
    (fun _ => AgentSnapshot.runsOnce_of_no_runs rfl rfl) inputs
  have hbridging : (World.create setup store).Bridging := by
    intro t r hnone
    cases hnone
  have hbefore : Served before actor := by
    refine ⟨hfollowed, ?_, honce, (hfollowed.sound.handles t).agent actor hagent⟩
    have hboth : Followed before ∧ before.Bridging :=
      run_invariant (P := fun world => Followed world ∧ world.Bridging)
        (fun _ input h => ⟨h.1.step setup input, h.2.step h.1.sound setup input⟩)
        ⟨followed_create setup store, hbridging⟩ inputs
    exact hboth.2
  have hstarted : Served started actor := hbefore.step _
  have hserved : Served world actor :=
    run_invariant (P := fun world => Served world actor) (fun _ input h => h.step input) hstarted
      later
  have hrunning := (hserved.followed.sound.registered actor hregistry).2
  have hroom : (before.actors actor).hasRoom = true := by
    refine hcalmStep.room actor hagent ?_
    exact running_before setup hbefore.allocated (hstarted.running_before later hrunning)
  -- nothing that is published later has been received
  have hnone : ∀ b r k, (started.runtime r).published.length ≤ k →
      ¬ started.TurnEnded b r actor k := by
    intro b r k hfirst hturn
    have hnext := ((hstarted.followed.sound.handles b).bridge r hturn.bridge).2
    have hreceived := hturn.received
    rw [OmpRuntime.published, List.length_append] at hfirst
    omega
  have hupserts : before.upserts (.task t answer) =
      some (actor, ⟨answer.runId, .running, answer.nowMs, none⟩) := by
    simp [World.upserts, hhead, hagent, Task.upserts]
  have hending : started.Ending actor answer.runId fun r => (started.runtime r).published.length :=
    ⟨hasRun_upserted setup hupserts hroom, fun b r k hfirst hturn => absurd hturn (hnone b r k hfirst)⟩
  have hend : Served world actor ∧ world.Ending actor answer.runId fun r =>
      (started.runtime r).published.length :=
    run_invariant_along
      (P := fun world => Served world actor ∧ world.Ending actor answer.runId fun r =>
        (started.runtime r).published.length)
      (fun _ input h hcalm => ⟨h.1.step input,
        h.2.step h.1.followed h.1.bridging hcalm h.1.allocated⟩)
      ⟨hstarted, hending⟩ hcalmLater
  constructor
  · have hended : (world.actors actor).snapshot.Ended answer.runId := by
      refine (hend.2.ends b r k hfirst hturn hrunning).resolve_right ?_
      -- the bridge has nothing left to do
      rintro (⟨later, hclosing⟩ | ⟨⟨later, hclosing⟩, -⟩) <;>
        rcases htodo with htodo | htodo <;> rw [htodo] at hclosing <;> cases hclosing
    exact ⟨hended, (hserved.once actor).ended hended⟩
  · intro hquiet
    have hidling : Served world actor ∧ world.Idling b r actor k :=
      run_invariant_along
        (P := fun world => Served world actor ∧ world.Idling b r actor k)
        (fun _ input h hboth => ⟨h.1.step input,
          h.2.step h.1.followed h.1.bridging hboth.1 h.1.allocated hboth.2⟩)
        ⟨hstarted, fun hturn => absurd hturn (hnone b r k hfirst)⟩ (hcalmLater.and hquiet)
    refine (hidling.2 hturn hrunning).resolve_right ?_
    rintro ⟨ops, hne, hsuffix, hprefix⟩
    obtain ⟨op, tail, rfl⟩ := List.exists_cons_of_ne_nil hne
    obtain ⟨later, heq⟩ := hprefix
    have hmem : op ∈ closing := hsuffix.subset List.mem_cons_self
    rcases htodo with htodo | htodo
    · rw [htodo] at heq
      cases heq
    · rw [htodo] at heq
      obtain ⟨rfl, -⟩ := List.cons.inj heq
      exact absurd hmem (by decide)

/-- A launched agent is about to get the run of a prompt. -/
def beforePrompt : List Input :=
  launching ++ [Input.request .prompt] ++ List.replicate 2 (Input.task 2 (acceptedAnswer ⟨"first"⟩ 2))

/-- The prompt is accepted, and OMP ends its turn. -/
def promptEnded : List Input :=
  List.replicate 5 (Input.task 2 (acceptedAnswer ⟨"first"⟩ 2)) ++ ending

theorem prompts_end_ending :
    let started := (plainRun beforePrompt).step plainSetup (.task 2 (acceptedAnswer ⟨"first"⟩ 2))
    let world := run (World.step plainSetup) started promptEnded
    ((world.actors 0).snapshot.Ended ⟨"first"⟩ ∧
      (world.actors 0).snapshot.isActive ⟨"first"⟩ = false ∧
      ∀ run ∈ (world.actors 0).snapshot.runs, run.runId = ⟨"first"⟩ →
        run.lifecycle.isTerminal = true) ∧
    (Along (World.step plainSetup) (fun world input => 0 < (world.tasks 1).next →
        world.writes input ≠ some (0, .running)) started promptEnded →
      (world.actors 0).snapshot.lifecycle ≠ .running) :=
  prompts_end plainSetup (.create ⟨"server"⟩) beforePrompt promptEnded 2
    (acceptedAnswer ⟨"first"⟩ 2) (by decide +kernel) 0
    (by decide +kernel) (by decide +kernel) (by decide +kernel) 1 0 0 (by decide +kernel)
    ⟨rfl, rfl, by decide +kernel, ⟨_, rfl, rfl⟩, rfl⟩ (.inr rfl)

/-- OMP has handled the prompt by itself, and says so in its response to the command and
in a frame of its own. -/
def handledLocally : List Input :=
  beforePrompt ++ List.replicate 5 (Input.task 2 (acceptedAnswer ⟨"first"⟩ 2)) ++
  [Input.runtime 0 (.message (.request ⟨"1"⟩ "prompt" "" ⟨.ok 1, .ok ()⟩)),
    .runtime 0 (.reader (some (.frame (.response (.success (some ⟨"1"⟩) (.prompt (some ⟨false⟩))))))),
    .task 2 { plainAnswer with reply := .ok (.success (some ⟨"1"⟩) (.prompt (some ⟨false⟩))) },
    .runtime 0 (.reader (some (.frame (.sideChannel (.promptResult (some ⟨"1"⟩) false))))),
    .publish 0, .task 1 plainAnswer, .task 1 plainAnswer]

/-- The runtime knows that the prompt is completed, and the bridge is through with all
events. The run stays active, and the agent `Running`. -/
theorem local_prompt_runs_on :
    (plainRun handledLocally).Quiet ∧ (plainRun handledLocally).registry = some 0 ∧
      ((plainRun handledLocally).runtime 0).actor.prompt = some ⟨⟨"1"⟩, .completed .local⟩ ∧
      ((plainRun handledLocally).actors 0).snapshot.isActive ⟨"first"⟩ = true ∧
      ((plainRun handledLocally).actors 0).snapshot.lifecycle = .running := by
  refine ⟨⟨?_, ?_⟩, rfl, rfl, rfl, rfl⟩
  · intro t ht
    have hlt : t < 3 := ht
    interval_cases t
    · exact .inl rfl
    · exact .inr ⟨rfl, 0, rfl, rfl⟩
    · exact .inl rfl
  · intro r hr
    have hlt : r < 1 := hr
    interval_cases r
    exact ⟨rfl, .inr ⟨rfl, rfl⟩⟩

end Ends

end OmpRemote.Ompd.Supervision

import OmpRemote.Ompd.AgentList
import OmpRemote.Ompd.TodoOrder

/-!
# How session switches fail

A switch stops the agent and launches it again. The stop takes the runtime out of the map
and in the end the agent out of the registry; the launch locks the map, spawns, and finds
or creates the agent. An error at any point ends the request, and undoes nothing.

- `Switching`: where such a request is.
- `Disturbs`: another task does an operation that the request does as well.
- `Switching.step`: how the request gets on.
- `failed_switch_recovers`: after an error the map is unlocked and empty, so that a launch
  is accepted, and the agent is in the registry unless the error has come between its
  removal and the launch's search for it.
- `failed_switch_loses_agent`: one that has.
-/

namespace OmpRemote.Ompd.Supervision

open ControlPlane Lib Rpc OmpRemote.Runtime

variable {δ : Type}

/-! ## Where a switch is -/

/-- What a launch does after asking for the session. -/
def launchTail : List Op :=
  .processId :: persistSnapshot true true ++ [.insertRuntime, .spawnEventBridge]

/-- What a switch may have left to do. -/
inductive Switching : List Op → Prop where
  | script {todo : List Op} : todo <:+ Request.switchSession.script → Switching todo
  /-- It is about to end the actor that it has removed. -/
  | removed (actor : ActorId) : Switching (.shutdownAgent actor :: launch)
  /-- It is about to publish the session. -/
  | session (summary : SessionSummary) :
    Switching (.change true (.sessionChanged summary) :: launchTail)

section Shape

variable {op : Op} {ops rest : List Op}

theorem mem_script (h : op :: rest <:+ Request.switchSession.script) :
    op ∈ Request.switchSession.script := h.subset List.mem_cons_self

/-- What follows an operation of the script, if that is there only once. -/
theorem rest_removeAgent (h : Switching (.removeAgent :: rest)) : rest = launch := by
  cases h with
  | script hsuffix =>
    simpa [Request.script, launch, stop, setLifecycle, persistSnapshot, List.suffix_cons_iff]
      using hsuffix

theorem rest_getOrCreateAgent (h : Switching (.getOrCreateAgent :: rest)) :
    rest = setLifecycle true .idle :: .getState :: launchTail := by
  cases h with
  | script hsuffix =>
    simpa [Request.script, launch, stop, setLifecycle, persistSnapshot, launchTail,
      List.suffix_cons_iff] using hsuffix

theorem rest_getState (h : Switching (.getState :: rest)) : rest = launchTail := by
  cases h with
  | script hsuffix =>
    simpa [Request.script, launch, stop, setLifecycle, persistSnapshot, launchTail,
      List.suffix_cons_iff] using hsuffix

/-- The operations by which it is told how far the request is. -/
def Op.isMark : Op → Bool
  | .takeRuntime | .getAgent | .removeAgent | .getOrCreateAgent | .insertRuntime => true
  | .change _ (.lifecycleChanged _) => true
  | _ => false

/-- What a switch is given to do on its way. -/
theorem Switching.adds (h : Switching (op :: rest)) (hadds : Adds op ops) :
    Switching (ops ++ rest) ∧ ∀ added ∈ ops, added.isMark = false := by
  have hscript : ∀ {op : Op}, Switching (op :: rest) → op ∉ Request.switchSession.script →
      (∀ actor, op ≠ .shutdownAgent actor) → (∀ strict change, op ≠ .change strict change) →
      False := by
    intro op h hnot hshutdown hchange
    cases h with
    | script hsuffix => exact hnot (mem_script hsuffix)
    | removed actor => exact hshutdown actor rfl
    | session summary => exact hchange true _ rfl
  cases hadds with
  | nothing =>
    refine ⟨?_, by simp⟩
    cases h with
    | script hsuffix => exact .script ((List.suffix_cons op rest).trans hsuffix)
    | removed actor => exact .script (List.suffix_append _ _)
    | session summary =>
      refine .script ⟨stop ++ [.lockRuntimes, .spawn, .getOrCreateAgent, setLifecycle true .idle,
        .getState], rfl⟩
  | pushes hpushes =>
    cases hpushes with
    | session summary =>
      rw [rest_getState h]
      exact ⟨.session summary, by simp [Op.isMark]⟩
    | stopped | failed => exact (hscript h (by decide) nofun nofun).elim
    | promptFailed => exact (hscript h (by decide) nofun nofun).elim
  | event | lag => exact (hscript h (by decide) nofun nofun).elim
  | removed actor =>
    rw [rest_removeAgent h]
    exact ⟨.removed actor, by simp [Op.isMark]⟩

/-- The marks it has not done are those that are left. -/
theorem Switching.mark_mem (h : Switching (op :: rest)) (hadds : Adds op ops) {mark : Op}
    (hmark : mark.isMark = true) : mark ∈ op :: rest ↔ mark = op ∨ mark ∈ ops ++ rest := by
  have hnone : mark ∉ ops := by
    intro hmem
    rw [(h.adds hadds).2 mark hmem] at hmark
    cases hmark
  rw [List.mem_cons, List.mem_append, or_iff_right hnone]

/-- It does each of them once. -/
theorem Switching.once (h : Switching (op :: rest)) (hmark : op.isMark = true) : op ∉ rest := by
  cases h with
  | script hsuffix =>
    have hnodup : (Request.switchSession.script.filter Op.isMark).Nodup := by decide
    have hsub := hnodup.sublist (hsuffix.sublist.filter Op.isMark)
    rw [List.filter_cons_of_pos hmark, List.nodup_cons] at hsub
    exact fun hmem => hsub.1 (List.mem_filter.mpr ⟨hmem, hmark⟩)
  | removed actor => cases hmark
  | session summary => cases hmark

/-- As long as it can fail, it has still to insert its runtime. -/
theorem Switching.inserts (h : Switching (op :: rest)) (hop : op ≠ .spawnEventBridge) :
    .insertRuntime ∈ op :: rest := by
  cases h with
  | script hsuffix =>
    obtain ⟨before, hbefore⟩ := hsuffix
    have hdrop : op :: rest = Request.switchSession.script.drop before.length := by
      rw [← hbefore, List.drop_left]
    have hall : ∀ k < 17, .insertRuntime ∈ Request.switchSession.script.drop k := by decide
    by_cases hk : before.length < 17
    · rw [hdrop]
      exact hall _ hk
    · -- what is left is the last operation
      have hlength : before.length + (rest.length + 1) = 18 := by
        rw [← List.length_cons (a := op), ← List.length_append, hbefore]
        rfl
      have hlast : before.length = 17 := by omega
      rw [hlast] at hdrop
      exact absurd (List.cons.inj hdrop).1 hop
  | removed actor => simp [launch]
  | session summary => simp [launchTail]

/-- It sets no lifecycle between `Stopped` and the removal of the agent. -/
theorem Switching.stopped {strict : Bool} {lifecycle : AgentLifecycle}
    (h : Switching (.change strict (.lifecycleChanged lifecycle) :: rest))
    (hremoves : .removeAgent ∈ rest) :
    setLifecycle true .stopped ∈ .change strict (.lifecycleChanged lifecycle) :: rest := by
  cases h with
  | script hsuffix =>
    simp only [Request.script, launch, stop, setLifecycle, persistSnapshot, List.cons_append,
      List.nil_append, List.suffix_cons_iff, List.suffix_nil, List.cons.injEq, Op.change.injEq,
      reduceCtorEq, false_and, false_or] at hsuffix
    rcases hsuffix with ⟨⟨rfl, heq⟩, rfl⟩ | ⟨⟨rfl, heq⟩, rfl⟩ | ⟨⟨rfl, heq⟩, rfl⟩ | hnot
    · simp [setLifecycle]
    · cases heq
      simp [setLifecycle]
    · simp at hremoves
    · exact hnot.elim

/-- It takes the runtime first. -/
theorem Switching.begins (h : Switching (op :: rest)) (htakes : .takeRuntime ∈ op :: rest) :
    op = .takeRuntime := by
  cases h with
  | script hsuffix =>
    rcases List.mem_cons.mp htakes with heq | hrest
    · exact heq.symm
    · have hnot : .takeRuntime ∉ Request.switchSession.script.tail := by decide
      have hshort : rest <:+ Request.switchSession.script.tail := by
        obtain ⟨before, hbefore⟩ := hsuffix
        cases before with
        | nil => rw [← hbefore, List.nil_append, List.tail_cons]
        | cons first before =>
          rw [← hbefore, List.cons_append, List.tail_cons]
          exact (List.suffix_cons op rest).trans (List.suffix_append _ _)
      exact absurd (hshort.subset hrest) hnot
  | removed actor => simp [launch, setLifecycle, persistSnapshot] at htakes
  | session summary => simp [launchTail, persistSnapshot] at htakes

/-- It has found the agent by then. -/
theorem Switching.found (h : Switching (setLifecycle true .stopped :: rest)) :
    .getAgent ∉ setLifecycle true .stopped :: rest := by
  cases h with
  | script hsuffix =>
    have hrest : rest = persistSnapshot true false ++ .removeAgent :: launch := by
      simpa [Request.script, launch, stop, setLifecycle, persistSnapshot, List.suffix_cons_iff]
        using hsuffix
    rw [hrest]
    decide

end Shape

/-! ## A step of a switch -/

/-- Another task than `t` does the operation. -/
def World.Disturbs (world : World δ) (t : TaskId) (op : Op) : Input → Prop
  | .task u _ => u ≠ t ∧ (world.tasks u).todo.head? = some op
  | _ => False

instance (world : World δ) (t : TaskId) (op : Op) : ∀ input, Decidable (world.Disturbs t op input)
  | .task _ _ => inferInstanceAs (Decidable (_ ∧ _))
  | .request _ | .runtime .. | .publish _ | .stderr .. | .close _ | .actor .. | .restart .. =>
    inferInstanceAs (Decidable False)

def Input.isRestart : Input → Bool
  | .restart .. => true
  | _ => false

section Steps

variable (setup : Setup) {world : World δ} {t : TaskId} {answer : Answer} {op : Op}
  {rest : List Op} {input : Input}

/-- A task makes a step, or is left alone. -/
theorem step_turn (hlt : t < world.nextTask) (hinput : input.isRestart = false) :
    (∃ answer op rest, input = .task t answer ∧ (world.tasks t).todo = op :: rest) ∨
      (world.step setup input).tasks t = world.tasks t ∧
        ∀ op, (∃ u answer, input = .task u answer ∧ (world.tasks u).todo.head? = some op) →
          world.Disturbs t op input := by
  cases input with
  | task u answer =>
    cases htodo : (world.tasks u).todo with
    | nil =>
      refine .inr ⟨by simp only [World.step, World.stepTask, htodo], ?_⟩
      rintro op ⟨_, _, heq, hhead⟩
      cases heq
      rw [htodo] at hhead
      cases hhead
    | cons op rest =>
      by_cases hu : u = t
      · subst hu
        exact .inl ⟨answer, op, rest, rfl, htodo⟩
      have hstep : TaskStep setup world u answer op rest (world.step setup (.task u answer)) :=
        stepTask_cases htodo
      refine .inr ⟨?_, ?_⟩
      · rcases hstep.todo_other (Ne.symm hu) with hsame | ⟨hnew, -, -⟩
        · exact hsame
        · exact absurd hlt (by rw [hnew]; exact Nat.lt_irrefl _)
      · rintro op ⟨_, _, heq, hhead⟩
        cases heq
        exact ⟨hu, hhead⟩
  | request request =>
    refine .inr ⟨?_, by rintro _ ⟨_, _, heq, -⟩; cases heq⟩
    simp only [World.step]
    split
    · exact Function.update_of_ne (Nat.ne_of_lt hlt) _ _
    · rfl
  | runtime | publish => exact .inr ⟨rfl, by rintro _ ⟨_, _, heq, -⟩; cases heq⟩
  | stderr | close | actor =>
    refine .inr ⟨?_, by rintro _ ⟨_, _, heq, -⟩; cases heq⟩
    simp only [World.step]
    split
    · rfl
    · rfl
  | restart => cases hinput

/-- Only a launch registers an actor, if there is none, and only a stop removes one. -/
theorem TaskStep.registers {world' : World δ} (h : TaskStep setup world t answer op rest world') :
    world'.registry = world.registry ∨
      op = .getOrCreateAgent ∧ world.registry = none ∧ world'.registry.isSome = true ∨
      op = .removeAgent ∧ world'.registry = none := by
  cases h with
  | calls actor command task =>
    rw [noteRecorded_eq]
    exact .inl rfl
  | creates hop hnone => exact .inr (.inl ⟨hop, hnone, rfl⟩)
  | removes actor hop => exact .inr (.inr ⟨hop, rfl⟩)
  | waits | fails | goesOn | pushes | locks | spawns | finds | inserts | bridges | takes | gets
  | upserts | receives | lags | closes => exact .inl rfl

/-- How a step changes the registry and the map of runtimes. -/
theorem step_entries (world : World δ) {input : Input} (hinput : input.isRestart = false) :
    ((world.step setup input).registry = world.registry ∨
      (∃ u answer, input = .task u answer ∧
        (world.tasks u).todo.head? = some .getOrCreateAgent) ∧ world.registry = none ∧
          (world.step setup input).registry.isSome = true ∨
      (∃ u answer, input = .task u answer ∧ (world.tasks u).todo.head? = some .removeAgent) ∧
        (world.step setup input).registry = none) ∧
    ((world.step setup input).runtimes = world.runtimes ∨
      (world.step setup input).runtimes = none ∨
      ∃ u answer, input = .task u answer ∧ (world.tasks u).todo.head? = some .insertRuntime) := by
  cases input with
  | task u answer =>
    cases htodo : (world.tasks u).todo with
    | nil =>
      simp only [World.step, World.stepTask, htodo]
      exact ⟨.inl trivial, .inl trivial⟩
    | cons op rest =>
      have hstep : TaskStep setup world u answer op rest (world.step setup (.task u answer)) :=
        stepTask_cases htodo
      constructor
      · rcases hstep.registers setup with hsame | ⟨rfl, hnone, hsome⟩ | ⟨rfl, hnone⟩
        · exact .inl hsame
        · exact .inr (.inl ⟨⟨u, answer, rfl, by rw [htodo]; rfl⟩, hnone, hsome⟩)
        · exact .inr (.inr ⟨⟨u, answer, rfl, by rw [htodo]; rfl⟩, hnone⟩)
      · rcases hstep.runtimes_cases with hsame | hnone | ⟨rfl, -, -⟩
        · exact .inl hsame
        · exact .inr (.inl hnone)
        · exact .inr (.inr ⟨u, answer, rfl, by rw [htodo]; rfl⟩)
  | runtime | publish => exact ⟨.inl rfl, .inl rfl⟩
  | request | stderr | close | actor =>
    simp only [World.step]
    split
    · exact ⟨.inl rfl, .inl rfl⟩
    · exact ⟨.inl rfl, .inl rfl⟩
  | restart => cases hinput

/-- A request to switch the session, or what is left of it. -/
structure Switches (world : World δ) (t : TaskId) : Prop where
  sound : Sound world
  allocated : t < world.nextTask
  todo : Switching (world.tasks t).todo

/-- An operation of a switch is done: the marks that were left are it and what is left. -/
structure Passes (op : Op) (rest todo : List Op) : Prop where
  shape : Switching todo
  mem : ∀ mark : Op, mark.isMark = true → (mark ∈ op :: rest ↔ mark = op ∨ mark ∈ todo)
  once : op.isMark = true → op ∉ todo

/-- What a switch does at a step: nothing, or it gives up, or does its operation. -/
theorem Switches.turn (h : Switches world t) (answer : Answer)
    (htodo : (world.tasks t).todo = op :: rest) :
    world.step setup (.task t answer) = world ∨
      ((world.step setup (.task t answer)).tasks t).todo = [] ∨
      Passes op rest ((world.step setup (.task t answer)).tasks t).todo := by
  have hstep : TaskStep setup world t answer op rest (world.step setup (.task t answer)) :=
    stepTask_cases htodo
  have hshape := h.todo
  rw [htodo] at hshape
  rcases hstep.todo h.allocated with hsame | ⟨hdone, -⟩ | ⟨ops, hadds, hmore⟩
  · exact .inl hsame
  · exact .inr (.inl hdone)
  · rw [hmore]
    refine .inr (.inr ⟨(hshape.adds hadds).1, fun mark hmark => hshape.mark_mem hadds hmark, ?_⟩)
    intro hmark hmem
    rcases List.mem_append.mp hmem with hadded | hrest
    · rw [(hshape.adds hadds).2 op hadded] at hmark
      cases hmark
    · exact hshape.once hmark hrest

/-- Task ids are not given back while the daemon lives. -/
theorem nextTask_step (hinput : input.isRestart = false) :
    world.nextTask ≤ (world.step setup input).nextTask := by
  cases input with
  | task u answer =>
    cases htodo : (world.tasks u).todo with
    | nil =>
      simp only [World.step, World.stepTask, htodo]
      exact Nat.le_refl _
    | cons op rest =>
      have hstep : TaskStep setup world u answer op rest (world.step setup (.task u answer)) :=
        stepTask_cases htodo
      exact hstep.nextTask_le
  | runtime | publish => exact Nat.le_refl _
  | request =>
    simp only [World.step]
    split
    · exact Nat.le_succ _
    · exact Nat.le_refl _
  | stderr | close | actor =>
    simp only [World.step]
    split
    · exact Nat.le_refl _
    · exact Nat.le_refl _
  | restart => cases hinput

theorem Switches.step (h : Switches world t) (hinput : input.isRestart = false) :
    Switches (world.step setup input) t where
  sound := h.sound.step input
  allocated := Nat.lt_of_lt_of_le h.allocated (nextTask_step setup hinput)
  todo := by
    rcases step_turn setup h.allocated hinput with ⟨answer, op, rest, rfl, htodo⟩ | ⟨hsame, -⟩
    · rcases h.turn setup answer htodo with hsame | hdone | hpasses
      · rw [hsame]
        exact h.todo
      · rw [hdone]
        exact .script List.nil_suffix
      · exact hpasses.shape
    · rw [hsame]
      exact h.todo

/-! ### The map and the registry -/

/-- From the taking of the runtime to the insertion of another one the map is empty. -/
def World.Emptied (world : World δ) (t : TaskId) : Prop :=
  .takeRuntime ∉ (world.tasks t).todo → .insertRuntime ∈ (world.tasks t).todo →
    world.runtimes = none

theorem step_takeRuntime (htodo : (world.tasks t).todo = .takeRuntime :: rest) :
    world.step setup (.task t answer) = world ∨
      (world.step setup (.task t answer)).runtimes = none := by
  simp only [World.step, World.stepTask, htodo, World.attempt, Task.command, World.perform]
  cases world.lock with
  | some u => exact .inl rfl
  | none =>
    refine .inr ?_
    cases hentry : world.runtimes with
    | none => exact hentry
    | some r => rfl

theorem World.Emptied.step (h : world.Emptied t) (hswitch : Switches world t)
    (hinput : input.isRestart = false) (halone : ¬ world.Disturbs t .insertRuntime input) :
    (world.step setup input).Emptied t := by
  obtain ⟨-, hruntimes⟩ := step_entries setup world hinput
  rcases step_turn setup hswitch.allocated hinput with
    ⟨answer, op, rest, rfl, htodo⟩ | ⟨hsame, hothers⟩
  · rcases hswitch.turn setup answer htodo with hsame | hdone | hpasses
    · rwa [hsame]
    · intro _ hinserts
      rw [hdone] at hinserts
      cases hinserts
    · intro htaken hinserts
      rw [World.Emptied, htodo, hpasses.mem _ rfl, hpasses.mem _ rfl] at h
      by_cases hop : op = .takeRuntime
      · subst hop
        refine (step_takeRuntime setup htodo).resolve_left fun hwaits => htaken ?_
        rw [hwaits, htodo]
        exact List.mem_cons_self
      · have hnone := h (by rintro (heq | hmem); exacts [hop heq.symm, htaken hmem]) (.inr hinserts)
        rcases hruntimes with hkept | hempty | ⟨u, _, heq, hhead⟩
        · exact hkept.trans hnone
        · exact hempty
        · cases heq
          rw [htodo] at hhead
          cases hhead
          exact absurd hinserts (hpasses.once rfl)
  · rw [World.Emptied, hsame]
    intro htaken hinserts
    rcases hruntimes with hkept | hempty | hinserted
    · exact hkept.trans (h htaken hinserts)
    · exact hempty
    · exact absurd (hothers _ hinserted) halone

/-- The agent stays registered until the request removes it, and is so again when its
launch has looked for it. -/
structure World.Registers (world : World δ) (t : TaskId) (actor : ActorId) : Prop where
  before : .removeAgent ∈ (world.tasks t).todo → world.registry = some actor
  after : .getOrCreateAgent ∉ (world.tasks t).todo → .insertRuntime ∈ (world.tasks t).todo →
    world.registry.isSome = true

theorem World.Registers.step {actor : ActorId} (h : world.Registers t actor)
    (hswitch : Switches world t) (hinput : input.isRestart = false)
    (halone : ¬ world.Disturbs t .removeAgent input) :
    (world.step setup input).Registers t actor := by
  obtain ⟨hregistry, -⟩ := step_entries setup world hinput
  rcases step_turn setup hswitch.allocated hinput with
    ⟨answer, op, rest, rfl, htodo⟩ | ⟨hsame, hothers⟩
  · rcases hswitch.turn setup answer htodo with hsame | hdone | hpasses
    · rwa [hsame]
    · constructor
      · intro hremoves
        rw [hdone] at hremoves
        cases hremoves
      · intro _ hinserts
        rw [hdone] at hinserts
        cases hinserts
    · have hbefore := h.before
      have hafter := h.after
      rw [htodo, hpasses.mem _ rfl] at hbefore
      rw [htodo, hpasses.mem _ rfl, hpasses.mem _ rfl] at hafter
      constructor
      · intro hremoves
        have hactor := hbefore (.inr hremoves)
        rcases hregistry with hkept | ⟨-, hnone, -⟩ | ⟨⟨u, _, heq, hhead⟩, -⟩
        · exact hkept.trans hactor
        · rw [hactor] at hnone
          cases hnone
        · cases heq
          rw [htodo] at hhead
          cases hhead
          exact absurd hremoves (hpasses.once rfl)
      · intro hfound hinserts
        by_cases hop : op = .getOrCreateAgent
        · subst hop
          exact stepTask_getOrCreateAgent setup answer htodo
        · have hsome := hafter (by rintro (heq | hmem); exacts [hop heq.symm, hfound hmem])
            (.inr hinserts)
          rcases hregistry with hkept | ⟨-, -, hcreated⟩ | ⟨⟨u, _, heq, hhead⟩, -⟩
          · rwa [hkept]
          · exact hcreated
          · cases heq
            rw [htodo] at hhead
            cases hhead
            -- the launch is still to come
            have hshape := hswitch.todo
            rw [htodo] at hshape
            have hmem : .getOrCreateAgent ∈ Op.removeAgent :: rest := by
              rw [rest_removeAgent hshape]
              decide
            rcases (hpasses.mem _ rfl).mp hmem with heq | hleft
            · cases heq
            · exact absurd hleft hfound
  · constructor
    · rw [hsame]
      intro hremoves
      have hactor := h.before hremoves
      rcases hregistry with hkept | ⟨-, hnone, -⟩ | ⟨hremoved, -⟩
      · exact hkept.trans hactor
      · rw [hactor] at hnone
        cases hnone
      · exact absurd (hothers _ hremoved) halone
    · rw [hsame]
      intro hfound hinserts
      rcases hregistry with hkept | ⟨-, -, hcreated⟩ | ⟨hremoved, -⟩
      · rw [hkept]
        exact h.after hfound hinserts
      · exact hcreated
      · exact absurd (hothers _ hremoved) halone

/-- Between its removal and the launch's search for it the agent is not registered. -/
def World.Vacated (world : World δ) (t : TaskId) : Prop :=
  .removeAgent ∉ (world.tasks t).todo → .getOrCreateAgent ∈ (world.tasks t).todo →
    world.registry = none

theorem World.Vacated.step (h : world.Vacated t) (hswitch : Switches world t)
    (hinput : input.isRestart = false) (halone : ¬ world.Disturbs t .getOrCreateAgent input) :
    (world.step setup input).Vacated t := by
  obtain ⟨hregistry, -⟩ := step_entries setup world hinput
  rcases step_turn setup hswitch.allocated hinput with
    ⟨answer, op, rest, rfl, htodo⟩ | ⟨hsame, hothers⟩
  · rcases hswitch.turn setup answer htodo with hsame | hdone | hpasses
    · rwa [hsame]
    · intro _ hcreates
      rw [hdone] at hcreates
      cases hcreates
    · intro hremoved hcreates
      rw [World.Vacated, htodo, hpasses.mem _ rfl, hpasses.mem _ rfl] at h
      by_cases hop : op = .removeAgent
      · subst hop
        have hnone : ¬ (world.step setup (.task t answer)).Listed :=
          stepTask_removeAgent setup answer htodo
        simpa [World.Listed] using hnone
      · have hnone := h (by rintro (heq | hmem); exacts [hop heq.symm, hremoved hmem])
          (.inr hcreates)
        rcases hregistry with hkept | ⟨⟨u, _, heq, hhead⟩, -⟩ | ⟨-, hempty⟩
        · exact hkept.trans hnone
        · cases heq
          rw [htodo] at hhead
          cases hhead
          exact absurd hcreates (hpasses.once rfl)
        · exact hempty
  · rw [World.Vacated, hsame]
    intro hremoved hcreates
    rcases hregistry with hkept | ⟨hcreated, -⟩ | ⟨-, hempty⟩
    · exact hkept.trans (h hremoved hcreates)
    · exact absurd (hothers _ hcreated) halone
    · exact hempty

/-! ### The lifecycle -/

/-- Another task than `t` says of the agent that it is up. -/
def World.Revives (world : World δ) (t : TaskId) (actor : ActorId) : Input → Prop
  | .task u answer => u ≠ t ∧ ∃ written ∈ world.writes (.task u answer),
    written.1 = actor ∧ written.2.isTerminal = false
  | _ => False

instance (world : World δ) (t : TaskId) (actor : ActorId) :
    ∀ input, Decidable (world.Revives t actor input)
  | .task _ _ => inferInstanceAs (Decidable (_ ∧ _))
  | .request _ | .runtime .. | .publish _ | .stderr .. | .close _ | .actor .. | .restart .. =>
    inferInstanceAs (Decidable False)

/-- Until it removes the agent the request deals with the registered actor, which is down
once the request has set `Stopped`. -/
structure World.Downs (world : World δ) (t : TaskId) (actor : ActorId) : Prop where
  agent : .removeAgent ∈ (world.tasks t).todo → .getAgent ∉ (world.tasks t).todo →
    (world.tasks t).agent = some actor
  down : .removeAgent ∈ (world.tasks t).todo → setLifecycle true .stopped ∉ (world.tasks t).todo →
    (world.actors actor).snapshot.lifecycle.isTerminal = true

/-- Only a search for the agent changes which one a task deals with. -/
theorem TaskStep.agent_eq {world' : World δ} (h : TaskStep setup world t answer op rest world')
    (hlt : t < world.nextTask) (hop : op ≠ .getAgent ∧ op ≠ .getOrCreateAgent) :
    (world'.tasks t).agent = (world.tasks t).agent := by
  have hset : ∀ task : Task, task.agent = (world.tasks t).agent →
      (Function.update world.tasks t task t).agent = (world.tasks t).agent := by
    intro task htask
    rw [Function.update_self]
    exact htask
  cases h with
  | waits => rfl
  | fails task _ _ _ hkeeps => exact hset task hkeeps.agent
  | calls actor command task _ _ _ hkeeps =>
    rw [noteRecorded_eq]
    exact hset task hkeeps.agent
  | bridges =>
    show (Function.update (Function.update world.tasks t _) world.nextTask _ t).agent = _
    rw [Function.update_of_ne (Nat.ne_of_lt hlt)]
    exact hset _ rfl
  | finds actor hfinds => exact (hfinds.elim hop.1 hop.2).elim
  | creates hcreates => exact absurd hcreates hop.2
  | goesOn | pushes | locks | spawns | inserts | takes | gets | removes | upserts | receives | lags
  | closes => exact hset _ rfl

theorem step_getAgent {actor : ActorId} (htodo : (world.tasks t).todo = .getAgent :: rest)
    (hregistry : world.registry = some actor) :
    ((world.step setup (.task t answer)).tasks t).agent = some actor := by
  simp only [World.step, World.stepTask, htodo, World.attempt, Task.command, World.perform,
    hregistry, World.resolve, if_true]
  rw [World.tasks_setTask_self]

/-- After its `Stopped` the lifecycle is that. -/
theorem step_stopped {actor : ActorId} (hagent : (world.tasks t).agent = some actor)
    (htodo : (world.tasks t).todo = setLifecycle true .stopped :: rest)
    (hgoesOn : ((world.step setup (.task t answer)).tasks t).todo ≠ []) :
    ((world.step setup (.task t answer)).actors actor).snapshot.lifecycle = .stopped := by
  have hcommand : ({ world.tasks t with todo := rest } : Task).command answer
      (setLifecycle true .stopped) = some (actor, .change (.lifecycleChanged .stopped)) := by
    simp [Task.command, hagent, setLifecycle]
  rw [(step_call setup htodo hcommand).1, Function.update_self]
  rcases (world.actors actor).turn_change (.lifecycleChanged .stopped) with
    ⟨-, hchanged⟩ | ⟨hfails, -⟩
  · exact hchanged.lifecycle
  · refine absurd (step_fails htodo ?_).1 hgoesOn
    unfold World.attempt
    dsimp only
    rw [hcommand]
    dsimp only
    rw [call_eq, hfails]
    rfl

theorem World.Downs.step {actor : ActorId} (h : world.Downs t actor)
    (hregisters : world.Registers t actor) (hswitch : Switches world t)
    (hinput : input.isRestart = false) (hdown : ¬ world.Revives t actor input) :
    (world.step setup input).Downs t actor := by
  have hlt : .removeAgent ∈ (world.tasks t).todo → actor < world.nextActor :=
    fun hremoves => (hswitch.sound.registered actor (hregisters.before hremoves)).1
  rcases step_turn setup hswitch.allocated hinput with
    ⟨answer, op, rest, rfl, htodo⟩ | ⟨hsame, hothers⟩
  · rcases hswitch.turn setup answer htodo with hsame | hdone | hpasses
    · rwa [hsame]
    · constructor <;> intro hremoves <;> rw [hdone] at hremoves <;> cases hremoves
    have hbefore : .removeAgent ∈ ((world.step setup (.task t answer)).tasks t).todo →
        .removeAgent ∈ (world.tasks t).todo := by
      rw [htodo, hpasses.mem _ rfl]
      exact .inr
    constructor
    · intro hremoves hfound
      have hmem := hbefore hremoves
      by_cases hop : op = .getAgent
      · subst hop
        exact step_getAgent setup htodo (hregisters.before hmem)
      have hstep : TaskStep setup world t answer op rest (world.step setup (.task t answer)) :=
        stepTask_cases htodo
      refine (hstep.agent_eq setup hswitch.allocated ⟨hop, ?_⟩).trans (h.agent hmem ?_)
      · -- it has removed the agent before it looks for it again
        rintro rfl
        have hshape := hswitch.todo
        rw [htodo] at hshape hmem
        rw [rest_getOrCreateAgent hshape] at hmem
        exact absurd hmem (by decide)
      · rw [htodo, hpasses.mem _ rfl]
        rintro (heq | hleft)
        exacts [hop heq.symm, hfound hleft]
    · intro hremoves hset
      have hmem := hbefore hremoves
      by_cases hop : op = setLifecycle true .stopped
      · subst hop
        have hshape := hswitch.todo
        rw [htodo] at hshape
        have hagent := h.agent hmem (by rw [htodo]; exact hshape.found)
        rw [step_stopped setup hagent htodo (List.ne_nil_of_mem hremoves)]
        rfl
      · have hleft : setLifecycle true .stopped ∉ (world.tasks t).todo := by
          rw [htodo, hpasses.mem _ rfl]
          rintro (heq | hmem)
          exacts [hop heq.symm, hset hmem]
        rcases step_lifecycle setup (.task t answer) (hlt hmem) with hkept | ⟨lifecycle, hwrites, -⟩
        · rw [hkept]
          exact h.down hmem hleft
        · -- it sets none
          exfalso
          obtain ⟨head, hhead, hwritten⟩ := Option.bind_eq_some_iff.mp hwrites
          rw [htodo] at hhead
          cases hhead
          obtain ⟨_, -, hlifecycle⟩ := Option.bind_eq_some_iff.mp hwritten
          obtain ⟨_, hlifecycle, -⟩ := Option.bind_eq_some_iff.mp hlifecycle
          cases op with
          | change strict change =>
            cases change with
            | lifecycleChanged lifecycle =>
              have hshape := hswitch.todo
              rw [htodo] at hshape hmem hleft
              rcases List.mem_cons.mp hmem with heq | hrest
              · cases heq
              · exact hleft (hshape.stopped hrest)
            | _ => cases hlifecycle
          | _ => cases hlifecycle
  · constructor
    · rw [hsame]
      exact h.agent
    · rw [hsame]
      intro hremoves hset
      rcases step_lifecycle setup input (hlt hremoves) with hkept | ⟨lifecycle, hwrites, hwritten⟩
      · rw [hkept]
        exact h.down hremoves hset
      · rw [hwritten]
        cases input with
        | task u answer =>
          obtain ⟨op, hhead, -⟩ := Option.bind_eq_some_iff.mp hwrites
          have hother := (hothers op ⟨u, answer, rfl, hhead⟩).1
          cases hup : lifecycle.isTerminal with
          | true => rfl
          | false => exact absurd ⟨hother, _, hwrites, rfl, hup⟩ hdown
        | request | runtime | publish | stderr | close | actor | restart => cases hwrites

/-! ## What a failed switch leaves -/

/-- The operation that the task is at fails, so that the request returns an error. -/
def World.GivesUp (world : World δ) (t : TaskId) (answer : Answer) : Bool :=
  match (world.tasks t).todo with
  | [] => false
  | op :: rest => !(world.attempt setup t answer op rest).1

/-- What the switch `t`, which has come before `started` and fails after `later`, leaves
behind. -/
structure Recovers (started : World δ) (later : List Input) (t : TaskId) (answer : Answer) :
    Prop where
  unlocked : (run (World.step setup) started (later ++ [.task t answer])).lock ≠ some t
  /-- Until another launch has inserted a runtime, a launch is accepted. -/
  accepted : ∀ more, (∀ input ∈ more, input.isRestart = false) →
    Along (World.step setup) (fun world input => ¬ world.Disturbs t .insertRuntime input) started
      (later ++ .task t answer :: more) →
    let world := run (World.step setup) started (later ++ .task t answer :: more)
    world.runtimes = none ∧
      ∀ u answer rest, (world.attempt setup u answer .lockRuntimes rest).1 = true
  /-- If it has not found a runtime, it has changed nothing. -/
  untouched : ((run (World.step setup) started later).tasks t).todo.head? = some .takeRuntime →
    let failing := run (World.step setup) started later
    let world := failing.step setup (.task t answer)
    world.actors = failing.actors ∧ world.registry = failing.registry ∧ world.store = failing.store
  /-- Unless another request removes the agent, it is there until this one has removed it,
  and after its launch has looked for it. -/
  registered : ∀ actor, started.registry = some actor →
    Along (World.step setup) (fun world input => ¬ world.Disturbs t .removeAgent input)
      started later →
    let failing := run (World.step setup) started later
    let world := failing.step setup (.task t answer)
    (.removeAgent ∈ (failing.tasks t).todo → world.registry = some actor) ∧
      (.getOrCreateAgent ∉ (failing.tasks t).todo → world.registry.isSome = true)
  /-- In between it is not, unless another launch looks for it. -/
  vacated : Along (World.step setup)
      (fun world input => ¬ world.Disturbs t .getOrCreateAgent input) started later →
    let failing := run (World.step setup) started later
    .removeAgent ∉ (failing.tasks t).todo → .getOrCreateAgent ∈ (failing.tasks t).todo →
      (failing.step setup (.task t answer)).registry = none
  /-- If the store refuses the row of the stopped agent, and no other task says that the
  agent is up, then it is down. -/
  stopped : ∀ actor, started.registry = some actor →
    Along (World.step setup) (fun world input =>
      ¬ world.Disturbs t .removeAgent input ∧ ¬ world.Revives t actor input) started later →
    let failing := run (World.step setup) started later
    (failing.tasks t).todo.head? = some (.upsertAgent true false) →
      (((failing.step setup (.task t answer)).actors actor).snapshot.lifecycle).isTerminal = true

theorem givesUp_cons (hgivesUp : world.GivesUp setup t answer = true) :
    ∃ op rest, (world.tasks t).todo = op :: rest ∧
      (world.attempt setup t answer op rest).1 = false := by
  unfold World.GivesUp at hgivesUp
  split at hgivesUp
  · cases hgivesUp
  · rename_i op rest htodo
    exact ⟨op, rest, htodo, by simpa using hgivesUp⟩

/-- Without a runtime in the map a request to take it changes nothing. -/
theorem takeRuntime_fails (htodo : (world.tasks t).todo = .takeRuntime :: rest)
    (hfails : (world.attempt setup t answer .takeRuntime rest).1 = false) :
    world.runtimes = none ∧ world.step setup (.task t answer) = world.fail t := by
  simp only [World.step, World.stepTask, htodo, World.resolve]
  simp only [World.attempt, Task.command, World.perform] at hfails ⊢
  cases hlock : world.lock with
  | some u =>
    rw [hlock] at hfails
    cases hfails
  | none =>
    rw [hlock] at hfails
    cases hentry : world.runtimes with
    | some r =>
      rw [hentry] at hfails
      cases hfails
    | none => exact ⟨rfl, rfl⟩

/-- The step at which it gives up changes the registry or the map only by a failing
operation. -/
theorem step_head {head : Op} (htodo : (world.tasks t).todo = op :: rest)
    (hturn : ∃ u answer', Input.task t answer = .task u answer' ∧
      (world.tasks u).todo.head? = some head) : op = head := by
  obtain ⟨u, _, heq, hhead⟩ := hturn
  cases heq
  rw [htodo] at hhead
  exact Option.some.inj hhead

/-- There is no runtime in the map then. -/
theorem Switches.empty (hswitch : Switches world t) (h : world.Emptied t)
    (hgivesUp : world.GivesUp setup t answer = true) :
    (world.step setup (.task t answer)).runtimes = none := by
  obtain ⟨op, rest, htodo, hfails⟩ := givesUp_cons setup hgivesUp
  have hshape := hswitch.todo
  rw [htodo] at hshape
  have hnone : world.runtimes = none := by
    by_cases htakes : .takeRuntime ∈ op :: rest
    · obtain rfl := hshape.begins htakes
      exact (takeRuntime_fails setup htodo hfails).1
    · refine h (by rw [htodo]; exact htakes) ?_
      rw [htodo]
      refine hshape.inserts ?_
      rintro rfl
      cases hfails
  obtain ⟨-, hkept | hempty | hinserted⟩ :=
    step_entries setup world (show (Input.task t answer).isRestart = false from rfl)
  · exact hkept.trans hnone
  · exact hempty
  · rw [step_head htodo hinserted] at hfails
    cases hfails

/-- The agent is registered then. -/
theorem Switches.registered {actor : ActorId} (hswitch : Switches world t)
    (h : world.Registers t actor) (hgivesUp : world.GivesUp setup t answer = true) :
    (.removeAgent ∈ (world.tasks t).todo →
      (world.step setup (.task t answer)).registry = some actor) ∧
    (.getOrCreateAgent ∉ (world.tasks t).todo →
      (world.step setup (.task t answer)).registry.isSome = true) := by
  obtain ⟨op, rest, htodo, hfails⟩ := givesUp_cons setup hgivesUp
  have hshape := hswitch.todo
  rw [htodo] at hshape
  obtain ⟨hregistry, -⟩ :=
    step_entries setup world (show (Input.task t answer).isRestart = false from rfl)
  constructor
  · intro hremoves
    have hkept := h.before hremoves
    rcases hregistry with hsame | ⟨-, hnone, -⟩ | ⟨hremoved, -⟩
    · exact hsame.trans hkept
    · rw [hkept] at hnone
      cases hnone
    · -- it finds the agent, and does not fail
      rw [step_head htodo hremoved] at hfails
      simp only [World.attempt, Task.command, World.perform, hkept] at hfails
      cases hfails
  · intro hfound
    have hinserts : .insertRuntime ∈ (world.tasks t).todo := by
      rw [htodo]
      refine hshape.inserts ?_
      rintro rfl
      cases hfails
    rcases hregistry with hsame | ⟨-, -, hcreated⟩ | ⟨hremoved, -⟩
    · rw [hsame]
      exact h.after hfound hinserts
    · exact hcreated
    · -- the launch is still to come
      obtain rfl := step_head htodo hremoved
      rw [htodo, rest_removeAgent hshape] at hfound
      exact absurd (by decide) hfound

/-- It is not, if the request has removed it and has not looked for it. -/
theorem Switches.vacant (h : world.Vacated t) (hgivesUp : world.GivesUp setup t answer = true)
    (hremoved : .removeAgent ∉ (world.tasks t).todo)
    (hcreates : .getOrCreateAgent ∈ (world.tasks t).todo) :
    (world.step setup (.task t answer)).registry = none := by
  obtain ⟨op, rest, htodo, hfails⟩ := givesUp_cons setup hgivesUp
  obtain ⟨hsame | ⟨hcreated, -⟩ | ⟨-, hnone⟩, -⟩ :=
    step_entries setup world (show (Input.task t answer).isRestart = false from rfl)
  · exact hsame.trans (h hremoved hcreates)
  · -- looking for the agent does not fail
    rw [step_head htodo hcreated] at hfails
    simp only [World.attempt, Task.command, World.perform] at hfails
    split at hfails
    · cases hfails
    · cases hfails
  · exact hnone

/-- If the row of the stopped agent is refused, the agent is down. -/
theorem Switches.down {actor : ActorId} (hswitch : Switches world t)
    (hregisters : world.Registers t actor) (h : world.Downs t actor)
    (hhead : (world.tasks t).todo.head? = some (.upsertAgent true false)) :
    ((world.step setup (.task t answer)).actors actor).snapshot.lifecycle.isTerminal = true := by
  obtain ⟨rest, htodo⟩ := List.head?_eq_some_iff.mp hhead
  have hshape := hswitch.todo
  rw [htodo] at hshape
  have hrest : rest = .removeAgent :: launch := by
    cases hshape with
    | script hsuffix =>
      simpa [Request.script, launch, stop, setLifecycle, persistSnapshot, List.suffix_cons_iff]
        using hsuffix
  have hremoves : .removeAgent ∈ (world.tasks t).todo := by
    rw [htodo, hrest]
    decide
  have hset : setLifecycle true .stopped ∉ (world.tasks t).todo := by
    rw [htodo, hrest]
    decide
  have hlt := (hswitch.sound.registered actor (hregisters.before hremoves)).1
  rcases step_lifecycle setup (.task t answer) hlt with hkept | ⟨lifecycle, hwrites, -⟩
  · rw [hkept]
    exact h.down hremoves hset
  · -- it writes none
    rw [World.writes, htodo] at hwrites
    obtain ⟨_, heq, hwritten⟩ := Option.bind_eq_some_iff.mp hwrites
    cases heq
    obtain ⟨_, -, hlifecycle⟩ := Option.bind_eq_some_iff.mp hwritten
    cases hlifecycle

/-- Nothing is inserted by a request that has given up. -/
theorem empty_run (inputs : List Input) (hnone : world.runtimes = none)
    (hdone : (world.tasks t).todo = []) (hlt : t < world.nextTask)
    (halive : ∀ input ∈ inputs, input.isRestart = false)
    (halone : Along (World.step setup) (fun world input => ¬ world.Disturbs t .insertRuntime input)
      world inputs) : (run (World.step setup) world inputs).runtimes = none := by
  induction inputs generalizing world with
  | nil => exact hnone
  | cons input inputs ih =>
    obtain ⟨hinput, hinputs⟩ := List.forall_mem_cons.mp halive
    obtain ⟨-, hruntimes⟩ := step_entries setup world hinput
    rcases step_turn setup hlt hinput with ⟨answer, op, rest, rfl, htodo⟩ | ⟨hsame, hothers⟩
    · rw [hdone] at htodo
      cases htodo
    · refine ih ?_ (by rw [hsame]; exact hdone) ?_ hinputs halone.2
      · rcases hruntimes with hkept | hempty | hinserted
        · exact hkept.trans hnone
        · exact hempty
        · exact absurd (hothers _ hinserted) halone.1
      · exact Nat.lt_of_lt_of_le hlt (nextTask_step setup hinput)

/-- The request that has just come. -/
theorem switches_new (h : Sound world) (hup : world.up = true) :
    Switches (world.step setup (.request .switchSession)) world.nextTask ∧
      ((world.step setup (.request .switchSession)).tasks world.nextTask).todo =
        Request.switchSession.script := by
  have htodo : ((world.step setup (.request .switchSession)).tasks world.nextTask).todo =
      Request.switchSession.script := by
    simp only [World.step, hup, if_true]
    show (Function.update world.tasks world.nextTask _ world.nextTask).todo = _
    rw [Function.update_self]
    rfl
  refine ⟨⟨h.step _, ?_, ?_⟩, htodo⟩
  · simp only [World.step, hup, if_true]
    exact Nat.lt_succ_self _
  · rw [htodo]
    exact .script List.suffix_rfl

theorem Switches.run (h : Switches world t) {inputs : List Input}
    (halive : ∀ input ∈ inputs, input.isRestart = false) :
    Switches (Lib.run (World.step setup) world inputs) t :=
  run_invariant_along (P := fun world => Switches world t)
    (fun _ _ h hinput => h.step setup hinput) h (Along.of_forall halive world)

/-- A rule for what holds of a switch while the daemon lives. -/
theorem switch_invariant {C : World δ → Input → Prop} {P : World δ → Prop}
    (hstep : ∀ world input, Switches world t → P world → input.isRestart = false →
      C world input → P (world.step setup input))
    (hswitch : Switches world t) (h : P world) {inputs : List Input}
    (halive : ∀ input ∈ inputs, input.isRestart = false)
    (hC : Along (World.step setup) C world inputs) :
    P (run (World.step setup) world inputs) := by
  have hboth : Switches (run (World.step setup) world inputs) t ∧
      P (run (World.step setup) world inputs) :=
    run_invariant_along (P := fun world => Switches world t ∧ P world)
      (fun world input h hC => ⟨h.1.step setup hC.1, hstep world input h.1 h.2 hC.1 hC.2⟩)
      ⟨hswitch, h⟩ ((Along.of_forall halive world).and hC)
  exact hboth.2

/-- **A failed switch can be made good**, from every reachable state and whatever else goes
on: the map is unlocked, and empty until another launch inserts a runtime, so that a launch
is accepted; and the agent is registered, unless another request removes it, or the error
has come between its removal and the launch's search for it. -/
theorem failed_switch_recovers (store : Store δ) (inputs later : List Input) (answer : Answer)
    (hup : (run (World.step setup) (.create setup store) inputs).up = true)
    (halive : ∀ input ∈ later, input.isRestart = false) :
    let before := run (World.step setup) (.create setup store) inputs
    let started := before.step setup (.request .switchSession)
    (run (World.step setup) started later).GivesUp setup before.nextTask answer = true →
      Recovers setup started later before.nextTask answer := by
  intro before started hgivesUp
  generalize ht : before.nextTask = t at hgivesUp ⊢
  obtain ⟨hstarted, hscript⟩ := switches_new setup (sound_run setup store inputs) hup
  replace hstarted : Switches started t := ht ▸ hstarted
  replace hscript : (started.tasks t).todo = Request.switchSession.script := ht ▸ hscript
  -- nothing of the script has been done
  have hwhole : ∀ op ∈ Request.switchSession.script, op ∈ (started.tasks t).todo :=
    fun op hop => hscript ▸ hop
  have hfailing : Switches (run (World.step setup) started later) t := hstarted.run setup halive
  have hemptied : Along (World.step setup)
      (fun world input => ¬ world.Disturbs t .insertRuntime input) started later →
      (run (World.step setup) started later).Emptied t := by
    refine fun halone => switch_invariant setup (P := fun world => world.Emptied t)
      (fun _ _ hswitch h hinput hC => h.step setup hswitch hinput hC) hstarted ?_ halive halone
    intro htaken
    exact absurd (hwhole _ (by decide)) htaken
  have hregisters : ∀ actor, started.registry = some actor → Along (World.step setup)
      (fun world input => ¬ world.Disturbs t .removeAgent input) started later →
      (run (World.step setup) started later).Registers t actor := by
    refine fun actor hregistry halone => switch_invariant setup
      (P := fun world => world.Registers t actor)
      (fun _ _ hswitch h hinput hC => h.step setup hswitch hinput hC) hstarted ?_ halive halone
    refine ⟨fun _ => hregistry, fun hfound => ?_⟩
    exact absurd (hwhole _ (by decide)) hfound
  have hvacated : Along (World.step setup)
      (fun world input => ¬ world.Disturbs t .getOrCreateAgent input) started later →
      (run (World.step setup) started later).Vacated t := by
    refine fun halone => switch_invariant setup (P := fun world => world.Vacated t)
      (fun _ _ hswitch h hinput hC => h.step setup hswitch hinput hC) hstarted ?_ halive halone
    intro hremoved
    exact absurd (hwhole _ (by decide)) hremoved
  have hdowns : ∀ actor, started.registry = some actor → Along (World.step setup)
      (fun world input => ¬ world.Disturbs t .removeAgent input ∧ ¬ world.Revives t actor input)
      started later → (run (World.step setup) started later).Registers t actor ∧
        (run (World.step setup) started later).Downs t actor := by
    refine fun actor hregistry halone => switch_invariant setup
      (P := fun world => world.Registers t actor ∧ world.Downs t actor)
      (fun _ _ hswitch h hinput hC => ⟨h.1.step setup hswitch hinput hC.1,
        h.2.step setup h.1 hswitch hinput hC.2⟩) hstarted ?_ halive halone
    refine ⟨⟨fun _ => hregistry, fun hfound => ?_⟩, fun _ hfound => ?_, fun _ hset => ?_⟩
    · exact absurd (hwhole _ (by decide)) hfound
    · exact absurd (hwhole _ (by decide)) hfound
    · exact absurd (hwhole _ (by decide)) hset
  have hworld : ∀ more, run (World.step setup) started (later ++ .task t answer :: more) =
      run (World.step setup) ((run (World.step setup) started later).step setup (.task t answer))
        more := fun more => run_append ..
  obtain ⟨op, rest, htodo, hfails⟩ := givesUp_cons setup hgivesUp
  have hdone := step_fails htodo hfails
  refine ⟨?_, ?_, ?_, ?_, ?_, ?_⟩
  · rw [hworld]
    exact hdone.2
  · intro more hmore halone world
    obtain ⟨hbefore, -, hafter⟩ := along_append.mp halone
    have hnone : world.runtimes = none := by
      rw [show world = _ from hworld more]
      exact empty_run setup more (hfailing.empty setup (hemptied hbefore) hgivesUp) hdone.1
        (hfailing.step setup rfl).allocated hmore hafter
    refine ⟨hnone, fun u answer rest => ?_⟩
    simp only [World.attempt, Task.command, World.perform, hnone]
    cases world.lock <;> rfl
  · intro htakes
    rw [htodo] at htakes
    cases htakes
    dsimp only
    rw [(takeRuntime_fails setup htodo hfails).2]
    exact ⟨rfl, rfl, rfl⟩
  · intro actor hactor halone
    exact hfailing.registered setup (hregisters actor hactor halone) hgivesUp
  · exact fun halone => Switches.vacant setup (hvacated halone) hgivesUp
  · intro actor hactor halone
    obtain ⟨h, hdown⟩ := hdowns actor hactor halone
    exact hfailing.down setup h hdown

/-- The agent is launched, and told to switch its session. -/
def switching : World Unit := (plainRun launching).step plainSetup (.request .switchSession)

/-- The request stops it, and locks the map. -/
def switchStopped : List Input :=
  List.replicate 3 (Input.task 2 plainAnswer) ++
    [Input.runtime 0 (.childWait (.ok ⟨some 0, true⟩)), .runtime 0 (.reader none), .publish 0] ++
    List.replicate 7 (Input.task 2 plainAnswer)

/-- The process of the new session does not start. -/
def spawnFails : Answer := { plainAnswer with startup := none }

theorem failed_switch_recovers_spawn :
    (run (World.step plainSetup) switching switchStopped).GivesUp plainSetup 2 spawnFails = true ∧
      Recovers plainSetup switching switchStopped 2 spawnFails := by
  have hgivesUp : (run (World.step plainSetup) switching switchStopped).GivesUp plainSetup 2
      spawnFails = true := by decide +kernel
  have hnext : (plainRun launching).nextTask = 2 := by decide +kernel
  have hup : (plainRun launching).up = true := by decide +kernel
  refine ⟨hgivesUp, ?_⟩
  rw [← hnext] at hgivesUp ⊢
  exact failed_switch_recovers plainSetup (.create ⟨"server"⟩) launching switchStopped spawnFails
    hup (by decide +kernel) hgivesUp

/-- The agent was there when it came, and is not when the request has failed. -/
theorem failed_switch_loses_agent :
    switching.registry = some 0 ∧
      (run (World.step plainSetup) switching switchStopped).GivesUp plainSetup 2 spawnFails = true ∧
      (run (World.step plainSetup) switching (switchStopped ++ [.task 2 spawnFails])).registry =
        none := by
  decide +kernel

end Steps

end OmpRemote.Ompd.Supervision

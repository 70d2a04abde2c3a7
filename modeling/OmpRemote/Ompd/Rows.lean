import OmpRemote.Lib.Machine
import OmpRemote.Ompd.LaunchOrder
import OmpRemote.Ompd.Recovery

/-!
# The agent's row

Tasks write the agent's row with `persist_snapshot`, and nothing deletes it.

- `World.write`: the write that an operation is.
- `step_store`: what a step does to the store.
- `Backed`, `backed_run`: a runtime gets into the map, and an actor out of the
  registry, only when the row is there.
-/

namespace OmpRemote.Ompd

open ControlPlane Lib

/-- A write fails and leaves the database as it is, or writes the row. -/
theorem persistSnapshot_cases {δ : Type} (store : Store δ) (agentId : AgentId)
    (snapshot : AgentSnapshot) (processId : Option UInt32) (activeRunId : Option RunId)
    (nowMs : UInt64) (fault : Option Nat) :
    (∃ error, persistSnapshot store agentId snapshot processId activeRunId nowMs fault =
      (.error error, store)) ∨
    ∃ written createdAtMs,
      persistSnapshot store agentId snapshot processId activeRunId nowMs fault =
        (.ok (), written) ∧
      written.agent agentId =
        some ⟨agentId, snapshot.lifecycle, processId, activeRunId, createdAtMs, nowMs⟩ := by
  unfold persistSnapshot Store.upsertAgent
  dsimp only
  rcases store.statement_cases fault _ with ⟨error, hs⟩ | ⟨written, hs, hst⟩
  · exact .inl ⟨error, hs⟩
  · refine .inr ⟨written, (store.agent agentId).elim nowMs AgentRecord.createdAtMs, hst, ?_⟩
    obtain ⟨-, -, h⟩ := bind_eq_ok.mp hs
    obtain ⟨-, -, h⟩ := bind_eq_ok.mp h
    cases h
    rw [Store.agent, Table.lookup_upsert, if_pos rfl, Store.agent]
    cases store.agents.lookup agentId <;> rfl

/-- A restart keeps the row, though it may rewrite it. -/
theorem Store.recoverInterrupted_isSome {δ : Type} (store : Store δ) (nowMs : UInt64)
    (fault : Option Nat) (agentId : AgentId) :
    ((store.recoverInterrupted nowMs fault).2.agent agentId).isSome =
      (store.agent agentId).isSome := by
  have hmap : ∀ nowMs, ((store.agents.mapRows fun _ => interruptAgent nowMs).lookup agentId).isSome
      = (store.agent agentId).isSome := by
    intro nowMs
    rw [Table.lookup_mapRows, Option.isSome_map]
    rfl
  unfold Store.recoverInterrupted
  split
  · rfl
  split
  · rfl
  dsimp only
  split <;> exact hmap _

namespace Supervision

open Rpc OmpRemote.Runtime

variable {δ : Type}

namespace World

/-- The write of the agent's row that the operation is. -/
def write (setup : Setup) (world : World δ) (t : TaskId) (answer : Answer) :
    Op → Option (Except StoreError Unit × Store δ)
  | .upsertAgent _ active => (world.tasks t).snapshot.map fun snapshot =>
    Ompd.persistSnapshot world.store setup.agentId snapshot
      (if active then (world.tasks t).processId else none)
      (if active then (world.tasks t).runId else none) answer.nowMs answer.fault
  | _ => none

/-- The agent has a row. -/
def HasRow (setup : Setup) (world : World δ) : Prop :=
  (world.store.agent setup.agentId).isSome = true

instance (setup : Setup) (world : World δ) : Decidable (world.HasRow setup) :=
  inferInstanceAs (Decidable (_ = true))

end World

/-! ## What a step does to the store -/

section Store

variable {setup : Setup} {world : World δ} {t : TaskId} {answer : Answer} {op : Op}
  {rest : List Op}

theorem noteRecorded_store (world : World δ) (bridge : Option RuntimeId) (op : Op)
    (reply : ActorReply) : (world.noteRecorded bridge op reply).store = world.store := by
  unfold World.noteRecorded
  split <;> rfl

theorem receive_store (world : World δ) (t : TaskId) (task : Task) (r : RuntimeId) :
    (world.receive t task r).store = world.store := by
  unfold World.receive
  dsimp only
  split <;> rfl

theorem attempt_store (setup : Setup) (world : World δ) (t : TaskId) (answer : Answer) (op : Op)
    (rest : List Op) : (world.attempt setup t answer op rest).2.store =
      (world.write setup t answer op).elim world.store Prod.snd := by
  unfold World.attempt
  dsimp only
  split
  · rename_i actor command hcommand
    have hnone : world.write setup t answer op = none := by
      cases op <;> first | rfl | cases hcommand
    rw [hnone, call_eq]
    exact noteRecorded_store ..
  · cases op with
    | upsertAgent strict active =>
      simp only [World.perform, World.write]
      split
      · rename_i hsnapshot
        rw [hsnapshot]
        rfl
      · rename_i snapshot hsnapshot
        rw [hsnapshot]
        rfl
    | receive =>
      simp only [World.perform, World.write]
      split
      · rfl
      · exact receive_store ..
    | lockRuntimes | takeRuntime | getRuntime | shutdown | shutdownOrFail =>
      simp only [World.perform, World.write]
      repeat' split
      all_goals rfl
    | spawn | getOrCreateAgent | getState | getAgent | removeAgent | request | prompt =>
      simp only [World.perform, World.write]
      split <;> rfl
    | insertRuntime | spawnEventBridge | processId | change | snapshot | startRun | endRun
    | publishEvent | shutdownAgent => rfl

theorem stepTask_store (htodo : (world.tasks t).todo = op :: rest) :
    (world.stepTask setup t answer).store =
      (world.write setup t answer op).elim world.store Prod.snd := by
  unfold World.stepTask World.resolve
  rw [htodo, ← attempt_store setup world t answer op rest]
  dsimp only
  split <;> rfl

theorem attempt_upsert (strict active : Bool) :
    world.attempt setup t answer (.upsertAgent strict active) rest =
      (((world.write setup t answer (.upsertAgent strict active)).any fun result =>
          result.1.isOk) || !strict,
        { world.setTask t { world.tasks t with todo := rest } with
          store := (world.write setup t answer (.upsertAgent strict active)).elim world.store
            Prod.snd }) := by
  unfold World.attempt World.write
  simp only [Task.command, World.perform]
  cases (world.tasks t).snapshot <;> rfl

/-- A write that goes well writes the row, and another changes nothing. -/
theorem write_cases {result : Except StoreError Unit × Store δ}
    (h : world.write setup t answer op = some result) :
    result.1.isOk = false ∧ result.2 = world.store ∨
      ∃ strict active snapshot createdAtMs, op = .upsertAgent strict active ∧
        (world.tasks t).snapshot = some snapshot ∧ result.1 = .ok () ∧
        result.2.agent setup.agentId = some ⟨setup.agentId, snapshot.lifecycle,
          if active then (world.tasks t).processId else none,
          if active then (world.tasks t).runId else none, createdAtMs, answer.nowMs⟩ := by
  cases op with
  | upsertAgent strict active =>
    obtain ⟨snapshot, hsnapshot, rfl⟩ := Option.map_eq_some_iff.mp h
    rcases persistSnapshot_cases world.store setup.agentId snapshot
      (if active then (world.tasks t).processId else none)
      (if active then (world.tasks t).runId else none) answer.nowMs answer.fault with
      ⟨error, heq⟩ | ⟨written, createdAtMs, heq, hrow⟩
    · rw [heq]
      exact .inl ⟨rfl, rfl⟩
    · rw [heq]
      exact .inr ⟨strict, active, snapshot, createdAtMs, rfl, hsnapshot, rfl, hrow⟩
  | _ => cases h

theorem stepTask_hasRow (h : world.HasRow setup) :
    (world.stepTask setup t answer).HasRow setup := by
  cases htodo : (world.tasks t).todo with
  | nil =>
    unfold World.stepTask
    rw [htodo]
    exact h
  | cons op rest =>
    rw [World.HasRow, stepTask_store htodo]
    cases hwrite : world.write setup t answer op with
    | none => exact h
    | some result =>
      rw [Option.elim_some]
      rcases write_cases hwrite with ⟨-, hsame⟩ | ⟨_, _, _, _, -, -, -, hrow⟩
      · rw [hsame]
        exact h
      · rw [hrow]
        rfl

end Store

/-- Only a launch puts an actor into the registry, and only a stop removes one. -/
theorem TaskStep.registry_cases {setup : Setup} {world world' : World δ} {t : TaskId}
    {answer : Answer} {op : Op} {rest : List Op}
    (h : TaskStep setup world t answer op rest world') :
    world'.registry = world.registry ∨ op = .getOrCreateAgent ∨
      op = .removeAgent ∧ world'.registry = none := by
  cases h with
  | calls actor command task =>
    rw [noteRecorded_eq]
    exact .inl rfl
  | creates hop => exact .inr (.inl hop)
  | removes actor hop => exact .inr (.inr ⟨hop, rfl⟩)
  | waits | fails | goesOn | pushes | locks | spawns | finds | inserts | bridges | takes | gets
  | upserts | receives | lags | closes => exact .inl rfl

/-- A restart neither makes the row nor deletes it. -/
theorem hasRow_restart (setup : Setup) (world : World δ) (nowMs : UInt64) (fault : Option Nat) :
    (world.step setup (.restart nowMs fault)).HasRow setup ↔ world.HasRow setup := by
  rw [World.HasRow, World.HasRow, ← world.store.recoverInterrupted_isSome nowMs fault]
  simp only [World.step, World.restart]
  rcases world.store.recoverInterrupted nowMs fault with ⟨recovered, store⟩
  cases recovered with
  | error error => exact Iff.rfl
  | ok done =>
    dsimp only
    split <;> exact Iff.rfl

/-- The row stays. -/
theorem World.HasRow.step {setup : Setup} {world : World δ} (h : world.HasRow setup)
    (input : Input) : (world.step setup input).HasRow setup := by
  cases input with
  | task t answer => exact stepTask_hasRow h
  | request request =>
    simp only [World.step]
    split <;> exact h
  | runtime r input => exact h
  | publish r => exact h
  | stderr r text =>
    simp only [World.step]
    split <;> exact h
  | close r =>
    simp only [World.step]
    split <;> exact h
  | actor actor input =>
    simp only [World.step]
    split <;> exact h
  | restart nowMs fault => exact (hasRow_restart setup world nowMs fault).mpr h

/-! ## Who relies on the row -/

/-- After the operation the row is there: it writes it, or finds a runtime in the map,
whose launch has written it. -/
def Op.earns : Op → Bool
  | .upsertAgent strict _ => strict
  | .takeRuntime | .getRuntime => true
  | _ => false

/-- The operation is done only when the row is there. -/
def Op.spends : Op → Bool
  | .upsertAgent strict _ => !strict
  | .removeAgent | .insertRuntime | .spawnEventBridge | .prompt => true
  | _ => false

/-- After the operation the agent is in the registry: it is put or found there, or its
runtime is in the map. -/
def Op.registers : Op → Bool
  | .getOrCreateAgent | .takeRuntime | .getRuntime => true
  | _ => false

/-- The operation writes the row, or may have it written. -/
def Op.writes : Op → Bool
  | .upsertAgent .. | .prompt => true
  | _ => false

/-- Before the first operation that spends comes one that earns. -/
def Guarded (earns spends : Op → Bool) : List Op → Bool
  | [] => true
  | op :: rest => earns op || (!spends op && Guarded earns spends rest)

theorem guarded_script (request : Request) : Guarded Op.earns Op.spends request.script = true ∧
    Guarded Op.registers Op.writes request.script = true := by
  cases request <;> exact ⟨rfl, rfl⟩

theorem guarded_tail {earns spends : Op → Bool} {op : Op} {rest : List Op}
    (h : Guarded earns spends (op :: rest) = true) (hop : earns op = false) :
    spends op = false ∧ Guarded earns spends rest = true := by
  rw [Guarded, hop, Bool.false_or, Bool.and_eq_true, Bool.not_eq_true'] at h
  exact h

theorem guarded_append {earns spends : Op → Bool} {ops rest : List Op}
    (h : Guarded earns spends rest = true) (hops : ∀ op ∈ ops, spends op = false) :
    Guarded earns spends (ops ++ rest) = true := by
  induction ops with
  | nil => exact h
  | cons op ops ih =>
    rw [List.forall_mem_cons] at hops
    rw [List.cons_append, Guarded, hops.1, ih hops.2]
    exact Bool.or_true _

/-- The todo of a task where nothing relies on the row and, if the agent is not in the
registry, nothing writes it. -/
structure Harmless (registry : Option ActorId) (todo : List Op) : Prop where
  relies : Guarded Op.earns Op.spends todo = true
  writes : registry = none → Guarded Op.registers Op.writes todo = true

/-- There are neither runtimes in the map nor bridges, and all tasks are harmless. -/
structure Bare (world : World δ) : Prop where
  runtimes : world.runtimes = none
  bridge : ∀ t, (world.tasks t).bridge = none
  tasks : ∀ t, Harmless world.registry (world.tasks t).todo

/-- Whoever relies on the row finds it. -/
def Backed (setup : Setup) (world : World δ) : Prop := world.HasRow setup ∨ Bare world

section Step

variable {setup : Setup} {world world' : World δ} {t : TaskId} {answer : Answer} {op : Op}
  {rest : List Op}

theorem Harmless.done (registry : Option ActorId) : Harmless registry [] := ⟨rfl, fun _ => rfl⟩

/-- An operation that earns nothing, and the agent stays out of the registry if it was. -/
theorem Harmless.tail {registry : Option ActorId} (h : Harmless registry (op :: rest))
    (hearns : op.earns = false)
    (hregisters : op.registers = false) : op.spends = false ∧ Harmless registry rest := by
  have hrelies := guarded_tail h.relies hearns
  exact ⟨hrelies.1, hrelies.2, fun hnone => (guarded_tail (h.writes hnone) hregisters).2⟩

theorem Harmless.append {registry : Option ActorId} {ops : List Op} (h : Harmless registry rest)
    (hops : ∀ op ∈ ops, op.spends = false ∧ op.writes = false) :
    Harmless registry (ops ++ rest) :=
  ⟨guarded_append h.relies fun op hop => (hops op hop).1,
    fun hnone => guarded_append (h.writes hnone) fun op hop => (hops op hop).2⟩

theorem Bare.next (h : Bare world) {task : Task} (hruntimes : world'.runtimes = none)
    (htasks : world'.tasks = Function.update world.tasks t task)
    (hregistry : world'.registry = none → world.registry = none) (hbridge : task.bridge = none)
    (hharmless : Harmless world'.registry task.todo) : Bare world' := by
  refine ⟨hruntimes, fun u => ?_, fun u => ?_⟩
  · rw [htasks]
    by_cases hu : u = t
    · rw [hu, Function.update_self]
      exact hbridge
    · rw [Function.update_of_ne hu]
      exact h.bridge u
  · rw [htasks]
    by_cases hu : u = t
    · rw [hu, Function.update_self]
      exact hharmless
    · rw [Function.update_of_ne hu]
      exact ⟨(h.tasks u).relies, fun hnone => (h.tasks u).writes (hregistry hnone)⟩

/-- A request that fails to write the row ends. -/
theorem Bare.upsert (h : Bare world) {active : Bool}
    (htodo : (world.tasks t).todo = .upsertAgent true active :: rest) :
    Backed setup (world.stepTask setup t answer) := by
  unfold World.stepTask World.resolve
  rw [htodo]
  dsimp only
  rw [attempt_upsert]
  dsimp only
  split
  · rename_i hok
    refine .inl ?_
    cases hwrite : world.write setup t answer (.upsertAgent true active) with
    | none =>
      rw [hwrite] at hok
      cases hok
    | some result =>
      rw [hwrite] at hok
      show (result.2.agent setup.agentId).isSome = true
      rcases write_cases hwrite with ⟨herror, -⟩ | ⟨_, _, _, _, -, -, -, hrow⟩
      · simp [herror] at hok
      · rw [hrow]
        rfl
  · have htasks (store : Store δ) :
        (({ world.setTask t { world.tasks t with todo := rest } with store } : World δ).fail t).tasks =
          Function.update world.tasks t { world.tasks t with todo := [] } := by
      simp only [World.fail, World.setTask, Function.update_self, Function.update_idem]
    exact .inr (h.next h.runtimes (htasks _) id (h.bridge t) (.done _))

/-- Any other operation neither sees to the row nor relies on it. -/
theorem Bare.task (h : Bare world) (htodo : (world.tasks t).todo = op :: rest)
    (hstep : TaskStep setup world t answer op rest world')
    (hop : ∀ active, op ≠ .upsertAgent true active) : Bare world' := by
  have hnone := h.bridge t
  have hharmless := h.tasks t
  rw [htodo] at hharmless
  cases hstep with
  | waits => exact h
  | fails task store _ hdone hkeeps =>
    refine h.next h.runtimes rfl id (hkeeps.bridge.trans hnone) ?_
    rw [hdone]
    exact .done _
  | calls actor command task hcommand _ htask hkeeps =>
    rw [noteRecorded_eq]
    -- nothing that calls an actor earns or registers
    have hplain : op.earns = false ∧ op.registers = false := by
      cases op <;> first | exact ⟨rfl, rfl⟩ | cases hcommand
    refine h.next h.runtimes rfl id (hkeeps.bridge.trans hnone) ?_
    rw [htask]
    exact (hharmless.tail hplain.1 hplain.2).2
  | goesOn processId hsilent hcommand =>
    have hplain : op.earns = false ∧ op.registers = false := by
      cases op <;> first | exact ⟨rfl, rfl⟩ | cases hsilent
    exact h.next h.runtimes rfl id hnone (hharmless.tail hplain.1 hplain.2).2
  | pushes ops hpushes =>
    cases hpushes with
    | session summary =>
      exact h.next h.runtimes rfl id hnone
        ((hharmless.tail rfl rfl).2.append (by simp [Op.spends, Op.writes]))
    | stopped | failed reason =>
      exact h.next h.runtimes rfl id hnone
        ((hharmless.tail rfl rfl).2.append (by simp [setLifecycle, Op.spends, Op.writes]))
    | promptFailed reason => exact absurd (hharmless.tail rfl rfl).1 (by simp [Op.spends])
  | locks hlocks =>
    subst hlocks
    exact h.next rfl rfl id hnone (hharmless.tail rfl rfl).2
  | spawns startup hspawns =>
    subst hspawns
    exact h.next h.runtimes rfl id hnone (hharmless.tail rfl rfl).2
  | finds actor hfinds hregistry =>
    have hrest : Guarded Op.earns Op.spends rest = true := by
      rcases hfinds with rfl | rfl <;> exact (guarded_tail hharmless.relies rfl).2
    -- the registry has the agent here, so the writes behind need not wait for one
    refine h.next h.runtimes rfl id hnone ⟨hrest, fun hnone => ?_⟩
    cases hregistry.symm.trans hnone
  | creates hcreates =>
    subst hcreates
    refine h.next h.runtimes rfl (by rintro ⟨⟩) hnone
      ⟨(guarded_tail hharmless.relies rfl).2, by rintro ⟨⟩⟩
  | inserts hspends | bridges hspends | removes _ hspends =>
    subst hspends
    exact absurd (hharmless.tail rfl rfl).1 (by simp [Op.spends])
  | takes r _ _ hruntimes | gets r _ _ hruntimes =>
    rw [h.runtimes] at hruntimes
    cases hruntimes
  | upserts strict active store hupserts =>
    subst hupserts
    cases strict with
    | false => exact absurd (hharmless.tail rfl rfl).1 (by simp [Op.spends])
    | true => exact absurd rfl (hop active)
  | receives r _ _ hbridge | lags r _ _ hbridge | closes r _ hbridge =>
    rw [hnone] at hbridge
    cases hbridge

theorem Backed.step (h : Backed setup world) (input : Input) :
    Backed setup (world.step setup input) := by
  rcases h with hrow | h
  · exact .inl (hrow.step input)
  cases input with
  | task t answer =>
    cases htodo : (world.tasks t).todo with
    | nil =>
      simp only [World.step, World.stepTask, htodo]
      exact .inr h
    | cons op rest =>
      by_cases hop : ∃ active, op = .upsertAgent true active
      · obtain ⟨active, rfl⟩ := hop
        exact h.upsert htodo
      · exact .inr (h.task htodo (stepTask_cases htodo) (not_exists.mp hop))
  | request request =>
    simp only [World.step]
    split
    · have hscript := guarded_script request
      exact .inr (h.next h.runtimes rfl id rfl ⟨hscript.1, fun _ => hscript.2⟩)
    · exact .inr h
  | runtime r input => exact .inr ⟨h.runtimes, h.bridge, h.tasks⟩
  | publish r => exact .inr ⟨h.runtimes, h.bridge, h.tasks⟩
  | stderr r text =>
    simp only [World.step]
    split <;> exact .inr ⟨h.runtimes, h.bridge, h.tasks⟩
  | close r =>
    simp only [World.step]
    split <;> exact .inr ⟨h.runtimes, h.bridge, h.tasks⟩
  | actor actor input =>
    simp only [World.step]
    split <;> exact .inr ⟨h.runtimes, h.bridge, h.tasks⟩
  | restart nowMs fault =>
    refine .inr ?_
    simp only [World.step, World.restart]
    split
    · exact ⟨rfl, fun _ => rfl, fun _ => .done _⟩
    split <;> exact ⟨rfl, fun _ => rfl, fun _ => .done _⟩

end Step

theorem backed_run (setup : Setup) (store : Store δ) (inputs : List Input) :
    Backed setup (run (World.step setup) (World.create setup store) inputs) :=
  run_invariant (P := Backed setup) (fun _ input h => h.step input)
    (.inr ⟨rfl, fun _ => rfl, fun _ => .done _⟩) inputs

end Supervision

end OmpRemote.Ompd

import OmpRemote.Ompd.SupervisionSteps

/-!
# The order of launches

Launches have the map of runtimes locked from their check to their insertion, so
that they spawn and insert one after the other, and each runtime gets one bridge.

- `Stage`: where in a launch a task is, seen from the operations it has left.
- `Launches`, `launches_run`: the runtime in the map is the last one spawned, and
  no two tasks are to feed the events of one runtime.
-/

namespace OmpRemote.Ompd.Supervision

open ControlPlane Lib Rpc OmpRemote.Runtime

variable {δ : Type}

/-- The operations on the map of runtimes, and the loop of the bridges. -/
def Op.isKey : Op → Bool
  | .takeRuntime | .getRuntime | .lockRuntimes | .spawn | .insertRuntime | .spawnEventBridge
  | .receive => true
  | _ => false

def Task.keys (task : Task) : List Op := task.todo.filter Op.isKey

/-- Where a task is. -/
inductive Stage (world : World δ) (t : TaskId) (task : Task) : Prop where
  /-- It has no more to do with the map. -/
  | done : task.keys = [] → Stage world t task
  /-- It is a request that has not locked the map. -/
  | before : task.bridge = none → task.keys = [.getRuntime] ∨ task.keys = [.takeRuntime] ∨
    task.keys = [.takeRuntime, .lockRuntimes, .spawn, .insertRuntime, .spawnEventBridge] ∨
    task.keys = [.lockRuntimes, .spawn, .insertRuntime, .spawnEventBridge] → Stage world t task
  | locked : task.bridge = none → task.keys = [.spawn, .insertRuntime, .spawnEventBridge] →
    world.lock = some t → Stage world t task
  | spawned (r : RuntimeId) : task.bridge = none →
    task.keys = [.insertRuntime, .spawnEventBridge] → world.lock = some t →
    task.runtime = some r → r + 1 = world.nextRuntime → Stage world t task
  | inserted (r : RuntimeId) : task.bridge = none → task.keys = [.spawnEventBridge] →
    task.runtime = some r → Stage world t task
  | bridge (r : RuntimeId) : task.keys = [.receive] → task.bridge = some r → Stage world t task

/-- The task is, or will spawn, the bridge of the runtime. -/
def Task.Feeds (task : Task) (r : RuntimeId) : Prop :=
  task.bridge = some r ∨
    (task.keys = [.insertRuntime, .spawnEventBridge] ∨ task.keys = [.spawnEventBridge]) ∧
      task.runtime = some r

structure Launches (world : World δ) : Prop where
  stages : ∀ t, Stage world t (world.tasks t)
  locked : world.lock.isSome = true → world.runtimes = none
  last : ∀ r, world.runtimes = some r → r + 1 = world.nextRuntime
  feeds : ∀ t u r, (world.tasks t).Feeds r → (world.tasks u).Feeds r → t = u

theorem keys_of_todo {task : Task} {op : Op} {rest : List Op} (h : task.todo = op :: rest) :
    task.keys = if op.isKey then op :: rest.filter Op.isKey else rest.filter Op.isKey := by
  rw [Task.keys, h, List.filter_cons]

theorem handleEvent_keys (event : RuntimeEvent) :
    (handleEvent event).filter Op.isKey = [] ∨
      (handleEvent event).filter Op.isKey = [.receive] := by
  cases event with
  | frame frame =>
    refine .inr ?_
    simp only [handleEvent]
    split <;> rfl
  | stderr text => exact .inr rfl
  | exited | failed => exact .inl rfl

theorem Pushes.keys {op : Op} {ops : List Op} (h : Pushes op ops) : ops.filter Op.isKey = [] := by
  cases h <;> rfl

theorem Request.script_keys (request : Request) :
    request.script.filter Op.isKey = [.getRuntime] ∨ request.script.filter Op.isKey = [.takeRuntime] ∨
    request.script.filter Op.isKey =
      [.takeRuntime, .lockRuntimes, .spawn, .insertRuntime, .spawnEventBridge] ∨
    request.script.filter Op.isKey = [.lockRuntimes, .spawn, .insertRuntime, .spawnEventBridge] := by
  cases request with
  | launch => exact .inr (.inr (.inr rfl))
  | stop | shutdown => exact .inr (.inl rfl)
  | switchSession => exact .inr (.inr (.inl rfl))
  | prompt | abort | steer => exact .inl rfl

section Step

variable {setup : Setup} {world world' : World δ} {t : TaskId} {answer : Answer} {op : Op}
  {rest : List Op}

/-- A stage does not depend on more than the lock and the number of runtimes. -/
theorem Stage.congr {u : TaskId} {task : Task} (h : Stage world u task)
    (hlock : world.lock = some u → world'.lock = some u)
    (hnext : world.lock = some u → world'.nextRuntime = world.nextRuntime) :
    Stage world' u task := by
  cases h with
  | done hkeys => exact .done hkeys
  | before hbridge hkeys => exact .before hbridge hkeys
  | locked hbridge hkeys hlocked => exact .locked hbridge hkeys (hlock hlocked)
  | spawned r hbridge hkeys hlocked hruntime hr =>
    exact .spawned r hbridge hkeys (hlock hlocked) hruntime (hr.trans (hnext hlocked).symm)
  | inserted r hbridge hkeys hruntime => exact .inserted r hbridge hkeys hruntime
  | bridge r hkeys hbridge => exact .bridge r hkeys hbridge

/-- A task with the same keys and handles is in the same stage. -/
theorem Stage.keep {task task' : Task} (h : Stage world t task) (hkeys : task'.keys = task.keys)
    (hbridge : task'.bridge = task.bridge) (hruntime : task'.runtime = task.runtime) :
    Stage world t task' := by
  cases h with
  | done h => exact .done (hkeys.trans h)
  | before hnone h => exact .before (hbridge.trans hnone) (hkeys ▸ h)
  | locked hnone h hlocked => exact .locked (hbridge.trans hnone) (hkeys.trans h) hlocked
  | spawned r hnone h hlocked hr hlast =>
    exact .spawned r (hbridge.trans hnone) (hkeys.trans h) hlocked (hruntime.trans hr) hlast
  | inserted r hnone h hr =>
      exact .inserted r (hbridge.trans hnone) (hkeys.trans h) (hruntime.trans hr)
  | bridge r h hsome => exact .bridge r (hkeys.trans h) (hbridge.trans hsome)

theorem Task.Feeds.keep {task task' : Task} {r : RuntimeId} (h : task'.Feeds r)
    (hkeys : task'.keys = task.keys) (hbridge : task'.bridge = task.bridge)
    (hruntime : task'.runtime = task.runtime) : task.Feeds r := by
  unfold Feeds at h ⊢
  rwa [hkeys, hbridge, hruntime] at h

/-- A step of one task that neither locks nor spawns. -/
theorem Launches.next (h : Launches world) {task : Task}
    (htasks : world'.tasks = Function.update world.tasks t task)
    (hlock : ∀ u, u ≠ t → world.lock = some u → world'.lock = some u)
    (hnext : ∀ u, u ≠ t → world.lock = some u → world'.nextRuntime = world.nextRuntime)
    (hstage : Stage world' t task)
    (hlocked : world'.lock.isSome = true → world'.runtimes = none)
    (hlast : ∀ r, world'.runtimes = some r → r + 1 = world'.nextRuntime)
    (hfeeds : ∀ r, task.Feeds r → (world.tasks t).Feeds r) : Launches world' := by
  refine ⟨?_, hlocked, hlast, ?_⟩
  · intro u
    rw [htasks]
    by_cases hu : u = t
    · rw [hu, Function.update_self]
      exact hstage
    · rw [Function.update_of_ne hu]
      exact (h.stages u).congr (hlock u hu) (hnext u hu)
  · intro u v r hu hv
    have hbefore : ∀ w, (world'.tasks w).Feeds r → (world.tasks w).Feeds r := by
      intro w hw
      rw [htasks] at hw
      by_cases hwt : w = t
      · rw [hwt, Function.update_self] at hw
        rw [hwt]
        exact hfeeds r hw
      · rw [Function.update_of_ne hwt] at hw
        exact hw
    exact h.feeds u v r (hbefore u hu) (hbefore v hv)

/-- A step that leaves the map and the keys of its task alone. -/
theorem Launches.keep (h : Launches world) {task : Task}
    (htasks : world'.tasks = Function.update world.tasks t task)
    (hlock : world'.lock = world.lock) (hruntimes : world'.runtimes = world.runtimes)
    (hnext : world'.nextRuntime = world.nextRuntime) (hkeys : task.keys = (world.tasks t).keys)
    (hbridge : task.bridge = (world.tasks t).bridge)
    (hruntime : task.runtime = (world.tasks t).runtime) : Launches world' := by
  refine h.next htasks (fun u _ hu => hlock.trans hu) (fun _ _ _ => hnext) ?_ ?_ ?_ ?_
  · exact ((h.stages t).keep hkeys hbridge hruntime).congr (fun hu => hlock.trans hu) fun _ => hnext
  · rw [hlock, hruntimes]
    exact h.locked
  · rw [hruntimes, hnext]
    exact h.last
  · intro r hr
    exact hr.keep hkeys hbridge hruntime

/-! ### The stage tells what follows -/

theorem Stage.lockRuntimes {task : Task} (h : Stage world t task)
    (htodo : task.todo = .lockRuntimes :: rest) :
    task.bridge = none ∧ rest.filter Op.isKey = [.spawn, .insertRuntime, .spawnEventBridge] := by
  have hkeys : task.keys = .lockRuntimes :: rest.filter Op.isKey := keys_of_todo htodo
  cases h <;> simp_all

theorem Stage.spawn {task : Task} (h : Stage world t task) (htodo : task.todo = .spawn :: rest) :
    task.bridge = none ∧ rest.filter Op.isKey = [.insertRuntime, .spawnEventBridge] ∧
      world.lock = some t := by
  have hkeys : task.keys = .spawn :: rest.filter Op.isKey := keys_of_todo htodo
  cases h <;> simp_all

theorem Stage.insertRuntime {task : Task} (h : Stage world t task)
    (htodo : task.todo = .insertRuntime :: rest) :
    task.bridge = none ∧ rest.filter Op.isKey = [.spawnEventBridge] ∧ world.lock = some t ∧
      ∃ r, task.runtime = some r ∧ r + 1 = world.nextRuntime := by
  have hkeys : task.keys = .insertRuntime :: rest.filter Op.isKey := keys_of_todo htodo
  cases h <;> simp_all

theorem Stage.spawnEventBridge {task : Task} (h : Stage world t task)
    (htodo : task.todo = .spawnEventBridge :: rest) :
    task.bridge = none ∧ rest.filter Op.isKey = [] ∧ ∃ r, task.runtime = some r := by
  have hkeys : task.keys = .spawnEventBridge :: rest.filter Op.isKey := keys_of_todo htodo
  cases h <;> simp_all

theorem Stage.takeRuntime {task : Task} (h : Stage world t task)
    (htodo : task.todo = .takeRuntime :: rest) :
    task.bridge = none ∧ (rest.filter Op.isKey = [] ∨ rest.filter Op.isKey =
      [.lockRuntimes, .spawn, .insertRuntime, .spawnEventBridge]) := by
  have hkeys : task.keys = .takeRuntime :: rest.filter Op.isKey := keys_of_todo htodo
  cases h <;> simp_all

theorem Stage.getRuntime {task : Task} (h : Stage world t task)
    (htodo : task.todo = .getRuntime :: rest) :
    task.bridge = none ∧ rest.filter Op.isKey = [] := by
  have hkeys : task.keys = .getRuntime :: rest.filter Op.isKey := keys_of_todo htodo
  cases h <;> simp_all

theorem Stage.receive {task : Task} (h : Stage world t task)
    (htodo : task.todo = .receive :: rest) :
    rest.filter Op.isKey = [] ∧ ∃ r, task.bridge = some r := by
  have hkeys : task.keys = .receive :: rest.filter Op.isKey := keys_of_todo htodo
  cases h <;> simp_all

/-- A task with nothing left to do with the map feeds what its bridge does. -/
theorem Task.Feeds.bridge_of_keys {task : Task} {r : RuntimeId} (h : task.Feeds r)
    (hinsert : task.keys ≠ [.insertRuntime, .spawnEventBridge])
    (hspawn : task.keys ≠ [.spawnEventBridge]) : task.bridge = some r := by
  rcases h with hbridge | ⟨hkeys | hkeys, -⟩
  · exact hbridge
  · exact absurd hkeys hinsert
  · exact absurd hkeys hspawn

theorem isKey_of_command {task : Task} {actor : ActorId} {command : ActorCommand}
    (h : task.command answer op = some (actor, command)) : op.isKey = false := by
  cases op <;> first | rfl | cases h

theorem Launches.task (h : Launches world) (hsound : Sound world)
    (htodo : (world.tasks t).todo = op :: rest)
    (hstep : TaskStep setup world t answer op rest world') : Launches world' := by
  have hstage := h.stages t
  -- the keys that are left after an operation on something else
  have hplain : op.isKey = false → rest.filter Op.isKey = (world.tasks t).keys := by
    intro hop
    rw [keys_of_todo htodo, hop]
    rfl
  cases hstep with
  | waits => exact h
  | fails task store hfails hnone hkeeps =>
    have hkeys : task.keys = [] := by rw [Task.keys, hnone]; rfl
    refine h.next rfl ?_ (fun _ _ _ => rfl) (.done hkeys) ?_ h.last ?_
    · intro u hu hlock
      show (if world.lock = some t then none else world.lock) = some u
      have hne : world.lock ≠ some t := fun heq => hu (Option.some.inj (hlock.symm.trans heq))
      rw [if_neg hne]
      exact hlock
    · intro hsome
      replace hsome : (if world.lock = some t then none else world.lock).isSome = true := hsome
      split at hsome
      · cases hsome
      · exact h.locked hsome
    · intro r hr
      have hbridge := hr.bridge_of_keys (by rw [hkeys]; nofun) (by rw [hkeys]; nofun)
      exact .inl (hkeeps.bridge ▸ hbridge)
  | calls actor command task hcommand hok htask hkeeps =>
    rw [noteRecorded_eq]
    refine h.keep rfl rfl rfl rfl ?_ hkeeps.bridge hkeeps.runtime
    rw [Task.keys, htask]
    exact hplain (isKey_of_command hcommand)
  | goesOn processId hsilent hnone =>
    refine h.keep rfl rfl rfl rfl (hplain ?_) rfl rfl
    cases op <;> first | rfl | cases hsilent
  | pushes ops hpushes =>
    refine h.keep rfl rfl rfl rfl ?_ rfl rfl
    rw [Task.keys, List.filter_append, hpushes.keys]
    refine hplain ?_
    cases hpushes <;> rfl
  | locks hop hlock hidle =>
    subst hop
    obtain ⟨hbridge, hkeys⟩ := hstage.lockRuntimes htodo
    refine h.next rfl ?_ (fun _ _ _ => rfl) (.locked hbridge hkeys rfl) (fun _ => rfl) ?_ ?_
    · intro u _ hu
      rw [hlock] at hu
      cases hu
    · intro r hr
      cases hr
    · intro r hr
      have hsome := hr.bridge_of_keys (by rw [Task.keys, hkeys]; nofun)
        (by rw [Task.keys, hkeys]; nofun)
      exact .inl hsome
  | spawns startup hop =>
    subst hop
    obtain ⟨hbridge, hkeys, hlock⟩ := hstage.spawn htodo
    have hnone := h.locked (hlock ▸ rfl)
    have hfresh : ∀ u, u ≠ t → ¬ (world.tasks u).Feeds world.nextRuntime := by
      intro u _ hu
      have hlt : world.nextRuntime < world.nextRuntime := by
        rcases hu with hsome | ⟨-, hsome⟩
        · exact ((hsound.handles u).bridge _ hsome).1
        · exact (hsound.handles u).runtime _ hsome
      exact absurd hlt (Nat.lt_irrefl _)
    have hself : ∀ r, ({ world.tasks t with
        runtime := some world.nextRuntime, todo := rest } : Task).Feeds r →
        r = world.nextRuntime := by
      intro r hr
      rcases hr with hsome | ⟨-, hsome⟩
      · have hsome' : (world.tasks t).bridge = some r := hsome
        rw [hbridge] at hsome'
        cases hsome'
      · exact (Option.some.inj hsome).symm
    refine ⟨?_, fun _ => hnone, ?_, ?_⟩
    · intro u
      show Stage _ u (Function.update world.tasks t _ u)
      by_cases hu : u = t
      · rw [hu, Function.update_self]
        exact .spawned world.nextRuntime hbridge hkeys hlock rfl rfl
      · rw [Function.update_of_ne hu]
        refine (h.stages u).congr (fun hother => hother) fun hother => ?_
        exact absurd (Option.some.inj (hother.symm.trans hlock)) hu
    · intro r hr
      have hr' : world.runtimes = some r := hr
      rw [hnone] at hr'
      cases hr'
    · intro u v r hu hv
      replace hu : (Function.update world.tasks t _ u).Feeds r := hu
      replace hv : (Function.update world.tasks t _ v).Feeds r := hv
      by_cases hut : u = t
      · rw [hut, Function.update_self] at hu
        by_cases hvt : v = t
        · rw [hut, hvt]
        · rw [Function.update_of_ne hvt] at hv
          exact absurd (hself r hu ▸ hv) (hfresh v hvt)
      · rw [Function.update_of_ne hut] at hu
        by_cases hvt : v = t
        · rw [hvt, Function.update_self] at hv
          exact absurd (hself r hv ▸ hu) (hfresh u hut)
        · rw [Function.update_of_ne hvt] at hv
          exact h.feeds u v r hu hv
  | finds actor hop hregistry =>
    refine h.keep rfl rfl rfl rfl (hplain ?_) rfl rfl
    rcases hop with rfl | rfl <;> rfl
  | creates hop hregistry => exact h.keep rfl rfl rfl rfl (hplain (hop ▸ rfl)) rfl rfl
  | inserts hop =>
    subst hop
    obtain ⟨hbridge, hkeys, hlock, r, hruntime, hr⟩ := hstage.insertRuntime htodo
    refine h.next rfl ?_ (fun _ _ _ => rfl) (.inserted r hbridge hkeys hruntime) ?_ ?_ ?_
    · intro u hu hother
      exact absurd (Option.some.inj (hother.symm.trans hlock)) hu
    · intro hsome
      cases hsome
    · intro r' hr'
      have heq : some r' = some r := hr'.symm.trans hruntime
      cases heq
      exact hr
    · intro r' hr'
      refine .inr ⟨.inl ?_, ?_⟩
      · rw [keys_of_todo htodo, hkeys]
        rfl
      · rcases hr' with hsome | ⟨-, hsome⟩
        · have hsome' : (world.tasks t).bridge = some r' := hsome
          rw [hbridge] at hsome'
          cases hsome'
        · exact hsome
  | bridges hop =>
    subst hop
    obtain ⟨hbridge, hkeys, r, hruntime⟩ := hstage.spawnEventBridge htodo
    have ht : t < world.nextTask := hsound.allocated htodo
    have hfed : (world.tasks t).Feeds r := by
      refine .inr ⟨.inr ?_, hruntime⟩
      rw [keys_of_todo htodo, hkeys]
      rfl
    have htasks : ∀ u, ((world.setTask t { world.tasks t with todo := rest }).addTask
        (world.tasks t).eventBridge).tasks u =
        Function.update (Function.update world.tasks t { world.tasks t with todo := rest })
          world.nextTask (world.tasks t).eventBridge u := fun _ => rfl
    -- whoever feeds a runtime after the step: the new bridge that of `t`
    have hafter : ∀ u r', ((world.setTask t { world.tasks t with todo := rest }).addTask
        (world.tasks t).eventBridge).tasks u |>.Feeds r' →
        (u = world.nextTask ∧ r' = r) ∨ u ≠ t ∧ u ≠ world.nextTask ∧ (world.tasks u).Feeds r' := by
      intro u r' hu
      rw [htasks] at hu
      by_cases hnew : u = world.nextTask
      · rw [hnew, Function.update_self] at hu
        have hsome := hu.bridge_of_keys (by nofun) (by nofun)
        exact .inl ⟨hnew, Option.some.inj (hsome.symm.trans hruntime)⟩
      · rw [Function.update_of_ne hnew] at hu
        by_cases hut : u = t
        · rw [hut, Function.update_self] at hu
          have hsome : (world.tasks t).bridge = some r' :=
            hu.bridge_of_keys (by rw [Task.keys, hkeys]; nofun) (by rw [Task.keys, hkeys]; nofun)
          rw [hbridge] at hsome
          cases hsome
        · rw [Function.update_of_ne hut] at hu
          exact .inr ⟨hut, hnew, hu⟩
    refine ⟨?_, h.locked, h.last, ?_⟩
    · intro u
      rw [htasks]
      by_cases hnew : u = world.nextTask
      · rw [hnew, Function.update_self]
        exact .bridge r rfl hruntime
      · rw [Function.update_of_ne hnew]
        by_cases hut : u = t
        · rw [hut, Function.update_self]
          exact .done hkeys
        · rw [Function.update_of_ne hut]
          exact (h.stages u).congr (fun hother => hother) fun _ => rfl
    · intro u v r' hu hv
      rcases hafter u r' hu with ⟨rfl, rfl⟩ | ⟨hut, -, hu⟩
      · rcases hafter v r' hv with ⟨rfl, -⟩ | ⟨hvt, -, hv⟩
        · rfl
        · exact absurd (h.feeds v t r' hv hfed) hvt
      · rcases hafter v r' hv with ⟨rfl, rfl⟩ | ⟨-, -, hv⟩
        · exact absurd (h.feeds u t r' hu hfed) hut
        · exact h.feeds u v r' hu hv
  | takes r hop hlock hruntimes =>
    subst hop
    obtain ⟨hbridge, hkeys⟩ := hstage.takeRuntime htodo
    refine h.next rfl (fun _ _ hu => hu) (fun _ _ _ => rfl) ?_ (fun _ => rfl) ?_ ?_
    · rcases hkeys with hkeys | hkeys
      · exact .done hkeys
      · exact .before hbridge (.inr (.inr (.inr hkeys)))
    · intro r' hr'
      cases hr'
    · intro r' hr'
      refine .inl (hr'.bridge_of_keys ?_ ?_)
      · rcases hkeys with hkeys | hkeys <;> (rw [Task.keys, hkeys]; nofun)
      · rcases hkeys with hkeys | hkeys <;> (rw [Task.keys, hkeys]; nofun)
  | gets r hop hlock hruntimes =>
    subst hop
    obtain ⟨hbridge, hkeys⟩ := hstage.getRuntime htodo
    refine h.next rfl (fun _ _ hu => hu) (fun _ _ _ => rfl) (.done hkeys) h.locked h.last ?_
    intro r' hr'
    exact .inl (hr'.bridge_of_keys (by rw [Task.keys, hkeys]; nofun)
      (by rw [Task.keys, hkeys]; nofun))
  | removes actor hop hregistry => exact h.keep rfl rfl rfl rfl (hplain (hop ▸ rfl)) rfl rfl
  | upserts strict active store hop => exact h.keep rfl rfl rfl rfl (hplain (hop ▸ rfl)) rfl rfl
  | receives r event hop hbridge hrecv =>
    subst hop
    obtain ⟨hkeys, -⟩ := hstage.receive htodo
    have hafter : (handleEvent event ++ rest).filter Op.isKey =
        (handleEvent event).filter Op.isKey := by
      rw [List.filter_append, hkeys, List.append_nil]
    refine h.next rfl (fun _ _ hu => hu) (fun _ _ _ => rfl) ?_ h.locked h.last ?_
    · rcases handleEvent_keys event with hnone | hreceive
      · exact .done (hafter.trans hnone)
      · exact .bridge r (hafter.trans hreceive) hbridge
    · intro r' hr'
      refine .inl (hr'.bridge_of_keys ?_ ?_)
      · rw [Task.keys, hafter]
        rcases handleEvent_keys event with hnone | hreceive
        · rw [hnone]; nofun
        · rw [hreceive]; nofun
      · rw [Task.keys, hafter]
        rcases handleEvent_keys event with hnone | hreceive
        · rw [hnone]; nofun
        · rw [hreceive]; nofun
  | lags r next hop hbridge hrecv =>
    subst hop
    obtain ⟨hkeys, -⟩ := hstage.receive htodo
    have hafter : (handleLag ++ rest).filter Op.isKey = [.receive] := by
      rw [List.filter_append, hkeys]
      rfl
    refine h.next rfl (fun _ _ hu => hu) (fun _ _ _ => rfl) (.bridge r hafter hbridge) h.locked
      h.last ?_
    intro r' hr'
    exact .inl (hr'.bridge_of_keys (by rw [Task.keys, hafter]; nofun) (by rw [Task.keys, hafter]; nofun))
  | closes r hop hbridge hrecv =>
    subst hop
    obtain ⟨hkeys, -⟩ := hstage.receive htodo
    refine h.next rfl (fun _ _ hu => hu) (fun _ _ _ => rfl) (.done hkeys) h.locked h.last ?_
    intro r' hr'
    exact .inl (hr'.bridge_of_keys (by rw [Task.keys, hkeys]; nofun)
      (by rw [Task.keys, hkeys]; nofun))

end Step

/-! ## Runs -/

theorem launches_create (setup : Setup) (store : Store δ) :
    Launches (World.create setup store) := by
  refine ⟨fun _ => .done rfl, fun _ => rfl, ?_, ?_⟩
  · intro r hr
    cases hr
  · intro t u r ht
    have hsome := ht.bridge_of_keys (by nofun) (by nofun)
    cases hsome

/-- A daemon that has just been started has neither tasks nor runtimes. -/
theorem launches_restart (setup : Setup) (world : World δ) (nowMs : UInt64)
    (fault : Option Nat) : Launches (world.restart setup nowMs fault) := by
  have hcreated := launches_create setup (world.store.recoverInterrupted nowMs fault).2
  unfold World.restart
  generalize world.store.recoverInterrupted nowMs fault = recovered at hcreated
  obtain ⟨result, store⟩ := recovered
  cases result with
  | error error =>
    exact ⟨fun t => (hcreated.stages t).congr (fun h => h) fun _ => rfl, hcreated.locked,
      hcreated.last, hcreated.feeds⟩
  | ok result =>
    dsimp only
    split
    · exact ⟨fun t => (hcreated.stages t).congr (fun h => h) fun _ => rfl, hcreated.locked,
        hcreated.last, hcreated.feeds⟩
    · exact ⟨fun t => (hcreated.stages t).congr (fun h => h) fun _ => rfl, hcreated.locked,
        hcreated.last, hcreated.feeds⟩

theorem Launches.request {world : World δ} (h : Launches world) (request : Request) :
    Launches (world.addTask (.new request.script)) := by
  have htasks : ∀ u, (world.addTask (.new request.script)).tasks u =
      Function.update world.tasks world.nextTask (.new request.script) u := fun _ => rfl
  have hnew : ∀ r, ¬ (Task.new request.script).Feeds r := by
    intro r hr
    have hkeys := request.script_keys
    have hsome := hr.bridge_of_keys
      (by rcases hkeys with h | h | h | h <;> (show request.script.filter _ ≠ _; rw [h]; nofun))
      (by rcases hkeys with h | h | h | h <;> (show request.script.filter _ ≠ _; rw [h]; nofun))
    cases hsome
  refine ⟨?_, h.locked, h.last, ?_⟩
  · intro u
    rw [htasks]
    by_cases hu : u = world.nextTask
    · rw [hu, Function.update_self]
      exact .before rfl request.script_keys
    · rw [Function.update_of_ne hu]
      exact (h.stages u).congr (fun h => h) fun _ => rfl
  · intro u v r hu hv
    rw [htasks] at hu hv
    by_cases hun : u = world.nextTask
    · rw [hun, Function.update_self] at hu
      exact absurd hu (hnew r)
    · rw [Function.update_of_ne hun] at hu
      by_cases hvn : v = world.nextTask
      · rw [hvn, Function.update_self] at hv
        exact absurd hv (hnew r)
      · rw [Function.update_of_ne hvn] at hv
        exact h.feeds u v r hu hv

/-- What happens to runtimes and actors does not touch the launches. -/
theorem Launches.same {world world' : World δ} (h : Launches world)
    (htasks : world'.tasks = world.tasks) (hlock : world'.lock = world.lock)
    (hruntimes : world'.runtimes = world.runtimes)
    (hnext : world'.nextRuntime = world.nextRuntime) : Launches world' := by
  refine ⟨?_, ?_, ?_, ?_⟩
  · intro t
    rw [htasks]
    exact (h.stages t).congr (fun ht => hlock.trans ht) fun _ => hnext
  · rw [hlock, hruntimes]
    exact h.locked
  · rw [hruntimes, hnext]
    exact h.last
  · rw [htasks]
    exact h.feeds

/-- The step lemma. -/
theorem Launches.step {setup : Setup} {world : World δ} (h : Launches world)
    (hsound : Sound world) (input : Input) : Launches (world.step setup input) := by
  cases input with
  | request request =>
    simp only [World.step]
    split
    · exact h.request request
    · exact h
  | task t answer =>
    show Launches (world.stepTask setup t answer)
    cases htodo : (world.tasks t).todo with
    | nil =>
      unfold World.stepTask
      rw [htodo]
      exact h
    | cons op rest => exact h.task hsound htodo (stepTask_cases htodo)
  | runtime r input => exact h.same rfl rfl rfl rfl
  | publish r => exact h.same rfl rfl rfl rfl
  | stderr | close | actor =>
    simp only [World.step]
    split
    · exact h.same rfl rfl rfl rfl
    · exact h
  | restart nowMs fault => exact launches_restart setup world nowMs fault

end OmpRemote.Ompd.Supervision

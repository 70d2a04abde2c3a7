import OmpRemote.Ompd.TodoOrder

/-!
# Bridges of earlier runtimes

An agent whose process has ended can be launched again while its actor lives on. The
bridge of the earlier runtime is not waited for: it may still hold events of that runtime,
and goes on to handle them.

- `World.Forwards`: a task that forwards the events of a runtime to an actor.
- `World.Relieves`: the condition that a launch succeeds only when all earlier bridges of
  its actor are through.
- `bridges_isolated`: then no earlier bridge does anything once a launch has succeeded.
- `relaunched_stopped`: one that says of the new runtime what is so of the old one.
-/

namespace OmpRemote.Ompd.Supervision

open ControlPlane Lib Rpc OmpRemote.Runtime

variable {δ : Type}

/-- The task has still to forward events of the runtime to the actor, or is about to spawn
the bridge that does. -/
def World.Forwards (world : World δ) (u : TaskId) (r : RuntimeId) (actor : ActorId) : Prop :=
  (world.tasks u).agent = some actor ∧
    ((world.tasks u).bridge = some r ∧ (world.tasks u).todo ≠ [] ∨
      (world.tasks u).runtime = some r ∧ (world.tasks u).todo.head? = some .spawnEventBridge)

instance (world : World δ) (u : TaskId) (r : RuntimeId) (actor : ActorId) :
    Decidable (world.Forwards u r actor) :=
  inferInstanceAs (Decidable (_ ∧ _))

/-- When a launch is about to spawn its bridge, which is the last thing it does, no other
task forwards events of an earlier runtime to its actor. -/
def World.Relieves (world : World δ) : Input → Prop
  | .task t _ => (world.tasks t).todo.head? = some .spawnEventBridge →
    ∀ r ∈ (world.tasks t).runtime, ∀ actor ∈ (world.tasks t).agent,
      ∀ u < world.nextTask, u ≠ t → ∀ earlier < r, ¬ world.Forwards u earlier actor
  | _ => True

instance (world : World δ) : ∀ input, Decidable (world.Relieves input)
  | .task t _ => inferInstanceAs (Decidable (_ → ∀ r ∈ (world.tasks t).runtime, _))
  | .request _ | .runtime .. | .publish _ | .stderr .. | .close _ | .actor .. | .restart .. =>
    inferInstanceAs (Decidable True)

/-- Once an actor has the bridge of a runtime, nobody forwards events of an earlier one. -/
def World.Isolated (world : World δ) : Prop :=
  ∀ b later actor, (world.tasks b).bridge = some later → (world.tasks b).agent = some actor →
    ∀ u earlier, earlier < later → ¬ world.Forwards u earlier actor

section Steps

variable {setup : Setup} {world world' : World δ} {t : TaskId} {answer : Answer} {op : Op}
  {rest : List Op}

/-- Who is a bridge after a step was one before, or has just been spawned. -/
theorem TaskStep.bridge_before (h : TaskStep setup world t answer op rest world')
    (hsound : Sound world) (hbridging : world.Bridging)
    (htodo : (world.tasks t).todo = op :: rest) {b : TaskId} {r : RuntimeId} {actor : ActorId}
    (hbridge : (world'.tasks b).bridge = some r) (hagent : (world'.tasks b).agent = some actor) :
    ((world.tasks b).bridge = some r ∧ (world.tasks b).agent = some actor) ∨
      op = .spawnEventBridge ∧ (world.tasks t).runtime = some r ∧
        (world.tasks t).agent = some actor := by
  by_cases hb : b = t
  · subst hb
    have hbefore := (h.bridge_eq (hsound.allocated htodo)).symm.trans hbridge
    have hop := hbridging b r hbefore op (by rw [htodo]; exact List.mem_cons_self)
    exact .inl ⟨hbefore, (h.bridge hbefore hop).agent_eq.symm.trans hagent⟩
  · rcases h.todo_other hb with hsame | ⟨-, rfl, hnew⟩
    · rw [hsame] at hbridge hagent
      exact .inl ⟨hbridge, hagent⟩
    · rw [hnew] at hbridge hagent
      exact .inr ⟨rfl, hbridge, hagent⟩

/-- A launch that goes on to spawn its bridge has inserted its runtime, which is the newest,
or was there already. -/
theorem TaskStep.spawns_before (h : TaskStep setup world t answer op rest world')
    (hsound : Sound world) (hlaunches : Launches world) (htidy : AllTidy world)
    (htodo : (world.tasks t).todo = op :: rest) {r : RuntimeId}
    (hruntime : (world'.tasks t).runtime = some r)
    (hspawns : (world'.tasks t).todo.head? = some .spawnEventBridge) :
    world' = world ∨ r + 1 = world.nextRuntime := by
  rcases h.todo (hsound.allocated htodo) with hsame | ⟨hdone, -⟩ | ⟨ops, hadds, hmore⟩
  · exact .inl hsame
  · rw [hdone] at hspawns
    cases hspawns
  · refine .inr ?_
    have hhead := htidy t
    rw [htodo, tidy_cons] at hhead
    rw [hmore] at hspawns
    cases ops with
    | cons added ops =>
      -- what an operation adds never spawns a bridge
      obtain rfl := Option.some.inj hspawns
      cases hadds.isPlain _ List.mem_cons_self
    | nil =>
      have hallows := hhead.allows
      rw [show rest.head? = some .spawnEventBridge from hspawns] at hallows
      obtain rfl : op = .insertRuntime := of_decide_eq_true hallows
      obtain ⟨-, -, -, r', hr', hlast⟩ := (hlaunches.stages t).insertRuntime htodo
      obtain ⟨-, -, hkept⟩ := h.handles_eq (.inr rfl)
      rw [hkept, hr'] at hruntime
      obtain rfl := Option.some.inj hruntime
      exact hlast

/-- Who forwards after a step did so before, or is the launch of the newest runtime, or has
just been spawned by a launch that did. -/
theorem TaskStep.forwards_before (h : TaskStep setup world t answer op rest world')
    (hsound : Sound world) (hlaunches : Launches world) (hbridging : world.Bridging)
    (htidy : AllTidy world) (htodo : (world.tasks t).todo = op :: rest) {u : TaskId}
    {r : RuntimeId} {actor : ActorId} (hforwards : world'.Forwards u r actor) :
    (u < world.nextTask ∧ world.Forwards u r actor) ∨ r + 1 = world.nextRuntime ∨
      op = .spawnEventBridge ∧ world.Forwards t r actor := by
  obtain ⟨hagent, hhow⟩ := hforwards
  have hlt := hsound.allocated htodo
  by_cases hu : u = t
  · subst hu
    rcases hhow with ⟨hbridge, -⟩ | ⟨hruntime, hspawns⟩
    · have hbefore := (h.bridge_eq hlt).symm.trans hbridge
      have hop := hbridging u r hbefore op (by rw [htodo]; exact List.mem_cons_self)
      refine .inl ⟨hlt, (h.bridge hbefore hop).agent_eq.symm.trans hagent, .inl ⟨hbefore, ?_⟩⟩
      rw [htodo]
      exact List.cons_ne_nil op rest
    · rcases h.spawns_before hsound hlaunches htidy htodo hruntime hspawns with rfl | hlast
      · exact .inl ⟨hlt, hagent, .inr ⟨hruntime, hspawns⟩⟩
      · exact .inr (.inl hlast)
  · rcases h.todo_other hu with hsame | ⟨-, rfl, hnew⟩
    · rw [hsame] at hagent hhow
      refine .inl ⟨?_, hagent, hhow⟩
      refine Nat.lt_of_not_le fun hle => ?_
      have hidle := hsound.idle u hle
      rcases hhow with ⟨-, hgoesOn⟩ | ⟨-, hspawns⟩
      · exact hgoesOn hidle
      · rw [hidle] at hspawns
        cases hspawns
    · rw [hnew] at hagent hhow
      rcases hhow with ⟨hbridge, -⟩ | ⟨hruntime, -⟩
      · refine .inr (.inr ⟨rfl, hagent, .inr ⟨hbridge, ?_⟩⟩)
        rw [htodo]
        rfl
      · cases hruntime

/-- The step lemma for tasks. -/
theorem World.Isolated.task (h : world.Isolated) (hsound : Sound world)
    (hlaunches : Launches world) (hbridging : world.Bridging) (htidy : AllTidy world)
    (htodo : (world.tasks t).todo = op :: rest) (hrelieves : world.Relieves (.task t answer))
    (hstep : TaskStep setup world t answer op rest world') : world'.Isolated := by
  intro b later actor hbridge hagent u earlier hearlier hforwards
  rcases hstep.bridge_before hsound hbridging htodo hbridge hagent with
    ⟨hbefore, hserved⟩ | ⟨rfl, hruntime, hserved⟩
  · have hlt : later < world.nextRuntime := ((hsound.handles b).bridge later hbefore).1
    rcases hstep.forwards_before hsound hlaunches hbridging htidy htodo hforwards with
      ⟨-, hu⟩ | hlast | ⟨-, hlaunch⟩
    · exact h b later actor hbefore hserved u earlier hearlier hu
    · exact absurd (Nat.lt_of_lt_of_eq hlt hlast.symm) (Nat.not_lt.mpr hearlier)
    · exact h b later actor hbefore hserved t earlier hearlier hlaunch
  · have hlt : later < world.nextRuntime := (hsound.handles t).runtime later hruntime
    have hone : ¬ world.Forwards t earlier actor := by
      -- the launch itself is of the later runtime
      rintro ⟨-, ⟨hbridge', -⟩ | ⟨hruntime', -⟩⟩
      · obtain ⟨hrequest, -, -⟩ := (hlaunches.stages t).spawnEventBridge htodo
        rw [hrequest] at hbridge'
        cases hbridge'
      · rw [hruntime] at hruntime'
        obtain rfl := Option.some.inj hruntime'
        exact Nat.lt_irrefl _ hearlier
    rcases hstep.forwards_before hsound hlaunches hbridging htidy htodo hforwards with
      ⟨hold, hu⟩ | hlast | ⟨-, hlaunch⟩
    · by_cases hut : u = t
      · subst hut
        exact hone hu
      · exact hrelieves (by rw [htodo]; rfl) later hruntime actor hserved u hold hut earlier
          hearlier hu
    · exact absurd (Nat.lt_of_lt_of_eq hlt hlast.symm) (Nat.not_lt.mpr hearlier)
    · exact hone hlaunch

theorem World.Isolated.request (h : world.Isolated) (request : Request) :
    (world.addTask (.new request.script)).Isolated := by
  have hself : (world.addTask (.new request.script)).tasks world.nextTask =
      .new request.script := Function.update_self ..
  have hother : ∀ {u}, u ≠ world.nextTask →
      (world.addTask (.new request.script)).tasks u = world.tasks u :=
    fun hu => Function.update_of_ne hu _ _
  intro b later actor hbridge hagent u earlier hearlier ⟨hsame, hhow⟩
  -- a request is no bridge, and has no runtime when it arrives
  by_cases hb : b = world.nextTask
  · rw [hb, hself] at hbridge
    cases hbridge
  by_cases hu : u = world.nextTask
  · rw [hu, hself] at hhow
    rcases hhow with ⟨hnone, -⟩ | ⟨hnone, -⟩ <;> cases hnone
  · rw [hother hb] at hbridge hagent
    rw [hother hu] at hsame hhow
    exact h b later actor hbridge hagent u earlier hearlier ⟨hsame, hhow⟩

theorem isolated_fresh (hnew : ∀ t, world.tasks t = .new []) : world.Isolated := by
  intro b later actor hbridge
  rw [hnew] at hbridge
  cases hbridge

theorem World.Isolated.step (h : world.Isolated) (hsound : Sound world)
    (hlaunches : Launches world) (hbridging : world.Bridging) (htidy : AllTidy world)
    {input : Input} (hrelieves : world.Relieves input) : (world.step setup input).Isolated := by
  have hstep := step_cases setup world input
  generalize world.step setup input = world' at hstep
  cases hstep with
  | turns htodo hturn => exact h.task hsound hlaunches hbridging htidy htodo hrelieves hturn
  | keeps htasks =>
    unfold World.Isolated World.Forwards
    rw [htasks]
    exact h
  | @joins request _ hjoins =>
    rw [hjoins]
    exact h.request request
  | restarts htasks => exact isolated_fresh fun t => by rw [htasks]

end Steps

/-! ## Runs -/

/-- What carries `Isolated` through a run. -/
structure Isolating (world : World δ) : Prop where
  sound : Sound world
  launches : Launches world
  bridging : world.Bridging
  tidy : AllTidy world
  isolated : world.Isolated

theorem Isolating.step {setup : Setup} {world : World δ} (h : Isolating world) {input : Input}
    (hrelieves : world.Relieves input) : Isolating (world.step setup input) where
  sound := h.sound.step input
  launches := h.launches.step h.sound input
  bridging := h.bridging.step h.sound setup input
  tidy := h.tidy.step h.sound setup input
  isolated := h.isolated.step h.sound h.launches h.bridging h.tidy hrelieves

end OmpRemote.Ompd.Supervision

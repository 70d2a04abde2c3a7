import OmpRemote.Lib.Machine
import OmpRemote.Ompd.Lifecycle

/-!
# One live process for an agent

`launch` refuses to start a second process while the map's runtime is running, but
`stop` takes the runtime out of the map before it tells it to shut down, and it
removes the registry entry long after it has released the map. A launch in one of
these gaps finds neither.

- `Careful`: the steps that stay out of the two gaps.
- `Invariant`: who is responsible for a live process.
- `single_runtime`: along careful runs, one live process and a registered actor.
- `overlapping_stop_launch`: what one launch in the gap does.
-/

namespace OmpRemote.Ompd.Lifecycle

open Lib

namespace Task

/-- `launch` holds the lock of the map. -/
def locks : Task → Bool
  | .starting _ | .launching .. => true
  | _ => false

/-- `launch` has looked its actor up. -/
def hasActor : Task → Bool
  | .launching .. => true
  | _ => false

/-- The process the task has still to tell, or to hand to the map. -/
def holds : Task → Option ProcessId
  | .starting process | .launching process _ _ => some process
  | .stopping _ process _ .settingStopping | .stopping _ process _ .tellingRuntime => some process
  | _ => none

end Task

/-- The process is live and has not been told to shut down. -/
def Process.untold (process : Process) : Bool := process.live && !process.told

namespace World

/-- The process is live and has not been told to shut down. -/
def Untold (world : World) (process : ProcessId) : Prop :=
  (world.process process).untold = true

/-- A stop holds a live process that it has not told yet. -/
def pendingStop (world : World) (task : Task) : Bool :=
  !task.locks && task.holds.any fun process => (world.process process).untold

/-- A launch starts its process beside a stop that has not told the old one. -/
def spawnsBesideStop (world : World) : Input → Bool
  | .lock task spawned =>
    world.lock.isNone && world.tasks[task]? == some .launch && spawned &&
      !(world.runtimes.any fun process => (world.process process).running) &&
      world.tasks.any world.pendingStop
  | _ => false

/-- A stop removes the registry entry while a runtime or a launch relies on it. -/
def removesInUse (world : World) (input : Input) : Bool :=
  world.removesEntry input && (world.runtimes.isSome || world.tasks.any Task.hasActor)

/-- The step stays out of the two gaps that `stop` leaves open. -/
def Careful (world : World) (input : Input) : Prop :=
  world.spawnsBesideStop input = false ∧ world.removesInUse input = false

instance (world : World) (input : Input) : Decidable (world.Careful input) :=
  inferInstanceAs (Decidable (_ ∧ _))

structure Safe (world : World) : Prop where
  /-- No two processes are live without one of them having been told. -/
  single : ∀ p q, world.Untold p → world.Untold q → p = q
  /-- The map's runtime feeds the actor that is registered. -/
  registered : ∀ p, world.runtimes = some p →
    ∃ actor, world.bridge p = some actor ∧ world.registry = some actor

structure Invariant (world : World) : Prop extends Safe world where
  ended : ∀ p, (world.process p).running = false → ¬ world.Untold p
  locked : ∀ t task, world.tasks[t]? = some task → task.locks = true → world.lock = some t
  emptied : ∀ t, world.lock = some t → world.runtimes = none
  /-- The map or a request is responsible for every process still to be told. -/
  owned : ∀ p, world.Untold p →
    world.runtimes = some p ∨ ∃ task ∈ world.tasks, task.holds = some p
  lookedUp : ∀ p actor phase, Task.launching p actor phase ∈ world.tasks →
    world.registry = some actor

theorem invariant_initial (restored : Bool) : Invariant (initial restored) where
  single := fun _ _ h => nomatch h
  registered := fun _ h => nomatch h
  ended := fun _ _ h => nomatch h
  locked := fun _ _ h => nomatch h
  emptied := fun _ h => nomatch h
  owned := fun _ h => nomatch h
  lookedUp := fun _ _ _ h => nomatch h

/-! ## The small changes a step is made of -/

section Changes

variable {world : World}

/-- What happens to one process leaves it told, or as it was. -/
theorem Invariant.process (h : Invariant world) {p : ProcessId} {process : Process}
    (huntold : process.untold = true → world.Untold p)
    (hended : process.running = false → process.untold = false) :
    Invariant { world with process := Function.update world.process p process } := by
  have hbefore : ∀ q, (Function.update world.process p process q).untold = true →
      world.Untold q := by
    intro q hq
    by_cases hqp : q = p
    · subst hqp
      rw [Function.update_self] at hq
      exact huntold hq
    · rwa [Function.update_of_ne hqp] at hq
  refine ⟨⟨?_, h.registered⟩, ?_, h.locked, h.emptied, ?_, h.lookedUp⟩
  · intro q r hq hr
    exact h.single q r (hbefore q hq) (hbefore r hr)
  · intro q hrunning hq
    by_cases hqp : q = p
    · subst hqp
      simp only [Function.update_self] at hrunning
      have hnow : (Function.update world.process q process q).untold = true := hq
      rw [Function.update_self, hended hrunning] at hnow
      cases hnow
    · simp only [Function.update_of_ne hqp] at hrunning
      exact h.ended q hrunning (hbefore q hq)
  · intro q hq
    exact h.owned q (hbefore q hq)

theorem Invariant.tell (h : Invariant world) (p : ProcessId) : Invariant (world.tell p) := by
  refine h.process ?_ ?_
  · intro htold
    simp [Process.untold] at htold
  · intro _
    simp [Process.untold]

theorem not_untold_tell (p : ProcessId) : ¬ (world.tell p).Untold p := by
  simp [World.tell, Untold, Process.untold]

theorem Invariant.exits (h : Invariant world) (p : ProcessId) :
    Invariant (world.step (.exits p)) := by
  refine h.process ?_ ?_
  · intro hlive
    simp [Process.untold] at hlive
  · intro _
    simp [Process.untold]

theorem Invariant.reports (h : Invariant world) (p : ProcessId) :
    Invariant (world.step (.reports p)) := by
  simp only [step]
  split
  · exact h
  · rename_i hended
    -- only a runtime whose child has exited or was told reports its end
    refine h.process (fun huntold => huntold) ?_
    intro _
    exact Bool.eq_false_iff.mpr hended

/-- A task moves on, and with it what it holds and the lock. -/
theorem Invariant.setTask (h : Invariant world) {t : TaskId} {old new : Task}
    {runtimes : Option ProcessId} {bridge : ProcessId → Option ActorId} {lock : Option TaskId}
    (hold : world.tasks[t]? = some old)
    (hregistered : ∀ p, runtimes = some p →
      ∃ actor, bridge p = some actor ∧ world.registry = some actor)
    (howned : ∀ p, world.Untold p → world.runtimes = some p ∨ old.holds = some p →
      runtimes = some p ∨ new.holds = some p)
    (hlocked : new.locks = true → lock = some t)
    (hothers : ∀ u, t ≠ u → world.lock = some u → lock = some u)
    (hemptied : ∀ u, lock = some u → runtimes = none)
    (hlookedUp : ∀ p actor phase, new = .launching p actor phase → world.registry = some actor) :
    Invariant ({ world with runtimes, bridge, lock }.setTask t new) := by
  have hlt : t < world.tasks.length := (List.getElem?_eq_some_iff.mp hold).1
  have hnew : new ∈ world.tasks.set t new := List.mem_set hlt new
  refine ⟨⟨h.single, hregistered⟩, h.ended, ?_, hemptied, ?_, ?_⟩
  · intro u task htask hlocks
    replace htask : (world.tasks.set t new)[u]? = some task := htask
    by_cases htu : t = u
    · subst htu
      rw [List.getElem?_set_self hlt] at htask
      cases htask
      exact hlocked hlocks
    · rw [List.getElem?_set_ne htu] at htask
      exact hothers u htu (h.locked u task htask hlocks)
  · intro p hp
    have hnow : world.runtimes = some p ∨ old.holds = some p ∨
        ∃ task ∈ world.tasks.set t new, task.holds = some p := by
      rcases h.owned p hp with hmap | ⟨task, htask, hholds⟩
      · exact .inl hmap
      obtain ⟨u, hu⟩ := List.getElem?_of_mem htask
      by_cases htu : t = u
      · subst htu
        rw [hold] at hu
        cases hu
        exact .inr (.inl hholds)
      · -- another task still holds it
        have hstill : (world.tasks.set t new)[u]? = some task := by
          rw [List.getElem?_set_ne htu, hu]
        exact .inr (.inr ⟨task, List.mem_of_getElem? hstill, hholds⟩)
    rcases hnow with hmap | hholds | hother
    · exact (howned p hp (.inl hmap)).imp_right fun hholds => ⟨new, hnew, hholds⟩
    · exact (howned p hp (.inr hholds)).imp_right fun hholds => ⟨new, hnew, hholds⟩
    · exact .inr hother
  · intro p actor phase hmem
    rcases List.mem_or_eq_of_mem_set hmem with hbefore | hisnew
    · exact h.lookedUp p actor phase hbefore
    · exact hlookedUp p actor phase hisnew.symm

/-- A task moves on and nothing else changes. -/
theorem Invariant.next (h : Invariant world) {t : TaskId} {old new : Task}
    (hold : world.tasks[t]? = some old)
    (howned : ∀ p, world.Untold p → old.holds = some p → new.holds = some p)
    (hlocked : new.locks = true → world.lock = some t)
    (hlookedUp : ∀ p actor phase, new = .launching p actor phase → world.registry = some actor) :
    Invariant (world.setTask t new) := by
  refine h.setTask hold h.registered ?_ hlocked (fun _ _ hlock => hlock) h.emptied hlookedUp
  intro p hp howner
  exact howner.imp_right (howned p hp)

/-- A task that holds no process moves on to where it has neither the lock nor an actor. -/
theorem Invariant.next_idle (h : Invariant world) {t : TaskId} {old new : Task}
    (hold : world.tasks[t]? = some old) (hholds : old.holds = none) (hlocks : new.locks = false)
    (hactor : new.hasActor = false) : Invariant (world.setTask t new) := by
  refine h.next hold ?_ ?_ ?_
  · intro p _ howned
    rw [hholds] at howned
    cases howned
  · intro hlocked
    rw [hlocks] at hlocked
    cases hlocked
  · rintro p actor phase rfl
    cases hactor

theorem Invariant.registry (h : Invariant world) {registry : Option ActorId} {nextActor : ActorId}
    (hregistered : ∀ p, world.runtimes = some p →
      ∃ actor, world.bridge p = some actor ∧ registry = some actor)
    (hlookedUp : ∀ p actor phase, Task.launching p actor phase ∈ world.tasks →
      registry = some actor) :
    Invariant { world with registry, nextActor } :=
  ⟨⟨h.single, hregistered⟩, h.ended, h.locked, h.emptied, h.owned, hlookedUp⟩

end Changes

/-! ## Launches -/

section Launch

variable {world : World} {t : TaskId}

/-- Whoever else waits for the lock does not hold it. -/
theorem Invariant.others_free (h : Invariant world) {old : Task}
    (hold : world.tasks[t]? = some old) (hlocks : old.locks = true) {lock : Option TaskId}
    (u : TaskId) (htu : t ≠ u) (hlock : world.lock = some u) : lock = some u := by
  rw [h.locked t old hold hlocks] at hlock
  exact absurd (Option.some.inj hlock) htu

/-- A launch that ends drops its runtime and releases the lock. -/
theorem Invariant.abandon (h : Invariant world) {p : ProcessId} {old : Task}
    (hold : world.tasks[t]? = some old) (hholds : old.holds = some p) (hlocks : old.locks = true) :
    Invariant (world.abandon t p) := by
  have htold := h.tell p
  refine htold.setTask hold h.registered ?_ nofun (h.others_free hold hlocks) nofun nofun
  rintro q hq (hmap | hqp)
  · exact .inl hmap
  · rw [hholds] at hqp
    cases hqp
    exact absurd hq (not_untold_tell p)

/-- The map's lock is free and no stop has a process still to tell, so that a
launch finds every process told. -/
theorem Invariant.all_told (h : Invariant world) (hlock : world.lock = none)
    (hrunning : ∀ p, world.runtimes = some p → (world.process p).running = false)
    (hstops : world.tasks.any world.pendingStop = false) (p : ProcessId) : ¬ world.Untold p := by
  intro hp
  rcases h.owned p hp with hmap | ⟨task, htask, hholds⟩
  · exact h.ended p (hrunning p hmap) hp
  · have hfree : task.locks = false := by
      by_contra hlocks
      obtain ⟨u, hu⟩ := List.getElem?_of_mem htask
      have hheld := h.locked u task hu (by simpa using hlocks)
      rw [hlock] at hheld
      cases hheld
    have hpending : world.pendingStop task = true := by
      rw [pendingStop, hfree, hholds]
      exact hp
    rw [List.any_eq_false] at hstops
    exact hstops task htask hpending

theorem Invariant.launchLocked (h : Invariant world) {spawned : Bool}
    (hold : world.tasks[t]? = some .launch) (hlock : world.lock = none)
    (hcareful : world.spawnsBesideStop (.lock t spawned) = false) :
    Invariant (world.launchLocked t spawned) := by
  unfold World.launchLocked
  split
  · exact h.next_idle hold rfl rfl rfl
  rename_i hnone
  have hrunning : ∀ p, world.runtimes = some p → (world.process p).running = false := by
    intro p hp
    simpa [hp] using hnone
  dsimp only
  split
  · -- the entry of a runtime that has ended goes, whether or not the child starts
    refine h.setTask hold nofun ?_ nofun (fun _ _ hheld => hheld) (fun _ _ => rfl) nofun
    rintro p hp (hmap | hholds)
    · exact absurd hp (h.ended p (hrunning p hmap))
    · cases hholds
  rename_i hspawned
  have hstops : world.tasks.any world.pendingStop = false := by
    have : spawned = true := by simpa using hspawned
    simpa [spawnsBesideStop, hlock, hold, this, hnone] using hcareful
  have htold := h.all_told hlock hrunning hstops
  have hlt := (List.getElem?_eq_some_iff.mp hold).1
  have honly : ∀ q, (Function.update world.process world.nextProcess ⟨true, false, true⟩ q).untold =
      true → q = world.nextProcess := by
    intro q hq
    by_contra hne
    rw [Function.update_of_ne hne] at hq
    exact htold q hq
  refine ⟨⟨?_, nofun⟩, ?_, ?_, fun _ _ => rfl, ?_, ?_⟩
  · intro p q hp hq
    rw [honly p hp, honly q hq]
  · intro p hended hp
    have hnew := honly p hp
    subst hnew
    simp [World.setTask] at hended
  · intro u task htask hlocks
    by_cases htu : t = u
    · rw [htu]
      rfl
    · replace htask : (world.tasks.set t _)[u]? = some task := htask
      rw [List.getElem?_set_ne htu] at htask
      have hheld := h.locked u task htask hlocks
      rw [hlock] at hheld
      cases hheld
  · intro p hp
    rw [honly p hp]
    exact .inr ⟨_, List.mem_set hlt _, rfl⟩
  · intro p actor phase hmem
    rcases List.mem_or_eq_of_mem_set hmem with hbefore | hisnew
    · exact h.lookedUp p actor phase hbefore
    · cases hisnew

/-- The launch finds its actor; no other launch can be under way. -/
theorem Invariant.findActor (h : Invariant world) {p : ProcessId}
    (hold : world.tasks[t]? = some (.starting p)) :
    Invariant (world.findActor.2.setTask t (.launching p world.findActor.1 .settingIdle)) := by
  have hlock := h.locked t _ hold rfl
  have hnone : ∀ q actor phase, Task.launching q actor phase ∉ world.tasks := by
    intro q actor phase hmem
    obtain ⟨u, hu⟩ := List.getElem?_of_mem hmem
    have hheld := h.locked u _ hu rfl
    rw [hlock] at hheld
    cases hheld
    rw [hold] at hu
    cases hu
  unfold World.findActor
  split
  · rename_i actor hregistry
    refine h.next hold (fun _ _ hholds => hholds) (fun _ => hlock) ?_
    rintro q a phase hlaunching
    cases hlaunching
    exact hregistry
  · rename_i hregistry
    have hcreated : Invariant { world with
        registry := some world.nextActor, nextActor := world.nextActor + 1 } := by
      refine h.registry ?_ ?_
      · intro q hq
        obtain ⟨actor, -, hactor⟩ := h.registered q hq
        rw [hregistry] at hactor
        cases hactor
      · intro q actor phase hmem
        exact absurd hmem (hnone q actor phase)
    refine hcreated.next hold (fun _ _ hholds => hholds) (fun _ => hlock) ?_
    rintro q a phase hlaunching
    cases hlaunching
    rfl

theorem Invariant.launchNext (h : Invariant world) {p : ProcessId} {actor : ActorId}
    {phase : LaunchPhase} (hold : world.tasks[t]? = some (.launching p actor phase)) (ok : Bool) :
    Invariant (world.launchNext t p actor phase ok) := by
  have hlock := h.locked t _ hold rfl
  have hregistry := h.lookedUp p actor phase (List.mem_of_getElem? hold)
  have hmoves : ∀ phase', Invariant (world.setTask t (.launching p actor phase')) := by
    intro phase'
    refine h.next hold (fun _ _ hholds => hholds) (fun _ => hlock) ?_
    rintro q a phase'' hlaunching
    cases hlaunching
    exact hregistry
  unfold World.launchNext
  split
  · exact hmoves .gettingState
  · exact hmoves .settingSession
  · exact hmoves .persisting
  · exact hmoves .persisting
  · -- the process passes from the launch to the map
    refine h.setTask hold ?_ ?_ nofun (h.others_free hold rfl) nofun nofun
    · intro q hq
      cases hq
      exact ⟨actor, Function.update_self .., hregistry⟩
    · rintro q hq (hmap | hholds)
      · rw [h.emptied t hlock] at hmap
        cases hmap
      · exact .inl hholds

end Launch

/-! ## Stops -/

section Stop

variable {world : World} {t : TaskId} {switch : Bool}

theorem Invariant.stopLocked (h : Invariant world)
    (hold : world.tasks[t]? = some (.stop switch)) : Invariant (world.stopLocked t switch) := by
  have hfree : ∀ u, world.lock = some u → (none : Option ProcessId) = none := fun _ _ => rfl
  unfold World.stopLocked
  split
  · exact h.next_idle hold rfl rfl rfl
  rename_i p hmap
  dsimp only
  split
  · -- no actor: the runtime is dropped
    refine (h.tell p).setTask hold nofun ?_ nofun (fun _ _ hheld => hheld) hfree nofun
    rintro q hq (hmapq | hholds)
    · rw [show world.runtimes = some q from hmapq] at hmap
      cases hmap
      exact absurd hq (not_untold_tell p)
    · cases hholds
  · -- the process passes from the map to the stop
    refine h.setTask hold nofun ?_ nofun (fun _ _ hheld => hheld) hfree nofun
    rintro q hq (hmapq | hholds)
    · rw [hmapq] at hmap
      exact .inr hmap.symm
    · cases hholds

/-- A stop that fails, or has nothing left to do with its runtime, has told it. -/
theorem Invariant.stop_told (h : Invariant world) {p : ProcessId} {actor : ActorId}
    {phase : StopPhase} {new : Task}
    (hold : world.tasks[t]? = some (.stopping switch p actor phase)) (hlocks : new.locks = false)
    (hactor : new.hasActor = false) : Invariant ((world.tell p).setTask t new) := by
  refine (h.tell p).next hold ?_ ?_ ?_
  · intro q hq hholds
    have hqp : q = p := by
      cases phase <;> cases hholds <;> rfl
    rw [hqp] at hq
    exact absurd hq (not_untold_tell p)
  · intro hlocked
    rw [hlocks] at hlocked
    cases hlocked
  · rintro q a phase' rfl
    cases hactor

theorem Invariant.stopNext (h : Invariant world) {p : ProcessId} {actor : ActorId}
    {phase : StopPhase} (hold : world.tasks[t]? = some (.stopping switch p actor phase))
    (hremoves : phase = .persisting → world.registry.isSome = true →
      world.runtimes = none ∧ world.tasks.any Task.hasActor = false) :
    Invariant (world.stopNext t switch p actor phase) := by
  cases phase with
  | settingStopping =>
    simp only [World.stopNext]
    split
    · exact h.next hold (fun _ _ hholds => hholds) (by rintro ⟨⟩) (by rintro _ _ _ ⟨⟩)
    rename_i hended
    split
    · exact h.stop_told hold rfl rfl
    rename_i hdead
    -- the process has exited by itself
    refine h.next hold ?_ (by rintro ⟨⟩) (by rintro _ _ _ ⟨⟩)
    intro q hq hholds
    cases hholds
    have hlive : (world.process p).live = true := (Bool.and_eq_true_iff.mp hq).1
    exact absurd hlive hdead
  | tellingRuntime => exact h.stop_told hold rfl rfl
  | awaitingExit => exact h.next_idle hold rfl rfl rfl
  | settingStopped => exact h.next_idle hold rfl rfl rfl
  | persisting =>
    simp only [World.stopNext, World.removeActor]
    split
    · exact h.next_idle hold rfl rfl rfl
    rename_i registered hregistry
    -- nothing relies on the entry that goes
    obtain ⟨hmap, hactors⟩ := hremoves rfl (by rw [hregistry]; rfl)
    have hremoved : Invariant { world with registry := none } := by
      refine h.registry ?_ ?_
      · intro q hq
        rw [hmap] at hq
        cases hq
      · intro q a phase hmem
        exact absurd rfl (List.any_eq_false.mp hactors _ hmem)
    exact hremoved.next_idle hold rfl rfl rfl

end Stop

/-! ## Runs -/

section Run

variable {world : World}

theorem Invariant.resume (h : Invariant world) {t : TaskId} {ok : Bool}
    (hcareful : world.removesInUse (.resume t ok) = false) : Invariant (world.resume t ok) := by
  unfold World.resume
  split
  · -- `OmpRuntime::spawn` returns
    rename_i p hold
    split
    · exact h.findActor hold
    · exact h.abandon hold rfl rfl
  · rename_i p actor phase hold
    split
    · exact h.abandon hold rfl rfl
    · exact h.launchNext hold ok
  · rename_i switch p actor phase hold
    split
    · rename_i hreturns
      refine h.stopNext hold ?_
      rintro rfl hregistered
      simp only [removesInUse, removesEntry, hold, hreturns, hregistered, Bool.true_and,
        Bool.or_eq_false_iff] at hcareful
      have hnone := Option.isSome_eq_false_iff.mp hcareful.1
      exact ⟨Option.isNone_iff_eq_none.mp hnone, hcareful.2⟩
    · exact h.stop_told hold rfl rfl
  · rename_i switch actor hold
    have hstopped : Invariant { world with
        stopped := Function.update world.stopped actor true } :=
      ⟨⟨h.single, h.registered⟩, h.ended, h.locked, h.emptied, h.owned, h.lookedUp⟩
    by_cases hagain : (ok && switch) = true
    · rw [if_pos hagain]
      exact hstopped.next_idle hold rfl rfl rfl
    · rw [if_neg hagain]
      exact hstopped.next_idle hold rfl rfl rfl
  · exact h

theorem Invariant.request (h : Invariant world) (kind : RequestKind) :
    Invariant (world.step (.request kind)) := by
  have hnew : kind.task.locks = false ∧ kind.task.hasActor = false := by
    cases kind <;> exact ⟨rfl, rfl⟩
  refine ⟨⟨h.single, h.registered⟩, h.ended, ?_, h.emptied, ?_, ?_⟩
  · intro u task htask hlocks
    replace htask : (world.tasks ++ [kind.task])[u]? = some task := htask
    rcases Nat.lt_or_ge u world.tasks.length with hlt | hge
    · rw [List.getElem?_append_left hlt] at htask
      exact h.locked u task htask hlocks
    · rw [List.getElem?_append_right hge] at htask
      have hmem := List.mem_of_getElem? htask
      rw [List.mem_singleton.mp hmem, hnew.1] at hlocks
      cases hlocks
  · intro p hp
    refine (h.owned p hp).imp_right ?_
    rintro ⟨task, htask, hholds⟩
    exact ⟨task, List.mem_append_left _ htask, hholds⟩
  · intro p actor phase hmem
    rcases List.mem_append.mp hmem with hbefore | hisnew
    · exact h.lookedUp p actor phase hbefore
    · rw [← List.mem_singleton.mp hisnew] at hnew
      cases hnew.2

/-- The step lemma: a careful step keeps the invariant. -/
theorem Invariant.step (h : Invariant world) (input : Input) (hcareful : world.Careful input) :
    Invariant (world.step input) := by
  cases input with
  | request kind => exact h.request kind
  | lock t spawned =>
    simp only [World.step]
    split
    · exact h
    rename_i hfree
    have hlock : world.lock = none := by simpa using hfree
    split
    · rename_i hold
      exact h.launchLocked hold hlock hcareful.1
    · rename_i switch hold
      exact h.stopLocked hold
    · exact h
  | resume t ok => exact h.resume hcareful.2
  | exits p => exact h.exits p
  | fails p => exact h.tell p
  | reports p => exact h.reports p

end Run

/-- **One live process for an agent**: as long as no launch starts its process
beside a stop that has not told the old one, and no stop removes a registry entry
that a runtime or a launch relies on, no two processes of the agent are live
without one of them having been told to shut down, and the runtime in the map
feeds the actor in the registry. -/
theorem single_runtime (restored : Bool) (inputs : List Input)
    (careful : Along step Careful (initial restored) inputs) :
    Safe (run step (initial restored) inputs) :=
  (run_invariant_along (fun _ input h hcareful => h.step input hcareful)
    (invariant_initial restored) careful).toSafe

/-- A stop of `process`, after it has taken the runtime out of the map. -/
def stopInputs (t : TaskId) (process : ProcessId) : List Input :=
  [.resume t true, .resume t true, .exits process, .reports process, .resume t true,
    .resume t true, .resume t true, .resume t true]

/-- One request after the other: launch, switch to another session, stop. -/
def oneByOne : List Input :=
  launchInputs 0 ++ [Input.request .switch, .lock 1 false] ++ stopInputs 1 0 ++
    [Input.lock 1 true, .resume 1 true, .resume 1 true, .resume 1 true, .resume 1 true,
      .resume 1 true] ++ [Input.request .stop, .lock 2 false] ++ stopInputs 2 1

theorem single_runtime_oneByOne : Along step Careful (initial false) oneByOne ∧
    Safe (run step (initial false) oneByOne) := by
  have careful : Along step Careful (initial false) oneByOne := by decide
  exact ⟨careful, single_runtime false oneByOne careful⟩

/-- No request is in flight. -/
def Quiet (world : World) : Prop := ∀ task ∈ world.tasks, task = .done

/-- A launch gets the map as soon as a stop has taken the runtime out of it. -/
def overlap : List Input :=
  launchInputs 0 ++ [Input.request .stop, .lock 1 false, .request .launch, .lock 2 true]

/-- The launch is faster than the stop. -/
def overlapFinished : List Input :=
  overlap ++ [Input.resume 2 true, .resume 2 true, .resume 2 true, .resume 2 true, .resume 2 true] ++
    stopInputs 1 0

/-- The launch starts a second process beside the first, which is still to be told;
and when both requests are done, the map has a runtime whose actor the stop has
removed from the registry. -/
theorem overlapping_stop_launch :
    let started := run step (initial false) overlap
    let finished := run step (initial false) overlapFinished
    (¬ ∀ p q, started.Untold p → started.Untold q → p = q) ∧
    Quiet finished ∧
    ¬ ∀ p, finished.runtimes = some p →
      ∃ actor, finished.bridge p = some actor ∧ finished.registry = some actor := by
  refine ⟨?_, ?_, ?_⟩
  · intro hsingle
    have htwo : (0 : ProcessId) = 1 := hsingle 0 1 rfl rfl
    cases htwo
  · show ∀ task ∈ (run step (initial false) overlapFinished).tasks, task = .done
    decide
  · intro hregistered
    obtain ⟨actor, -, hactor⟩ := hregistered 1 rfl
    cases hactor

end World

end OmpRemote.Ompd.Lifecycle

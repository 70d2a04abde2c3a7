import Mathlib.Tactic.IntervalCases
import OmpRemote.Ompd.TodoOrder

/-!
# What the bridge records

The bridge of a runtime hands the frames that it receives to the actor, one after the
other. A bridge that has lagged has lost some; it says so by setting the lifecycle to
`Failed`, and goes on with the frames that are left.

- `Listens`: a bridge receives when it has nothing else to do.
- `Fresh`: nothing is recorded for a runtime without a bridge.
- `World.Traces`: how what is recorded compares with what the runtime has published.
- `no_silent_loss`: as long as nobody writes over a `Failed` while frames are missing,
  the frames recorded are the first ones published, or the agent is `Failed`.
- `loss_covered_up`: the bridge itself writes over it.
-/

namespace OmpRemote

def AgentLifecycle.isFailed : AgentLifecycle → Bool
  | .failed _ => true
  | .starting | .idle | .running | .stopping | .stopped | .interrupted => false

namespace Ompd.Supervision

open ControlPlane Lib Rpc OmpRemote.Runtime

variable {δ : Type}

/-! ## What is still to be recorded -/

def Op.toRecord : Op → Option ServerMessage
  | .publishEvent frame => some frame
  | _ => none

/-- The frames that the task has received and not yet handed on. -/
def Task.toRecord (task : Task) : List ServerMessage := task.todo.filterMap Op.toRecord

theorem toRecord_handleEvent (event : RuntimeEvent) :
    (handleEvent event).filterMap Op.toRecord = frames [event] := by
  cases event with
  | frame frame =>
    unfold handleEvent
    dsimp only
    split <;> rfl
  | exited | failed | stderr => rfl

/-- The task receives only when there is nothing left to do. -/
def Listens : List Op → Bool
  | [] => true
  | op :: rest => (op ≠ .receive || rest = []) && Listens rest

theorem listens_cons {op : Op} {rest : List Op} :
    Listens (op :: rest) = true ↔ (op = .receive → rest = []) ∧ Listens rest = true := by
  simp only [Listens, Bool.and_eq_true, Bool.or_eq_true, decide_eq_true_eq]
  refine and_congr_left fun _ => ⟨fun h hop => h.resolve_left (not_not_intro hop), fun h => ?_⟩
  by_cases hop : op = .receive
  · exact .inr (h hop)
  · exact .inl hop

theorem listens_append {ops rest : List Op} (hops : .receive ∉ ops) (hrest : Listens rest = true) :
    Listens (ops ++ rest) = true := by
  induction ops with
  | nil => exact hrest
  | cons op ops ih =>
    rw [List.mem_cons, not_or] at hops
    exact listens_cons.mpr ⟨fun hop => absurd hop.symm hops.1, ih hops.2⟩

theorem listens_handleEvent (event : RuntimeEvent) : Listens (handleEvent event) = true := by
  cases event with
  | frame frame =>
    unfold handleEvent
    dsimp only
    refine listens_append ?_ rfl
    split <;> decide
  | exited | failed | stderr => rfl

theorem law_listens : TodoLaw fun todo => Listens todo = true where
  request := fun request => by cases request <;> decide
  done := rfl
  receive := rfl
  adds := by
    intro op ops rest h hadds
    obtain ⟨hlast, hrest⟩ := listens_cons.mp h
    cases hadds with
    | nothing => exact hrest
    | pushes hpushes =>
      refine listens_append ?_ hrest
      cases hpushes <;> simp [failActiveRun, persistSnapshot, setLifecycle]
    | event event =>
      rw [hlast rfl, List.append_nil]
      exact listens_handleEvent event
    | lag =>
      rw [hlast rfl]
      rfl
    | removed => exact listens_append (by simp) hrest

/-! ## Who records -/

section Ghosts

variable {setup : Setup} {world world' : World δ} {t : TaskId} {answer : Answer} {op : Op}
  {rest : List Op}

/-- What is recorded and what is missed. -/
def OmpRuntime.ghosts (runtime : OmpRuntime) : List ServerMessage × Bool :=
  (runtime.recorded, runtime.missed)

/-- Only the bridge of a runtime records for it, or misses something; a new runtime has
nothing recorded. -/
theorem TaskStep.ghosts (h : TaskStep setup world t answer op rest world') (r : RuntimeId) :
    (world'.runtime r).ghosts = (world.runtime r).ghosts ∨
      r = world.nextRuntime ∧ (world'.runtime r).ghosts = ([], false) ∨
      (world.tasks t).bridge = some r ∧ (op = .receive ∨ ∃ frame, op = .publishEvent frame) := by
  have hset : ∀ (r' : RuntimeId) (runtime : OmpRuntime), r ≠ r' →
      (Function.update world.runtime r' runtime r).ghosts = (world.runtime r).ghosts :=
    fun r' runtime hr => congrArg OmpRuntime.ghosts (Function.update_of_ne hr _ _)
  cases h with
  | calls actor command task =>
    rcases noteRecorded_cases (world.setActor actor
      ((world.actors actor).turn (.command command)).2) (world.tasks t).bridge op
      ((world.actors actor).turn (.command command)).1 with
      hsame | ⟨r', frame, sequence, hbridge, hop, -, hnoted⟩
    · rw [hsame]
      exact .inl rfl
    · rw [hnoted]
      by_cases hr : r = r'
      · subst hr
        exact .inr (.inr ⟨hbridge, .inr ⟨frame, hop⟩⟩)
      · exact .inl (hset r' _ hr)
  | spawns startup =>
    by_cases hr : r = world.nextRuntime
    · refine .inr (.inl ⟨hr, ?_⟩)
      show (Function.update world.runtime world.nextRuntime _ r).ghosts = _
      rw [hr, Function.update_self]
      rfl
    · exact .inl (hset _ _ hr)
  | lags r' next hop hbridge =>
    by_cases hr : r = r'
    · subst hr
      exact .inr (.inr ⟨hbridge, .inl hop⟩)
    · exact .inl (hset r' _ hr)
  | waits | fails | goesOn | pushes | locks | finds | creates | inserts | bridges | takes | gets
  | removes | upserts | receives | closes => exact .inl rfl

/-- The bridge hands a frame to its actor, which records it if it can. -/
theorem TaskStep.publishEvent {frame : ServerMessage}
    (h : TaskStep setup world t answer (.publishEvent frame) rest world') {r : RuntimeId}
    (hbridge : (world.tasks t).bridge = some r) :
    world' = world ∨
      (world'.tasks t).todo = rest ∧ (world.tasks t).Keeps (world'.tasks t) ∧
      (world'.runtime r).missed = (world.runtime r).missed ∧
      (∀ actor, (world.tasks t).agent = some actor → (world.actors actor).hasRoom = true →
        (world'.runtime r).recorded = (world.runtime r).recorded ++ [frame]) ∧
      ((∀ actor, (world.tasks t).agent = some actor → (world.actors actor).running = false) →
        (world'.runtime r).recorded = (world.runtime r).recorded) := by
  cases h with
  | waits => exact .inl rfl
  | fails task store hfails =>
    rw [attempt_ofBridge rfl (by rw [hbridge]; rfl)] at hfails
    cases hfails
  | calls actor command task hcommand hok htodo hkeeps =>
    refine .inr ?_
    obtain ⟨called, hagent, heq⟩ := Option.map_eq_some_iff.mp hcommand
    obtain ⟨rfl, rfl⟩ := Prod.mk.inj heq
    rw [World.tasks_setTask_self]
    refine ⟨htodo, hkeeps, ?_, ?_, ?_⟩
    · rcases noteRecorded_cases (world.setActor called
        ((world.actors called).turn (.command (.publishEvent frame))).2) (world.tasks t).bridge
        (.publishEvent frame) ((world.actors called).turn (.command (.publishEvent frame))).1 with
        hsame | ⟨r', frame', sequence, hbridge', -, -, hnoted⟩
      · rw [hsame]
        rfl
      · rw [hnoted]
        cases hbridge.symm.trans hbridge'
        show (Function.update world.runtime r _ r).missed = _
        rw [Function.update_self]
        rfl
    · -- an actor with room for an event records the frame
      intro actor hactor hroom
      cases hagent.symm.trans hactor
      obtain ⟨sequence, hreply⟩ := ActorState.turn_publishEvent_ok hroom frame
      rw [hreply, hbridge]
      show (Function.update world.runtime r _ r).recorded = _
      rw [Function.update_self]
      rfl
    · intro hstopped
      rw [ActorState.turn_stopped (hstopped called hagent)]
      unfold World.noteRecorded
      rw [hbridge]
      rfl
  | goesOn processId hsilent hnone =>
    -- without an agent the operation is skipped, so nothing is recorded
    have hnobody : (world.tasks t).agent = none := Option.map_eq_none_iff.mp hnone
    refine .inr ?_
    rw [World.tasks_setTask_self]
    refine ⟨rfl, ⟨rfl, rfl, rfl, rfl⟩, rfl, ?_, fun _ => rfl⟩
    intro actor hagent
    rw [hnobody] at hagent
    cases hagent
  | pushes _ hpushes => cases hpushes
  | finds _ hfinds => rcases hfinds with h | h <;> cases h
  | locks h | spawns _ h | creates h | inserts h | bridges h | takes _ h | gets _ h | removes _ h
  | upserts _ _ _ h | receives _ _ h | lags _ _ h | closes _ h => cases h

end Ghosts

/-! ## What is recorded and what is published -/

namespace World

/-- The actor that the task serves is running. -/
def Alive (world : World δ) (b : TaskId) : Prop :=
  ∃ actor, (world.tasks b).agent = some actor ∧ (world.actors actor).running = true

/-- It is published as failed. -/
def ServesFailed (world : World δ) (b : TaskId) : Prop :=
  ∃ actor, (world.tasks b).agent = some actor ∧
    (world.actors actor).snapshot.lifecycle.isFailed = true

/-- How what the bridge `b` of `r` has had recorded compares with what `r` has sent. -/
inductive Traces (world : World δ) (b : TaskId) (r : RuntimeId) : Prop where
  /-- Every frame that the bridge has received is recorded, or about to be. -/
  | exact : (world.runtime r).missed = false →
    (world.runtime r).recorded ++ (world.tasks b).toRecord =
      frames ((world.runtime r).events.passed (world.tasks b).next) → Traces world b r
  /-- Nothing will be recorded any more. -/
  | stopped : (world.runtime r).recorded <+: frames (world.runtime r).events.sent →
    ¬ world.Alive b → Traces world b r
  /-- Something has been lost, and the agent is failed, or the bridge is about to say so. -/
  | lost : (world.runtime r).missed = true →
    (world.runtimes = some r → world.ServesFailed b ∨
      (world.runtime r).recorded <+: frames (world.runtime r).events.sent ∧
        handleLag <+: (world.tasks b).todo) → Traces world b r

/-- While the bridge of the runtime in the map has lost something, a `Failed` is not
written over; and the counters of the actor that a task serves have not run out. -/
structure Honest (world : World δ) (input : Input) : Prop where
  fails : ∀ written ∈ world.writes input,
    (world.runtimes.any fun r => (world.runtime r).missed) = true →
    (world.actors written.1).snapshot.lifecycle.isFailed = true → written.2.isFailed = true
  room : ∀ actor ∈ world.serves input, (world.actors actor).running = true →
    (world.actors actor).hasRoom = true

instance (world : World δ) (input : Input) : Decidable (world.Honest input) :=
  decidable_of_iff (_ ∧ _) ⟨fun h => ⟨h.1, h.2⟩, fun h => ⟨h.1, h.2⟩⟩

/-- For a runtime without a bridge nothing is recorded. -/
def Fresh (world : World δ) : Prop :=
  ∀ r, (∀ b, b < world.nextTask → (world.tasks b).bridge ≠ some r) →
    (world.runtime r).ghosts = ([], false)

end World

section Traces

variable {setup : Setup} {world world' : World δ} {b : TaskId} {r : RuntimeId} {answer : Answer}
  {op : Op} {rest : List Op}

theorem frames_mono {events events' : List RuntimeEvent} (h : events <+: events') :
    frames events <+: frames events' := by
  obtain ⟨later, rfl⟩ := h
  rw [frames_append]
  exact List.prefix_append _ _

/-- A bridge that is left alone. -/
theorem World.Traces.other (h : world.Traces b r) (htask : world'.tasks b = world.tasks b)
    (hnext : (world.tasks b).next ≤ (world.runtime r).events.sent.length)
    (hghosts : (world'.runtime r).ghosts = (world.runtime r).ghosts)
    (hsent : (world.runtime r).events.sent <+: (world'.runtime r).events.sent)
    (halive : world'.Alive b → world.Alive b)
    (hentry : world'.runtimes = some r → world.runtimes = some r)
    (hfailed : (world.runtime r).missed = true → world.runtimes = some r →
      world.ServesFailed b → world'.ServesFailed b) : world'.Traces b r := by
  obtain ⟨hrecorded, hmissed⟩ := Prod.mk.inj hghosts
  cases h with
  | exact hnone hexact =>
    refine .exact (hmissed.trans hnone) ?_
    have hpassed : (world'.runtime r).events.passed (world.tasks b).next =
        (world.runtime r).events.passed (world.tasks b).next := by
      obtain ⟨later, hlater⟩ := hsent
      rw [Broadcast.passed, ← hlater, List.take_append_of_le_length hnext]
      rfl
    rw [hrecorded, htask, hpassed]
    exact hexact
  | stopped hstart hdead =>
    refine .stopped ?_ fun halive' => hdead (halive halive')
    rw [hrecorded]
    exact hstart.trans (frames_mono hsent)
  | lost hlost htells =>
    refine .lost (hmissed.trans hlost) fun hmapped => ?_
    refine (htells (hentry hmapped)).imp (hfailed hlost (hentry hmapped)) ?_
    rintro ⟨hstart, hlag⟩
    rw [hrecorded, htask]
    exact ⟨hstart.trans (frames_mono hsent), hlag⟩

/-- What the bridge has received. -/
theorem World.Traces.receive (h : world.Traces b r)
    (htodo : (world.tasks b).todo = .receive :: rest) (hlistens : rest = [])
    (hreceives : Receives world b r rest world')
    (hfailed : (world.runtime r).missed = true → world.runtimes = some r →
      world.ServesFailed b → world'.ServesFailed b) : world'.Traces b r := by
  subst hlistens
  -- at `receive` the bridge has nothing in hand that it has yet to record
  have hnothing : (world.tasks b).toRecord = [] := by
    rw [Task.toRecord, htodo]
    rfl
  have hquiet : ¬ handleLag <+: (world.tasks b).todo := by
    rw [htodo]
    rintro ⟨later, hlater⟩
    cases hlater
  cases hreceives with
  | waits => exact h
  | value event hrecv =>
    cases h with
    | exact hnone hexact =>
      refine .exact hnone ?_
      rw [World.tasks_setTask_self]
      show (world.runtime r).recorded ++ (handleEvent event ++ []).filterMap Op.toRecord =
        frames ((world.runtime r).events.passed ((world.tasks b).next + 1))
      rw [List.append_nil, toRecord_handleEvent, (Broadcast.recv_value hrecv).2, frames_append,
        ← hexact, hnothing, List.append_nil]
    | stopped hstart hdead =>
      refine .stopped hstart fun halive => hdead ?_
      rwa [Alive, World.tasks_setTask_self] at halive
    | lost hlost htells =>
      refine .lost hlost fun hmapped => .inl (hfailed hlost hmapped ?_)
      exact (htells hmapped).resolve_right fun hlag => hquiet hlag.2
  | lagged next hrecv =>
    have hpassed := (Broadcast.recv_lagged hrecv).2
    have hat : ∀ runtime task, ((world.setRuntime r runtime).setTask b task).runtime r = runtime :=
      fun runtime task => Function.update_self ..
    cases h with
    | exact hnone hexact =>
      rw [hnothing, List.append_nil] at hexact
      -- a lag that skipped no frame loses nothing
      cases hskipped :
          (frames ((world.runtime r).events.skipped (world.tasks b).next next)).isEmpty with
      | true =>
        refine .exact ?_ ?_
        · rw [hat, hnone]
          rfl
        · rw [hat, World.tasks_setTask_self]
          show (world.runtime r).recorded ++ (handleLag ++ []).filterMap Op.toRecord =
            frames ((world.runtime r).events.passed next)
          rw [hpassed, frames_append, List.isEmpty_iff.mp hskipped, hexact]
          rfl
      | false =>
        -- from here the bridge owes the announcement that it fell behind
        refine .lost ?_ fun _ => .inr ⟨?_, ?_⟩
        · rw [hat]
          exact Bool.or_true _
        · rw [hat]
          show (world.runtime r).recorded <+: frames (world.runtime r).events.sent
          rw [hexact]
          exact frames_mono Broadcast.passed_prefix
        · rw [World.tasks_setTask_self]
          exact List.prefix_append _ _
    | stopped hstart hdead =>
      refine .stopped ?_ fun halive => hdead ?_
      · rw [hat]
        exact hstart
      · rwa [Alive, World.tasks_setTask_self] at halive
    | lost hlost htells =>
      refine .lost ?_ fun hmapped => .inl (hfailed hlost hmapped ?_)
      · rw [hat, hlost]
        rfl
      · exact (htells hmapped).resolve_right fun hlag => hquiet hlag.2
  | closed hrecv =>
    cases h with
    | exact hnone hexact =>
      refine .exact hnone ?_
      rw [World.tasks_setTask_self]
      rw [hnothing] at hexact
      exact hexact
    | stopped hstart hdead =>
      refine .stopped hstart fun halive => hdead ?_
      rwa [Alive, World.tasks_setTask_self] at halive
    | lost hlost htells =>
      refine .lost hlost fun hmapped => .inl (hfailed hlost hmapped ?_)
      exact (htells hmapped).resolve_right fun hlag => hquiet hlag.2

/-- The frame that the bridge hands on. -/
theorem World.Traces.publishEvent {frame : ServerMessage} (h : world.Traces b r)
    (hsound : Sound world) (htodo : (world.tasks b).todo = .publishEvent frame :: rest)
    (hbridge : (world.tasks b).bridge = some r)
    (hroom : ∀ actor, (world.tasks b).agent = some actor →
      (world.actors actor).running = true → (world.actors actor).hasRoom = true)
    (hstep : TaskStep setup world b answer (.publishEvent frame) rest world')
    (halive : world'.Alive b → world.Alive b)
    (hentry : world'.runtimes = some r → world.runtimes = some r)
    (hfailed : (world.runtime r).missed = true → world.runtimes = some r →
      world.ServesFailed b → world'.ServesFailed b) : world'.Traces b r := by
  rcases hstep.publishEvent hbridge with rfl | ⟨hrest, hkeeps, hmissed, hrecords, hfails⟩
  · exact h
  have hsame := hstep.same ((hsound.handles b).bridge r hbridge).1
  have hdead : ¬ world.Alive b → (world'.runtime r).recorded = (world.runtime r).recorded := by
    intro hdead
    refine hfails fun actor hagent => ?_
    by_contra hrunning
    exact hdead ⟨actor, hagent, by simpa using hrunning⟩
  cases h with
  | exact hnone hexact =>
    have hnext : (world.tasks b).toRecord = frame :: rest.filterMap Op.toRecord := by
      rw [Task.toRecord, htodo]
      rfl
    rw [hnext] at hexact
    by_cases hlives : world.Alive b
    · obtain ⟨actor, hagent, hrunning⟩ := hlives
      refine .exact (hmissed.trans hnone) ?_
      rw [hrecords actor hagent (hroom actor hagent hrunning), Task.toRecord, hrest, hkeeps.next,
        hsame.events, List.append_assoc]
      exact hexact
    · refine .stopped ?_ fun halive' => hlives (halive halive')
      rw [hdead hlives, hsame.events]
      have hstart : (world.runtime r).recorded <+:
          frames ((world.runtime r).events.passed (world.tasks b).next) := ⟨_, hexact⟩
      exact hstart.trans (frames_mono Broadcast.passed_prefix)
  | stopped hstart hstopped =>
    refine .stopped ?_ fun halive' => hstopped (halive halive')
    rw [hdead hstopped, hsame.events]
    exact hstart
  | lost hlost htells =>
    refine .lost (hmissed.trans hlost) fun hentry' => .inl ?_
    have hmapped := hentry hentry'
    refine hfailed hlost hmapped ((htells hmapped).resolve_right ?_)
    rintro ⟨-, later, hlater⟩
    rw [htodo] at hlater
    cases hlater

/-- Any other operation of the bridge; when it is to say that it has lagged, it says so. -/
theorem World.Traces.goesOn (h : world.Traces b r) (hsound : Sound world)
    (hbridging : world.Bridging) (htodo : (world.tasks b).todo = op :: rest)
    (hbridge : (world.tasks b).bridge = some r) (hop : op ≠ .receive)
    (hframe : ∀ frame, op ≠ .publishEvent frame)
    (hroom : ∀ actor, (world.tasks b).agent = some actor →
      (world.actors actor).running = true → (world.actors actor).hasRoom = true)
    (hstep : TaskStep setup world b answer op rest (world.step setup (.task b answer)))
    (halive : (world.step setup (.task b answer)).Alive b → world.Alive b)
    (hentry : (world.step setup (.task b answer)).runtimes = some r → world.runtimes = some r)
    (hfailed : (world.runtime r).missed = true → world.runtimes = some r →
      world.ServesFailed b → (world.step setup (.task b answer)).ServesFailed b) :
    (world.step setup (.task b answer)).Traces b r := by
  obtain ⟨hr, hnext⟩ := (hsound.handles b).bridge r hbridge
  have hsame := hstep.same hr
  -- the ghosts move at `receive` and `publishEvent` only
  have hghosts : ((world.step setup (.task b answer)).runtime r).ghosts =
      (world.runtime r).ghosts := by
    rcases hstep.ghosts r with hkept | ⟨hnew, -⟩ | ⟨-, hreceive | ⟨frame, hpublish⟩⟩
    · exact hkept
    · exact absurd hnew (Nat.ne_of_lt hr)
    · exact absurd hreceive hop
    · exact absurd hpublish (hframe frame)
  have hown : op.ofBridge = true := by
    refine hbridging b r hbridge op ?_
    rw [htodo]
    exact List.mem_cons_self
  cases hstep.bridge hbridge hown with
  | waits htask =>
    exact h.other htask hnext hghosts (hsame.events ▸ List.prefix_rfl) halive hentry hfailed
  | receives _ hreceive | lags _ hreceive => exact absurd hreceive hop
  | goesOn hkeeps hrest =>
    obtain ⟨hrecorded, hmissed⟩ := Prod.mk.inj hghosts
    cases h with
    | exact hnone hexact =>
      refine .exact (hmissed.trans hnone) ?_
      have hnothing : op.toRecord = none := by
        cases op with
        | publishEvent frame => exact absurd rfl (hframe frame)
        | _ => rfl
      rw [Task.toRecord, htodo, List.filterMap_cons_none hnothing] at hexact
      rw [hrecorded, Task.toRecord, hrest, hkeeps.next, hsame.events]
      exact hexact
    | stopped hstart hstopped =>
      refine .stopped ?_ fun halive' => hstopped (halive halive')
      rw [hrecorded, hsame.events]
      exact hstart
    | lost hlost htells =>
      by_cases hlives : world.Alive b
      · refine .lost (hmissed.trans hlost) fun hentry' => .inl ?_
        have hmapped := hentry hentry'
        refine (htells hmapped).elim (hfailed hlost hmapped) ?_
        rintro ⟨-, later, hlater⟩
        rw [htodo] at hlater
        obtain ⟨rfl, -⟩ := List.cons.inj hlater
        obtain ⟨actor, hagent, hrunning⟩ := hlives
        -- what the bridge does next is to fail its agent, and the actor has room for that
        have hcommand : ∀ todo lifecycle, ({ world.tasks b with todo } : Task).command answer
            (setLifecycle false lifecycle) = some (actor, .change (.lifecycleChanged lifecycle)) := by
          simp [Task.command, hagent, setLifecycle]
        have hchanged := ActorState.turn_change_ok (hroom actor hagent hrunning)
          (.lifecycleChanged (.failed "local OMP event bridge fell behind"))
        refine ⟨actor, hkeeps.agent.trans hagent, ?_⟩
        rw [(step_call setup htodo (hcommand _ _)).1, Function.update_self, hchanged.lifecycle]
        rfl
      · -- a bridge whose agent has stopped announces nothing; its runtime may have left the map
        by_cases hmapped : world.runtimes = some r
        · rcases htells hmapped with hfails | ⟨hstart, -⟩
          · exact .lost (hmissed.trans hlost) fun _ => .inl (hfailed hlost hmapped hfails)
          · refine .stopped ?_ fun halive' => hlives (halive halive')
            rw [hrecorded, hsame.events]
            exact hstart
        · exact .lost (hmissed.trans hlost) fun hentry' => absurd (hentry hentry') hmapped

/-! ### The step lemma -/

/-- A runtime that has a bridge was in the map before a step if it is there afterwards. -/
theorem entry_before {t : TaskId} (hlaunches : Launches world)
    (hbridge : (world.tasks b).bridge = some r) (htodo : (world.tasks t).todo = op :: rest)
    (hstep : TaskStep setup world t answer op rest world') (hentry : world'.runtimes = some r) :
    world.runtimes = some r := by
  rcases hstep.runtimes_cases with hkept | hnone | ⟨rfl, hinserted, -⟩
  · exact hkept.symm.trans hentry
  · rw [hnone] at hentry
    cases hentry
  · obtain ⟨hrequest, hkeys, -, -⟩ := (hlaunches.stages t).insertRuntime htodo
    have hfeeds : (world.tasks t).Feeds r := by
      refine .inr ⟨.inl ?_, hinserted.symm.trans hentry⟩
      rw [keys_of_todo htodo, hkeys]
      rfl
    rw [hlaunches.feeds t b r hfeeds (.inl hbridge), hbridge] at hrequest
    cases hrequest

/-- A `Failed` is not written over while it must not be. -/
theorem World.Honest.failed {input : Input} (h : world.Honest input) {actor : ActorId}
    (hlt : actor < world.nextActor) (hlost : (world.runtime r).missed = true)
    (hmapped : world.runtimes = some r)
    (hfailed : (world.actors actor).snapshot.lifecycle.isFailed = true) :
    ((world.step setup input).actors actor).snapshot.lifecycle.isFailed = true := by
  rcases step_lifecycle setup input hlt with hsame | ⟨lifecycle, hwrites, hset⟩
  · rw [hsame]
    exact hfailed
  · rw [hset]
    refine h.fails (actor, lifecycle) hwrites ?_ hfailed
    rw [hmapped]
    exact hlost

theorem ghosts_setRuntime {runtime : OmpRuntime} (h : runtime.ghosts = (world.runtime r).ghosts)
    (r' : RuntimeId) :
    ((world.setRuntime r runtime).runtime r').ghosts = (world.runtime r').ghosts := by
  show (Function.update world.runtime r runtime r').ghosts = _
  by_cases hr : r' = r
  · rw [hr, Function.update_self]
    exact h
  · rw [Function.update_of_ne hr]

/-- What a step that is neither one of a task nor a restart leaves as it was: the tasks,
but for a new request, the map, the ghosts, and what is sent. -/
structure Still (world world' : World δ) : Prop where
  tasks : ∀ b, b < world'.nextTask → b < world.nextTask ∧ world'.tasks b = world.tasks b ∨
    (world'.tasks b).bridge = none
  allocated : ∀ b, b < world.nextTask → b < world'.nextTask ∧ world'.tasks b = world.tasks b
  runtimes : world'.runtimes = world.runtimes
  ghosts : ∀ r, (world'.runtime r).ghosts = (world.runtime r).ghosts
  sent : ∀ r, (world.runtime r).Extends (world'.runtime r)

theorem Still.refl (world : World δ) : Still world world :=
  ⟨fun _ hlt => .inl ⟨hlt, rfl⟩, fun _ hlt => ⟨hlt, rfl⟩, rfl, fun _ => rfl, fun _ => .refl _⟩

theorem Still.setRuntime {runtime : OmpRuntime}
    (hghosts : runtime.ghosts = (world.runtime r).ghosts)
    (hextends : (world.runtime r).Extends runtime) : Still world (world.setRuntime r runtime) :=
  ⟨fun _ hlt => .inl ⟨hlt, rfl⟩, fun _ hlt => ⟨hlt, rfl⟩, rfl, ghosts_setRuntime hghosts,
    fun r' => extends_setRuntime r r' hextends⟩

theorem still_step (setup : Setup) (world : World δ) {input : Input}
    (htask : ∀ t answer, input ≠ .task t answer)
    (hrestart : ∀ nowMs fault, input ≠ .restart nowMs fault) :
    Still world (world.step setup input) := by
  cases input with
  | task t answer => exact absurd rfl (htask t answer)
  | restart nowMs fault => exact absurd rfl (hrestart nowMs fault)
  | request request =>
    simp only [World.step]
    split
    · -- a request adds one task, behind those that are there
      have hold : ∀ b, b < world.nextTask →
          (world.addTask (.new request.script)).tasks b = world.tasks b :=
        fun b hlt => Function.update_of_ne (Nat.ne_of_lt hlt) _ _
      refine ⟨fun b hlt => ?_, fun b hlt => ⟨Nat.lt_succ_of_lt hlt, hold b hlt⟩, rfl, fun _ => rfl,
        fun _ => .refl _⟩
      by_cases hbefore : b < world.nextTask
      · exact .inl ⟨hbefore, hold b hbefore⟩
      · have hlast : b = world.nextTask :=
          Nat.le_antisymm (Nat.le_of_lt_succ hlt) (Nat.le_of_not_lt hbefore)
        have hnew : (world.addTask (.new request.script)).tasks world.nextTask =
            .new request.script := Function.update_self ..
        rw [hlast, hnew]
        exact .inr rfl
    · exact .refl world
  | runtime r input => exact .setRuntime rfl (.refl _)
  | publish r =>
    refine .setRuntime ?_ ?_
    · unfold OmpRuntime.publish
      split <;> rfl
    · unfold OmpRuntime.publish
      split
      · exact .refl _
      · exact ⟨List.prefix_append _ _, id⟩
  | stderr r text =>
    simp only [World.step]
    split
    · exact .setRuntime rfl ⟨List.prefix_append _ _, id⟩
    · exact .refl world
  | close r =>
    simp only [World.step]
    split
    · exact .setRuntime rfl (.refl _)
    · exact .refl world
  | actor actor input =>
    simp only [World.step]
    split
    · exact ⟨fun _ hlt => .inl ⟨hlt, rfl⟩, fun _ hlt => ⟨hlt, rfl⟩, rfl, fun _ => rfl,
        fun _ => .refl _⟩
    · exact .refl world

/-- What is known of the bridges of a daemon. -/
structure Recording (world : World δ) : Prop where
  sound : Sound world
  launches : Launches world
  bridging : world.Bridging
  listens : ∀ t, Listens (world.tasks t).todo = true
  fresh : world.Fresh
  traces : ∀ b r, b < world.nextTask → (world.tasks b).bridge = some r → world.Traces b r

theorem World.Fresh.task {t : TaskId} (h : world.Fresh) (hsound : Sound world)
    (htodo : (world.tasks t).todo = op :: rest)
    (hstep : TaskStep setup world t answer op rest world') : world'.Fresh := by
  intro r hnone
  have ht := hsound.allocated htodo
  have hbefore : ∀ b, b < world.nextTask → (world.tasks b).bridge ≠ some r := by
    intro b hlt
    have hafter := hnone b (Nat.lt_of_lt_of_le hlt hstep.nextTask_le)
    by_cases hb : b = t
    · subst hb
      rwa [hstep.bridge_eq hlt] at hafter
    · rcases hstep.todo_other hb with hsame | ⟨rfl, -, -⟩
      · rwa [hsame] at hafter
      · exact absurd hlt (Nat.lt_irrefl _)
  rcases hstep.ghosts r with hkept | ⟨-, hnew⟩ | ⟨hbridge, -⟩
  · exact hkept.trans (h r hbefore)
  · exact hnew
  · exact absurd hbridge (hbefore t ht)

/-- A bridge that is spawned is the first of its runtime. -/
theorem World.Fresh.spawned {t : TaskId} (h : world.Fresh) (hlaunches : Launches world)
    (htodo : (world.tasks t).todo = .spawnEventBridge :: rest)
    (hruntime : (world.tasks t).runtime = some r) : (world.runtime r).ghosts = ([], false) := by
  refine h r fun b _ hbridge => ?_
  obtain ⟨hnone, hkeys, -⟩ := (hlaunches.stages t).spawnEventBridge htodo
  have hfeeds : (world.tasks t).Feeds r := by
    refine .inr ⟨.inr ?_, hruntime⟩
    rw [keys_of_todo htodo, hkeys]
    rfl
  rw [hlaunches.feeds t b r hfeeds (.inl hbridge), hbridge] at hnone
  cases hnone

theorem Recording.task {t : TaskId} (h : Recording world)
    (htodo : (world.tasks t).todo = op :: rest)
    (honest : world.Honest (.task t answer))
    (hlt : b < (world.step setup (.task t answer)).nextTask)
    (hbridge : ((world.step setup (.task t answer)).tasks b).bridge = some r) :
    (world.step setup (.task t answer)).Traces b r := by
  have hstep : TaskStep setup world t answer op rest (world.step setup (.task t answer)) :=
    stepTask_cases htodo
  have ht := h.sound.allocated htodo
  -- what is so of any bridge that was there
  have hold : ∀ b, (world.tasks b).bridge = some r →
      ((world.step setup (.task t answer)).tasks b).agent = (world.tasks b).agent →
      ((world.step setup (.task t answer)).Alive b → world.Alive b) ∧
      ((world.step setup (.task t answer)).runtimes = some r → world.runtimes = some r) ∧
      ((world.runtime r).missed = true → world.runtimes = some r → world.ServesFailed b →
        (world.step setup (.task t answer)).ServesFailed b) := by
    intro b hbridge hagent
    refine ⟨?_, entry_before h.launches hbridge htodo hstep, ?_⟩
    · rintro ⟨actor, hserved, hrunning⟩
      rw [hagent] at hserved
      exact ⟨actor, hserved,
        running_before setup ((h.sound.handles b).agent actor hserved) hrunning⟩
    · rintro hlost hmapped ⟨actor, hserved, hfailed⟩
      exact ⟨actor, hagent.trans hserved,
        honest.failed ((h.sound.handles b).agent actor hserved) hlost hmapped hfailed⟩
  by_cases hb : b = t
  · subst hb
    rw [hstep.bridge_eq ht] at hbridge
    have htraces := h.traces b r ht hbridge
    have hown : op.ofBridge = true := by
      refine h.bridging b r hbridge op ?_
      rw [htodo]
      exact List.mem_cons_self
    obtain ⟨halive, hentry, hfailed⟩ := hold b hbridge (hstep.bridge hbridge hown).agent_eq
    have hroom : ∀ actor, (world.tasks b).agent = some actor →
        (world.actors actor).running = true → (world.actors actor).hasRoom = true :=
      fun actor hagent => honest.room actor hagent
    by_cases hreceive : op = .receive
    · subst hreceive
      have hlistens := h.listens b
      rw [htodo, listens_cons] at hlistens
      exact htraces.receive htodo (hlistens.1 rfl) (hstep.receive hbridge) hfailed
    by_cases hframe : ∃ frame, op = .publishEvent frame
    · obtain ⟨frame, rfl⟩ := hframe
      exact htraces.publishEvent h.sound htodo hbridge hroom hstep halive hentry hfailed
    · exact htraces.goesOn h.sound h.bridging htodo hbridge hreceive (not_exists.mp hframe) hroom
        hstep halive hentry hfailed
  · rcases hstep.allocated hb hlt with ⟨hbefore, hsame⟩ | ⟨rfl, hnew⟩
    · rw [hsame] at hbridge
      obtain ⟨halive, hentry, hfailed⟩ := hold b hbridge (congrArg Task.agent hsame)
      obtain ⟨hr, hnext⟩ := (h.sound.handles b).bridge r hbridge
      refine (h.traces b r hbefore hbridge).other hsame hnext ?_ (hstep.extends hr).1 halive hentry
        hfailed
      rcases hstep.ghosts r with hkept | ⟨hnew, -⟩ | ⟨hown, -⟩
      · exact hkept
      · exact absurd hnew (Nat.ne_of_lt hr)
      · exact absurd (h.launches.feeds b t r (.inl hbridge) (.inl hown)) hb
    · -- a new bridge
      rw [hnew] at hbridge
      have hfresh := h.fresh.spawned h.launches htodo hbridge
      have hkept : ((world.step setup (.task t answer)).runtime r).ghosts = ([], false) := by
        rcases hstep.ghosts r with hkept | ⟨-, hempty⟩ | ⟨-, hreceive | ⟨frame, hpublish⟩⟩
        · exact hkept.trans hfresh
        · exact hempty
        · cases hreceive
        · cases hpublish
      obtain ⟨hrecorded, hmissed⟩ := Prod.mk.inj hkept
      refine .exact hmissed ?_
      rw [hrecorded, hnew]
      rfl

/-- What is neither a step of a task nor a restart changes nothing of it. -/
theorem Recording.still (h : Recording world) {input : Input} (honest : world.Honest input)
    (hstill : Still world (world.step setup input)) :
    (world.step setup input).Fresh ∧ ∀ b r, b < (world.step setup input).nextTask →
      ((world.step setup input).tasks b).bridge = some r → (world.step setup input).Traces b r := by
  constructor
  · intro r hnone
    refine (hstill.ghosts r).trans (h.fresh r fun b hlt => ?_)
    obtain ⟨hlt', hsame⟩ := hstill.allocated b hlt
    rw [← hsame]
    exact hnone b hlt'
  · intro b r hlt hbridge
    rcases hstill.tasks b hlt with ⟨hbefore, hsame⟩ | hnone
    · rw [hsame] at hbridge
      obtain ⟨hr, hnext⟩ := (h.sound.handles b).bridge r hbridge
      refine (h.traces b r hbefore hbridge).other hsame hnext (hstill.ghosts r)
        (hstill.sent r).1 ?_ (fun hentry => hstill.runtimes ▸ hentry) ?_
      · rintro ⟨actor, hserved, hrunning⟩
        rw [hsame] at hserved
        exact ⟨actor, hserved,
          running_before setup ((h.sound.handles b).agent actor hserved) hrunning⟩
      · rintro hlost hmapped ⟨actor, hserved, hfailed⟩
        refine ⟨actor, ?_, honest.failed ((h.sound.handles b).agent actor hserved) hlost hmapped
          hfailed⟩
        rw [hsame]
        exact hserved
    · rw [hnone] at hbridge
      cases hbridge

theorem Recording.step (h : Recording world) {input : Input} (honest : world.Honest input) :
    Recording (world.step setup input) := by
  have hboth : (world.step setup input).Fresh ∧ ∀ b r, b < (world.step setup input).nextTask →
      ((world.step setup input).tasks b).bridge = some r →
      (world.step setup input).Traces b r := by
    cases input with
    | task t answer =>
      cases htodo : (world.tasks t).todo with
      | nil =>
        simp only [World.step, World.stepTask, htodo]
        exact ⟨h.fresh, h.traces⟩
      | cons op rest =>
        exact ⟨h.fresh.task h.sound htodo (stepTask_cases htodo),
          fun b r hlt hbridge => h.task htodo honest hlt hbridge⟩
    | restart nowMs fault =>
      have hnone : ∀ world' : World δ, (world'.runtime = fun _ => World.noRuntime) →
          (world'.tasks = fun _ => .new []) → world'.Fresh ∧ ∀ b r, b < world'.nextTask →
            (world'.tasks b).bridge = some r → world'.Traces b r := by
        intro world' hruntime htasks
        refine ⟨fun r _ => ?_, fun b r _ hbridge => ?_⟩
        · rw [hruntime]
          rfl
        · rw [htasks] at hbridge
          cases hbridge
      simp only [World.step, World.restart]
      split
      · exact hnone _ rfl rfl
      split
      · exact hnone _ rfl rfl
      · exact hnone _ rfl rfl
    | request | runtime | publish | stderr | close | actor =>
      exact h.still honest (still_step setup world (by rintro _ _ ⟨⟩) (by rintro _ _ ⟨⟩))
  exact ⟨h.sound.step input, h.launches.step h.sound input, h.bridging.step h.sound setup input,
    law_listens.step setup h.listens h.sound input, hboth.1, hboth.2⟩

end Traces

/-! ## Runs -/

theorem recording_create (setup : Setup) (store : Store δ) :
    Recording (World.create setup store) where
  sound := sound_create setup store
  launches := launches_create setup store
  bridging := by
    intro t r hnone
    cases hnone
  listens := fun _ => rfl
  fresh := fun _ _ => rfl
  traces := by
    intro b r _ hnone
    cases hnone

/-- **No silent loss.** After a run in which a `Failed` is not written over while the
bridge of the runtime in the map has lost something: what has been recorded for any
runtime are the first frames that it has published, in order; or the agent that its
bridge serves is failed, as long as the runtime is in the map. -/
theorem no_silent_loss (setup : Setup) (store : Store δ) (inputs : List Input)
    (honest : Along (World.step setup) World.Honest (.create setup store) inputs) :
    let world := run (World.step setup) (.create setup store) inputs
    ∀ r, (world.runtime r).recorded <+: frames (world.runtime r).published ∨
      (world.runtimes = some r → ∃ b actor, (world.tasks b).bridge = some r ∧
        (world.tasks b).agent = some actor ∧
        (world.actors actor).snapshot.lifecycle.isFailed = true) := by
  intro world r
  have hrecording : Recording world :=
    run_invariant_along (P := Recording) (fun _ _ h honest => h.step honest)
      (recording_create setup store) honest
  have hsent : frames (world.runtime r).events.sent <+: frames (world.runtime r).published :=
    frames_mono (List.prefix_append _ _)
  by_cases hbridge : ∃ b, b < world.nextTask ∧ (world.tasks b).bridge = some r
  · obtain ⟨b, hlt, hbridge⟩ := hbridge
    cases hrecording.traces b r hlt hbridge with
    | exact _ hexact =>
      have hstart : (world.runtime r).recorded <+:
          frames ((world.runtime r).events.passed (world.tasks b).next) := ⟨_, hexact⟩
      exact .inl (hstart.trans ((frames_mono Broadcast.passed_prefix).trans hsent))
    | stopped hstart => exact .inl (hstart.trans hsent)
    | lost _ htells =>
      by_cases hmapped : world.runtimes = some r
      · rcases htells hmapped with ⟨actor, hserved, hfailed⟩ | ⟨hstart, -⟩
        · exact .inr fun _ => ⟨b, actor, hbridge, hserved, hfailed⟩
        · exact .inl (hstart.trans hsent)
      · exact .inr fun hentry => absurd hentry hmapped
  · have hempty := hrecording.fresh r fun b hlt hb => hbridge ⟨b, hlt, hb⟩
    have hnone : (world.runtime r).recorded = [] := congrArg Prod.fst hempty
    rw [hnone]
    exact .inl List.nil_prefix

/-- The runtime publishes more frames than the channel keeps before the bridge polls,
the last of them as given. -/
def overflowing (last : ServerMessage) : List Input :=
  launching ++ List.replicate 5 (Input.runtime 0 (.reader (some (.frame (.sessionEvent
    (.other "message_update" "")))))) ++
  [Input.runtime 0 (.reader (some (.frame last)))] ++ List.replicate 6 (Input.publish 0) ++
  List.replicate 10 (Input.task 1 plainAnswer)

/-- The agent is failed, and says so. -/
theorem no_silent_loss_overflowing :
    let world := plainRun (overflowing (.sessionEvent (.other "message_update" "")))
    ∀ r, (world.runtime r).recorded <+: frames (world.runtime r).published ∨
      (world.runtimes = some r → ∃ b actor, (world.tasks b).bridge = some r ∧
        (world.tasks b).agent = some actor ∧
        (world.actors actor).snapshot.lifecycle.isFailed = true) :=
  no_silent_loss plainSetup (.create ⟨"server"⟩) _ (by decide +kernel)

/-- The bridge has lost the first two frames and recorded the others. The last one is
the start of a turn, and the agent is running. -/
theorem loss_covered_up :
    let world := plainRun (overflowing (.sessionEvent .agentStart) ++ [.task 1 plainAnswer])
    ¬ (world.runtime 0).recorded <+: frames (world.runtime 0).published ∧
      world.runtimes = some 0 ∧ world.registry = some 0 ∧ (world.tasks 1).bridge = some 0 ∧
      (world.tasks 1).agent = some 0 ∧ (world.actors 0).snapshot.lifecycle = .running := by
  decide +kernel

end Ompd.Supervision

end OmpRemote

import OmpRemote.Replication.Calm

/-!
# Subscribing again

When a client subscribes to an agent again, the loop aborts the task of the subscription
before and puts the start of the new one into the lanes. If the task is being polled just
then it goes on until it next waits.

- `HandsOver`: nothing of an earlier subscription comes after a start, and what comes is
  one contiguous stream.
- `Orderly`: no task of an earlier subscription finds anything more to do, and every start
  finds room.
- `Moves`: what a step does. `Sound.step` and `Following.step` are by cases on it.
- `hands_over`: every orderly run hands over.
- `disturbed_or_reaches`: a client that hears of a snapshot and the updates after it gets as
  far as they lead, or asks again.
- `stray_update`: a run in which an aborted task had an update in hand.
-/

namespace OmpRemote.Replication

open Lib Client ControlPlane
open Ompd (Session SessionInput ServerSessionConfig Message OutboundPayload Lane DeviceRecord
  Forwarding SubscriptionTask)

/-! ## The law -/

/-- The task that takes the step. -/
def FeedInput.task : FeedInput → Option Nat
  | .recv task | .forward task | .snapshot task => some task
  | .session (.resumeTask task) => some task
  | _ => none

/-- The step is a poll of `recv`. -/
def FeedInput.polls : FeedInput → Bool
  | .recv _ => true
  | _ => false

/-- The task of the agent whose subscription the step has started. -/
def Event.starts (agentId : AgentId) (e : Event) : Option Nat :=
  match e.after.session.tasks[e.before.session.tasks.length]? with
  | some spawned =>
    if spawned.agentId = agentId then some e.before.session.tasks.length else none
  | none => none

/-- A client that applies the frames does not subscribe to the agent anew. -/
def Undisturbed (agentId : AgentId) : ReplicatedState → List ServerFrame → Prop
  | _, [] => True
  | state, frame :: frames =>
    agentId ∉ resubscribed state frame ∧ Undisturbed agentId (state.apply frame).2 frames

/-- The client stands where a replay begins. -/
def Stands (agentId : AgentId) (state : ReplicatedState) (reader : Reader) : Prop :=
  ∀ updates, reader.start = .replay updates → state.cursor agentId = reader.cursor

/-- From the start of a subscription on: what says anything of the agent is put in by the
task of that subscription, and the state lane is given one contiguous stream. -/
def HandsOver (agentId : AgentId) (history : List Event) : Prop :=
  ∀ pre (e : Event) post task, history = pre ++ e :: post → e.starts agentId = some task →
    (∀ later ∈ post, later.starts agentId = none) →
      (∀ later ∈ post, ∀ lane, ∀ frame ∈ later.puts lane, (notice agentId frame).isSome →
        later.input.task = some task) ∧
      ∃ id reader, e.before.reply = some id ∧ e.before.world.readers id = some reader ∧
        ∀ state, Stands agentId state reader →
          Undisturbed agentId state ((e :: post).flatMap fun event => event.puts .state)

namespace Feed

/-- The task serves a subscription to the agent, and a later one has been started. -/
def replaced (agentId : AgentId) (feed : Feed) (task : Nat) : Bool :=
  match feed.session.tasks[task]? with
  | some spawned => spawned.agentId = agentId &&
    (feed.session.tasks.drop (task + 1)).any fun later => later.agentId = agentId
  | none => false

/-- A poll of the task in `recv` finds nothing. -/
def idle (feed : Feed) (task : Nat) : Bool :=
  match (feed.held task).bind fun id => (feed.world.readers id).map (id, ·) with
  | some (id, reader) => (returned feed.world
      (feed.world.step (if reader.checked then .poll id else .recv id)) id).isNone
  | none => true

/-- The start that a step puts into the lanes; one that says that updates are missing
waits for room for the gap first. -/
def starting (feed : Feed) : FeedInput → Option SubscriptionStart
  | .subscribed _ =>
    match feed.replied with
    | some (.resyncRequired _) => none
    | start => start
  | .started => feed.replied
  | _ => none

end Feed

/-- The task of an earlier subscription finds nothing more before it waits. -/
def Waits (agentId : AgentId) (feed : Feed) (input : FeedInput) : Prop :=
  ∀ task ∈ input.task, feed.replaced agentId task = true →
    input.polls = true ∧ feed.idle task = true

/-- A start finds room in the state lane, unless nobody takes anything out of it. -/
def Admits (feed : Feed) (input : FeedInput) : Prop :=
  ∀ start ∈ feed.starting input, (feed.session.outbound.lane .state).receiverOpen = true →
    feed.session.outbound.Room (Ompd.startFrames start).length

def Orderly (agentId : AgentId) (feed : Feed) (input : FeedInput) : Prop :=
  Waits agentId feed input ∧ Admits feed input

instance (agentId : AgentId) (feed : Feed) (input : FeedInput) :
    Decidable (Orderly agentId feed input) :=
  inferInstanceAs (Decidable ((∀ task ∈ input.task, feed.replaced agentId task = true →
    input.polls = true ∧ feed.idle task = true) ∧
    ∀ start ∈ feed.starting input, (feed.session.outbound.lane .state).receiverOpen = true →
      feed.session.outbound.Room (Ompd.startFrames start).length))

variable {agentId : AgentId}

/-! ## The last task -/

/-- The task is the last one for the agent. -/
def Last (agentId : AgentId) (owners : List AgentId) (task : Nat) : Prop :=
  owners[task]? = some agentId ∧ ∀ later, owners[later]? = some agentId → later ≤ task

theorem Last.unique {owners : List AgentId} {task other : Nat} (h : Last agentId owners task)
    (h' : Last agentId owners other) : task = other :=
  Nat.le_antisymm (h'.2 task h.1) (h.2 other h'.1)

theorem last_append (owners : List AgentId) : Last agentId (owners ++ [agentId]) owners.length := by
  refine ⟨List.getElem?_concat_length, fun later hlater => ?_⟩
  obtain ⟨hlt, -⟩ := List.getElem?_eq_some_iff.mp hlater
  rw [List.length_append] at hlt
  exact Nat.le_of_lt_succ hlt

/-- Tasks for other agents do not matter. -/
theorem Last.append {owners more : List AgentId} {task : Nat} (h : Last agentId owners task)
    (hmore : agentId ∉ more) : Last agentId (owners ++ more) task := by
  obtain ⟨htask, hlast⟩ := h
  obtain ⟨hlt, -⟩ := List.getElem?_eq_some_iff.mp htask
  refine ⟨by rw [List.getElem?_append_left hlt, htask], fun later hlater => ?_⟩
  rw [List.getElem?_append] at hlater
  split at hlater
  · exact hlast later hlater
  · exact absurd (List.mem_of_getElem? hlater) hmore

/-- A task of the agent that has not been replaced is its last. -/
theorem last_of_not_replaced {feed : Feed} {task : Nat}
    (htask : (owners feed.session.tasks)[task]? = some agentId)
    (h : feed.replaced agentId task = false) : Last agentId (owners feed.session.tasks) task := by
  refine ⟨htask, fun later hlater => ?_⟩
  rw [owners, List.getElem?_map] at htask hlater
  obtain ⟨spawned, hspawned, hagent⟩ := Option.map_eq_some_iff.mp htask
  obtain ⟨other, hother, hagent'⟩ := Option.map_eq_some_iff.mp hlater
  by_contra hlt
  have hmem : other ∈ feed.session.tasks.drop (task + 1) := by
    refine List.mem_of_getElem? (i := later - (task + 1)) ?_
    rw [List.getElem?_drop, ← hother]
    congr 1
    omega
  unfold Feed.replaced at h
  rw [hspawned] at h
  dsimp only at h
  rw [decide_eq_true hagent, Bool.true_and, List.any_eq_false] at h
  exact h other hmem (decide_eq_true hagent')

/-- A step of the agent's task that does something is one of its last task. -/
theorem last_of_waits {feed : Feed} {input : FeedInput} {task : Nat}
    (hwaits : Waits agentId feed input) (hinput : input.task = some task)
    (hdoes : input.polls = false)
    (htask : (owners feed.session.tasks)[task]? = some agentId) :
    Last agentId (owners feed.session.tasks) task := by
  refine last_of_not_replaced htask (Bool.eq_false_iff.mpr fun hreplaced => ?_)
  have hpolls := (hwaits task hinput hreplaced).1
  rw [hdoes] at hpolls
  cases hpolls

/-! ## What a step does -/

/-- The actor, the subscriptions and the connection fit together. -/
structure Sound (initial : AgentSnapshot) (feed : Feed) : Prop where
  world : World.Invariant initial feed.world
  leads : feed.world.Leads initial
  lines : Lines initial.agentId feed.session
  /-- The loop waits to put in what the actor has returned. -/
  starting : ∀ snapshot, feed.session.loop = .starting initial.agentId snapshot →
    feed.replied = some (.resyncRequired snapshot)
  /-- The actor has returned a subscription that nobody has used yet. -/
  reply : ∀ id, feed.reply = some id → (∀ task, feed.held task ≠ some id) ∧
    ∃ reader, feed.world.readers id = some reader ∧ reader.received = []
  held : ∀ task id, feed.held task = some id →
    (owners feed.session.tasks)[task]? = some initial.agentId ∧ (feed.world.readers id).isSome
  distinct : ∀ task other id, feed.held task = some id → feed.held other = some id → task = other
  hand : ∀ task, (feed.inHand task).isSome → (feed.held task).isSome

/-- A task of the agent puts a frame into another lane than that of the state. -/
structure Speaks (agentId : AgentId) (feed : Feed) (input : FeedInput) (session : Session) :
    Prop where
  task : ∃ task, input.task = some task ∧ (owners feed.session.tasks)[task]? = some agentId
  polls : input.polls = false
  state : session.outbound.lane .state = feed.session.outbound.lane .state

/-- What a task makes of a result of `recv`. -/
inductive Passes (session : Session) (task : Nat) :
    Except SubscriptionError AgentUpdate → Session → Prop where
  /-- The update gets in. -/
  | sent {update : AgentUpdate} {outbound : Ompd.Outbound} {spawned : SubscriptionTask} :
    session.tasks[task]? = some spawned → spawned.forwarding = .update →
    session.outbound.state (Ompd.updateFrame update) = (true, outbound) →
    Passes session task (.ok update) { session with outbound }
  /-- The task awaits updates no more. -/
  | stops {result : Except SubscriptionError AgentUpdate} {forwarding : Forwarding} :
    forwarding = .snapshot ∨ forwarding = .ended →
    Passes session task result (session.setTask task forwarding)
  /-- The task had stopped before. -/
  | late {result : Except SubscriptionError AgentUpdate} {spawned : SubscriptionTask} :
    session.tasks[task]? = some spawned → spawned.forwarding ≠ .update →
    Passes session task result session

/-- **What a step does.** -/
inductive Moves (initial : AgentSnapshot) (feed : Feed) (input : FeedInput) : Feed → Prop where
  /-- The connection goes on; no subscription to the agent is started. -/
  | session {session : Session} {more : List AgentId} (lines : Lines initial.agentId session)
    (others : initial.agentId ∉ more) (tasks : TasksGo more feed.session.tasks session.tasks)
    (starting : ∀ snapshot, session.loop = .starting initial.agentId snapshot →
      feed.replied = some (.resyncRequired snapshot))
    (lanes : QuietLanes initial.agentId feed.session.outbound session.outbound ∨
      Speaks initial.agentId feed input session) : Moves initial feed input { feed with session }
  /-- The actor goes on, or a subscription that no task is about to use. -/
  | world (turned : WorldInput)
    (leaves : ∀ id, turned.subscriber = some id → feed.leaves id = true) :
    Moves initial feed input { feed with world := feed.world.step turned }
  /-- The actor returns a subscription to the loop. -/
  | subscribe (cursor : Option SubscriptionCursor) (reply : feed.reply = none)
    (running : feed.world.actor.running = true) :
    Moves initial feed input { feed with
      world := feed.world.step (.actor (.command (.subscribe cursor)))
      reply := some feed.world.actor.nextChannel }
  /-- The loop starts a subscription to the agent. -/
  | start {id : SubscriptionId} {reader : Reader} {outbound : Ompd.Outbound} {session : Session}
    (reply : feed.reply = some id) (read : feed.world.readers id = some reader)
    (start : feed.starting input = some reader.start)
    (state : outbound.lane .state = feed.session.outbound.lane .state)
    (emitted : session.outbound = Ompd.emitStart outbound reader.start)
    (lines : Lines initial.agentId session)
    (tasks : TasksGo [initial.agentId] feed.session.tasks session.tasks)
    (loop : session.loop = .receiving) :
    Moves initial feed input { feed with
      session
      reply := none
      held := Function.update feed.held feed.session.tasks.length (some id) }
  /-- A task is polled in `recv`. -/
  | recv {task : Nat} {id : SubscriptionId} (turned : WorldInput)
    (held : feed.held task = some id) (empty : feed.inHand task = none)
    (polls : turned = .recv id ∨ turned = .poll id) :
    Moves initial feed input { feed with
      world := feed.world.step turned
      inHand := Function.update feed.inHand task
        (returned feed.world (feed.world.step turned) id) }
  /-- A task goes on with what `recv` has returned. -/
  | forward {task : Nat} {id : SubscriptionId} {result : Except SubscriptionError AgentUpdate}
    {session : Session} (takes : input = .forward task) (held : feed.held task = some id)
    (hand : feed.inHand task = some result) (passes : Passes feed.session task result session) :
    Moves initial feed input { feed with
      session
      inHand := Function.update feed.inHand task none }

variable {initial : AgentSnapshot} {feed feed' : Feed} {input : FeedInput}

namespace Moves

theorem of_calm (h : Sound initial feed) {session : Session}
    (hcalm : Calm initial.agentId feed.session session) :
    Moves initial feed input { feed with session } := by
  obtain ⟨more, hmore, htasks⟩ := hcalm.tasks
  refine .session hcalm.lines hmore htasks (fun snapshot hloop => ?_) (.inl hcalm.lanes)
  rw [← hcalm.loop snapshot hloop] at hloop
  exact h.starting snapshot hloop

theorem stays (h : Sound initial feed) : Moves initial feed input feed :=
  of_calm h (.same h.lines)

end Moves

theorem passes (session : Session) {task : Nat} {spawned : SubscriptionTask}
    (hspawned : session.tasks[task]? = some spawned)
    (result : Except SubscriptionError AgentUpdate) :
    Passes session task result
      (session.forward task spawned.forwarding (resultInput task result)) := by
  by_cases hupdate : spawned.forwarding = .update
  · rw [hupdate]
    unfold Session.forward
    cases result with
    | ok update =>
      dsimp only [resultInput, Ompd.emitUpdate]
      cases hstate : session.outbound.state (Ompd.updateFrame update) with
      | mk ok outbound =>
        cases ok with
        | true => exact .sent hspawned hupdate hstate
        | false =>
          obtain rfl : outbound = session.outbound := by
            unfold Ompd.Outbound.state at hstate
            split at hstate <;> cases hstate <;> rfl
          exact .stops (.inl rfl)
    | error error =>
      cases error with
      | resyncRequired => exact .stops (.inl rfl)
      | closed => exact .stops (.inr rfl)
  · have hsame : session.forward task spawned.forwarding (resultInput task result) = session := by
      unfold Session.forward
      cases result with
      | ok update =>
        dsimp only [resultInput]
        split
        · exact absurd (by assumption) hupdate
        · exact absurd (by assumption) hupdate
        · rfl
      | error error =>
        cases error with
        | resyncRequired | closed => exact if_neg hupdate
    rw [hsame]
    exact .late hspawned hupdate

/-! ### Tasks that are being polled -/

section Polled

variable {polled : Bool} {after : Session} {more : List AgentId}

theorem keepPolled_cases (agentId : AgentId) (feed : Feed) (polled : Bool) (after : Session) :
    feed.keepPolled agentId polled after = after ∨ ∃ (task : Nat) (spawned : SubscriptionTask),
      feed.session.tasks[task]? = some spawned ∧
        feed.keepPolled agentId polled after = after.setTask task spawned.forwarding := by
  unfold Feed.keepPolled
  split
  · rename_i task _
    split
    · split
      · rename_i spawned hspawned
        exact .inr ⟨task, spawned, hspawned, rfl⟩
      · exact .inl rfl
    · exact .inl rfl
  · exact .inl rfl

theorem keepPolled_outbound :
    (feed.keepPolled agentId polled after).outbound = after.outbound := by
  rcases keepPolled_cases agentId feed polled after with hkeep | ⟨task, spawned, -, hkeep⟩
  · rw [hkeep]
  · rw [hkeep]
    rfl

theorem keepPolled_loop : (feed.keepPolled agentId polled after).loop = after.loop := by
  rcases keepPolled_cases agentId feed polled after with hkeep | ⟨task, spawned, -, hkeep⟩
  · rw [hkeep]
  · rw [hkeep]
    rfl

/-- A task that goes on as it was is no new one. -/
theorem keepPolled_tasks (h : TasksGo more feed.session.tasks after.tasks) :
    TasksGo more feed.session.tasks (feed.keepPolled agentId polled after).tasks := by
  rcases keepPolled_cases agentId feed polled after with hkeep | ⟨task, spawned, hspawned, hkeep⟩
  · rwa [hkeep]
  · rw [hkeep]
    refine ⟨by rw [owners_setTask, h.spawns], fun other old new hold hnew hupdate => ?_⟩
    by_cases hother : other = task
    · subst hother
      cases hspawned.symm.trans hold
      rw [Session.getElem?_setTask_self] at hnew
      obtain ⟨_, -, rfl⟩ := Option.map_eq_some_iff.mp hnew
      exact hupdate
    · rw [Session.getElem?_setTask_of_ne hother] at hnew
      exact h.updates other old new hold hnew hupdate

theorem keepPolled_lines (h : Lines agentId feed.session) (hafter : Lines agentId after)
    (htasks : TasksGo more feed.session.tasks after.tasks) :
    Lines agentId (feed.keepPolled agentId polled after) := by
  rcases keepPolled_cases agentId feed polled after with hkeep | ⟨task, spawned, hspawned, hkeep⟩
  · rwa [hkeep]
  · rw [hkeep]
    refine hafter.setTask task fun found frame hfound hframe hother => ?_
    refine h.gaps task spawned frame hspawned hframe ?_
    -- it is still the same agent's
    have howner : (owners after.tasks)[task]? = some spawned.agentId := by
      rw [htasks.spawns, List.getElem?_append_left, owners, List.getElem?_map, hspawned]
      · rfl
      · rw [owners, List.length_map]
        exact (List.getElem?_eq_some_iff.mp hspawned).1
    rw [owners, List.getElem?_map, hfound] at howner
    rwa [← Option.some.inj howner]

theorem Calm.keepPolled (h : Lines agentId feed.session)
    (hcalm : Calm agentId feed.session after) :
    Calm agentId feed.session (feed.keepPolled agentId polled after) := by
  obtain ⟨more, hmore, htasks⟩ := hcalm.tasks
  refine ⟨keepPolled_lines h hcalm.lines htasks, ⟨more, hmore, keepPolled_tasks htasks⟩, ?_, ?_⟩
  · rw [keepPolled_outbound]
    exact hcalm.lanes
  · rw [keepPolled_loop]
    exact hcalm.loop

end Polled

theorem goesOn_spawned {session : Session} {id : SubscriptionId} (hreply : feed.reply = some id)
    (hlength : feed.session.tasks.length < session.tasks.length) :
    feed.goesOn session = { feed with
      session
      reply := none
      held := Function.update feed.held feed.session.tasks.length (some id) } := by
  unfold Feed.goesOn
  rw [hreply]
  exact if_pos hlength

theorem goesOn_same {session : Session}
    (hlength : session.tasks.length = feed.session.tasks.length) :
    feed.goesOn session = { feed with session } := by
  unfold Feed.goesOn
  split
  · exact if_neg (Nat.not_lt_of_le (Nat.le_of_eq hlength))
  · rfl

/-- What the loop is about to start is a subscription that the actor has returned. -/
theorem replied_eq_some {start : SubscriptionStart} (h : feed.replied = some start) :
    ∃ id reader, feed.reply = some id ∧ feed.world.readers id = some reader ∧
      reader.start = start := by
  unfold Feed.replied at h
  obtain ⟨reader, hreader, rfl⟩ := Option.map_eq_some_iff.mp h
  obtain ⟨id, hid, hread⟩ := Option.bind_eq_some_iff.mp hreader
  exact ⟨id, reader, hid, hread, rfl⟩

/-! ### Case by case -/

namespace Sound

theorem agentId_replied (h : Sound initial feed) {snapshot : AgentSnapshot}
    (hreplied : feed.replied = some (.resyncRequired snapshot)) :
    snapshot.agentId = initial.agentId := by
  obtain ⟨id, reader, -, hread, hstart⟩ := replied_eq_some hreplied
  obtain ⟨current, reached, hagent, -, hcurrent⟩ := h.leads.received h.world hread
  rw [hstart] at hcurrent
  exact (congrArg AgentSnapshot.agentId hcurrent).trans hagent

/-- The task that holds a subscription is one for the agent. -/
theorem task_of_hand (h : Sound initial feed) {task : Nat}
    {result : Except SubscriptionError AgentUpdate} (hhand : feed.inHand task = some result) :
    ∃ id spawned, feed.held task = some id ∧ feed.session.tasks[task]? = some spawned ∧
      spawned.agentId = initial.agentId := by
  have hsome := h.hand task (Option.isSome_iff_exists.mpr ⟨result, hhand⟩)
  obtain ⟨id, hid⟩ := Option.isSome_iff_exists.mp hsome
  have howner := (h.held task id hid).1
  rw [owners, List.getElem?_map] at howner
  obtain ⟨spawned, hspawned, hagent⟩ := Option.map_eq_some_iff.mp howner
  exact ⟨id, spawned, hid, hspawned, hagent⟩

theorem worldStep (h : Sound initial feed) (turned : WorldInput) :
    Moves initial feed input (feed.worldStep turned) := by
  unfold Feed.worldStep
  split
  · rename_i id hid
    split
    · rename_i hleaves
      refine .world turned fun other hother => ?_
      cases hid.symm.trans hother
      exact hleaves
    · exact .stays h
  · rename_i hnone
    exact .world turned fun id hid => by cases hnone.symm.trans hid

theorem subscribe (h : Sound initial feed) :
    Moves initial feed input (feed.subscribe initial.agentId) := by
  unfold Feed.subscribe
  split
  · rename_i hreply
    split
    · rename_i hguard
      exact .subscribe _ hreply (Bool.and_eq_true_iff.mp hguard).2
    · exact .stays h
  · exact .stays h

/-- The loop starts what the actor has returned. -/
theorem starts {session : Session} {outbound : Ompd.Outbound} {start : SubscriptionStart}
    (hreplied : feed.replied = some start) (hstart : feed.starting input = some start)
    (hstate : outbound.lane .state = feed.session.outbound.lane .state)
    (hemitted : session.outbound = Ompd.emitStart outbound start)
    (hlines : Lines initial.agentId session)
    (htasks : TasksGo [initial.agentId] feed.session.tasks session.tasks)
    (hloop : session.loop = .receiving) : Moves initial feed input (feed.goesOn session) := by
  obtain ⟨id, reader, hreply, hread, rfl⟩ := replied_eq_some hreplied
  rw [goesOn_spawned hreply]
  · exact .start hreply hread hstart hstate hemitted hlines htasks hloop
  · rw [htasks.length]
    exact Nat.lt_succ_self _

theorem subscribed (h : Sound initial feed) (polled : Bool) :
    Moves initial feed (.subscribed polled) (feed.subscribed initial.agentId polled) := by
  unfold Feed.subscribed
  split
  · rename_i request start hloop hreplied
    split
    · rename_i hagent
      have habort : TasksGo [] feed.session.tasks (feed.session.abort initial.agentId).tasks :=
        .abort feed.session initial.agentId
      have hlines : Lines initial.agentId (feed.session.abort initial.agentId) :=
        h.lines.abort initial.agentId
      have hlanes := (feed.session.outbound_abort initial.agentId).1
      unfold Session.subscribed
      rw [hagent]
      cases start with
      | resyncRequired snapshot =>
        have hwaiting : Lines initial.agentId { feed.session.abort initial.agentId with
            loop := .starting initial.agentId snapshot } :=
          hlines.setLoop (h.agentId_replied hreplied)
        have hkept : TasksGo [] feed.session.tasks (feed.keepPolled initial.agentId polled
            { feed.session.abort initial.agentId with
              loop := .starting initial.agentId snapshot }).tasks := keepPolled_tasks habort
        rw [goesOn_same hkept.length]
        refine .session (keepPolled_lines h.lines hwaiting habort) List.not_mem_nil hkept ?_
          (.inl ?_)
        · rw [keepPolled_loop]
          rintro _ ⟨⟩
          exact hreplied
        · rw [keepPolled_outbound]
          show QuietLanes _ _ (feed.session.abort initial.agentId).outbound
          rw [hlanes]
          exact .refl _
      | snapshot | replay =>
        have hspawned (start : SubscriptionStart) := habort.trans
          (.spawn (feed.session.abort initial.agentId) initial.agentId start)
        refine starts hreplied (by rw [Feed.starting, hreplied]) rfl ?_
          (keepPolled_lines h.lines (hlines.spawn initial.agentId _) (hspawned _))
          (keepPolled_tasks (hspawned _)) ?_
        · rw [keepPolled_outbound, ← hlanes]
          rfl
        · rw [keepPolled_loop]
          rfl
    · exact .stays h
  · exact .stays h

theorem started (h : Sound initial feed) :
    Moves initial feed .started (feed.started initial.agentId) := by
  unfold Feed.started
  split
  · rename_i other snapshot hloop
    split
    · rename_i hagent
      subst hagent
      have hreplied := h.starting snapshot hloop
      have htasks (session : Session) : TasksGo [initial.agentId] session.tasks
          (session.spawn initial.agentId (.resyncRequired snapshot)).tasks := .spawn session _ _
      unfold Session.resume
      rw [hloop]
      dsimp only
      split
      · rename_i outbound hsent
        exact starts hreplied hreplied (send_other hsent (by decide)) rfl
          ((h.lines.outbound outbound).spawn _ _) (htasks feed.session) rfl
      · exact starts hreplied hreplied rfl rfl (h.lines.spawn _ _) (htasks feed.session) rfl
      · rw [goesOn_same rfl]
        exact .stays h
    · exact .stays h
  · exact .stays h

theorem recv (h : Sound initial feed) (task : Nat) :
    Moves initial feed input (feed.recv initial.agentId task) := by
  unfold Feed.recv
  split
  · rename_i id hheld hempty
    split
    · rename_i reader hread
      split
      · have hpolls : (if reader.checked then WorldInput.poll id else .recv id) = .recv id ∨
            (if reader.checked then WorldInput.poll id else .recv id) = .poll id := by
          split
          · exact .inr rfl
          · exact .inl rfl
        have hmoves : Moves initial feed input _ := .recv _ hheld hempty hpolls
        dsimp only
        split
        · rename_i result hresult
          rwa [hresult] at hmoves
        · rename_i hnone
          rw [hnone, ← hempty, Function.update_eq_self] at hmoves
          split
          · exact .of_calm h (.ended h.lines task)
          · exact hmoves
      · exact .stays h
    · exact .stays h
  · exact .stays h

theorem forward (h : Sound initial feed) (config : ServerSessionConfig) (task : Nat) :
    Moves initial feed (.forward task) (feed.forward config task) := by
  unfold Feed.forward
  split
  · rename_i result hhand
    obtain ⟨id, spawned, hheld, hspawned, -⟩ := h.task_of_hand hhand
    have hforward : feed.session.step config (resultInput task result) =
        feed.session.forward task spawned.forwarding (resultInput task result) := by
      have htask : feed.session.step config (resultInput task result) =
          feed.session.forwardTask task (resultInput task result) := by
        cases result with
        | ok update => rfl
        | error error => cases error <;> rfl
      rw [htask, Session.forwardTask, hspawned]
    rw [hforward]
    exact .forward rfl hheld hhand (passes feed.session hspawned result)
  · exact .stays h

theorem snapshot (h : Sound initial feed) (config : ServerSessionConfig) (task : Nat) :
    Moves initial feed input (feed.snapshot config initial.agentId task) := by
  unfold Feed.snapshot
  split
  · rename_i spawned hspawned
    split
    · rename_i hagent
      refine .of_calm h ?_
      show Calm initial.agentId feed.session (feed.session.forwardTask task _)
      unfold Session.forwardTask
      rw [hspawned]
      refine .forward h.lines hspawned ?_
      split
      · exact fun hother => absurd hagent hother
      · trivial
    · exact .stays h
  · exact .stays h

theorem cancelled (h : Sound initial feed) (task : Nat) :
    Moves initial feed input (feed.cancelled initial.agentId task) := by
  unfold Feed.cancelled
  split
  · exact .of_calm h (.ended h.lines task)
  · exact .stays h

/-- The connection goes on; a task of the agent may find room for its gap. -/
theorem session (h : Sound initial feed) (config : ServerSessionConfig) {input : SessionInput}
    (hguard : feed.elsewhere initial.agentId input = true) :
    Moves initial feed (.session input)
      { feed with session := feed.session.step config input } := by
  by_cases hgap : ∀ task spawned, input = .resumeTask task →
      feed.session.tasks[task]? = some spawned → spawned.agentId ≠ initial.agentId
  · exact .of_calm h (calm_elsewhere h.lines hguard hgap)
  push Not at hgap
  obtain ⟨task, spawned, rfl, hspawned, hagent⟩ := hgap
  have howner : (owners feed.session.tasks)[task]? = some initial.agentId := by
    rw [owners, List.getElem?_map, hspawned, ← hagent]
    rfl
  have hspeaks {session : Session}
      (hstate : session.outbound.lane .state = feed.session.outbound.lane .state) :
      Speaks initial.agentId feed (.session (.resumeTask task)) session :=
    ⟨⟨task, rfl, howner⟩, rfl, hstate⟩
  have hended (outbound : Ompd.Outbound)
      (hstate : outbound.lane .state = feed.session.outbound.lane .state) :
      Moves initial feed (.session (.resumeTask task))
        { feed with session := { feed.session with outbound }.setTask task .ended } := by
    obtain ⟨hlines, ⟨more, hmore, htasks⟩, -, -⟩ :=
      Calm.ended (h.lines.outbound outbound) task
    exact .session hlines hmore htasks h.starting (.inr (hspeaks hstate))
  show Moves initial feed _ { feed with
    session := feed.session.forwardTask task (.resumeTask task) }
  unfold Session.forwardTask
  rw [hspawned]
  dsimp only
  unfold Session.forward
  dsimp only
  split
  · split
    · rename_i outbound hsent
      exact hended outbound (send_other hsent (by decide))
    · exact hended feed.session.outbound rfl
    · exact .stays h
  · exact .stays h

theorem receive (h : Sound initial feed) (frame : ClientFrame) (polled : Bool) :
    Moves initial feed input (feed.receive initial.agentId frame polled) := by
  unfold Feed.receive
  split
  · rename_i device _ _
    have hlines : Lines initial.agentId
        { feed.session with received := feed.session.received ++ [frame] } :=
      ⟨h.lines.loop, h.lines.gaps⟩
    have hcalm := Calm.handleClientFrame hlines device frame
    exact .of_calm h (.keepPolled h.lines ⟨hcalm.lines, hcalm.tasks, hcalm.lanes, hcalm.loop⟩)
  · exact .stays h

theorem message (h : Sound initial feed) (config : ServerSessionConfig) (message : Message) :
    Moves initial feed input (feed.message config message) := by
  unfold Feed.message
  split
  · rename_i hdecode
    exact .of_calm h (.receive config h.lines _ hdecode)
  · exact .stays h

theorem answer (h : Sound initial feed) (outcome : ResponseOutcome) :
    Moves initial feed input (feed.answer outcome) := by
  unfold Feed.answer
  split
  · exact .of_calm h (.setLoop h.lines (quiet_response _) fun _ hloop => by cases hloop)
  · exact .stays h

/-- Whatever the input is, a step is one of these. -/
theorem moves (h : Sound initial feed) (config : ServerSessionConfig) (input : FeedInput) :
    Moves initial feed input (feed.step config initial.agentId input) := by
  cases input with
  | world turned => exact h.worldStep turned
  | subscribe => exact h.subscribe
  | subscribed polled => exact h.subscribed polled
  | started => exact h.started
  | recv task => exact h.recv task
  | forward task => exact h.forward config task
  | snapshot task => exact h.snapshot config task
  | cancelled task => exact h.cancelled task
  | session input =>
    unfold Feed.step
    dsimp only
    split
    · rename_i hguard
      exact h.session config hguard
    · exact .stays h
  | receive frame polled => exact h.receive frame polled
  | message message => exact h.message config message
  | answer outcome => exact h.answer outcome

end Sound

/-! ### Everything still fits together -/

/-- A task that goes on with a result starts nothing and says nothing of another agent. -/
theorem Passes.calm {session session' : Session} {task : Nat}
    {result : Except SubscriptionError AgentUpdate} (h : Passes session task result session')
    (hlines : Lines agentId session) :
    Lines agentId session' ∧ TasksGo [] session.tasks session'.tasks ∧
      session'.loop = session.loop := by
  cases h with
  | sent => exact ⟨hlines.outbound _, .refl _, rfl⟩
  | stops hforwarding =>
    refine ⟨hlines.setTask task fun _ frame _ hframe => ?_, .setTask session task
      fun _ _ hupdate => ?_, rfl⟩
    · rcases hforwarding with rfl | rfl <;> cases hframe
    · rcases hforwarding with rfl | rfl <;> cases hupdate
  | late => exact ⟨hlines, .refl _, rfl⟩

namespace Sound

/-- A task keeps its place, and its agent. -/
theorem owner_append {tasks tasks' : List SubscriptionTask} {more : List AgentId} {task : Nat}
    (htask : (owners tasks)[task]? = some agentId) (htasks : TasksGo more tasks tasks') :
    (owners tasks')[task]? = some agentId := by
  rw [htasks.spawns, List.getElem?_append_left (List.getElem?_eq_some_iff.mp htask).1]
  exact htask

/-- A task that has been spawned. -/
theorem owner_new {tasks tasks' : List SubscriptionTask} (htasks : TasksGo [agentId] tasks tasks') :
    (owners tasks')[tasks.length]? = some agentId := by
  rw [htasks.spawns, ← owners_length]
  exact List.getElem?_concat_length

/-- The start that the loop waits to put in does not change meanwhile. -/
theorem replied_step (h : Sound initial feed) {start : SubscriptionStart}
    (hreplied : feed.replied = some start) (turned : WorldInput) :
    ({ feed with world := feed.world.step turned } : Feed).replied = some start := by
  obtain ⟨id, reader, hreply, hread, rfl⟩ := replied_eq_some hreplied
  obtain ⟨later, hlater, hextends, -⟩ := World.step_reader h.world hread turned
  unfold Feed.replied
  dsimp only
  rw [hreply, Option.bind_some, hlater, Option.map_some, hextends.start]

/-- The actor goes on, or a subscription that the loop is not about to use. -/
theorem worldSteps (h : Sound initial feed) (turned : WorldInput)
    (hreply : ∀ id, feed.reply = some id → turned.subscriber ≠ some id) :
    Sound initial { feed with world := feed.world.step turned } where
  world := h.world.step turned
  leads := h.leads.step h.world turned
  lines := h.lines
  starting snapshot hloop := h.replied_step (h.starting snapshot hloop) turned
  reply id hid := by
    obtain ⟨hfree, reader, hread, hfresh⟩ := h.reply id hid
    obtain ⟨later, hlater, -, hsame⟩ := World.step_reader h.world hread turned
    obtain rfl := hsame (hreply id hid)
    exact ⟨hfree, later, hlater, hfresh⟩
  held task id hheld :=
    ⟨(h.held task id hheld).1, World.isSome_step (h.held task id hheld).2 turned⟩
  distinct := h.distinct
  hand := h.hand

/-- The connection goes on, and leaves the subscriptions alone. -/
theorem sessionSteps (h : Sound initial feed) {session : Session} {more : List AgentId}
    (hlines : Lines initial.agentId session)
    (htasks : TasksGo more feed.session.tasks session.tasks)
    (hstarting : ∀ snapshot, session.loop = .starting initial.agentId snapshot →
      feed.replied = some (.resyncRequired snapshot)) :
    Sound initial { feed with session } where
  world := h.world
  leads := h.leads
  lines := hlines
  starting := hstarting
  reply := h.reply
  held task id hheld := ⟨owner_append (h.held task id hheld).1 htasks, (h.held task id hheld).2⟩
  distinct := h.distinct
  hand := h.hand

/-- What the tasks have in hand changes; only who holds a subscription has something. -/
theorem hands (h : Sound initial feed) {task : Nat} (hheld : (feed.held task).isSome)
    (result : Option (Except SubscriptionError AgentUpdate)) :
    Sound initial { feed with inHand := Function.update feed.inHand task result } where
  world := h.world
  leads := h.leads
  lines := h.lines
  starting := h.starting
  reply := h.reply
  held := h.held
  distinct := h.distinct
  hand other hother := by
    by_cases hsame : other = task
    · rwa [hsame]
    · exact h.hand other (by simpa [Function.update_of_ne hsame] using hother)

/-- A task is spawned that holds what the actor has returned. -/
theorem handed (h : Sound initial feed) {id : SubscriptionId} (hreply : feed.reply = some id)
    {session : Session} (hlines : Lines initial.agentId session)
    (htasks : TasksGo [initial.agentId] feed.session.tasks session.tasks)
    (hloop : session.loop = .receiving) :
    Sound initial { feed with
      session
      reply := none
      held := Function.update feed.held feed.session.tasks.length (some id) } := by
  obtain ⟨hfree, reader, hread, -⟩ := h.reply id hreply
  have hholds {task : Nat} {other : SubscriptionId}
      (hheld : Function.update feed.held feed.session.tasks.length (some id) task = some other) :
      task = feed.session.tasks.length ∧ other = id ∨
        task ≠ feed.session.tasks.length ∧ feed.held task = some other := by
    by_cases htask : task = feed.session.tasks.length
    · subst htask
      rw [Function.update_self] at hheld
      exact .inl ⟨rfl, (Option.some.inj hheld).symm⟩
    · rw [Function.update_of_ne htask] at hheld
      exact .inr ⟨htask, hheld⟩
  refine ⟨h.world, h.leads, hlines, fun snapshot hstarting => ?_, (fun _ hnone => by cases hnone),
    fun task other hheld => ?_, fun task task' other hheld hheld' => ?_, fun task hhand => ?_⟩
  · cases hloop.symm.trans hstarting
  · rcases hholds hheld with ⟨rfl, rfl⟩ | ⟨-, hold⟩
    · exact ⟨owner_new htasks, Option.isSome_iff_exists.mpr ⟨reader, hread⟩⟩
    · exact ⟨owner_append (h.held task other hold).1 htasks, (h.held task other hold).2⟩
  · rcases hholds hheld with ⟨rfl, rfl⟩ | ⟨-, hold⟩ <;>
      rcases hholds hheld' with ⟨rfl, hid⟩ | ⟨-, hold'⟩
    · rfl
    · exact absurd hold' (hfree task')
    · subst hid
      exact absurd hold (hfree task)
    · exact h.distinct task task' other hold hold'
  · show (Function.update feed.held feed.session.tasks.length (some id) task).isSome
    by_cases htask : task = feed.session.tasks.length
    · rw [htask, Function.update_self]
      rfl
    · rw [Function.update_of_ne htask]
      exact h.hand task hhand

/-- **The step lemma.** -/
theorem step (h : Sound initial feed) (hmoves : Moves initial feed input feed') :
    Sound initial feed' := by
  cases hmoves with
  | session lines _ tasks starting _ => exact h.sessionSteps lines tasks starting
  | world turned leaves =>
    refine h.worldSteps turned fun id hreply hsubscriber => ?_
    have hleaves := leaves id hsubscriber
    unfold Feed.leaves at hleaves
    simp [hreply] at hleaves
  | subscribe cursor reply running =>
    have hsteps := h.worldSteps (.actor (.command (.subscribe cursor))) fun _ _ => nofun
    refine ⟨hsteps.world, hsteps.leads, hsteps.lines, fun snapshot hloop => ?_, ?_, hsteps.held,
      h.distinct, h.hand⟩
    · obtain ⟨id, -, hid, -⟩ := replied_eq_some (h.starting snapshot hloop)
      cases reply.symm.trans hid
    · rintro _ ⟨⟩
      refine ⟨fun task hheld => ?_, _, World.step_subscribe running cursor, rfl⟩
      have hsome := (h.held task _ hheld).2
      rw [h.world.allocated _ (Nat.le_refl _)] at hsome
      cases hsome
  | start reply _ _ _ _ lines tasks loop => exact h.handed reply lines tasks loop
  | @recv task id turned held empty polls =>
    have hreply (other : SubscriptionId) (hother : feed.reply = some other) :
        turned.subscriber ≠ some other := by
      have hfree := (h.reply other hother).1 task
      rw [held] at hfree
      rcases polls with rfl | rfl
      · exact hfree
      · exact hfree
    exact (h.worldSteps turned hreply).hands (Option.isSome_iff_exists.mpr ⟨id, held⟩) _
  | @forward task id result session takes held hand passes =>
    obtain ⟨hlines, htasks, hloop⟩ := passes.calm h.lines
    have hsteps := h.sessionSteps hlines htasks fun snapshot hstarting =>
      h.starting snapshot (hloop ▸ hstarting)
    exact hsteps.hands (Option.isSome_iff_exists.mpr ⟨id, held⟩) none

end Sound

/-! ## The stream of one subscription -/

/-- What frames say of the agent. -/
def notices (agentId : AgentId) (frames : List ServerFrame) : List Notice :=
  frames.filterMap (notice agentId)

/-- The update that a task has in hand. -/
def Feed.hand (feed : Feed) (task : Nat) : List AgentUpdate :=
  ((feed.inHand task).bind Except.toOption).toList

/-- What the state lane has been given since the start of the subscription, which was
`reader` then: the start, and the updates that the task has taken since. Until the task
stops, that is all that the subscription has returned. -/
def Streams (agentId : AgentId) (task : Nat) (id : SubscriptionId) (reader : Reader) (feed : Feed)
    (stream : List ServerFrame) : Prop :=
  ∃ later updates, feed.world.readers id = some later ∧ reader.Extends later ∧
    notices agentId stream =
      notices agentId (Ompd.startFrames reader.start) ++ updates.map .update ∧
    updates <+: later.updates ∧
    (feed.awaits task = true → updates ++ feed.hand task = later.updates)

/-- The last task of the agent follows its subscription. -/
structure Following (agentId : AgentId) (task : Nat) (id : SubscriptionId) (reader : Reader)
    (feed : Feed) (stream : List ServerFrame) : Prop where
  last : Last agentId (owners feed.session.tasks) task
  held : feed.held task = some id
  streams : (feed.session.outbound.lane .state).receiverOpen = false ∧ stream = [] ∨
    Streams agentId task id reader feed stream

variable {task : Nat} {id : SubscriptionId} {reader later : Reader} {stream : List ServerFrame}

theorem notices_append (frames frames' : List ServerFrame) :
    notices agentId (frames ++ frames') = notices agentId frames ++ notices agentId frames' :=
  List.filterMap_append

theorem notices_eq_nil {frames : List ServerFrame}
    (h : ∀ frame ∈ frames, notice agentId frame = none) : notices agentId frames = [] :=
  List.filterMap_eq_nil_iff.mpr h

/-- A frame that gets in is the last one in its lane. -/
theorem state_sent {outbound outbound' : Ompd.Outbound} {frame : ServerFrame}
    (h : outbound.state frame = (true, outbound')) :
    (outbound.lane .state).receiverOpen = true ∧
      added (outbound.lane .state).buffer (outbound'.lane .state).buffer = [.protocol frame] := by
  unfold Ompd.Outbound.state Ompd.Outbound.send at h
  split at h
  · rename_i hsend
    cases h
    split at hsend
    · rename_i channel hchannel
      cases hsend
      obtain ⟨hopen, -, rfl⟩ := Mpsc.trySend_sent hchannel
      rw [Ompd.Outbound.setLane_lane, Function.update_self, added_append]
      exact ⟨hopen, rfl⟩
    · cases hsend
    · cases hsend
  · cases h
  · cases h

/-- What a step has given to the state lane. -/
def given (feed feed' : Feed) : List ServerFrame :=
  frames (added (feed.session.outbound.lane .state).buffer
    (feed'.session.outbound.lane .state).buffer)

theorem given_of_same (h : feed'.session.outbound.lane .state = feed.session.outbound.lane .state) :
    given feed feed' = [] := by
  rw [given, h, added_self]
  rfl

/-- Where nobody takes frames out, none gets in. -/
theorem Moves.closed (hmoves : Moves initial feed input feed')
    (hno : (owners feed'.session.tasks)[feed.session.tasks.length]? ≠ some initial.agentId)
    (hclosed : (feed.session.outbound.lane .state).receiverOpen = false) :
    (feed'.session.outbound.lane .state).receiverOpen = false ∧ given feed feed' = [] := by
  cases hmoves with
  | session lines others tasks starting lanes =>
    rcases lanes with hquiet | hspeaks
    · obtain ⟨hafter, hnone⟩ := hquiet.closed hclosed
      exact ⟨hafter, congrArg frames hnone⟩
    · refine ⟨?_, given_of_same hspeaks.state⟩
      dsimp only
      rwa [hspeaks.state]
  | world | subscribe | recv => exact ⟨hclosed, given_of_same rfl⟩
  | start _ _ _ _ _ _ tasks _ => exact absurd (Sound.owner_new tasks) hno
  | forward takes held hand passes =>
    cases passes with
    | sent _ _ hsent =>
      rw [(state_sent hsent).1] at hclosed
      cases hclosed
    | stops | late => exact ⟨hclosed, given_of_same rfl⟩

theorem awaits_of_tasks {more : List AgentId}
    (htask : (owners feed.session.tasks)[task]? = some agentId)
    (htasks : TasksGo more feed.session.tasks feed'.session.tasks)
    (h : feed'.awaits task = true) : feed.awaits task = true := by
  rw [owners, List.getElem?_map] at htask
  obtain ⟨spawned, hspawned, -⟩ := Option.map_eq_some_iff.mp htask
  unfold Feed.awaits at h ⊢
  split at h
  · rename_i spawned' hspawned'
    rw [hspawned]
    exact decide_eq_true (htasks.updates task spawned spawned' hspawned hspawned'
      (of_decide_eq_true h))
  · cases h

theorem hand_update_of_ne {other : Nat} (hother : task ≠ other)
    (result : Option (Except SubscriptionError AgentUpdate)) :
    ({ feed with inHand := Function.update feed.inHand other result } : Feed).hand task =
      feed.hand task := by
  unfold Feed.hand
  dsimp only
  rw [Function.update_of_ne hother]

namespace Streams

/-- Nothing is put in for the agent, and the task does not begin to wait. -/
theorem silent (h : Streams agentId task id reader feed stream) {frames : List ServerFrame}
    (hsilent : notices agentId frames = []) (hworld : feed'.world = feed.world)
    (hhand : feed'.hand task = feed.hand task)
    (hawaits : feed'.awaits task = true → feed.awaits task = true) :
    Streams agentId task id reader feed' (stream ++ frames) := by
  obtain ⟨later, updates, hread, hextends, hnotices, hprefix, hall⟩ := h
  refine ⟨later, updates, by rwa [hworld], hextends, ?_, hprefix, fun hwaits => ?_⟩
  · rw [notices_append, hsilent, List.append_nil, hnotices]
  · rw [hhand]
    exact hall (hawaits hwaits)

/-- A step that leaves the lane alone gives nothing to it. -/
theorem unchanged (h : Streams agentId task id reader feed' stream)
    (hlane : feed'.session.outbound.lane .state = feed.session.outbound.lane .state) :
    Streams agentId task id reader feed' (stream ++ given feed feed') := by
  rwa [given_of_same hlane, List.append_nil]

/-- The actor goes on, or another subscription. -/
theorem worldSteps (h : Streams agentId task id reader feed stream)
    (hw : World.Invariant initial feed.world) (turned : WorldInput)
    (hleaves : turned.subscriber = some id → feed.awaits task = false) :
    Streams agentId task id reader { feed with world := feed.world.step turned } stream := by
  obtain ⟨later, updates, hread, hextends, hnotices, hprefix, hall⟩ := h
  obtain ⟨next, hnext, hgoes, hsame⟩ := World.step_reader hw hread turned
  refine ⟨next, updates, hnext, hextends.trans hgoes, hnotices, hprefix.trans hgoes.updates,
    fun hwaits => ?_⟩
  obtain rfl := hsame fun hsubscriber => by
    cases (hleaves hsubscriber).symm.trans hwaits
  exact hall hwaits

/-- The task is polled: what `recv` returns it has in hand. -/
theorem polled (h : Streams agentId task id reader feed stream)
    (hw : World.Invariant initial feed.world) (hempty : feed.inHand task = none)
    {turned : WorldInput} (hpolls : turned = .recv id ∨ turned = .poll id) :
    Streams agentId task id reader { feed with
      world := feed.world.step turned
      inHand := Function.update feed.inHand task
        (returned feed.world (feed.world.step turned) id) } stream := by
  obtain ⟨later, updates, hread, hextends, hnotices, hprefix, hall⟩ := h
  obtain ⟨next, hnext, hgoes, -⟩ := World.step_reader hw hread turned
  obtain ⟨result, hresult⟩ := World.step_received hread hpolls hnext
  have hreturned : returned feed.world (feed.world.step turned) id = result := by
    unfold returned
    rw [hread, hnext]
    dsimp only
    rw [hresult, List.getElem?_append_right (Nat.le_refl _), Nat.sub_self]
    cases result <;> rfl
  have hnone : feed.hand task = [] := by
    rw [Feed.hand, hempty]
    rfl
  refine ⟨next, updates, hnext, hextends.trans hgoes, hnotices, hprefix.trans hgoes.updates,
    fun hwaits => ?_⟩
  have hbefore := hall hwaits
  rw [hnone, List.append_nil] at hbefore
  rw [Reader.updates_append hresult, ← hbefore, Feed.hand]
  dsimp only
  rw [Function.update_self, hreturned]
  cases result with
  | none => rfl
  | some result => cases result <;> rfl

/-- The task goes on with what it has in hand. -/
theorem forwarded (h : Streams agentId task id reader feed stream)
    {result : Except SubscriptionError AgentUpdate} (hresult : feed.inHand task = some result)
    {session : Session} (hpasses : Passes feed.session task result session)
    (hagent : ∀ later, feed.world.readers id = some later →
      ∀ update ∈ later.updates, update.agentId = agentId) :
    Streams agentId task id reader
      { feed with session, inHand := Function.update feed.inHand task none }
      (stream ++ given feed
        { feed with session, inHand := Function.update feed.inHand task none }) := by
  obtain ⟨later, updates, hread, hextends, hnotices, hprefix, hall⟩ := h
  -- the task awaits nothing more
  have hstops {after : Session} (hlane : after.outbound = feed.session.outbound)
      (hawaits : ∀ spawned, after.tasks[task]? = some spawned → spawned.forwarding ≠ .update) :
      Streams agentId task id reader
        { feed with session := after, inHand := Function.update feed.inHand task none }
        (stream ++ given feed
          { feed with session := after, inHand := Function.update feed.inHand task none }) := by
    refine ⟨later, updates, hread, hextends, ?_, hprefix, fun hwaits => ?_⟩
    · rw [given_of_same (by rw [hlane]), List.append_nil]
      exact hnotices
    · unfold Feed.awaits at hwaits
      split at hwaits
      · rename_i spawned hspawned
        exact absurd (of_decide_eq_true hwaits) (hawaits spawned hspawned)
      · cases hwaits
  cases hpasses with
  | @sent update outbound spawned hspawned hupdate hsent =>
    have hwaits : feed.awaits task = true := by
      unfold Feed.awaits
      rw [hspawned]
      exact decide_eq_true hupdate
    have hnext : updates ++ [update] = later.updates := by
      rw [← hall hwaits, Feed.hand, hresult]
      rfl
    have hmem : update ∈ later.updates := by
      rw [← hnext]
      exact List.mem_append_right _ (List.mem_singleton_self update)
    have hgiven : given feed
        { feed with
          session := { feed.session with outbound }
          inHand := Function.update feed.inHand task none } = [Ompd.updateFrame update] :=
      congrArg frames (state_sent hsent).2
    refine ⟨later, updates ++ [update], hread, hextends, ?_, ?_, fun _ => ?_⟩
    · rw [hgiven, notices_append, hnotices, List.append_assoc, List.map_append]
      congr 2
      rw [notices, List.filterMap_cons, notice_updateFrame,
        if_pos (hagent later hread update hmem)]
      rfl
    · rw [hnext]
    · rw [hnext, Feed.hand]
      dsimp only
      rw [Function.update_self]
      exact List.append_nil _
  | stops hforwarding =>
    refine hstops rfl fun spawned hspawned hupdate => ?_
    rw [Session.getElem?_setTask_self] at hspawned
    obtain ⟨old, -, rfl⟩ := Option.map_eq_some_iff.mp hspawned
    rcases hforwarding with rfl | rfl <;> cases hupdate
  | late hspawned hno =>
    refine hstops rfl fun other hother => ?_
    cases hspawned.symm.trans hother
    exact hno

end Streams

/-- A subscription to the agent returns updates of the agent. -/
theorem Sound.agentId_updates (h : Sound initial feed) {later : Reader}
    (hread : feed.world.readers id = some later) :
    ∀ update ∈ later.updates, update.agentId = initial.agentId := by
  obtain ⟨current, reached, hagent, hexec, -⟩ := h.leads.received h.world hread
  intro update hupdate
  rw [(exec_agentId hexec).2 update hupdate]
  exact hagent

/-- **The step lemma of a stream.** -/
theorem Following.step (h : Following initial.agentId task id reader feed stream)
    (hsound : Sound initial feed) (hmoves : Moves initial feed input feed')
    (hwaits : Waits initial.agentId feed input)
    (hno : (owners feed'.session.tasks)[feed.session.tasks.length]? ≠ some initial.agentId) :
    Following initial.agentId task id reader feed' (stream ++ given feed feed') := by
  -- a lane that is closed gives nothing more
  have hclosed (hnow : (feed.session.outbound.lane .state).receiverOpen = false ∧ stream = []) :
      (feed'.session.outbound.lane .state).receiverOpen = false ∧
        stream ++ given feed feed' = [] := by
    obtain ⟨hafter, hnone⟩ := hmoves.closed hno hnow.1
    rw [hnow.2, hnone]
    exact ⟨hafter, rfl⟩
  cases hmoves with
  | session lines others tasks starting lanes =>
    -- the task whose update passes on is the last one of the agent, so it is this one
    have hlast := h.last.append others
    rw [← tasks.spawns] at hlast
    refine ⟨hlast, h.held, h.streams.imp hclosed fun hstreams => ?_⟩
    refine hstreams.silent ?_ rfl rfl (awaits_of_tasks h.last.1 tasks)
    rcases lanes with hquiet | hspeaks
    · exact notices_eq_nil fun frame hframe => hquiet.notice_eq_none hframe
    · rw [given_of_same hspeaks.state]
      rfl
  | world turned leaves =>
    refine ⟨h.last, h.held, h.streams.imp hclosed fun hstreams => ?_⟩
    refine (hstreams.worldSteps hsound.world turned fun hsubscriber => ?_).unchanged rfl
    have hleaves := leaves id hsubscriber
    unfold Feed.leaves at hleaves
    -- nobody else uses a subscription that the task is about to poll
    have hall := List.all_eq_true.mp (Bool.and_eq_true_iff.mp hleaves).2 task
    have hlt := (List.getElem?_eq_some_iff.mp h.last.1).1
    rw [owners, List.length_map] at hlt
    simpa [hlt, h.held] using hall
  | subscribe cursor reply running =>
    refine ⟨h.last, h.held, h.streams.imp hclosed fun hstreams => ?_⟩
    have hsteps := hstreams.worldSteps hsound.world (.actor (.command (.subscribe cursor)))
      (by rintro ⟨⟩)
    exact Streams.unchanged hsteps rfl
  | start _ _ _ _ _ _ tasks _ => exact absurd (Sound.owner_new tasks) hno
  | @recv other otherId turned held empty polls =>
    refine ⟨h.last, h.held, h.streams.imp hclosed fun hstreams => ?_⟩
    by_cases hother : task = other
    · subst hother
      cases h.held.symm.trans held
      exact (hstreams.polled hsound.world empty polls).unchanged rfl
    · -- another task reads through a subscription of its own
      have hne : otherId ≠ id := by
        rintro rfl
        exact hother (hsound.distinct task other otherId h.held held)
      have hsteps := hstreams.worldSteps hsound.world turned fun hsubscriber => by
        rcases polls with rfl | rfl <;> exact absurd (Option.some.inj hsubscriber) hne
      exact hsteps.silent (congrArg (notices initial.agentId) (given_of_same rfl)) rfl
        (hand_update_of_ne hother _) fun hwaits => hwaits
  | @forward other otherId result session takes held hand passes =>
    have htask := (hsound.held other otherId held).1
    have hlast : Last initial.agentId (owners feed.session.tasks) other := by
      subst takes
      exact last_of_waits hwaits rfl rfl htask
    obtain rfl := h.last.unique hlast
    obtain ⟨-, htasks, -⟩ := passes.calm hsound.lines
    cases h.held.symm.trans held
    refine ⟨?_, h.held, h.streams.imp hclosed fun hstreams =>
      hstreams.forwarded hand passes fun later => hsound.agentId_updates⟩
    have happend := h.last.append (List.not_mem_nil : initial.agentId ∉ [])
    rwa [← htasks.spawns] at happend

/-! ## What a client makes of the stream -/

/-- A client is disturbed where a notice makes it ask. -/
theorem undisturbed_iff {state : ReplicatedState} {frames : List ServerFrame} :
    Undisturbed agentId state frames ↔
      ¬ (state.replica agentId).Asks (notices agentId frames) := by
  induction frames generalizing state with
  | nil => exact ⟨fun _ => id, fun _ => trivial⟩
  | cons frame frames ih =>
    have happly := state.apply_notice agentId frame
    rw [Undisturbed, ih]
    show _ ↔ ¬ (state.replica agentId).Asks (List.filterMap (notice agentId) (frame :: frames))
    rw [List.filterMap_cons]
    cases hnotice : notice agentId frame with
    | none =>
      rw [hnotice] at happly
      rw [happly.1]
      exact and_iff_right happly.2
    | some notice =>
      rw [hnotice] at happly
      rw [happly.1, happly.2]
      exact not_or.symm

/-- The replica after the frames is what the notices make of it. -/
theorem replica_frames {state : ReplicatedState} {frames : List ServerFrame} :
    (frames.foldl (fun state frame => (state.apply frame).2) state).replica agentId =
      (state.replica agentId).follow (notices agentId frames) := by
  induction frames generalizing state with
  | nil => rfl
  | cons frame frames ih =>
    have happly := state.apply_notice agentId frame
    rw [List.foldl_cons, ih, notices, notices, List.filterMap_cons]
    cases hnotice : notice agentId frame with
    | none =>
      rw [hnotice] at happly
      rw [happly.1]
    | some notice =>
      rw [hnotice] at happly
      rw [happly.1]
      rfl

/-- Whatever the client held, and whatever has been lost before: with a snapshot and the
updates after it, it gets as far as they lead, or it subscribes to the agent anew. -/
theorem disturbed_or_reaches {state : ReplicatedState} {frames : List ServerFrame}
    {earlier : List Notice} {current : AgentSnapshot} {updates : List AgentUpdate}
    (hnotices : notices agentId frames =
      earlier ++ [.snapshot current] ++ updates.map .update)
    (hnumbered : updates.map (·.eventSequence.toNat) =
      List.range' (current.eventSequence.toNat + 1) updates.length) :
    ¬ Undisturbed agentId state frames ∨
      ∃ reached, current.eventSequence.toNat + updates.length ≤ reached ∧
        ((frames.foldl (fun state frame => (state.apply frame).2) state).replica agentId).At
          reached := by
  rw [undisturbed_iff, replica_frames, hnotices, not_not]
  exact (Replica.Reaches.snapshot (state.replica agentId) earlier current).replay hnumbered

/-- The replica stands at the cursor. -/
def StandsAt (replica : Replica) (cursor : SubscriptionCursor) : Prop :=
  replica.flagged = false ∧ ∃ held, replica.held = some held ∧ cursorOf held = cursor

/-- What follows the cursor is accepted. -/
theorem accept_of_follows {replica : Replica} {cursor after : SubscriptionCursor}
    {update : AgentUpdate} (h : StandsAt replica cursor)
    (hfollows : Follows cursor update after) :
    (replica.note (.update update)).1 = false ∧
      StandsAt (replica.note (.update update)).2 after := by
  obtain ⟨hflag, held, hheld, rfl⟩ := h
  obtain ⟨haccepts, hafter⟩ := hfollows.accepts
  have hadvance : Replica.advance held update = some (held.updated update) := by
    cases update with
    | delta seq delta =>
      have happly : held.applyDelta delta seq = .ok (held.updated (.delta seq delta)) :=
        AgentSnapshot.applyDelta_ok.mpr ⟨haccepts, rfl⟩
      rw [Replica.advance, happly]
      rfl
    | event => rfl
  have haccept : replica.accept update = some (held.updated update) := by
    unfold Replica.accept
    rw [hheld, hflag]
    simp only [Bool.false_eq_true, if_false]
    exact (if_neg (not_not.mpr hfollows.next)).trans hadvance
  rw [Replica.note, haccept]
  exact ⟨rfl, rfl, _, rfl, hafter⟩

/-- Updates that lead on from the cursor do not make the client ask. -/
theorem not_asks_of_exec {replica : Replica} {cursor after : SubscriptionCursor}
    {updates : List AgentUpdate} (h : StandsAt replica cursor)
    (hexec : cursors.Exec cursor updates after) :
    ¬ replica.Asks (updates.map .update) ∧
      StandsAt (replica.follow (updates.map .update)) after := by
  induction hexec generalizing replica with
  | nil => exact ⟨id, h⟩
  | cons hadv _ ih =>
    obtain ⟨hno, hstands⟩ := accept_of_follows h hadv
    obtain ⟨hrest, hlast⟩ := ih hstands
    refine ⟨?_, hlast⟩
    rintro (hasks | hasks)
    · cases hno.symm.trans hasks
    · exact hrest hasks

theorem notices_updates {updates : List AgentUpdate}
    (h : ∀ update ∈ updates, update.agentId = agentId) :
    notices agentId (updates.map Ompd.updateFrame) = updates.map .update := by
  induction updates with
  | nil => rfl
  | cons update updates ih =>
    obtain ⟨hagent, hlater⟩ := List.forall_mem_cons.mp h
    rw [List.map_cons, List.map_cons, ← ih hlater, notices, List.filterMap_cons,
      notice_updateFrame, if_pos hagent]
    rfl

/-- A client that stands where the stream begins is not disturbed by it. -/
theorem Streams.undisturbed (h : Streams initial.agentId task id reader feed stream)
    (hsound : Sound initial feed) {state : ReplicatedState}
    (hstands : Stands initial.agentId state reader) :
    Undisturbed initial.agentId state stream := by
  obtain ⟨later, updates, hread, hextends, hnotices, ⟨rest, hrest⟩, -⟩ := h
  obtain ⟨current, reached, hagent, hexec, hstart⟩ := hsound.leads.received hsound.world hread
  rw [← hrest] at hexec
  obtain ⟨after, hupdates, -⟩ := hexec.split
  have hsnapshot : notices initial.agentId [.snapshot ⟨[current]⟩] = [.snapshot current] := by
    rw [notices, List.filterMap_cons, notice_snapshot, if_pos hagent]
    rfl
  rw [undisturbed_iff, hnotices]
  rw [hextends.start] at hstart
  cases hreader : reader.start with
  | snapshot snapshot | resyncRequired snapshot =>
    rw [hreader] at hstart
    subst hstart
    show ¬ (state.replica initial.agentId).Asks
      (notices initial.agentId [.snapshot ⟨[snapshot]⟩] ++ updates.map .update)
    rw [hsnapshot]
    rintro (hasks | hasks)
    · cases hasks
    · exact (not_asks_of_exec ⟨rfl, snapshot, rfl, rfl⟩ hupdates).1 hasks
  | replay replayed =>
    rw [hreader] at hstart
    obtain ⟨supplied, hsupplied, hreplayed⟩ := hstart
    have hcursor := hstands replayed hreader
    rw [← hextends.cursor, hsupplied, ReplicatedState.cursor] at hcursor
    have hat : StandsAt (state.replica initial.agentId) supplied := by
      split at hcursor
      · cases hcursor
      · rename_i hflag
        obtain ⟨held, hheld, hat⟩ := Option.map_eq_some_iff.mp hcursor
        exact ⟨Bool.eq_false_iff.mpr hflag, held, hheld, hat⟩
    obtain ⟨hsame, hall⟩ := exec_agentId hreplayed
    have hmine : ∀ update ∈ replayed, update.agentId = initial.agentId := by
      intro update hupdate
      rw [hall update hupdate, ← hsame]
      exact hagent
    show ¬ (state.replica initial.agentId).Asks
      (notices initial.agentId (replayed.map Ompd.updateFrame) ++ updates.map .update)
    rw [notices_updates hmine, ← List.map_append]
    exact (not_asks_of_exec hat (hreplayed.append hupdates)).1

/-! ## Starts -/

/-- A frame that finds room gets in. -/
theorem state_room {outbound : Ompd.Outbound}
    (hopen : (outbound.lane .state).receiverOpen = true) {count : Nat}
    (hroom : outbound.Room (count + 1)) (frame : ServerFrame) :
    ∃ outbound', outbound.state frame = (true, outbound') ∧
      outbound'.lane .state = { outbound.lane .state with
        buffer := (outbound.lane .state).buffer ++ [.protocol frame] } := by
  unfold Ompd.Outbound.Room at hroom
  have hfree : (outbound.lane .state).buffer.length < (outbound.lane .state).capacity := by omega
  refine ⟨outbound.setLane .state { outbound.lane .state with
    buffer := (outbound.lane .state).buffer ++ [.protocol frame] }, ?_,
    by rw [Ompd.Outbound.setLane_lane, Function.update_self]⟩
  unfold Ompd.Outbound.state Ompd.Outbound.send Mpsc.trySend
  simp only [hopen, hfree, Bool.not_true, Bool.false_eq_true, if_false, if_true]

/-- With room for all of them, the updates of a replay get in. -/
theorem emitReplay_lane {outbound : Ompd.Outbound} {updates : List AgentUpdate}
    (hopen : (outbound.lane .state).receiverOpen = true) (hroom : outbound.Room updates.length) :
    (Ompd.emitReplay outbound updates).lane .state = { outbound.lane .state with
      buffer := (outbound.lane .state).buffer ++
        (updates.map Ompd.updateFrame).map .protocol } := by
  induction updates generalizing outbound with
  | nil =>
    rw [List.map_nil, List.map_nil, List.append_nil]
    rfl
  | cons update updates ih =>
    obtain ⟨outbound', hsent, hlane⟩ := state_room hopen hroom (Ompd.updateFrame update)
    have hrest : outbound'.Room updates.length := by
      unfold Ompd.Outbound.Room at hroom ⊢
      rw [hlane, List.length_append, List.length_singleton]
      rw [List.length_cons] at hroom
      dsimp only
      omega
    unfold Ompd.emitReplay Ompd.emitUpdate
    rw [hsent]
    dsimp only
    rw [ih (by rw [hlane]; exact hopen) hrest, hlane]
    simp

theorem frames_protocol (sent : List ServerFrame) : frames (sent.map .protocol) = sent := by
  induction sent with
  | nil => rfl
  | cons frame sent ih => exact congrArg (frame :: ·) ih

/-- With room for all of it, a start gets in as a whole. -/
theorem emitStart_room {outbound : Ompd.Outbound} {start : SubscriptionStart}
    (hopen : (outbound.lane .state).receiverOpen = true)
    (hroom : outbound.Room (Ompd.startFrames start).length) :
    frames (added (outbound.lane .state).buffer
      ((Ompd.emitStart outbound start).lane .state).buffer) = Ompd.startFrames start := by
  cases start with
  | snapshot snapshot | resyncRequired snapshot =>
    obtain ⟨outbound', hsent, hlane⟩ := state_room hopen hroom (.snapshot ⟨[snapshot]⟩)
    unfold Ompd.emitStart
    dsimp only
    rw [hsent, hlane, added_append]
    rfl
  | replay updates =>
    rw [Ompd.startFrames, List.length_map] at hroom
    unfold Ompd.emitStart
    dsimp only
    rw [emitReplay_lane hopen hroom, added_append]
    exact frames_protocol (updates.map Ompd.updateFrame)

/-- Where nobody takes frames out, nothing of a start gets in. -/
theorem emitStart_closed {outbound : Ompd.Outbound} {start : SubscriptionStart}
    (hclosed : (outbound.lane .state).receiverOpen = false) :
    (Ompd.emitStart outbound start).lane .state = outbound.lane .state := by
  have happends : Appends (fun _ => True) outbound (Ompd.emitStart outbound start) :=
    .emitStart fun _ _ => trivial
  obtain ⟨more, hmore, -, hnone⟩ := happends .state
  rw [hmore, hnone hclosed, List.append_nil]

/-- The start of a subscription begins its stream. -/
theorem Following.begin (hsound : Sound initial feed) (hmoves : Moves initial feed input feed')
    (hadmits : Admits feed input)
    (hstarts : (owners feed'.session.tasks)[feed.session.tasks.length]? = some initial.agentId) :
    ∃ id reader, feed.reply = some id ∧ feed.world.readers id = some reader ∧
      Following initial.agentId feed.session.tasks.length id reader feed' (given feed feed') := by
  have hnew : (owners feed.session.tasks)[feed.session.tasks.length]? = none := by
    rw [owners, List.getElem?_map, List.getElem?_eq_none (Nat.le_refl _)]
    rfl
  have hsame {session : Session} {more : List AgentId}
      (htasks : TasksGo more feed.session.tasks session.tasks) (hmore : initial.agentId ∉ more) :
      (owners session.tasks)[feed.session.tasks.length]? ≠ some initial.agentId := by
    intro howner
    rw [htasks.spawns, List.getElem?_append_right (by rw [owners, List.length_map])] at howner
    exact hmore (List.mem_of_getElem? howner)
  cases hmoves with
  | session lines others tasks starting lanes => exact absurd hstarts (hsame tasks others)
  | world | subscribe | recv =>
    rw [hnew] at hstarts
    cases hstarts
  | forward takes held hand passes =>
    exact absurd hstarts (hsame (passes.calm hsound.lines).2.1 List.not_mem_nil)
  | @start id reader outbound session reply read start state emitted lines tasks loop =>
    obtain ⟨hfree, found, hfound, hfresh⟩ := hsound.reply id reply
    cases read.symm.trans hfound
    refine ⟨id, reader, reply, read, ?_, Function.update_self .., ?_⟩
    · have hlast : Last initial.agentId (owners feed.session.tasks ++ [initial.agentId])
          (owners feed.session.tasks).length := last_append _
      rwa [← tasks.spawns, owners_length] at hlast
    -- the new task has received nothing yet
    have hempty : feed.inHand feed.session.tasks.length = none := by
      rw [← Option.not_isSome_iff_eq_none]
      intro hhand
      obtain ⟨other, hother⟩ := Option.isSome_iff_exists.mp (hsound.hand _ hhand)
      rw [(hsound.held _ other hother).1] at hnew
      cases hnew
    have hgiven : given feed { feed with
        session
        reply := none
        held := Function.update feed.held feed.session.tasks.length (some id) } =
        frames (added (outbound.lane .state).buffer
          ((Ompd.emitStart outbound reader.start).lane .state).buffer) := by
      unfold given
      dsimp only
      rw [emitted, state]
    by_cases hopen : (feed.session.outbound.lane .state).receiverOpen = true
    · have hroom := hadmits reader.start start hopen
      refine .inr ⟨reader, [], read, .refl reader, ?_, List.nil_prefix, fun _ => ?_⟩
      · unfold Ompd.Outbound.Room at hroom
        rw [← state] at hopen hroom
        rw [hgiven, emitStart_room hopen hroom, List.map_nil, List.append_nil]
      · rw [Feed.hand]
        dsimp only
        rw [hempty, Reader.updates, hfresh]
        rfl
    · rw [← state] at hopen
      have hclosed : (Ompd.emitStart outbound reader.start).lane .state = outbound.lane .state :=
        emitStart_closed (Bool.eq_false_iff.mpr hopen)
      refine .inl ⟨?_, ?_⟩
      · dsimp only
        rw [emitted, hclosed]
        exact Bool.eq_false_iff.mpr hopen
      · rw [hgiven, hclosed, added_self]
        rfl

/-! ## Whole runs -/

theorem starts_eq_some {e : Event} :
    e.starts agentId = some task ↔ e.before.session.tasks.length = task ∧
      (owners e.after.session.tasks)[e.before.session.tasks.length]? = some agentId := by
  unfold Event.starts
  rw [owners, List.getElem?_map]
  cases e.after.session.tasks[e.before.session.tasks.length]? with
  | none => simp
  | some spawned =>
    by_cases hagent : spawned.agentId = agentId
    · simp [hagent]
    · simp [hagent]

/-- What says anything of the agent is put in by its last task. -/
theorem Moves.puts (hmoves : Moves initial feed input feed') (hsound : Sound initial feed)
    (hwaits : Waits initial.agentId feed input)
    (hno : (owners feed'.session.tasks)[feed.session.tasks.length]? ≠ some initial.agentId)
    {lane : Lane} {frame : ServerFrame}
    (hframe : frame ∈ frames (added (feed.session.outbound.lane lane).buffer
      (feed'.session.outbound.lane lane).buffer))
    (hnotice : (notice initial.agentId frame).isSome) :
    ∃ task, input.task = some task ∧ Last initial.agentId (owners feed.session.tasks) task := by
  have hsame (hunchanged : feed'.session.outbound = feed.session.outbound) :
      frame ∈ frames [] := by
    rwa [hunchanged, added_self] at hframe
  cases hmoves with
  | session lines others tasks starting lanes =>
    rcases lanes with hquiet | ⟨⟨task, hinput, howner⟩, hpolls, -⟩
    · rw [hquiet.notice_eq_none hframe] at hnotice
      cases hnotice
    · exact ⟨task, hinput, last_of_waits hwaits hinput hpolls howner⟩
  | world | subscribe | recv => cases hsame rfl
  | start _ _ _ _ _ _ tasks _ => exact absurd (Sound.owner_new tasks) hno
  | @forward task id _ _ takes held _ _ =>
    subst takes
    exact ⟨task, rfl, last_of_waits hwaits rfl rfl (hsound.held task id held).1⟩

/-- The history of a connection with its agent, up to now: what the last subscription has
given is its stream so far. -/
structure Tracks (initial : AgentSnapshot) (history : List Event) (feed : Feed) : Prop where
  sound : Sound initial feed
  streams : ∀ pre (e : Event) post task, history = pre ++ e :: post →
    e.starts initial.agentId = some task → (∀ later ∈ post, later.starts initial.agentId = none) →
      (∀ later ∈ post, ∀ lane, ∀ frame ∈ later.puts lane,
        (notice initial.agentId frame).isSome → later.input.task = some task) ∧
      ∃ id reader, e.before.reply = some id ∧ e.before.world.readers id = some reader ∧
        Following initial.agentId task id reader feed
          ((e :: post).flatMap fun event => event.puts .state)

theorem Tracks.step {config : ServerSessionConfig} {history : List Event}
    (h : Tracks initial history feed) (input : FeedInput)
    (horderly : Orderly initial.agentId feed input) :
    Tracks initial
      (history ++ [Mealy.event (fun feed input => ((), feed.step config initial.agentId input))
        feed input])
      (feed.step config initial.agentId input) := by
  have hmoves := h.sound.moves config input
  refine ⟨h.sound.step hmoves, fun pre e post task hhistory hstarts hnone => ?_⟩
  rcases post.eq_nil_or_concat' with rfl | ⟨post, last, rfl⟩
  · -- the step itself is the start
    have heq := (List.append_inj' hhistory rfl).2
    obtain rfl := (List.cons.inj heq).1
    obtain ⟨rfl, howner⟩ := starts_eq_some.mp hstarts
    obtain ⟨id, reader, hreply, hread, hfollowing⟩ :=
      Following.begin h.sound hmoves horderly.2 howner
    refine ⟨List.forall_mem_nil _, id, reader, hreply, hread, ?_⟩
    rw [List.flatMap_cons, List.flatMap_nil, List.append_nil]
    exact hfollowing
  · rw [← List.cons_append, ← List.append_assoc] at hhistory
    obtain ⟨rfl, heq⟩ := List.append_inj' hhistory rfl
    obtain rfl := (List.cons.inj heq).1
    obtain ⟨hposts, hlast⟩ := List.forall_mem_append.mp hnone
    obtain ⟨hputs, id, reader, hreply, hread, hfollowing⟩ :=
      h.streams pre e post task rfl hstarts hposts
    have hno : (owners (feed.step config initial.agentId input).session.tasks)[
        feed.session.tasks.length]? ≠ some initial.agentId := by
      intro howner
      have hstarted := hlast _ (List.mem_singleton_self _)
      rw [starts_eq_some.mpr ⟨rfl, howner⟩] at hstarted
      cases hstarted
    refine ⟨List.forall_mem_append.mpr ⟨hputs, ?_⟩, id, reader, hreply, hread, ?_⟩
    · intro later hlater lane frame hframe hnotice
      obtain rfl := List.mem_singleton.mp hlater
      obtain ⟨found, hinput, hfound⟩ := hmoves.puts h.sound horderly.1 hno hframe hnotice
      rw [hfollowing.last.unique hfound]
      exact hinput
    · have hnext := hfollowing.step h.sound hmoves horderly.1 hno
      rw [← List.cons_append, List.flatMap_append, List.flatMap_singleton]
      exact hnext

theorem Sound.start (initial : AgentSnapshot) {world : World}
    (hworld : World.Invariant initial world) (hleads : world.Leads initial)
    (config : ServerSessionConfig) (device : DeviceRecord)
    (welcome : ServerWelcome) : Sound initial (.start world config device welcome) where
  world := hworld
  leads := hleads
  lines := ⟨trivial, fun task spawned frame hspawned => by cases hspawned⟩
  starting snapshot hloop := by cases hloop
  reply id hreply := by cases hreply
  held task id hheld := by cases hheld
  distinct task other id hheld := by cases hheld
  hand task hhand := by cases hhand

/-- **Subscribing again**: where no earlier task finds anything more to do, and every start
finds room, nothing of an earlier subscription comes after a start, and what comes is one
contiguous stream. -/
theorem hands_over (initial : AgentSnapshot) (actor : AgentActorConfig)
    (before : List WorldInput) (config : ServerSessionConfig) (device : DeviceRecord)
    (welcome : ServerWelcome) (inputs : List FeedInput)
    (h : Along (fun feed input => feed.step config initial.agentId input)
      (Orderly initial.agentId)
      (.start (world initial actor before) config device welcome) inputs) :
    HandsOver initial.agentId (history config initial.agentId
      (.start (world initial actor before) config device welcome) inputs) := by
  have hsound := Sound.start initial (World.Invariant.world initial actor before)
    (World.Leads.world initial actor before) config device welcome
  have htracks : Tracks initial
      (history config initial.agentId (.start (world initial actor before) config device welcome)
        inputs)
      (Mealy.run (fun feed input => ((), feed.step config initial.agentId input))
        (.start (world initial actor before) config device welcome) inputs) :=
    Mealy.history_invariant_along
      ⟨hsound, fun pre e post task hhistory => by simp at hhistory⟩
      (fun history feed input htracks horderly => htracks.step input horderly) h
  intro pre e post task hhistory hstarts hnone
  obtain ⟨hputs, id, reader, hreply, hread, hfollowing⟩ :=
    htracks.streams pre e post task hhistory hstarts hnone
  refine ⟨hputs, id, reader, hreply, hread, fun state hstands => ?_⟩
  rcases hfollowing.streams with ⟨-, hstream⟩ | hstreams
  · rw [hstream]
    trivial
  · exact hstreams.undisturbed htracks.sound hstands

/-! ### A client subscribes again -/

def phone : DeviceRecord :=
  ⟨⟨"phone"⟩, "phone", .mobile, ⟨true, false, false, false, false, false⟩, 0, some 0, none⟩

def greeting : ServerWelcome :=
  ⟨1, ⟨"server"⟩, ⟨"connection"⟩, ⟨"phone"⟩, ⟨[], 1⟩, 15000, none⟩

def roomyConfig : ServerSessionConfig := ⟨.default, 64, 15000, fun _ => ([], none)⟩

/-- A client of a new agent. -/
def newFeed : Feed :=
  .start (world (.initial ⟨"agent"⟩) .default []) roomyConfig phone greeting

/-- The client subscribes, and the agent becomes idle; the task takes the update from the
queue. -/
def watched : List FeedInput :=
  [.receive (.subscribe ⟨⟨"agent"⟩, none⟩) false, .subscribe, .subscribed false,
    .world (.actor (.command (.change (.lifecycleChanged .idle)))), .recv 0, .recv 0]

/-- The client subscribes again, and the actor replies. -/
def again : List FeedInput := [.receive (.subscribe ⟨⟨"agent"⟩, none⟩) false, .subscribe]

/-- The task goes on before the client subscribes again. -/
theorem hands_over_again : HandsOver ⟨"agent"⟩ (history roomyConfig ⟨"agent"⟩ newFeed
    (watched ++ [FeedInput.forward 0] ++ again ++ [FeedInput.subscribed false,
      .world (.actor (.command (.change (.lifecycleChanged .running)))), .recv 1, .recv 1,
      .forward 1])) :=
  hands_over (.initial ⟨"agent"⟩) .default [] roomyConfig phone greeting _ (by decide +kernel)

/-- **A stray update**: the task goes on once the start of the next subscription is in. -/
theorem stray_update : ¬ HandsOver ⟨"agent"⟩ (history roomyConfig ⟨"agent"⟩ newFeed
    (watched ++ again ++ [FeedInput.subscribed false, .forward 0])) := by
  intro h
  obtain ⟨hputs, -⟩ := h _ _ _ 1 (Mealy.trace_append newFeed (watched ++ again)
    [.subscribed false, .forward 0]) (by decide +kernel) (by decide +kernel)
  have hstray : ¬ ∀ later ∈ history roomyConfig ⟨"agent"⟩
      (Lib.run (fun feed input => feed.step roomyConfig ⟨"agent"⟩ input) newFeed
        (watched ++ again ++ [.subscribed false])) [.forward 0],
      ∀ frame ∈ later.puts .state, (notice ⟨"agent"⟩ frame).isSome → later.input.task = some 1 := by
    decide +kernel
  exact hstray fun later hlater => hputs later hlater .state

end OmpRemote.Replication

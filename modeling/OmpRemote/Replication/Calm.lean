import OmpRemote.Replication.Feed

/-!
# Steps that say nothing of an agent

A connection serves several agents. Most of its steps have nothing to do with a given one.

- `Event`, `Event.puts`: a step of the connection with its agent, and the frames that it
  puts into a lane.
- `Appends`, `QuietLanes`: what happens to the lanes.
- `TasksGo`: what happens to the tasks that forward updates.
- `Lines`: only the agent's tasks have a frame about it to put in.
- `Calm`: a step after which nothing new is said of the agent. `calm_elsewhere`: the steps
  in which the agent has no part are such steps.
-/

namespace OmpRemote.Replication

open Lib Client ControlPlane
open Ompd (Session SessionInput ServerSessionConfig Message OutboundPayload Lane DeviceRecord
  Forwarding SubscriptionTask)

/-! ## What is put into the lanes -/

abbrev Event := Mealy.Event Feed FeedInput Unit

def history (config : ServerSessionConfig) (agentId : AgentId) (feed : Feed)
    (inputs : List FeedInput) : List Event :=
  Mealy.trace (fun feed input => ((), feed.step config agentId input)) feed inputs

/-- What has been put into a queue that nothing was taken from. -/
def added (before after : List OutboundPayload) : List OutboundPayload := after.drop before.length

/-- The frames among payloads. -/
def frames (payloads : List OutboundPayload) : List ServerFrame :=
  payloads.filterMap fun payload => match payload with
    | .protocol frame => some frame
    | .webSocket _ => none

namespace Event

/-- The frames that the step has put into a lane. -/
def puts (e : Event) (lane : Lane) : List ServerFrame :=
  frames (added (e.before.session.outbound.lane lane).buffer
    (e.after.session.outbound.lane lane).buffer)

end Event

/-! ## Lanes -/

/-- The payload says nothing of the agent. -/
def Quiet (agentId : AgentId) (payload : OutboundPayload) : Prop :=
  ∀ frame, payload = .protocol frame → notice agentId frame = none

/-- Payloads with a property have been put in, where somebody takes them out. -/
def Appends (P : OutboundPayload → Prop) (before after : Ompd.Outbound) : Prop :=
  ∀ lane, ∃ more,
    after.lane lane = { before.lane lane with buffer := (before.lane lane).buffer ++ more } ∧
      (∀ payload ∈ more, P payload) ∧ ((before.lane lane).receiverOpen = false → more = [])

/-- Payloads that say nothing of the agent have been put in, or some have been taken out. -/
inductive QuietLanes (agentId : AgentId) (before after : Ompd.Outbound) : Prop where
  | appends : Appends (Quiet agentId) before after → QuietLanes agentId before after
  | shrinks : (∀ lane, (after.lane lane).buffer.length ≤ (before.lane lane).buffer.length ∧
      ((after.lane lane).receiverOpen = true → (before.lane lane).receiverOpen = true)) →
      QuietLanes agentId before after

variable {agentId : AgentId}

@[simp] theorem added_append (before more : List OutboundPayload) :
    added before (before ++ more) = more := List.drop_left

theorem added_self (before : List OutboundPayload) : added before before = [] :=
  List.drop_length

theorem added_of_le {before after : List OutboundPayload} (h : after.length ≤ before.length) :
    added before after = [] := List.drop_eq_nil_of_le h

theorem mem_frames {payloads : List OutboundPayload} {frame : ServerFrame} :
    frame ∈ frames payloads ↔ .protocol frame ∈ payloads := by
  rw [frames, List.mem_filterMap]
  constructor
  · rintro ⟨payload, hmem, hframe⟩
    cases payload with
    | protocol other =>
      cases hframe
      exact hmem
    | webSocket message => cases hframe
  · exact fun hmem => ⟨_, hmem, rfl⟩

/-- Sending leaves the other lanes alone. -/
theorem send_other {before after : Ompd.Outbound} {lane other : Lane} {payload : OutboundPayload}
    (h : before.send lane payload = .sent after) (hlane : other ≠ lane) :
    after.lane other = before.lane other := by
  obtain ⟨rfl, -⟩ := Ompd.Outbound.send_sent h
  rw [Ompd.Outbound.setLane_lane, Function.update_of_ne hlane]

namespace QuietLanes

variable {before after : Ompd.Outbound}

theorem refl (before : Ompd.Outbound) : QuietLanes agentId before before :=
  .shrinks fun _ => ⟨Nat.le_refl _, id⟩

/-- Nothing of the agent has been put in. -/
theorem notice_eq_none (h : QuietLanes agentId before after) {lane : Lane} {frame : ServerFrame}
    (hframe : frame ∈ frames (added (before.lane lane).buffer (after.lane lane).buffer)) :
    notice agentId frame = none := by
  cases h with
  | appends h =>
    obtain ⟨more, hmore, hquiet, -⟩ := h lane
    rw [hmore, added_append, mem_frames] at hframe
    exact hquiet _ hframe frame rfl
  | shrinks h =>
    rw [added_of_le (h lane).1] at hframe
    cases hframe

/-- A lane from which nobody takes anything stays as it is. -/
theorem closed (h : QuietLanes agentId before after) {lane : Lane}
    (hclosed : (before.lane lane).receiverOpen = false) :
    (after.lane lane).receiverOpen = false ∧
      added (before.lane lane).buffer (after.lane lane).buffer = [] := by
  cases h with
  | appends h =>
    obtain ⟨more, hmore, -, hnone⟩ := h lane
    rw [hmore, hnone hclosed, added_append]
    exact ⟨hclosed, rfl⟩
  | shrinks h =>
    obtain ⟨hle, hopen⟩ := h lane
    refine ⟨Bool.eq_false_iff.mpr fun hafter => ?_, added_of_le hle⟩
    rw [hopen hafter] at hclosed
    cases hclosed

/-- Whatever was in the lanes before. -/
theorem close (before after : Ompd.Outbound) : QuietLanes agentId before after.close :=
  .shrinks fun _ => ⟨Nat.zero_le _, fun hopen => by cases hopen⟩

theorem next {payload : OutboundPayload} (h : before.next = some (payload, after)) :
    QuietLanes agentId before after := by
  refine .shrinks fun lane => ?_
  have hpoll {polled : Lane} (hpolled : before.poll polled = some (payload, after)) :
      (after.lane lane).buffer.length ≤ (before.lane lane).buffer.length ∧
        ((after.lane lane).receiverOpen = true → (before.lane lane).receiverOpen = true) := by
    unfold Ompd.Outbound.poll at hpolled
    split at hpolled
    · rename_i taken channel hitem
      cases hpolled
      obtain ⟨hbuffer, hchannel⟩ := Mpsc.poll_item hitem
      rw [Ompd.Outbound.setLane_lane]
      by_cases hlane : lane = polled
      · subst hlane
        rw [Function.update_self, hbuffer]
        refine ⟨Nat.le_succ _, fun hopen => ?_⟩
        rw [hchannel] at hopen
        exact hopen
      · rw [Function.update_of_ne hlane]
        exact ⟨Nat.le_refl _, id⟩
    · cases hpolled
    · cases hpolled
  unfold Ompd.Outbound.next at h
  split at h
  · rename_i hcontrol
    exact hpoll (hcontrol.trans h)
  split at h
  · rename_i hresponse
    exact hpoll (hresponse.trans h)
  · exact hpoll h

end QuietLanes

namespace Appends

variable {P : OutboundPayload → Prop} {before after last : Ompd.Outbound}

theorem refl (before : Ompd.Outbound) : Appends P before before := by
  refine fun lane => ⟨[], ?_, List.forall_mem_nil _, fun _ => rfl⟩
  rw [List.append_nil]

theorem trans (h : Appends P before after) (h' : Appends P after last) :
    Appends P before last := by
  intro lane
  obtain ⟨more, hmore, hP, hnone⟩ := h lane
  obtain ⟨more', hmore', hP', hnone'⟩ := h' lane
  refine ⟨more ++ more', ?_, List.forall_mem_append.mpr ⟨hP, hP'⟩, fun hclosed => ?_⟩
  · rw [hmore', hmore, List.append_assoc]
  · rw [hmore] at hnone'
    rw [hnone hclosed, hnone' hclosed, List.append_nil]

theorem send {lane : Lane} {payload : OutboundPayload} (hP : P payload)
    (h : before.send lane payload = .sent after) : Appends P before after := by
  intro other
  unfold Ompd.Outbound.send at h
  split at h
  · rename_i channel hchannel
    cases h
    obtain ⟨hopen, -, rfl⟩ := Mpsc.trySend_sent hchannel
    rw [Ompd.Outbound.setLane_lane]
    by_cases hlane : other = lane
    · subst hlane
      rw [Function.update_self]
      refine ⟨[payload], rfl, List.forall_mem_singleton.mpr hP, fun hclosed => ?_⟩
      rw [hopen] at hclosed
      cases hclosed
    · rw [Function.update_of_ne hlane]
      exact refl before other
  · cases h
  · cases h

theorem state {frame : ServerFrame} (hP : P (.protocol frame)) :
    Appends P before (before.state frame).2 := by
  unfold Ompd.Outbound.state
  split
  · rename_i sent hsent
    exact send hP hsent
  · exact refl before
  · exact refl before

theorem emitReplay {updates : List AgentUpdate}
    (hP : ∀ update ∈ updates, P (.protocol (Ompd.updateFrame update))) :
    Appends P before (Ompd.emitReplay before updates) := by
  induction updates generalizing before with
  | nil => exact refl before
  | cons update updates ih =>
    obtain ⟨hfirst, hlater⟩ := List.forall_mem_cons.mp hP
    have hstate : Appends P before (before.state (Ompd.updateFrame update)).2 := state hfirst
    unfold Ompd.emitReplay Ompd.emitUpdate
    cases hresult : before.state (Ompd.updateFrame update) with
    | mk ok after =>
      rw [hresult] at hstate
      cases ok with
      | true => exact hstate.trans (ih hlater)
      | false => exact hstate

theorem emitStart {start : SubscriptionStart}
    (hP : ∀ frame ∈ Ompd.startFrames start, P (.protocol frame)) :
    Appends P before (Ompd.emitStart before start) := by
  cases start with
  | snapshot | resyncRequired => exact state (hP _ (List.mem_singleton_self _))
  | replay updates => exact emitReplay fun update hupdate => hP _ (List.mem_map_of_mem hupdate)

end Appends

/-! ## Tasks -/

/-- The agents that the tasks are for. -/
def owners (tasks : List SubscriptionTask) : List AgentId := tasks.map (·.agentId)

@[simp] theorem owners_length (tasks : List SubscriptionTask) :
    (owners tasks).length = tasks.length := List.length_map _

theorem owners_setTask (session : Session) (task : Nat) (forwarding : Forwarding) :
    owners (session.setTask task forwarding).tasks = owners session.tasks := by
  refine List.ext_getElem? fun other => ?_
  rw [owners, owners, List.getElem?_map, List.getElem?_map]
  by_cases hother : other = task
  · subst hother
    rw [Session.getElem?_setTask_self, Option.map_map]
    rfl
  · rw [Session.getElem?_setTask_of_ne hother]

/-- Tasks are spawned, and none that has stopped waiting for updates does so again. -/
structure TasksGo (more : List AgentId) (tasks tasks' : List SubscriptionTask) : Prop where
  spawns : owners tasks' = owners tasks ++ more
  updates : ∀ (task : Nat) (spawned spawned' : SubscriptionTask),
    tasks[task]? = some spawned → tasks'[task]? = some spawned' →
      spawned'.forwarding = .update → spawned.forwarding = .update

namespace TasksGo

variable {tasks tasks' last : List SubscriptionTask} {more more' : List AgentId}

theorem refl (tasks : List SubscriptionTask) : TasksGo [] tasks tasks where
  spawns := (List.append_nil _).symm
  updates task spawned spawned' hspawned hspawned' := by
    cases hspawned.symm.trans hspawned'
    exact id

theorem length (h : TasksGo more tasks tasks') : tasks'.length = tasks.length + more.length := by
  have hlength := congrArg List.length h.spawns
  rwa [List.length_append, owners_length, owners_length] at hlength

theorem trans (h : TasksGo more tasks tasks') (h' : TasksGo more' tasks' last) :
    TasksGo (more ++ more') tasks last where
  spawns := by rw [h'.spawns, h.spawns, List.append_assoc]
  updates task spawned spawned'' hspawned hspawned'' hupdate := by
    obtain ⟨hlt, -⟩ := List.getElem?_eq_some_iff.mp hspawned
    have hlt' : task < tasks'.length := by
      rw [h.length]
      exact Nat.lt_add_right _ hlt
    have hspawned' := List.getElem?_eq_getElem hlt'
    exact h.updates task spawned _ hspawned hspawned'
      (h'.updates task _ spawned'' hspawned' hspawned'' hupdate)

theorem setTask (session : Session) (task : Nat) {forwarding : Forwarding}
    (h : ∀ spawned, session.tasks[task]? = some spawned → forwarding = .update →
      spawned.forwarding = .update) :
    TasksGo [] session.tasks (session.setTask task forwarding).tasks where
  spawns := by rw [owners_setTask, List.append_nil]
  updates other spawned spawned' hspawned hspawned' hupdate := by
    by_cases hother : other = task
    · subst hother
      rw [Session.getElem?_setTask_self, hspawned] at hspawned'
      cases hspawned'
      exact h spawned hspawned hupdate
    · rw [Session.getElem?_setTask_of_ne hother, hspawned] at hspawned'
      cases hspawned'
      exact hupdate

theorem abort (session : Session) (other : AgentId) :
    TasksGo [] session.tasks (session.abort other).tasks := by
  unfold Session.abort
  split
  · exact refl _
  · rename_i task _
    exact setTask session task fun _ _ h => by cases h

theorem spawn (session : Session) (other : AgentId) (start : SubscriptionStart) :
    TasksGo [other] session.tasks (session.spawn other start).tasks where
  spawns := List.map_append
  updates task spawned spawned' hspawned hspawned' := by
    cases (Session.getElem?_spawned hspawned).symm.trans hspawned'
    exact id

theorem finish (session : Session) : TasksGo [] session.tasks session.finish.tasks where
  spawns := by
    rw [List.append_nil]
    exact List.map_map
  updates task spawned spawned' _ hspawned' hupdate := by
    replace hspawned' : (session.tasks.map fun task => { task with forwarding := .ended })[task]? =
      some spawned' := hspawned'
    rw [List.getElem?_map] at hspawned'
    obtain ⟨old, -, rfl⟩ := Option.map_eq_some_iff.mp hspawned'
    cases hupdate

end TasksGo

/-! ## What is said of an agent -/

theorem notice_updateFrame (agentId : AgentId) (update : AgentUpdate) :
    notice agentId (Ompd.updateFrame update) =
      if update.agentId = agentId then some (.update update) else none := by
  refine ReplicatedState.notice_of_carried ?_
  unfold Ompd.updateFrame
  split <;> rfl

theorem notice_gapFrame (agentId : AgentId) (snapshot : AgentSnapshot) (reason : ReplayGapReason) :
    notice agentId (Ompd.gapFrame snapshot reason) =
      if snapshot.agentId = agentId then some .gap else none := rfl

theorem notice_snapshot (agentId : AgentId) (snapshot : AgentSnapshot) :
    notice agentId (.snapshot ⟨[snapshot]⟩) =
      if snapshot.agentId = agentId then some (.snapshot snapshot) else none := by
  by_cases hagent : snapshot.agentId = agentId
  · simp [notice, hagent]
  · simp [notice, hagent]

/-- The start of a subscription to another agent says nothing. -/
theorem quiet_startFrames {other : AgentId} {start : SubscriptionStart} (hother : other ≠ agentId)
    (hstart : startOf other start = true) :
    ∀ frame ∈ Ompd.startFrames start, Quiet agentId (.protocol frame) := by
  cases start with
  | snapshot snapshot | resyncRequired snapshot =>
    rintro _ hframe frame ⟨⟩
    obtain rfl := List.mem_singleton.mp hframe
    rw [notice_snapshot, if_neg]
    rintro rfl
    exact hother (of_decide_eq_true hstart).symm
  | replay updates =>
    rintro _ hframe frame ⟨⟩
    obtain ⟨update, hupdate, rfl⟩ := List.mem_map.mp hframe
    rw [notice_updateFrame, if_neg]
    rintro rfl
    exact hother (of_decide_eq_true (List.all_eq_true.mp hstart update hupdate)).symm

theorem quiet_webSocket (message : Message) : Quiet agentId (.webSocket message) :=
  fun _ hframe => by cases hframe

theorem quiet_error (error : ProtocolError) : Quiet agentId (Ompd.error error) := by
  rintro frame ⟨⟩
  rfl

theorem quiet_response (response : ResponseEnvelope) :
    Quiet agentId (.protocol (.response response)) := by
  rintro frame ⟨⟩
  rfl

theorem quiet_pong (nonce : UInt64) : Quiet agentId (.protocol (.pong nonce)) := by
  rintro frame ⟨⟩
  rfl

/-! ## The connection -/

/-- What the loop is about to send says nothing of the agent; a start is of its agent. -/
def LoopQuiet (agentId : AgentId) : Ompd.Loop → Prop
  | .sending _ payload _ _ => Quiet agentId payload
  | .starting other snapshot => snapshot.agentId = other
  | _ => True

/-- Only the agent's tasks speak of it. -/
structure Lines (agentId : AgentId) (session : Session) : Prop where
  loop : LoopQuiet agentId session.loop
  gaps : ∀ (task : Nat) (spawned : SubscriptionTask) (frame : ServerFrame),
    session.tasks[task]? = some spawned → spawned.forwarding = .gap frame →
      spawned.agentId ≠ agentId → notice agentId frame = none

namespace Lines

variable {session : Session}

theorem setLoop (h : Lines agentId session) {loop : Ompd.Loop} (hloop : LoopQuiet agentId loop) :
    Lines agentId { session with loop } := ⟨hloop, h.gaps⟩

theorem outbound (h : Lines agentId session) (outbound : Ompd.Outbound) :
    Lines agentId { session with outbound } := ⟨h.loop, h.gaps⟩

theorem setTask (h : Lines agentId session) (task : Nat) {forwarding : Forwarding}
    (hgap : ∀ spawned frame, session.tasks[task]? = some spawned → forwarding = .gap frame →
      spawned.agentId ≠ agentId → notice agentId frame = none) :
    Lines agentId (session.setTask task forwarding) where
  loop := h.loop
  gaps other spawned' frame hspawned' hframe hother := by
    by_cases htask : other = task
    · subst htask
      rw [Session.getElem?_setTask_self] at hspawned'
      obtain ⟨spawned, hspawned, rfl⟩ := Option.map_eq_some_iff.mp hspawned'
      exact hgap spawned frame hspawned hframe hother
    · rw [Session.getElem?_setTask_of_ne htask] at hspawned'
      exact h.gaps other spawned' frame hspawned' hframe hother

theorem abort (h : Lines agentId session) (other : AgentId) :
    Lines agentId (session.abort other) := by
  unfold Session.abort
  split
  · exact h
  · rename_i task _
    have hended : Lines agentId (session.setTask task .ended) :=
      h.setTask task fun _ _ _ hframe => by cases hframe
    exact ⟨hended.loop, hended.gaps⟩

theorem spawn (h : Lines agentId session) (other : AgentId) (start : SubscriptionStart) :
    Lines agentId (session.spawn other start) where
  loop := trivial
  gaps task spawned frame hspawned hframe hother := by
    rcases Session.of_getElem?_spawned hspawned with hold | rfl
    · exact h.gaps task spawned frame hold hframe hother
    · cases hframe

theorem finish (session : Session) : Lines agentId session.finish where
  loop := trivial
  gaps task spawned frame hspawned hframe := by
    replace hspawned : (session.tasks.map fun task => { task with forwarding := .ended })[task]? =
      some spawned := hspawned
    rw [List.getElem?_map] at hspawned
    obtain ⟨old, -, rfl⟩ := Option.map_eq_some_iff.mp hspawned
    cases hframe

end Lines

/-! ## Steps in which the agent has no part -/

/-- What the task is told gives it nothing to say of the agent. -/
def Unheard (agentId : AgentId) (spawned : SubscriptionTask) : SessionInput → Prop
  | .update _ update => update.agentId ≠ agentId
  | .snapshot _ (some snapshot) => spawned.agentId ≠ agentId → snapshot.agentId = spawned.agentId
  | .resumeTask _ => spawned.agentId ≠ agentId
  | _ => True

/-- A step after which nothing new is said of the agent, and none of its subscriptions has
been started. -/
structure Calm (agentId : AgentId) (session session' : Session) : Prop where
  lines : Lines agentId session'
  tasks : ∃ more, agentId ∉ more ∧ TasksGo more session.tasks session'.tasks
  lanes : QuietLanes agentId session.outbound session'.outbound
  loop : ∀ snapshot, session'.loop = .starting agentId snapshot → session.loop = session'.loop

namespace Calm

variable {session session' : Session}

theorem same (h : Lines agentId session) : Calm agentId session session :=
  ⟨h, ⟨[], List.not_mem_nil, .refl _⟩, .refl _, fun _ _ => rfl⟩

theorem setLoop (h : Lines agentId session) {loop : Ompd.Loop} (hloop : LoopQuiet agentId loop)
    (hstarts : ∀ snapshot, loop ≠ .starting agentId snapshot) :
    Calm agentId session { session with loop } :=
  ⟨h.setLoop hloop, ⟨[], List.not_mem_nil, .refl _⟩, .refl _,
    fun snapshot hloop => absurd hloop (hstarts snapshot)⟩

theorem finish (h : session'.tasks = session.tasks) : Calm agentId session session'.finish := by
  refine ⟨.finish session', ⟨[], List.not_mem_nil, ?_⟩, .close _ _, fun _ hloop => by cases hloop⟩
  rw [← h]
  exact .finish session'

theorem setTask (h : Lines agentId session) (task : Nat) {forwarding : Forwarding}
    (hgap : ∀ spawned frame, session.tasks[task]? = some spawned → forwarding = .gap frame →
      spawned.agentId ≠ agentId → notice agentId frame = none)
    (hupdate : ∀ spawned, session.tasks[task]? = some spawned → forwarding = .update →
      spawned.forwarding = .update) : Calm agentId session (session.setTask task forwarding) :=
  ⟨h.setTask task hgap, ⟨[], List.not_mem_nil, .setTask session task hupdate⟩, .refl _,
    fun _ _ => rfl⟩

theorem ended (h : Lines agentId session) (task : Nat) :
    Calm agentId session (session.setTask task .ended) :=
  setTask h task (fun _ _ _ hframe => by cases hframe) fun _ _ hupdate => by cases hupdate

/-- A task asks for a snapshot. -/
theorem asks (h : Lines agentId session) (task : Nat) :
    Calm agentId session (session.setTask task .snapshot) :=
  setTask h task (fun _ _ _ hframe => by cases hframe) fun _ _ hupdate => by cases hupdate

theorem abort (h : Lines agentId session) (other : AgentId) :
    Calm agentId session (session.abort other) := by
  refine ⟨h.abort other, ⟨[], List.not_mem_nil, .abort session other⟩, ?_, fun _ _ => ?_⟩
  · unfold Session.abort
    split <;> exact .refl _
  · unfold Session.abort
    split <;> rfl

/-- The start of a subscription to another agent. -/
theorem spawn (h : Lines agentId session) {other : AgentId} {start : SubscriptionStart}
    (hother : other ≠ agentId) (hstart : startOf other start = true) :
    Calm agentId session (session.spawn other start) :=
  ⟨h.spawn other start, ⟨[other], fun hmem => hother (List.mem_singleton.mp hmem).symm,
    .spawn session other start⟩, .appends (.emitStart (quiet_startFrames hother hstart)),
    fun _ hloop => by cases hloop⟩

/-- After a step that puts nothing in. -/
theorem after (h : Calm agentId session session') {last : Session}
    (hlanes : session'.outbound = session.outbound) (h' : Calm agentId session' last) :
    Calm agentId session last := by
  obtain ⟨more, hmore, htasks⟩ := h.tasks
  obtain ⟨more', hmore', htasks'⟩ := h'.tasks
  refine ⟨h'.lines, ⟨more ++ more', ?_, htasks.trans htasks'⟩, ?_, fun snapshot hloop => ?_⟩
  · rw [List.mem_append]
    exact not_or.mpr ⟨hmore, hmore'⟩
  · rw [← hlanes]
    exact h'.lanes
  · have hsame := h'.loop snapshot hloop
    rw [← hsame] at hloop ⊢
    exact h.loop snapshot hloop

/-- A payload that says nothing of the agent is put in first. -/
theorem send (h : Lines agentId session) {lane : Lane} {payload : OutboundPayload}
    {outbound : Ompd.Outbound} (hsent : session.outbound.send lane payload = .sent outbound)
    (hquiet : Quiet agentId payload) : Calm agentId session { session with outbound } :=
  ⟨h.outbound outbound, ⟨[], List.not_mem_nil, .refl _⟩, .appends (.send hquiet hsent),
    fun _ _ => rfl⟩

/-! ### What the loop does -/

theorem handleClientFrame (h : Lines agentId session) (device : DeviceRecord)
    (frame : ClientFrame) : Calm agentId session (session.handleClientFrame device frame) := by
  unfold Session.handleClientFrame
  cases frame with
  | request | uiResponse => exact setLoop h trivial fun _ hloop => by cases hloop
  | subscribe request =>
    dsimp only
    split
    · exact setLoop h (quiet_error _) fun _ hloop => by cases hloop
    · exact setLoop h trivial fun _ hloop => by cases hloop
  | unsubscribe other =>
    dsimp only
    split
    · exact setLoop h (quiet_error _) fun _ hloop => by cases hloop
    · exact abort h other
  | ping nonce => exact setLoop h (quiet_pong nonce) fun _ hloop => by cases hloop
  | hello hello => exact setLoop h (quiet_error _) fun _ hloop => by cases hloop

/-- A message that is no frame. -/
theorem receive (config : ServerSessionConfig) (h : Lines agentId session) (device : DeviceRecord)
    {message : Message} (hdecode : Session.decode config message = none) :
    Calm agentId session (session.receive config device message) := by
  unfold Session.receive
  rw [hdecode]
  cases message with
  | binary | text => exact setLoop h (quiet_error _) fun _ hloop => by cases hloop
  | ping payload => exact setLoop h (quiet_webSocket _) fun _ hloop => by cases hloop
  | pong payload => exact same h
  | close => exact finish rfl

theorem resume (h : Lines agentId session)
    (hloop : ∀ snapshot, session.loop ≠ .starting agentId snapshot) :
    Calm agentId session session.resume := by
  unfold Session.resume
  cases hsession : session.loop with
  | sending lane payload onSent onClosed =>
    have hquiet : Quiet agentId payload := by
      have hline := h.loop
      rwa [hsession] at hline
    dsimp only
    split
    · rename_i outbound hsent
      have hin := send h hsent hquiet
      split
      · exact ⟨hin.lines.setLoop trivial, hin.tasks, hin.lanes, fun _ hloop => by cases hloop⟩
      · exact finish rfl
    · split
      · exact setLoop h trivial fun _ hloop => by cases hloop
      · exact finish rfl
    · exact same h
  | starting other snapshot =>
    have hagent : snapshot.agentId = other := by
      have hline := h.loop
      rwa [hsession] at hline
    have hother : other ≠ agentId := by
      rintro rfl
      exact hloop snapshot hsession
    have hstart : startOf other (.resyncRequired snapshot) = true := decide_eq_true hagent
    dsimp only
    split
    · rename_i outbound hsent
      have hquiet : Quiet agentId
          (.protocol (Ompd.gapFrame snapshot .nonContiguousCursor)) := by
        rintro frame ⟨⟩
        rw [notice_gapFrame, hagent, if_neg hother]
      have hin := send h hsent hquiet
      have hspawned := spawn hin.lines hother hstart
      exact ⟨hspawned.lines, hspawned.tasks,
        .appends ((Appends.send hquiet hsent).trans (.emitStart (quiet_startFrames hother hstart))),
        fun _ hloop => by cases hloop⟩
    · exact spawn h hother hstart
    · exact same h
  | _ => exact same h

theorem subscribed (h : Lines agentId session) {request : SubscribeRequest}
    {result : Ompd.Subscribed} (hresult : ∀ start, result = .started start →
      request.agentId ≠ agentId ∧ startOf request.agentId start = true) :
    Calm agentId session (session.subscribed request result) := by
  unfold Session.subscribed
  cases result with
  | agentNotFound | failed => exact setLoop h (quiet_error _) fun _ hloop => by cases hloop
  | started start =>
    obtain ⟨hother, hstart⟩ := hresult start rfl
    have haborted := abort h request.agentId
    have hlanes := (session.outbound_abort request.agentId).1
    cases start with
    | resyncRequired snapshot =>
      have hagent : snapshot.agentId = request.agentId := of_decide_eq_true hstart
      exact haborted.after hlanes (setLoop haborted.lines hagent
        fun _ hloop => hother (by cases hloop; rfl))
    | snapshot | replay => exact haborted.after hlanes (spawn haborted.lines hother hstart)

/-! ### What tasks and the writer do -/

/-- A task goes on, and says nothing of the agent. -/
theorem forward (h : Lines agentId session) {task : Nat} {spawned : SubscriptionTask}
    (hspawned : session.tasks[task]? = some spawned) {input : SessionInput}
    (hunheard : Unheard agentId spawned input) :
    Calm agentId session (session.forward task spawned.forwarding input) := by
  unfold Session.forward
  cases input with
  | update other update =>
    -- an update of another agent makes a frame that is no notice of this one
    have hquiet : Quiet agentId (.protocol (Ompd.updateFrame update)) := by
      rintro frame ⟨⟩
      rw [notice_updateFrame, if_neg hunheard]
    have hstate : Appends (Quiet agentId) session.outbound
        (Ompd.emitUpdate update session.outbound).2 := .state hquiet
    dsimp only
    split
    · rename_i outbound _ hemit
      rw [hemit] at hstate
      exact ⟨h.outbound outbound, ⟨[], List.not_mem_nil, .refl _⟩, .appends hstate, fun _ _ => rfl⟩
    · rename_i outbound _ hemit
      rw [hemit] at hstate
      have hasks := asks (h.outbound outbound) task
      exact ⟨hasks.lines, hasks.tasks, .appends hstate, fun _ _ => rfl⟩
    · exact same h
  | lagged other =>
    dsimp only
    split
    · exact asks h task
    · exact same h
  | closed other =>
    dsimp only
    split
    · exact ended h task
    · exact same h
  | snapshot other snapshot =>
    cases snapshot with
    | none =>
      dsimp only
      split
      · exact ended h task
      · exact same h
    | some snapshot =>
      dsimp only
      split
      · refine setTask h task ?_ fun _ _ hforwarding => by cases hforwarding
        -- the gap that waits is of the agent that the task is for
        rintro found frame hfound ⟨⟩ hother
        cases hspawned.symm.trans hfound
        rw [notice_gapFrame, hunheard hother, if_neg hother]
      · exact same h
  | resumeTask other =>
    dsimp only
    split
    · rename_i frame hforwarding
      -- the same of a gap that has waited
      have hquiet : Quiet agentId (.protocol frame) := by
        rintro _ ⟨⟩
        exact h.gaps task spawned frame hspawned hforwarding hunheard
      split
      · rename_i outbound hsent
        have hin := send h hsent hquiet
        have hended := ended hin.lines task
        exact ⟨hended.lines, hended.tasks, hin.lanes, fun _ _ => rfl⟩
      · exact ended h task
      · exact same h
    · exact same h
  | _ => exact same h

theorem stopWriter (h : Lines agentId session') (htasks : session'.tasks = session.tasks)
    (hloop : session.loop = session'.loop) :
    Calm agentId session session'.stopWriter := by
  refine ⟨⟨h.loop, h.gaps⟩, ⟨[], List.not_mem_nil, ?_⟩,
    .close _ _, fun _ _ => hloop⟩
  rw [← htasks]
  exact .refl _

theorem write (config : ServerSessionConfig) (h : Lines agentId session) (ok : Bool) :
    Calm agentId session (session.write config ok) := by
  unfold Session.write
  split
  · exact same h
  · rename_i payload outbound hnext
    have htaken := h.outbound outbound
    dsimp only
    split
    · exact stopWriter htaken rfl rfl
    split
    · exact ⟨⟨h.loop, h.gaps⟩, ⟨[], List.not_mem_nil, .refl _⟩, .next hnext,
        fun _ _ => rfl⟩
    · exact stopWriter ⟨h.loop, h.gaps⟩ rfl rfl

theorem heartbeat (config : ServerSessionConfig) (h : Lines agentId session) (ping : List UInt8)
    (active ok : Bool) :
    Calm agentId session (session.step config (.heartbeat ping active ok)) := by
  unfold Session.step
  dsimp only
  split
  · split
    · exact stopWriter h rfl rfl
    split
    · exact ⟨⟨h.loop, h.gaps⟩, ⟨[], List.not_mem_nil, .refl _⟩, .refl _, fun _ _ => rfl⟩
    · exact stopWriter ⟨h.loop, h.gaps⟩ rfl rfl
  · exact same h

end Calm

theorem otherTask_spec {session : Session} {task : Nat} {allowed : AgentId → Bool}
    {spawned : SubscriptionTask} (h : otherTask agentId session task allowed = true)
    (hspawned : session.tasks[task]? = some spawned) :
    spawned.agentId ≠ agentId ∧ allowed spawned.agentId = true := by
  unfold otherTask at h
  rw [hspawned] at h
  simpa using h

/-- A step of other agents, or of nobody. -/
theorem calm_elsewhere {config : ServerSessionConfig} {feed : Feed} {input : SessionInput}
    (h : Lines agentId feed.session) (hguard : feed.elsewhere agentId input = true)
    (hgap : ∀ task spawned, input = .resumeTask task →
      feed.session.tasks[task]? = some spawned → spawned.agentId ≠ agentId) :
    Calm agentId feed.session (feed.session.step config input) := by
  have htask {task : Nat} (hunheard : ∀ spawned, feed.session.tasks[task]? = some spawned →
      Unheard agentId spawned input) :
      Calm agentId feed.session (feed.session.forwardTask task input) := by
    unfold Session.forwardTask
    split
    · rename_i spawned hspawned
      exact .forward h hspawned (hunheard spawned hspawned)
    · exact .same h
  cases input with
  | resume =>
    refine .resume h fun snapshot hloop => ?_
    simp [Feed.elsewhere, hloop] at hguard
  | subscribed result =>
    unfold Session.step
    dsimp only
    split
    · rename_i request hloop
      refine .subscribed h fun start hstart => ?_
      subst hstart
      simpa [Feed.elsewhere, hloop] using hguard
    · exact .same h
  | update task update =>
    refine htask fun spawned hspawned => ?_
    have hguard' : otherTask agentId feed.session task (fun other => update.agentId = other) =
      true := hguard
    obtain ⟨hne, hallowed⟩ := otherTask_spec hguard' hspawned
    show update.agentId ≠ agentId
    rwa [of_decide_eq_true hallowed]
  | lagged task | closed task => exact htask fun _ _ => trivial
  | snapshot task result =>
    refine htask fun spawned hspawned => ?_
    have hguard' : otherTask agentId feed.session task (fun other =>
      result.all fun snapshot => snapshot.agentId = other) = true := hguard
    obtain ⟨-, hallowed⟩ := otherTask_spec hguard' hspawned
    cases result with
    | none => trivial
    | some snapshot =>
      have hagent : snapshot.agentId = spawned.agentId := of_decide_eq_true hallowed
      exact fun _ => hagent
  | resumeTask task => exact htask fun spawned hspawned => hgap task spawned rfl hspawned
  | write ok =>
    unfold Session.step
    dsimp only
    split
    · exact .write config h ok
    · exact .same h
  | heartbeat ping active ok => exact .heartbeat config h ping active ok
  | readerEnds | writerEnded =>
    unfold Session.step
    dsimp only
    split
    · exact .finish rfl
    · exact .same h

end OmpRemote.Replication

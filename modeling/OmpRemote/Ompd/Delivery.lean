import OmpRemote.Ompd.Authorization

/-!
# Delivery of updates

What a subscription hands to its connection is written, or the client is told of a
gap, as long as the frames fit and a start finds room. A frame that does not fit
ends the connection.

- `Fate`: what has become of a frame that a subscription handed over.
- `Session.Accounted`: the invariant of a connection; one lemma for each thing that
  changes it.
- `Server.updates_survive`: the law for careful runs.
- `Server.oversized_kills`: the run that shows why they must be careful.
-/

namespace OmpRemote.Ompd

open Lib

/-! ## Frames of agents -/

/-- The frame is part of an agent's stream, or tells of a gap in it. -/
def ServerFrame.ofAgent : ServerFrame → Bool
  | .snapshot _ | .delta _ | .event _ | .interactionRequest _ | .replayGap _ => true
  | _ => false

/-- The frame fits the limit of authenticated connections. -/
def FrameFits (config : ServerSessionConfig) (frame : ServerFrame) : Prop :=
  (config.frameLimits.codec .authenticated).Fits config.serializer frame

/-- A frame of an agent fits. -/
def PayloadFits (config : ServerSessionConfig) (payload : OutboundPayload) : Prop :=
  ∀ frame, payload = .protocol frame → ServerFrame.ofAgent frame = true → FrameFits config frame

/-- What starts a subscription, but for a gap that comes first. -/
def startFrames : SubscriptionStart → List ServerFrame
  | .snapshot snapshot | .resyncRequired snapshot => [.snapshot ⟨[snapshot]⟩]
  | .replay updates => updates.map updateFrame

/-- The frame tells of a gap of the agent. -/
def GapOf (agentId : AgentId) (frame : ServerFrame) : Prop :=
  ∃ snapshot : AgentSnapshot, snapshot.agentId = agentId ∧ frame = gapFrame snapshot .slowConsumer

theorem payloadFits_of_fits {config : ServerSessionConfig} {frame : ServerFrame}
    (h : FrameFits config frame) : PayloadFits config (.protocol frame) := by
  rintro other ⟨⟩ -
  exact h

/-- A frame that is not of an agent fits as far as agents are concerned. -/
theorem payloadFits_other {config : ServerSessionConfig} {frame : ServerFrame}
    (h : ServerFrame.ofAgent frame = false) : PayloadFits config (.protocol frame) := by
  rintro other ⟨⟩ hagent
  rw [h] at hagent
  cases hagent

theorem payloadFits_webSocket {config : ServerSessionConfig} (message : Message) :
    PayloadFits config (.webSocket message) := by
  intro frame h
  cases h

theorem encodes_of_fits {config : ServerSessionConfig} {frame : ServerFrame}
    (h : FrameFits config frame) : Session.encodes config (.protocol frame) = true :=
  CborCodec.encode_isOk.mpr h

theorem ofAgent_updateFrame (update : AgentUpdate) :
    ServerFrame.ofAgent (updateFrame update) = true := by
  unfold updateFrame
  split <;> rfl

/-! ## Lanes -/

namespace Outbound

variable {outbound outbound' outbound'' : Outbound}

/-- The writer is there. -/
def Open (outbound : Outbound) : Prop := ∀ lane, (outbound.lane lane).receiverOpen = true

/-- What was in the lanes is still there. -/
def Grows (outbound outbound' : Outbound) : Prop :=
  ∀ lane, ∀ payload ∈ (outbound.lane lane).buffer, payload ∈ (outbound'.lane lane).buffer

theorem Grows.refl (outbound : Outbound) : Grows outbound outbound := fun _ _ h => h

theorem Grows.trans (h : Grows outbound outbound') (h' : Grows outbound' outbound'') :
    Grows outbound outbound'' := fun lane payload hpayload => h' lane payload (h lane payload hpayload)

/-- What sending changes: one lane, at its end. -/
theorem send_sent {lane : Lane} {payload : OutboundPayload}
    (h : outbound.send lane payload = .sent outbound') :
    outbound' = outbound.setLane lane
      { outbound.lane lane with buffer := (outbound.lane lane).buffer ++ [payload] } ∧
      (outbound.lane lane).buffer.length < (outbound.lane lane).capacity := by
  unfold Outbound.send at h
  split at h
  · rename_i channel hchannel
    cases h
    obtain ⟨-, hroom, rfl⟩ := Mpsc.trySend_sent hchannel
    exact ⟨rfl, hroom⟩
  · cases h
  · cases h

theorem setLane_grows {lane : Lane} {channel : Mpsc OutboundPayload}
    (h : ∀ payload ∈ (outbound.lane lane).buffer, payload ∈ channel.buffer) :
    Grows outbound (outbound.setLane lane channel) := by
  intro other payload hpayload
  rw [setLane_lane]
  by_cases hlane : other = lane
  · subst hlane
    rw [Function.update_self]
    exact h payload hpayload
  · rwa [Function.update_of_ne hlane]

theorem Open.setLane (h : outbound.Open) {lane : Lane} {channel : Mpsc OutboundPayload}
    (hchannel : channel.receiverOpen = true) : (outbound.setLane lane channel).Open := by
  intro other
  rw [setLane_lane]
  by_cases hlane : other = lane
  · subst hlane
    rwa [Function.update_self]
  · rw [Function.update_of_ne hlane]
    exact h other

section Send

variable {lane : Lane} {payload : OutboundPayload}
  (h : outbound.send lane payload = .sent outbound')

include h

theorem send_grows : Grows outbound outbound' := by
  obtain ⟨rfl, -⟩ := send_sent h
  exact setLane_grows fun payload hpayload => List.mem_append_left _ hpayload

theorem send_open (hopen : outbound.Open) : outbound'.Open := by
  obtain ⟨rfl, -⟩ := send_sent h
  exact hopen.setLane (hopen lane)

theorem mem_of_send : payload ∈ (outbound'.lane lane).buffer := by
  obtain ⟨rfl, -⟩ := send_sent h
  rw [setLane_lane, Function.update_self]
  exact List.mem_append_right _ (List.mem_singleton_self payload)

end Send

/-- A lane is closed only when the writer is gone. -/
theorem not_open_of_closed {lane : Lane} {payload : OutboundPayload}
    (h : outbound.send lane payload = .closed) : ¬ outbound.Open := by
  intro hopen
  unfold Outbound.send Mpsc.trySend at h
  rw [hopen lane] at h
  split at h
  · cases h
  · cases h
  · rename_i hclosed
    split at hclosed
    · rename_i hno
      cases hno
    · split at hclosed <;> cases hclosed

theorem state_grows (frame : ServerFrame) : Grows outbound (outbound.state frame).2 := by
  unfold Outbound.state
  split
  · rename_i hsent
    exact send_grows hsent
  · exact .refl outbound
  · exact .refl outbound

theorem state_open (hopen : outbound.Open) (frame : ServerFrame) :
    (outbound.state frame).2.Open := by
  unfold Outbound.state
  split
  · rename_i hsent
    exact send_open hsent hopen
  · exact hopen
  · exact hopen

theorem mem_of_state {frame : ServerFrame} (h : (outbound.state frame).1 = true) :
    .protocol frame ∈ ((outbound.state frame).2.lane .state).buffer := by
  unfold Outbound.state at h ⊢
  split at h
  · rename_i hsent
    exact mem_of_send hsent
  · cases h
  · cases h

/-- The state lane has room for so many frames more. -/
def Room (outbound : Outbound) (count : Nat) : Prop :=
  (outbound.lane .state).buffer.length + count ≤ (outbound.lane .state).capacity

instance (outbound : Outbound) (count : Nat) : Decidable (outbound.Room count) :=
  inferInstanceAs (Decidable (_ ≤ _))

/-- A frame that has room gets in, and takes one place. -/
theorem state_of_room (hopen : outbound.Open) {count : Nat} (hroom : outbound.Room (count + 1))
    (frame : ServerFrame) :
    (outbound.state frame).1 = true ∧ (outbound.state frame).2.Room count := by
  unfold Room at hroom
  have hfree : (outbound.lane .state).buffer.length < (outbound.lane .state).capacity := by omega
  unfold Outbound.state Outbound.send Mpsc.trySend
  rw [hopen .state]
  simp only [Bool.not_true, Bool.false_eq_true, if_false, hfree, if_true]
  refine ⟨trivial, ?_⟩
  simp only [Room, setLane_lane, Function.update_self, List.length_append, List.length_singleton]
  omega

theorem room_send {lane : Lane} {payload : OutboundPayload} {count : Nat}
    (h : outbound.send lane payload = .sent outbound') (hlane : lane ≠ .state)
    (hroom : outbound.Room count) : outbound'.Room count := by
  obtain ⟨rfl, -⟩ := send_sent h
  unfold Room
  rw [setLane_lane, Function.update_of_ne (Ne.symm hlane)]
  exact hroom

theorem emitReplay_grows (updates : List AgentUpdate) :
    Grows outbound (emitReplay outbound updates) := by
  induction updates generalizing outbound with
  | nil => exact .refl outbound
  | cons update updates ih =>
    have hfirst : Grows outbound (outbound.state (updateFrame update)).2 := state_grows _
    unfold emitReplay emitUpdate
    split
    · rename_i after hstate
      rw [hstate] at hfirst
      exact hfirst.trans ih
    · rename_i after hstate
      rwa [hstate] at hfirst

theorem emitReplay_open (hopen : outbound.Open) (updates : List AgentUpdate) :
    (emitReplay outbound updates).Open := by
  induction updates generalizing outbound with
  | nil => exact hopen
  | cons update updates ih =>
    have hfirst := state_open hopen (updateFrame update)
    unfold emitReplay emitUpdate
    split
    · rename_i after hstate
      rw [hstate] at hfirst
      exact ih hfirst
    · rename_i after hstate
      rwa [hstate] at hfirst

/-- With room for all of them, all updates of a replay get in. -/
theorem mem_emitReplay (hopen : outbound.Open) {updates : List AgentUpdate}
    (hroom : outbound.Room updates.length) {update : AgentUpdate} (hmem : update ∈ updates) :
    .protocol (updateFrame update) ∈ ((emitReplay outbound updates).lane .state).buffer := by
  induction updates generalizing outbound with
  | nil => cases hmem
  | cons first updates ih =>
    obtain ⟨hsent, hrest⟩ := state_of_room hopen hroom (updateFrame first)
    have hin := mem_of_state hsent
    have hafter := state_open hopen (updateFrame first)
    unfold emitReplay emitUpdate
    cases hstate : outbound.state (updateFrame first) with
    | mk ok after =>
      rw [hstate] at hsent hrest hin hafter
      cases hsent
      rcases List.mem_cons.mp hmem with rfl | hlater
      · exact emitReplay_grows updates .state _ hin
      · exact ih hafter hrest hlater

theorem emitStart_grows (start : SubscriptionStart) :
    Grows outbound (emitStart outbound start) := by
  cases start with
  | snapshot | resyncRequired => exact state_grows _
  | replay updates => exact emitReplay_grows updates

theorem emitStart_open (hopen : outbound.Open) (start : SubscriptionStart) :
    (emitStart outbound start).Open := by
  cases start with
  | snapshot | resyncRequired => exact state_open hopen _
  | replay updates => exact emitReplay_open hopen updates

theorem mem_emitStart (hopen : outbound.Open) {start : SubscriptionStart}
    (hroom : outbound.Room (startFrames start).length) {frame : ServerFrame}
    (hmem : frame ∈ startFrames start) :
    .protocol frame ∈ ((emitStart outbound start).lane .state).buffer := by
  cases start with
  | snapshot | resyncRequired =>
    obtain rfl := List.mem_singleton.mp hmem
    exact mem_of_state (state_of_room hopen hroom _).1
  | replay updates =>
    obtain ⟨update, hupdate, rfl⟩ := List.mem_map.mp hmem
    exact mem_emitReplay hopen (by rwa [startFrames, List.length_map] at hroom) hupdate

theorem All.emitStart {P : OutboundPayload → Prop} (h : outbound.All P) {start : SubscriptionStart}
    (hP : ∀ frame ∈ startFrames start, P (.protocol frame)) : (emitStart outbound start).All P := by
  cases start with
  | snapshot | resyncRequired => exact h.state (hP _ (List.mem_singleton_self _))
  | replay updates =>
    exact h.emitReplay fun update hupdate => hP _ (List.mem_map_of_mem hupdate)

/-- The writer takes one payload, and the others stay. -/
theorem next_takes {payload : OutboundPayload} (h : outbound.next = some (payload, outbound')) :
    (∀ lane, ∀ queued ∈ (outbound.lane lane).buffer,
      queued = payload ∨ queued ∈ (outbound'.lane lane).buffer) ∧
      (outbound.Open → outbound'.Open) := by
  have hpoll {lane : Lane} (hpolled : outbound.poll lane = some (payload, outbound')) :
      (∀ lane, ∀ queued ∈ (outbound.lane lane).buffer,
        queued = payload ∨ queued ∈ (outbound'.lane lane).buffer) ∧
        (outbound.Open → outbound'.Open) := by
    unfold Outbound.poll at hpolled
    split at hpolled
    · rename_i taken channel hitem
      cases hpolled
      obtain ⟨hbuffer, hchannel⟩ := Mpsc.poll_item hitem
      refine ⟨?_, ?_⟩
      · intro other queued hqueued
        rw [setLane_lane]
        by_cases hlane : other = lane
        · subst hlane
          rw [hbuffer] at hqueued
          rw [Function.update_self]
          exact List.mem_cons.mp hqueued
        · rw [Function.update_of_ne hlane]
          exact .inr hqueued
      · intro hopen
        refine hopen.setLane ?_
        rw [hchannel]
        exact hopen lane
    · cases hpolled
    · cases hpolled
  unfold Outbound.next at h
  split at h
  · rename_i hcontrol
    exact hpoll (hcontrol.trans h)
  split at h
  · rename_i hresponse
    exact hpoll (hresponse.trans h)
  · exact hpoll h

end Outbound

/-! ## Connections -/

/-- A frame that a subscription has handed to its connection, and how much had been
written by then. -/
structure Due where
  task : Nat
  agentId : AgentId
  frame : ServerFrame
  written : Nat

namespace Session

variable {config : ServerSessionConfig} {session session' : Session} {due : Due → Prop} {d : Due}

/-- The payload is in the lane, or has been written since. -/
def Sent (session : Session) (lane : Lane) (since : Nat) (payload : OutboundPayload) : Prop :=
  payload ∈ (session.outbound.lane lane).buffer ∨ payload ∈ session.written.drop since

/-- The task is about to tell of a gap. -/
def Pending (session : Session) (task : Nat) (agentId : AgentId) : Prop :=
  ∃ forwarding, session.tasks[task]? = some ⟨agentId, forwarding⟩ ∧
    (forwarding = .snapshot ∨ ∃ frame, forwarding = .gap frame)

/-- What has become of a frame: it is on its way or has been written, or a gap is;
or the writer has stopped; or the client has asked for the agent again or left it. -/
inductive Fate (d : Due) (session : Session) : Prop where
  | stopped : session.writer = false → Fate d session
  | superseded : session.subscriptions.lookup d.agentId ≠ some d.task → Fate d session
  | delivered : session.Sent .state d.written (.protocol d.frame) → Fate d session
  | gap (frame : ServerFrame) : GapOf d.agentId frame →
      session.Sent .control d.written (.protocol frame) → Fate d session
  | pending : session.Pending d.task d.agentId → Fate d session

structure Told (d : Due) (session : Session) : Prop where
  task : d.task < session.tasks.length
  written : d.written ≤ session.written.length
  fate : Fate d session

/-- What the loop has for the client fits. -/
def LoopFits (config : ServerSessionConfig) : Loop → Prop
  | .sending _ payload _ _ => PayloadFits config payload
  | .starting _ snapshot =>
    FrameFits config (gapFrame snapshot .nonContiguousCursor) ∧
      FrameFits config (.snapshot ⟨[snapshot]⟩)
  | _ => True

/-- The frames of agents on a connection fit, and each frame that was handed to it
is accounted for. -/
structure Accounted (config : ServerSessionConfig) (due : Due → Prop) (session : Session) :
    Prop where
  loop : LoopFits config session.loop
  tasks : ∀ (task : Nat) spawned frame, session.tasks[task]? = some spawned →
    spawned.forwarding = .gap frame → GapOf spawned.agentId frame ∧ FrameFits config frame
  outbound : session.outbound.All (PayloadFits config)
  started : session.writer = true → session.loop ≠ .first
  untasked : session.loop = .first → session.tasks = []
  opened : session.writer = true ∨ session.loop = .first → session.outbound.Open
  mapped : ∀ agentId task, session.subscriptions.lookup agentId = some task →
    ∃ forwarding, session.tasks[task]? = some ⟨agentId, forwarding⟩
  told : ∀ d, due d → Told d session

theorem Sent.mono {lane : Lane} {since : Nat} {payload : OutboundPayload}
    (h : session.Sent lane since payload)
    (hlane : payload ∈ (session.outbound.lane lane).buffer →
      session'.Sent lane since payload)
    (hwritten : ∃ more, session'.written = session.written ++ more) :
    session'.Sent lane since payload := by
  rcases h with hin | hsent
  · exact hlane hin
  · obtain ⟨more, hmore⟩ := hwritten
    refine .inr ?_
    rw [hmore, List.drop_append]
    exact List.mem_append_left _ hsent

/-- A change that keeps what is on its way keeps fates. -/
theorem Fate.mono (h : Fate d session) (hover : session.writer = false → session'.writer = false)
    (hsubscriptions : session.subscriptions.lookup d.agentId ≠ some d.task →
      session'.subscriptions.lookup d.agentId ≠ some d.task)
    (hsent : ∀ lane payload, payload ∈ (session.outbound.lane lane).buffer →
      session'.Sent lane d.written payload)
    (hwritten : ∃ more, session'.written = session.written ++ more)
    (hpending : session.Pending d.task d.agentId → Fate d session') : Fate d session' := by
  cases h with
  | stopped hwriter => exact .stopped (hover hwriter)
  | superseded hne => exact .superseded (hsubscriptions hne)
  | delivered hdelivered => exact .delivered (hdelivered.mono (hsent _ _) hwritten)
  | gap frame hgap hgone => exact .gap frame hgap (hgone.mono (hsent _ _) hwritten)
  | pending hwaiting => exact hpending hwaiting

/-- The same, where the tasks stay as they are. -/
theorem Fate.keep (h : Fate d session) (hover : session.writer = false → session'.writer = false)
    (htasks : session'.tasks = session.tasks)
    (hsubscriptions : session'.subscriptions = session.subscriptions)
    (hsent : ∀ lane payload, payload ∈ (session.outbound.lane lane).buffer →
      session'.Sent lane d.written payload)
    (hwritten : ∃ more, session'.written = session.written ++ more) : Fate d session' := by
  refine h.mono hover (by rw [hsubscriptions]; exact id) hsent hwritten fun hwaiting => .pending ?_
  rwa [Pending, htasks]

theorem getElem?_setTask_self {task : Nat} {forwarding : Forwarding} :
    (session.setTask task forwarding).tasks[task]? =
      session.tasks[task]?.map fun spawned => { spawned with forwarding } := by
  rw [Session.setTask, List.getElem?_modify_eq]
  rfl

theorem getElem?_setTask_of_ne {task other : Nat} {forwarding : Forwarding} (h : other ≠ task) :
    (session.setTask task forwarding).tasks[other]? = session.tasks[other]? := by
  rw [Session.setTask, List.getElem?_modify_ne _ _ (Ne.symm h)]

/-- A task that is there is not one that is spawned. -/
theorem getElem?_spawned {tasks : List SubscriptionTask} {task : Nat}
    {spawned new : SubscriptionTask} (h : tasks[task]? = some spawned) :
    (tasks ++ [new])[task]? = some spawned := by
  obtain ⟨hlt, -⟩ := List.getElem?_eq_some_iff.mp h
  rw [List.getElem?_append_left hlt, h]

theorem of_getElem?_spawned {tasks : List SubscriptionTask} {task : Nat}
    {spawned new : SubscriptionTask} (h : (tasks ++ [new])[task]? = some spawned) :
    tasks[task]? = some spawned ∨ spawned = new := by
  rw [List.getElem?_append] at h
  split at h
  · exact .inl h
  · exact .inr (List.mem_singleton.mp (List.mem_of_getElem? h))

/-! ### What changes a connection -/

namespace Accounted

/-- The loop goes elsewhere. -/
theorem setLoop (h : Accounted config due session) {loop : Loop} (hloop : LoopFits config loop)
    (hfirst : loop = .first → session.loop = .first) :
    Accounted config due { session with loop } where
  loop := hloop
  tasks := h.tasks
  outbound := h.outbound
  started hwriter heq := h.started hwriter (hfirst heq)
  untasked heq := h.untasked (hfirst heq)
  opened hor := h.opened (hor.imp_right hfirst)
  mapped := h.mapped
  told d hd := ⟨(h.told d hd).task, (h.told d hd).written,
    (h.told d hd).fate.keep id rfl rfl (fun _ _ => .inl) ⟨[], (List.append_nil _).symm⟩⟩

theorem setReceived (h : Accounted config due session) (received : List ClientFrame) :
    Accounted config due { session with received } where
  loop := h.loop
  tasks := h.tasks
  outbound := h.outbound
  started := h.started
  untasked := h.untasked
  opened := h.opened
  mapped := h.mapped
  told d hd := ⟨(h.told d hd).task, (h.told d hd).written,
    (h.told d hd).fate.keep id rfl rfl (fun _ _ => .inl) ⟨[], (List.append_nil _).symm⟩⟩

/-- More is put into the lanes. -/
theorem grow (h : Accounted config due session) {outbound : Outbound}
    (hfits : outbound.All (PayloadFits config)) (hgrows : session.outbound.Grows outbound)
    (hopen : session.outbound.Open → outbound.Open) :
    Accounted config due { session with outbound } where
  loop := h.loop
  tasks := h.tasks
  outbound := hfits
  started := h.started
  untasked := h.untasked
  opened hor := hopen (h.opened hor)
  mapped := h.mapped
  told d hd := ⟨(h.told d hd).task, (h.told d hd).written,
    (h.told d hd).fate.keep id rfl rfl (fun lane payload hin => .inl (hgrows lane payload hin))
      ⟨[], (List.append_nil _).symm⟩⟩

theorem send (h : Accounted config due session) {lane : Lane} {payload : OutboundPayload}
    {outbound : Outbound} (hfits : PayloadFits config payload)
    (hsent : session.outbound.send lane payload = .sent outbound) :
    Accounted config due { session with outbound } :=
  h.grow (h.outbound.send hfits hsent) (Outbound.send_grows hsent) (Outbound.send_open hsent)

/-- Something that does not come from a lane is written. -/
theorem log (h : Accounted config due session) (payload : OutboundPayload) :
    Accounted config due { session with written := session.written ++ [payload] } where
  loop := h.loop
  tasks := h.tasks
  outbound := h.outbound
  started := h.started
  untasked := h.untasked
  opened := h.opened
  mapped := h.mapped
  told d hd :=
    ⟨(h.told d hd).task,
      Nat.le_trans (h.told d hd).written (by rw [List.length_append]; exact Nat.le_add_right _ _),
      (h.told d hd).fate.keep id rfl rfl (fun _ _ => .inl) ⟨[payload], rfl⟩⟩

/-- What the writer takes is written. -/
theorem take (h : Accounted config due session) {payload : OutboundPayload} {outbound : Outbound}
    (hnext : session.outbound.next = some (payload, outbound)) :
    Accounted config due
      { session with outbound, written := session.written ++ [payload] } where
  loop := h.loop
  tasks := h.tasks
  outbound := (h.outbound.next hnext).2
  started := h.started
  untasked := h.untasked
  opened hor := (Outbound.next_takes hnext).2 (h.opened hor)
  mapped := h.mapped
  told d hd := by
    have hold := h.told d hd
    refine ⟨hold.task, Nat.le_trans hold.written ?_, ?_⟩
    · rw [List.length_append]
      exact Nat.le_add_right _ _
    refine hold.fate.keep id rfl rfl ?_ ⟨[payload], rfl⟩
    intro lane queued hqueued
    rcases (Outbound.next_takes hnext).1 lane queued hqueued with rfl | hrest
    · refine .inr ?_
      show queued ∈ (session.written ++ [queued]).drop d.written
      rw [List.drop_append_of_le_length hold.written]
      exact List.mem_append_right _ (List.mem_singleton_self queued)
    · exact .inl hrest

/-- The writer stops, whatever it has taken. -/
theorem stop (h : Accounted config due session) (hwriter : session.writer = true)
    (outbound : Outbound) : Accounted config due { session with outbound }.stopWriter where
  loop := h.loop
  tasks := h.tasks
  outbound := Outbound.All.close
  started hstopped := by cases hstopped
  untasked := h.untasked
  opened hor := by
    rcases hor with hstopped | hfirst
    · cases hstopped
    · exact absurd hfirst (h.started hwriter)
  mapped := h.mapped
  told d hd := by
    refine ⟨(h.told d hd).task, Nat.le_trans (h.told d hd).written ?_, .stopped rfl⟩
    show _ ≤ (session.written ++ [_]).length
    rw [List.length_append]
    exact Nat.le_add_right _ _

/-- The loop ends. -/
theorem finish (h : Accounted config due session) : Accounted config due session.finish where
  loop := trivial
  tasks task spawned frame hspawned hgap := by
    simp only [Session.finish, List.getElem?_map] at hspawned
    obtain ⟨old, -, rfl⟩ := Option.map_eq_some_iff.mp hspawned
    cases hgap
  outbound := Outbound.All.close
  started hwriter := by cases hwriter
  untasked hfirst := by cases hfirst
  opened hor := by
    rcases hor with hwriter | hfirst
    · cases hwriter
    · cases hfirst
  mapped agentId task hlookup := by cases hlookup
  told d hd := ⟨by
    have := (h.told d hd).task
    simpa only [Session.finish, List.length_map] using this, (h.told d hd).written, .stopped rfl⟩

/-- A task goes elsewhere; one that was about to tell of a gap has done so. -/
theorem setTask (h : Accounted config due session) {task : Nat} {forwarding : Forwarding}
    (hgap : ∀ spawned frame, session.tasks[task]? = some spawned → forwarding = .gap frame →
      GapOf spawned.agentId frame ∧ FrameFits config frame)
    (htold : ∀ d, due d → d.task = task → session.Pending d.task d.agentId →
      Fate d (session.setTask task forwarding)) :
    Accounted config due (session.setTask task forwarding) where
  loop := h.loop
  tasks other spawned frame hspawned hfrom := by
    by_cases hsame : other = task
    · subst hsame
      rw [getElem?_setTask_self] at hspawned
      obtain ⟨old, hold, rfl⟩ := Option.map_eq_some_iff.mp hspawned
      exact hgap old frame hold hfrom
    · rw [getElem?_setTask_of_ne hsame] at hspawned
      exact h.tasks other spawned frame hspawned hfrom
  outbound := h.outbound
  started := h.started
  untasked hfirst := by
    show session.tasks.modify _ _ = []
    rw [h.untasked hfirst, List.modify_nil]
  opened := h.opened
  mapped agentId other hlookup := by
    obtain ⟨old, hold⟩ := h.mapped agentId other hlookup
    by_cases hsame : other = task
    · subst hsame
      exact ⟨forwarding, by rw [getElem?_setTask_self, hold]; rfl⟩
    · exact ⟨old, by rw [getElem?_setTask_of_ne hsame, hold]⟩
  told d hd := by
    have hold := h.told d hd
    refine ⟨?_, hold.written, ?_⟩
    · simpa only [Session.setTask, List.length_modify] using hold.task
    refine hold.fate.mono id id (fun _ _ => .inl) ⟨[], (List.append_nil _).symm⟩ ?_
    intro hwaiting
    by_cases hsame : d.task = task
    · exact htold d hd hsame hwaiting
    · refine .pending ?_
      rwa [Pending, getElem?_setTask_of_ne hsame]

/-- The subscription of an agent is aborted; its frames are not waited for. -/
theorem abort (h : Accounted config due session) (agentId : AgentId) :
    Accounted config due (session.abort agentId) := by
  unfold Session.abort
  split
  · exact h
  rename_i task hlookup
  obtain ⟨current, hcurrent⟩ := h.mapped agentId task hlookup
  refine ⟨h.loop, ?_, h.outbound, h.started, ?_, h.opened, ?_, ?_⟩
  · intro other spawned frame hspawned hfrom
    change (session.setTask task .ended).tasks[other]? = some spawned at hspawned
    -- the aborted task has nothing to send any more
    by_cases hsame : other = task
    · subst hsame
      rw [getElem?_setTask_self] at hspawned
      obtain ⟨old, -, rfl⟩ := Option.map_eq_some_iff.mp hspawned
      cases hfrom
    · rw [getElem?_setTask_of_ne hsame] at hspawned
      exact h.tasks other spawned frame hspawned hfrom
  · intro hfirst
    rw [h.untasked hfirst] at hcurrent
    cases hcurrent
  · intro other otherTask hother
    change (session.subscriptions.erase agentId).lookup other = some otherTask at hother
    rw [Table.lookup_erase] at hother
    split at hother
    · cases hother
    rename_i hne
    obtain ⟨forwarding, hspawned⟩ := h.mapped other otherTask hother
    -- a task serves one agent, so that of another agent is another task
    have hdistinct : otherTask ≠ task := by
      rintro rfl
      cases hcurrent.symm.trans hspawned
      exact hne rfl
    refine ⟨forwarding, ?_⟩
    show (session.setTask task .ended).tasks[otherTask]? = _
    rw [getElem?_setTask_of_ne hdistinct, hspawned]
  · intro d hd
    have hold := h.told d hd
    refine ⟨?_, hold.written, ?_⟩
    · show d.task < (session.setTask task .ended).tasks.length
      simpa only [Session.setTask, List.length_modify] using hold.task
    -- what was due to the agent is superseded; the rest keeps its fate
    by_cases hagent : d.agentId = agentId
    · refine .superseded ?_
      show (session.subscriptions.erase agentId).lookup d.agentId ≠ _
      rw [Table.lookup_erase, if_pos hagent]
      exact Option.some_ne_none _ ∘ Eq.symm
    refine hold.fate.mono id ?_ (fun _ _ => .inl) ⟨[], (List.append_nil _).symm⟩ ?_
    · show _ → (session.subscriptions.erase agentId).lookup d.agentId ≠ _
      rw [Table.lookup_erase, if_neg hagent]
      exact id
    · intro hwaiting
      have hdistinct : d.task ≠ task := by
        rintro rfl
        obtain ⟨forwarding, hspawned, -⟩ := hwaiting
        cases hcurrent.symm.trans hspawned
        exact hagent rfl
      refine .pending ?_
      show ∃ forwarding, (session.setTask task .ended).tasks[d.task]? = _ ∧ _
      rwa [getElem?_setTask_of_ne hdistinct]

/-- A new subscription starts. -/
theorem spawn (h : Accounted config due session) {agentId : AgentId} {start : SubscriptionStart}
    (hfits : ∀ frame ∈ startFrames start, FrameFits config frame) :
    Accounted config due (session.spawn agentId start) where
  loop := trivial
  tasks task spawned frame hspawned hfrom := by
    change (session.tasks ++ [_])[task]? = some spawned at hspawned
    rcases of_getElem?_spawned hspawned with hold | rfl
    · exact h.tasks task spawned frame hold hfrom
    · cases hfrom
  outbound := h.outbound.emitStart fun frame hframe => payloadFits_of_fits (hfits frame hframe)
  started hwriter hfirst := by cases hfirst
  untasked hfirst := by cases hfirst
  opened hor := by
    refine Outbound.emitStart_open (h.opened ?_) start
    rcases hor with hwriter | hfirst
    · exact .inl hwriter
    · cases hfirst
  mapped other task hlookup := by
    change (session.subscriptions.put agentId session.tasks.length).lookup other = some task
      at hlookup
    show ∃ forwarding, (session.tasks ++ [_])[task]? = _
    rw [Table.lookup_put] at hlookup
    split at hlookup
    · rename_i hagent
      cases hlookup
      exact ⟨.update, by rw [List.getElem?_concat_length, hagent]⟩
    · obtain ⟨forwarding, hspawned⟩ := h.mapped other task hlookup
      exact ⟨forwarding, getElem?_spawned hspawned⟩
  told d hd := by
    have hold := h.told d hd
    refine ⟨?_, hold.written, ?_⟩
    · show d.task < (session.tasks ++ [_]).length
      rw [List.length_append]
      exact Nat.lt_of_lt_of_le hold.task (Nat.le_add_right _ _)
    refine hold.fate.mono id ?_ ?_ ⟨[], (List.append_nil _).symm⟩ ?_
    · show _ → (session.subscriptions.put agentId session.tasks.length).lookup d.agentId ≠ _
      rw [Table.lookup_put]
      split
      · intro _ heq
        exact absurd (Option.some.inj heq).symm (Nat.ne_of_lt hold.task)
      · exact id
    · exact fun lane payload hin => .inl (Outbound.emitStart_grows start lane payload hin)
    · rintro ⟨forwarding, hspawned, hwaiting⟩
      exact .pending ⟨forwarding, getElem?_spawned hspawned, hwaiting⟩

end Accounted

/-! ### Careful steps -/

/-- What subscriptions hand over fits, a start finds room for all its frames, and an
agent that is asked for its position answers, for itself. -/
def Careful (config : ServerSessionConfig) (session : Session) : SessionInput → Prop
  | .update _ update => FrameFits config (updateFrame update)
  | .snapshot task result => ∀ agentId, session.tasks[task]? = some ⟨agentId, .snapshot⟩ →
    ∃ snapshot, result = some snapshot ∧ snapshot.agentId = agentId ∧
      FrameFits config (gapFrame snapshot .slowConsumer)
  | .subscribed (.started (.resyncRequired snapshot)) =>
    FrameFits config (gapFrame snapshot .nonContiguousCursor) ∧
      FrameFits config (.snapshot ⟨[snapshot]⟩)
  | .subscribed (.started start) =>
    (∀ frame ∈ startFrames start, FrameFits config frame) ∧
      session.outbound.Room (startFrames start).length
  | .resume => ∀ agentId snapshot, session.loop = .starting agentId snapshot →
    session.outbound.Room 1
  | _ => True

namespace Accounted

theorem reply (h : Accounted config due session) {payload : OutboundPayload}
    (hfits : PayloadFits config payload) (onSent onClosed : Bool) :
    Accounted config due (session.reply payload onSent onClosed) :=
  h.setLoop hfits nofun

theorem resume (h : Accounted config due session) : Accounted config due session.resume := by
  have hloop := h.loop
  unfold Session.resume
  split
  · rename_i lane payload onSent onClosed heq
    rw [heq] at hloop
    split
    · rename_i outbound hsent
      have hgrown := h.send hloop hsent
      split
      · exact hgrown.setLoop trivial nofun
      · exact hgrown.finish
    · split
      · exact h.setLoop trivial nofun
      · exact h.finish
    · exact h
  · rename_i agentId snapshot heq
    rw [heq] at hloop
    obtain ⟨hgap, hsnapshot⟩ := hloop
    have hfits : ∀ frame ∈ startFrames (.resyncRequired snapshot), FrameFits config frame := by
      intro frame hframe
      rwa [List.mem_singleton.mp hframe]
    split
    · rename_i outbound hsent
      exact (h.send (payloadFits_of_fits hgap) hsent).spawn hfits
    · exact h.spawn hfits
    · exact h
  · exact h

theorem subscribed (h : Accounted config due session) {request : SubscribeRequest}
    {result : Subscribed} (hcareful : Careful config session (.subscribed result)) :
    Accounted config due (session.subscribed request result) := by
  unfold Session.subscribed
  split
  · exact h.reply (payloadFits_other rfl) _ _
  · exact h.reply (payloadFits_other rfl) _ _
  · exact (h.abort request.agentId).setLoop hcareful nofun
  · rename_i start hstart
    refine (h.abort request.agentId).spawn ?_
    cases start with
    | snapshot | replay => exact hcareful.1
    | resyncRequired snapshot => exact absurd rfl (hstart snapshot)

theorem write (h : Accounted config due session) (hwriter : session.writer = true) (ok : Bool) :
    Accounted config due (session.write config ok) := by
  unfold Session.write
  split
  · exact h
  rename_i payload outbound hnext
  dsimp only
  split
  · exact h.stop hwriter outbound
  have htaken := h.take hnext
  split
  · exact htaken
  · exact htaken.stop hwriter outbound

/-- A task that forwards updates has no gap to tell of. -/
theorem not_pending {task : Nat} {agentId : AgentId}
    (h : session.tasks[task]? = some ⟨agentId, .update⟩) {other : AgentId} :
    ¬ session.Pending task other := by
  rintro ⟨forwarding, hspawned, hwaiting⟩
  cases h.symm.trans hspawned
  rcases hwaiting with heq | ⟨frame, heq⟩ <;> cases heq

theorem forwardUpdate (h : Accounted config due session) {task : Nat} {agentId : AgentId}
    (hspawned : session.tasks[task]? = some ⟨agentId, .update⟩) {update : AgentUpdate}
    (hfits : FrameFits config (updateFrame update)) :
    Accounted config due (session.forward task .update (.update task update)) := by
  have hgrown : Accounted config due
      { session with outbound := (emitUpdate update session.outbound).2 } :=
    h.grow (h.outbound.state (payloadFits_of_fits hfits)) (Outbound.state_grows _)
      fun hopen => Outbound.state_open hopen _
  unfold Session.forward
  dsimp only
  cases hemit : emitUpdate update session.outbound with
  | mk ok outbound =>
    rw [hemit] at hgrown
    cases ok with
    | true => exact hgrown
    | false =>
      dsimp only
      refine hgrown.setTask ?_ ?_
      · intro spawned frame _ hgap
        cases hgap
      · rintro d - rfl hwaiting
        exact absurd hwaiting (not_pending hspawned)

/-- The task ends, or asks for a snapshot, while it has no gap to tell of. -/
theorem setTask_of_update (h : Accounted config due session) {task : Nat} {agentId : AgentId}
    (hspawned : session.tasks[task]? = some ⟨agentId, .update⟩) {forwarding : Forwarding}
    (hgap : ∀ frame, forwarding ≠ .gap frame) :
    Accounted config due (session.setTask task forwarding) := by
  refine h.setTask ?_ ?_
  · intro spawned frame _ heq
    exact absurd heq (hgap frame)
  · rintro d - rfl hwaiting
    exact absurd hwaiting (not_pending hspawned)

/-- The gap of a task is put into the control lane. -/
theorem sendGap (h : Accounted config due session) {task : Nat} {agentId : AgentId}
    {frame : ServerFrame} (hspawned : session.tasks[task]? = some ⟨agentId, .gap frame⟩) :
    Accounted config due (session.forward task (.gap frame) (.resumeTask task)) := by
  obtain ⟨hgap, hfits⟩ := h.tasks task _ frame hspawned rfl
  unfold Session.forward
  dsimp only
  split
  · rename_i outbound hsent
    refine (h.send (payloadFits_of_fits hfits) hsent).setTask ?_ ?_
    · intro spawned other _ hended
      cases hended
    · rintro d - rfl ⟨forwarding, hwaiting, -⟩
      cases hspawned.symm.trans hwaiting
      exact .gap frame hgap (.inl (Outbound.mem_of_send hsent))
  · rename_i hclosed
    refine h.setTask ?_ ?_
    · intro spawned other _ hended
      cases hended
    · rintro d - - -
      refine .stopped ?_
      show session.writer = false
      cases hwriter : session.writer with
      | false => rfl
      | true => exact absurd (h.opened (.inl hwriter)) (Outbound.not_open_of_closed hclosed)
  · exact h

theorem forwardSnapshot (h : Accounted config due session) {task : Nat} {agentId : AgentId}
    (hspawned : session.tasks[task]? = some ⟨agentId, .snapshot⟩) {result : Option AgentSnapshot}
    (hcareful : Careful config session (.snapshot task result)) :
    Accounted config due (session.forward task .snapshot (.snapshot task result)) := by
  obtain ⟨snapshot, rfl, hagent, hfits⟩ := hcareful agentId hspawned
  refine h.setTask ?_ ?_
  · intro spawned frame hsame hgap
    cases hspawned.symm.trans hsame
    cases hgap
    exact ⟨⟨snapshot, hagent, rfl⟩, hfits⟩
  · rintro d - rfl ⟨forwarding, hwaiting, -⟩
    have hsame : agentId = d.agentId :=
      congrArg SubscriptionTask.agentId (Option.some.inj (hspawned.symm.trans hwaiting))
    refine .pending ⟨.gap (gapFrame snapshot .slowConsumer), ?_, .inr ⟨_, rfl⟩⟩
    rw [getElem?_setTask_self, hspawned, hsame]
    rfl

/-- What a task does at its turn. -/
theorem forwardTask (h : Accounted config due session) (task : Nat) {input : SessionInput}
    (hforward : ∀ agentId forwarding, session.tasks[task]? = some ⟨agentId, forwarding⟩ →
      Accounted config due (session.forward task forwarding input)) :
    Accounted config due (session.forwardTask task input) := by
  unfold Session.forwardTask
  split
  · rename_i spawned hspawned
    exact hforward spawned.agentId spawned.forwarding hspawned
  · exact h

/-- **A careful step keeps the accounts.** -/
theorem step (h : Accounted config due session) {input : SessionInput}
    (hcareful : Careful config session input) :
    Accounted config due (session.step config input) := by
  cases input with
  | resume => exact h.resume
  | subscribed result =>
    simp only [Session.step]
    split
    · exact h.subscribed hcareful
    · exact h
  | write ok =>
    simp only [Session.step]
    split
    · rename_i hwriter
      exact h.write hwriter ok
    · exact h
  | heartbeat ping active ok =>
    simp only [Session.step]
    split
    · rename_i hidle
      have hwriter := (Bool.and_eq_true _ _ ▸ hidle).1
      -- the ping goes past the lanes, straight into the log
      have hpinged := h.log (.webSocket (.ping ping))
      split
      · exact h.stop hwriter session.outbound
      split
      · exact hpinged
      · exact hpinged.stop hwriter session.outbound
    · exact h
  | readerEnds | writerEnded =>
    simp only [Session.step]
    split
    · exact h.finish
    · exact h
  | update task update =>
    refine h.forwardTask task fun agentId forwarding hspawned => ?_
    -- only a task that waits for updates takes one
    cases forwarding with
    | update => exact h.forwardUpdate hspawned hcareful
    | snapshot | gap | ended => exact h
  | lagged task =>
    refine h.forwardTask task fun agentId forwarding hspawned => ?_
    cases forwarding with
    | update => exact h.setTask_of_update hspawned fun _ heq => by cases heq
    | snapshot | gap | ended => exact h
  | closed task =>
    refine h.forwardTask task fun agentId forwarding hspawned => ?_
    cases forwarding with
    | update => exact h.setTask_of_update hspawned fun _ heq => by cases heq
    | snapshot | gap | ended => exact h
  | snapshot task result =>
    refine h.forwardTask task fun agentId forwarding hspawned => ?_
    cases forwarding with
    | snapshot => exact h.forwardSnapshot hspawned hcareful
    | update | gap | ended => cases result <;> exact h
  | resumeTask task =>
    refine h.forwardTask task fun agentId forwarding hspawned => ?_
    cases forwarding with
    | gap frame => exact h.sendGap hspawned
    | update | snapshot | ended => exact h

/-! ### The rest of a connection -/

theorem handleClientFrame (h : Accounted config due session) (device : DeviceRecord)
    (frame : ClientFrame) : Accounted config due (session.handleClientFrame device frame) := by
  cases frame with
  | request | uiResponse => exact h.setLoop trivial fun heq => by cases heq
  | subscribe request =>
    simp only [Session.handleClientFrame]
    split
    · exact h.reply (payloadFits_other rfl) _ _
    · exact h.setLoop trivial fun heq => by cases heq
  | unsubscribe agentId =>
    simp only [Session.handleClientFrame]
    split
    · exact h.reply (payloadFits_other rfl) _ _
    · exact h.abort agentId
  | ping | hello => exact h.reply (payloadFits_other rfl) _ _

theorem receive (h : Accounted config due session) (device : DeviceRecord) (message : Message) :
    Accounted config due (session.receive config device message) := by
  unfold Session.receive
  split
  · exact (h.setReceived _).handleClientFrame device _
  split
  · exact h.reply (payloadFits_other rfl) _ _
  · exact h.reply (payloadFits_webSocket _) _ _
  · exact h
  · exact h.finish
  · exact h.reply (payloadFits_other rfl) _ _

theorem reject (h : Accounted config due session) : Accounted config due session.reject :=
  have hdone : Accounted config due { session with loop := .done } :=
    h.setLoop trivial fun heq => by cases heq
  hdone.log (.webSocket .close)

theorem welcome (h : Accounted config due session) (hfirst : session.loop = .first)
    (device : DeviceRecord) (welcome : ServerWelcome) (sent : Bool) :
    Accounted config due (session.welcome device welcome sent) := by
  have hloop : (session.welcome device welcome sent).loop ≠ .first := by
    intro heq
    simp only [Session.welcome] at heq
    split at heq <;> cases heq
  refine ⟨?_, h.tasks, h.outbound, fun _ => hloop, fun heq => absurd heq hloop,
    fun _ => h.opened (.inr hfirst), h.mapped, ?_⟩
  · simp only [Session.welcome]
    split <;> trivial
  · -- nothing has been handed over yet
    intro d hd
    have htask := (h.told d hd).task
    rw [h.untasked hfirst] at htask
    exact absurd htask (Nat.not_lt_zero _)

end Accounted

/-! ### What is handed over -/

/-- An update is in the lane, or its task is about to tell of a gap. -/
theorem told_update {task : Nat} {agentId : AgentId} (update : AgentUpdate)
    (hspawned : session.tasks[task]? = some ⟨agentId, .update⟩) :
    Told ⟨task, agentId, updateFrame update, session.written.length⟩
      (session.step config (.update task update)) := by
  have htask := (List.getElem?_eq_some_iff.mp hspawned).1
  simp only [Session.step, Session.forwardTask, hspawned, Session.forward]
  cases hemit : emitUpdate update session.outbound with
  | mk ok outbound =>
    cases ok with
    | true =>
      refine ⟨htask, Nat.le_refl _, .delivered (.inl ?_)⟩
      have hin : (session.outbound.state (updateFrame update)).1 = true := congrArg Prod.fst hemit
      have hafter : (session.outbound.state (updateFrame update)).2 = outbound :=
        congrArg Prod.snd hemit
      exact hafter ▸ Outbound.mem_of_state hin
    | false =>
      refine ⟨?_, Nat.le_refl _, .pending ⟨.snapshot, ?_, .inl rfl⟩⟩
      · simpa only [Session.setTask, List.length_modify] using htask
      · rw [getElem?_setTask_self, hspawned]
        rfl

/-- What starts a subscription is in the lane, if there is room for all of it. -/
theorem told_spawn (hopened : session.writer = true → session.outbound.Open) {agentId : AgentId}
    {start : SubscriptionStart} {frame : ServerFrame} (hframe : frame ∈ startFrames start)
    (hroom : session.outbound.Room (startFrames start).length) :
    Told ⟨session.tasks.length, agentId, frame, session.written.length⟩
      (session.spawn agentId start) := by
  refine ⟨?_, Nat.le_refl _, ?_⟩
  · show session.tasks.length < (session.tasks ++ [_]).length
    rw [List.length_append]
    exact Nat.lt_succ_self _
  · cases hwriter : session.writer with
    | false => exact .stopped hwriter
    | true => exact .delivered (.inl (Outbound.mem_emitStart (hopened hwriter) hroom hframe))

theorem outbound_abort (session : Session) (agentId : AgentId) :
    (session.abort agentId).outbound = session.outbound ∧
      (session.abort agentId).writer = session.writer ∧
      (session.abort agentId).tasks.length = session.tasks.length ∧
      (session.abort agentId).written = session.written := by
  unfold Session.abort
  split
  · exact ⟨rfl, rfl, rfl, rfl⟩
  · exact ⟨rfl, rfl, List.length_modify _ _ _, rfl⟩

theorem told_start (h : Accounted config due session) {request : SubscribeRequest}
    {start : SubscriptionStart} {frame : ServerFrame} (hloop : session.loop = .subscribing request)
    (hstart : ∀ snapshot, start ≠ .resyncRequired snapshot) (hframe : frame ∈ startFrames start)
    (hcareful : Careful config session (.subscribed (.started start))) :
    Told ⟨session.tasks.length, request.agentId, frame, session.written.length⟩
      (session.step config (.subscribed (.started start))) := by
  obtain ⟨houtbound, hwriter, htasks, hwritten⟩ := session.outbound_abort request.agentId
  have hroom : session.outbound.Room (startFrames start).length := by
    cases start with
    | snapshot | replay => exact hcareful.2
    | resyncRequired snapshot => exact absurd rfl (hstart snapshot)
  have hspawn : session.step config (.subscribed (.started start)) =
      (session.abort request.agentId).spawn request.agentId start := by
    simp only [Session.step, hloop, Session.subscribed]
  rw [hspawn, ← htasks, ← hwritten]
  refine told_spawn ?_ hframe ?_
  · rw [houtbound, hwriter]
    exact fun hrunning => h.opened (.inl hrunning)
  · rwa [houtbound]

theorem told_resync (h : Accounted config due session) {agentId : AgentId}
    {snapshot : AgentSnapshot} (hloop : session.loop = .starting agentId snapshot)
    (hresumed : session.resume.loop = .receiving)
    (hcareful : Careful config session .resume) :
    Told ⟨session.tasks.length, agentId, .snapshot ⟨[snapshot]⟩, session.written.length⟩
      (session.step config .resume) := by
  have hroom := hcareful agentId snapshot hloop
  have hframe : (.snapshot ⟨[snapshot]⟩ : ServerFrame) ∈ startFrames (.resyncRequired snapshot) :=
    List.mem_singleton_self _
  simp only [Session.step, Session.resume, hloop] at hresumed ⊢
  split at hresumed
  · rename_i outbound hsent
    let sent : Session := { session with outbound, loop := .starting agentId snapshot }
    have hopened : sent.writer = true → sent.outbound.Open := fun hrunning =>
      Outbound.send_open hsent (h.opened (.inl hrunning))
    exact told_spawn hopened hframe (Outbound.room_send hsent (by decide) hroom)
  · exact told_spawn (fun hrunning => h.opened (.inl hrunning)) hframe hroom
  · rw [hloop] at hresumed
    cases hresumed

/-- The task of one subscription leaves the others alone. -/
theorem tasks_update {task other : Nat} (hne : other ≠ task) (update : AgentUpdate) :
    (session.step config (.update task update)).tasks[other]? = session.tasks[other]? := by
  simp only [Session.step, Session.forwardTask]
  split
  · simp only [Session.forward]
    split
    · rfl
    · exact getElem?_setTask_of_ne hne
    · rfl
  · rfl

/-- A frame that fits is written, and the writer goes on. -/
theorem write_fits (hwriter : session.writer = true) {frame : ServerFrame} {outbound : Outbound}
    (hnext : session.outbound.next = some (.protocol frame, outbound))
    (hfits : FrameFits config frame) : session.step config (.write true) =
      { session with outbound, written := session.written ++ [.protocol frame] } := by
  have hencodes := encodes_of_fits hfits
  simp [Session.step, hwriter, Session.write, hnext, hencodes]

/-- A payload that cannot be encoded stops the writer. -/
theorem write_refused (hwriter : session.writer = true) {payload : OutboundPayload}
    {outbound : Outbound} (hnext : session.outbound.next = some (payload, outbound))
    (hencodes : encodes config payload = false) (ok : Bool) :
    session.step config (.write ok) = { session with outbound }.stopWriter := by
  simp [Session.step, hwriter, Session.write, hnext, hencodes]

theorem accounted_new (outboundCapacity : Nat) (hdue : ∀ d, ¬ due d) :
    Accounted config due (new outboundCapacity) where
  loop := trivial
  tasks _ _ _ h := by cases h
  outbound := Outbound.All.new outboundCapacity
  started h := by cases h
  untasked _ := rfl
  opened _ _ := rfl
  mapped _ _ h := by cases h
  told d hd := absurd hd (hdue d)

end Session

/-! ## The server -/

namespace Server

variable {δ : Type} {config : ServerSessionConfig} {backend : Backend δ}
  {server : Server δ}

/-- The step hands a frame of an agent to the connection: an update of a subscription
that forwards, or what starts one. -/
inductive Hands (e : Event δ) (connection : Nat) : Due → Prop where
  | update {session : Session} {task : Nat} {agentId : AgentId} {update : AgentUpdate} :
      e.input = .session connection (.update task update) →
      e.before.session connection = some session →
      session.tasks[task]? = some ⟨agentId, .update⟩ →
      Hands e connection ⟨task, agentId, updateFrame update, session.written.length⟩
  | start {session : Session} {request : SubscribeRequest} {start : SubscriptionStart}
      {frame : ServerFrame} :
      e.input = .session connection (.subscribed (.started start)) →
      e.before.session connection = some session → session.loop = .subscribing request →
      (∀ snapshot, start ≠ .resyncRequired snapshot) → frame ∈ startFrames start →
      Hands e connection ⟨session.tasks.length, request.agentId, frame, session.written.length⟩
  | resync {session : Session} {agentId : AgentId} {snapshot : AgentSnapshot} :
      e.input = .session connection .resume → e.before.session connection = some session →
      session.loop = .starting agentId snapshot → session.resume.loop = .receiving →
      Hands e connection
        ⟨session.tasks.length, agentId, .snapshot ⟨[snapshot]⟩, session.written.length⟩

/-- What has been handed to the connection. -/
def DueOf (history : List (Event δ)) (connection : Nat) (d : Due) : Prop :=
  ∃ e ∈ history, Hands e connection d

/-- The subscriptions' part of a step is careful. -/
def Careful (config : ServerSessionConfig) (server : Server δ) : ServerInput → Prop
  | .session connection input => ∀ session, server.session connection = some session →
    Session.Careful config session input
  | _ => True

/-- All connections keep their accounts. -/
structure Accounts (config : ServerSessionConfig) (history : List (Event δ)) (server : Server δ) :
    Prop where
  fresh : ∀ connection session, server.session connection = some session →
    connection < server.accepted
  bounded : ∀ connection d, DueOf history connection d → connection < server.accepted
  sessions : ∀ connection session, server.session connection = some session →
    session.Accounted config (DueOf history connection)

theorem accounts_create (serverId : ServerId) : Accounts config [] (create (δ := δ) serverId) where
  fresh _ _ h := by cases h
  bounded _ _ hd := by
    obtain ⟨e, he, -⟩ := hd
    cases he
  sessions _ _ h := by cases h

theorem dueOf_append {history : List (Event δ)} {e : Event δ} {connection : Nat} {d : Due} :
    DueOf (history ++ [e]) connection d ↔ DueOf history connection d ∨ Hands e connection d := by
  constructor
  · rintro ⟨e', he', hhands⟩
    rcases List.mem_append.mp he' with hold | hnew
    · exact .inl ⟨e', hold, hhands⟩
    · rw [List.mem_singleton.mp hnew] at hhands
      exact .inr hhands
  · rintro (⟨e', he', hhands⟩ | hhands)
    · exact ⟨e', List.mem_append_left _ he', hhands⟩
    · exact ⟨e, List.mem_append_right _ (List.mem_singleton_self e), hhands⟩

theorem Hands.session {e : Event δ} {connection : Nat} {d : Due} (h : Hands e connection d) :
    e.input.isOf connection ∧ ∃ session, e.before.session connection = some session := by
  cases h with
  | update hinput hsession => exact ⟨⟨_, hinput⟩, _, hsession⟩
  | start hinput hsession => exact ⟨⟨_, hinput⟩, _, hsession⟩
  | resync hinput hsession => exact ⟨⟨_, hinput⟩, _, hsession⟩

theorem accounted_append {e : Event δ} {history : List (Event δ)}
    {connection : Nat} {session : Session}
    (h : session.Accounted config (DueOf history connection))
    (hnew : ∀ d, Hands e connection d → Session.Told d session) :
    session.Accounted config (DueOf (history ++ [e]) connection) :=
  { h with told := fun d hd => (dueOf_append.mp hd).elim (h.told d) (hnew d) }

variable [DecidableEq δ]

/-- The connection's turn, on careful steps. -/
theorem accounted_turn {due : Due → Prop} {connection : Nat} {session found : Session}
    {input : ServerInput} (h : session.Accounted config due)
    (hcareful : ∀ i, input = .session connection i → Session.Careful config session i)
    (hturn : Turn config connection session input found) : found.Accounted config due := by
  cases hturn with
  | step i hinput => exact h.step (hcareful i hinput)
  | same => exact h
  | receive device message => exact h.receive device message
  | reject => exact h.reject
  | welcome device welcome sent _ hfirst => exact h.welcome hfirst device welcome sent
  | answer => exact h.setLoop (payloadFits_other rfl) fun heq => by cases heq
  | finish => exact h.finish

/-- What the step hands over is accounted for after it. -/
theorem told_hands {history : List (Event δ)} {input : ServerInput} {connection : Nat}
    {session found : Session} {d : Due} (hsession : server.session connection = some session)
    (h : session.Accounted config (DueOf history connection))
    (hcareful : Careful config server input)
    (hturn : Turn config connection session input found)
    (hhands : Hands (Mealy.event (step config backend) server input) connection d) :
    found.Told d := by
  have hfound : ∀ i, input = .session connection i → found = session.step config i := by
    rintro i rfl
    cases hturn with
    | step j heq =>
      cases heq
      rfl
    | same hno => exact absurd ⟨i, rfl⟩ hno
    | receive _ _ hno => exact absurd ⟨i, rfl⟩ hno
    | reject hno => exact absurd ⟨i, rfl⟩ hno
    | welcome _ _ _ hno => exact absurd ⟨i, rfl⟩ hno
    | answer _ _ hno => exact absurd ⟨i, rfl⟩ hno
    | finish hno => exact absurd ⟨i, rfl⟩ hno
  have hsame {before : Session} (hbefore : server.session connection = some before) :
      before = session := Option.some.inj (hbefore.symm.trans hsession)
  cases hhands with
  | update hinput hbefore hspawned =>
    have hinput : input = _ := hinput
    obtain rfl := hsame hbefore
    rw [hfound _ hinput]
    exact Session.told_update _ hspawned
  | start hinput hbefore hloop hstart hframe =>
    have hinput : input = _ := hinput
    obtain rfl := hsame hbefore
    subst hinput
    rw [hfound _ rfl]
    exact Session.told_start h hloop hstart hframe (hcareful _ hsession)
  | resync hinput hbefore hloop hresumed =>
    have hinput : input = _ := hinput
    obtain rfl := hsame hbefore
    subst hinput
    rw [hfound _ rfl]
    exact Session.told_resync h hloop hresumed (hcareful _ hsession)

/-- **Careful steps keep all accounts.** -/
theorem accounts_step {history : List (Event δ)} {input : ServerInput}
    (h : Accounts config history server) (hcareful : Careful config server input) :
    Accounts config (history ++ [Mealy.event (step config backend) server input])
      (server.step config backend input).2 := by
  have hle : server.accepted ≤ (server.step config backend input).2.accepted :=
    accepted_le server input
  refine ⟨?_, ?_, ?_⟩
  · intro connection found hfound
    rcases session_step hfound with ⟨rfl, hup, rfl, -⟩ | ⟨session, hsession, -⟩
    · dsimp only [step]
      rw [if_pos hup]
      exact Nat.lt_succ_self _
    · exact Nat.lt_of_lt_of_le (h.fresh connection session hsession) hle
  · intro connection d hd
    rcases dueOf_append.mp hd with hold | hhands
    · exact Nat.lt_of_lt_of_le (h.bounded connection d hold) hle
    · obtain ⟨-, session, hsession⟩ := hhands.session
      exact Nat.lt_of_lt_of_le (h.fresh connection session hsession) hle
  · intro connection found hfound
    rcases session_step hfound with ⟨rfl, -, rfl, rfl⟩ | ⟨session, hsession, hturn⟩
    · -- nothing has been handed to a connection that is new
      refine Session.accounted_new _ fun d hd => ?_
      rcases dueOf_append.mp hd with hold | hhands
      · exact absurd (h.bounded _ d hold) (Nat.lt_irrefl _)
      · obtain ⟨⟨i, hinput⟩, -⟩ := hhands.session
        cases hinput
    · have hbase := h.sessions connection session hsession
      refine accounted_append (accounted_turn hbase ?_ hturn) fun d hhands =>
        told_hands hsession hbase hcareful hturn hhands
      rintro i rfl
      exact hcareful session hsession

/-! ### The law -/

/-- Frames of agents get through a run: the writer goes on after each that the
socket takes, what a subscription hands over is delivered or a gap is told of, and a
subscription that is refused leaves the others alone. -/
structure Survives (config : ServerSessionConfig) (history : List (Event δ)) (server : Server δ) :
    Prop where
  written : ∀ e ∈ history, ∀ connection session frame outbound,
    e.input = .session connection (.write true) → e.before.session connection = some session →
    session.writer = true → session.outbound.next = some (.protocol frame, outbound) →
    ServerFrame.ofAgent frame = true → ∃ after, e.after.session connection = some after ∧
      after.writer = true ∧ after.written = session.written ++ [.protocol frame]
  told : ∀ e ∈ history, ∀ connection d, Hands e connection d → ∀ session,
    server.session connection = some session → session.Told d
  alone : ∀ e ∈ history, ∀ connection session after task update,
    e.input = .session connection (.update task update) →
    e.before.session connection = some session → e.after.session connection = some after →
    ∀ other ≠ task, after.tasks[other]? = session.tasks[other]?

/-- **Careful runs deliver.**

In every run of the server, with any number of connections, messages, subscriptions,
requests and crashes, in which the frames that subscriptions hand over fit, starts
find room and agents answer for their gaps. -/
theorem updates_survive (config : ServerSessionConfig) (backend : Backend δ)
    (serverId : ServerId) (inputs : List ServerInput)
    (hcareful : Along (fun server input => (step config backend server input).2) (Careful config)
      (create serverId) inputs) :
    Survives config (history config backend serverId inputs)
      (Mealy.run (step config backend) (create serverId) inputs) := by
  have hstep : ∀ history (server : Server δ) input, Accounts config history server →
      Careful config server input →
      Accounts config (history ++ [Mealy.event (step config backend) server input])
        (server.step config backend input).2 := fun _ _ _ h hcareful => accounts_step h hcareful
  have hall := Mealy.history_invariant_along (accounts_create serverId) hstep hcareful
  refine ⟨?_, ?_, ?_⟩
  · intro e he connection session frame outbound hinput hbefore hwriter hnext hagent
    obtain ⟨pre, post, hsplit⟩ := List.append_of_mem he
    obtain ⟨before, rest, rfl, -, hevent⟩ := Mealy.trace_split hsplit
    have hat := Mealy.history_invariant_along (accounts_create serverId) hstep
      (along_append.mp hcareful).1
    have hsame : e.before = Mealy.run (step config backend) (create serverId) before := by
      rw [hevent]
      rfl
    rw [← hsame] at hat hevent
    have hfits := ((hat.sessions connection session hbefore).outbound.next hnext).1 frame rfl hagent
    have hafter : (e.before.step config backend (.session connection (.write true))).2.session
        connection = some (session.step config (.write true)) := own_step hbefore _
    rw [Session.write_fits hwriter hnext hfits] at hafter
    refine ⟨{ session with outbound, written := session.written ++ [.protocol frame] }, ?_,
      hwriter, rfl⟩
    rw [hevent, hinput]
    exact hafter
  · intro e he connection d hhands session hsession
    exact (hall.sessions connection session hsession).told d ⟨e, he, hhands⟩
  · intro e he connection session after task update hinput hbefore hafter other hne
    have hevent := Mealy.mem_trace he
    have hown : (e.before.step config backend (.session connection (.update task update))).2.session
        connection = some (session.step config (.update task update)) := own_step hbefore _
    rw [hevent, hinput] at hafter
    cases hown.symm.trans hafter
    exact Session.tasks_update hne update

/-- Nothing less will do for the writer: a frame that it takes has to fit. -/
theorem Survives.encodes {serverId : ServerId} {before rest : List ServerInput} {connection : Nat}
    {server' : Server δ} (h : Survives config (history config backend serverId
      (before ++ .session connection (.write true) :: rest)) server') {session : Session}
    {frame : ServerFrame} {outbound : Outbound}
    (hsession : (Mealy.run (step config backend) (create serverId) before).session connection =
      some session) (hwriter : session.writer = true)
    (hnext : session.outbound.next = some (.protocol frame, outbound))
    (hagent : ServerFrame.ofAgent frame = true) :
    Session.encodes config (.protocol frame) = true := by
  have hmem : Mealy.event (step config backend)
      (Mealy.run (step config backend) (create serverId) before)
      (.session connection (.write true)) ∈ history config backend serverId
        (before ++ .session connection (.write true) :: rest) := by
    rw [history, Mealy.trace_append]
    exact List.mem_append_right _ List.mem_cons_self
  obtain ⟨after, hafter, hgoes, -⟩ :=
    h.written _ hmem connection session frame outbound rfl hsession hwriter hnext hagent
  by_contra hrefused
  have hstopped : (step config backend (Mealy.run (step config backend) (create serverId) before)
      (.session connection (.write true))).2.session connection =
        some (session.step config (.write true)) := own_step hsession _
  rw [Session.write_refused hwriter hnext (Bool.eq_false_iff.mpr hrefused)] at hstopped
  cases hstopped.symm.trans hafter
  cases hgoes

/-! ### A run that is not careful -/

/-- So many letters: two to the power of `n`. -/
def letters : Nat → String
  | 0 => "a"
  | n + 1 => letters n ++ letters n

theorem utf8ByteSize_letters (n : Nat) : (letters n).utf8ByteSize = 2 ^ n := by
  induction n with
  | zero => rfl
  | succ n ih =>
    rw [letters, String.utf8ByteSize_append, ih]
    omega

/-- A server with the default limits, which writes the fields of an event as they are. -/
def textConfig : ServerSessionConfig where
  frameLimits := .default
  outboundCapacity := 4
  heartbeatIntervalMs := 15000
  serializer
    | .event ⟨_, _, .sessionEvent (.other _ fields)⟩ => ([⟨#[0xa1]⟩, fields.toByteArray], none)
    | _ => ([⟨#[0xa1]⟩], none)

/-- A message of the model, with the text given. -/
def messageUpdate (text : String) : AgentUpdate :=
  .event ⟨"agent"⟩ 1 (.sessionEvent (.other "message_update" ("\x7b\"text\":\"" ++ text ++ "\"\x7d")))

theorem not_fits_message : ¬ FrameFits textConfig (updateFrame (messageUpdate (letters 20))) := by
  rintro ⟨-, hle⟩
  have hsize := utf8ByteSize_letters 20
  have hheader : (ByteArray.mk #[0xa1]).size = 1 := rfl
  have hlimit : (textConfig.frameLimits.codec .authenticated).maxFrameBytes.1.toNat = 2 ^ 20 := rfl
  rw [hlimit] at hle
  simp only [updateFrame, messageUpdate, textConfig, piecesSize, List.map_cons, List.map_nil,
    List.sum_cons, List.sum_nil, String.size_toByteArray, String.utf8ByteSize_append, hsize] at hle
  omega

/-- A device pairs and subscribes to an agent, which then publishes an update. -/
def watching (update : AgentUpdate) : List ServerInput :=
  paired.take 4 ++
    [ServerInput.receive 0 (binary (.subscribe ⟨⟨"agent"⟩, none⟩)),
      .session 0 (.subscribed (.started (.snapshot (.initial ⟨"agent"⟩)))),
      .session 0 (.write true),
      .session 0 (.update 0 update)]

/-- **An update that is too large ends its connection.** -/
theorem oversized_kills : ¬ Survives textConfig
    (history textConfig plainBackend ⟨"server"⟩
      (watching (messageUpdate (letters 20)) ++ [.session 0 (.write true)]))
    (Mealy.run (step textConfig plainBackend) (create ⟨"server"⟩)
      (watching (messageUpdate (letters 20)) ++ [.session 0 (.write true)])) := by
  intro h
  generalize hupdate : messageUpdate (letters 20) = update at h
  have hfits := not_fits_message
  rw [hupdate] at hfits
  have hencodes : Session.encodes textConfig (.protocol (updateFrame update)) = false := by
    refine Bool.eq_false_iff.mpr fun hencodes => hfits ?_
    exact CborCodec.encode_isOk.mp hencodes
  obtain ⟨session, outbound, hsession, hwriter, hnext⟩ : ∃ session outbound,
      (Mealy.run (step textConfig plainBackend) (create ⟨"server"⟩) (watching update)).session 0 =
        some session ∧ session.writer = true ∧
        session.outbound.next = some (.protocol (updateFrame update), outbound) :=
    ⟨_, _, rfl, rfl, rfl⟩
  have hneeds := h.encodes hsession hwriter hnext
    (ofAgent_updateFrame update)
  rw [hencodes] at hneeds
  cases hneeds

/-- A small update is delivered. -/
theorem updates_survive_small :
    Survives textConfig
      (history textConfig plainBackend ⟨"server"⟩
        (watching (messageUpdate "") ++ [.session 0 (.write true)]))
      (Mealy.run (step textConfig plainBackend) (create ⟨"server"⟩)
        (watching (messageUpdate "") ++ [.session 0 (.write true)])) := by
  refine updates_survive textConfig plainBackend ⟨"server"⟩ _ ?_
  have hlimit : (textConfig.frameLimits.codec .authenticated).maxFrameBytes.1.toNat = 2 ^ 20 := rfl
  refine ⟨trivial, trivial, trivial, trivial, trivial, ?_, ?_, ?_, ?_, trivial⟩
  · intro session hsession
    refine ⟨?_, ?_⟩
    · intro frame hframe
      rw [List.mem_singleton.mp hframe]
      exact ⟨rfl, by rw [hlimit]; decide⟩
    · cases hsession
      exact Nat.le_of_ble_eq_true rfl
  · intro session hsession
    trivial
  · intro session hsession
    exact ⟨rfl, by rw [hlimit]; decide +kernel⟩
  · intro session hsession
    trivial
end Server

end OmpRemote.Ompd

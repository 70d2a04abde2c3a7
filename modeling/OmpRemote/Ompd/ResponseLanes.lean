import OmpRemote.Ompd.Delivery

/-!
# The response lane

A response waits for room in the response lane, is queued there, and is written. No other
lane carries responses, and no task but the loop makes one.

- `Carries`: the responses that are queued.
- `Orderly`: where the responses of a connection are, its writer running or not.
- `Orderly.step`: whatever the connection's tasks do, they stay in order.
-/

namespace OmpRemote.Ompd

open Lib

/-- The response that a payload carries. -/
def OutboundPayload.response? : OutboundPayload → Option ResponseEnvelope
  | .protocol (.response response) => some response
  | _ => none

def responses (payloads : List OutboundPayload) : List ResponseEnvelope :=
  payloads.filterMap OutboundPayload.response?

@[simp] theorem responses_nil : responses [] = [] := rfl

@[simp] theorem responses_append (payloads payloads' : List OutboundPayload) :
    responses (payloads ++ payloads') = responses payloads ++ responses payloads' :=
  List.filterMap_append

theorem responses_cons (payload : OutboundPayload) (payloads : List OutboundPayload) :
    responses (payload :: payloads) = payload.response?.toList ++ responses payloads := by
  unfold responses
  rw [List.filterMap_cons]
  cases payload.response? <;> rfl

@[simp] theorem response?_webSocket (message : Message) :
    (OutboundPayload.webSocket message).response? = none := rfl

@[simp] theorem response?_error (error : ProtocolError) : (Ompd.error error).response? = none := rfl

theorem response?_updateFrame (update : AgentUpdate) :
    (OutboundPayload.protocol (updateFrame update)).response? = none := by
  unfold updateFrame
  split <;> rfl

@[simp] theorem response?_gapFrame (snapshot : AgentSnapshot) (reason : ReplayGapReason) :
    (OutboundPayload.protocol (gapFrame snapshot reason)).response? = none := rfl

/-! ## The lanes -/

namespace Outbound

variable {outbound outbound' : Outbound} {queue : List ResponseEnvelope}

/-- The responses of the lanes are `queue`, and all of them are in the response lane. -/
structure Carries (outbound : Outbound) (queue : List ResponseEnvelope) : Prop where
  apart : ∀ lane, lane ≠ .response → responses (outbound.lane lane).buffer = []
  queued : responses (outbound.lane .response).buffer = queue

theorem Carries.new (capacity : Nat) : (Outbound.new capacity).Carries [] := ⟨fun _ _ => rfl, rfl⟩

theorem Carries.close (outbound : Outbound) : outbound.close.Carries [] := ⟨fun _ _ => rfl, rfl⟩

/-- What sending adds, it adds at the end of the queue. -/
theorem Carries.send (h : outbound.Carries queue) {lane : Lane} {payload : OutboundPayload}
    (hlane : lane ≠ .response → payload.response? = none)
    (hsent : outbound.send lane payload = .sent outbound') :
    outbound'.Carries (queue ++ payload.response?.toList) := by
  obtain ⟨rfl, -⟩ := send_sent hsent
  constructor
  · intro other hother
    rw [setLane_lane]
    by_cases hsame : other = lane
    · subst hsame
      rw [Function.update_self]
      show responses (_ ++ [payload]) = []
      rw [responses_append, h.apart other hother, responses_cons, hlane hother]
      rfl
    · rw [Function.update_of_ne hsame]
      exact h.apart other hother
  · rw [setLane_lane]
    by_cases hsame : Lane.response = lane
    · subst hsame
      rw [Function.update_self]
      show responses (_ ++ [payload]) = _
      rw [responses_append, h.queued, responses_cons, responses_nil, List.append_nil]
    · rw [Function.update_of_ne hsame, h.queued, hlane (Ne.symm hsame), Option.toList_none,
        List.append_nil]

theorem Carries.sendOther (h : outbound.Carries queue) {lane : Lane} {payload : OutboundPayload}
    (hnone : payload.response? = none) (hsent : outbound.send lane payload = .sent outbound') :
    outbound'.Carries queue := by
  have hcarries := h.send (fun _ => hnone) hsent
  rwa [hnone, Option.toList_none, List.append_nil] at hcarries

theorem Carries.state (h : outbound.Carries queue) {frame : ServerFrame}
    (hnone : (OutboundPayload.protocol frame).response? = none) :
    (outbound.state frame).2.Carries queue := by
  unfold Outbound.state
  split
  · rename_i sent hsent
    exact h.sendOther hnone hsent
  · exact h
  · exact h

theorem Carries.emitReplay (h : outbound.Carries queue) (updates : List AgentUpdate) :
    (emitReplay outbound updates).Carries queue := by
  induction updates generalizing outbound with
  | nil => exact h
  | cons update updates ih =>
    have hfirst := h.state (response?_updateFrame update)
    unfold Ompd.emitReplay emitUpdate
    cases hstate : outbound.state (updateFrame update) with
    | mk ok after =>
      rw [hstate] at hfirst
      cases ok with
      | true => exact ih hfirst
      | false => exact hfirst

theorem Carries.emitStart (h : outbound.Carries queue) (start : SubscriptionStart) :
    (emitStart outbound start).Carries queue := by
  cases start with
  | snapshot | resyncRequired => exact h.state rfl
  | replay updates => exact h.emitReplay updates

theorem Carries.poll (h : outbound.Carries queue) {lane : Lane} {payload : OutboundPayload}
    (hpoll : outbound.poll lane = some (payload, outbound')) :
    ∃ rest, queue = payload.response?.toList ++ rest ∧ outbound'.Carries rest := by
  unfold Outbound.poll at hpoll
  split at hpoll
  · rename_i taken channel hitem
    cases hpoll
    obtain ⟨hbuffer, -⟩ := Mpsc.poll_item hitem
    by_cases hlane : lane = .response
    · subst hlane
      refine ⟨responses channel.buffer, ?_, ?_, ?_⟩
      · rw [← h.queued, hbuffer, responses_cons]
      · intro other hother
        rw [setLane_lane, Function.update_of_ne hother]
        exact h.apart other hother
      · rw [setLane_lane, Function.update_self]
    · -- another lane yields no response
      have hnone := h.apart lane hlane
      rw [hbuffer, responses_cons, List.append_eq_nil_iff] at hnone
      refine ⟨queue, ?_, ?_, ?_⟩
      · rw [hnone.1, List.nil_append]
      · intro other hother
        rw [setLane_lane]
        by_cases hsame : other = lane
        · subst hsame
          rw [Function.update_self]
          exact hnone.2
        · rw [Function.update_of_ne hsame]
          exact h.apart other hother
      · rw [setLane_lane, Function.update_of_ne (Ne.symm hlane)]
        exact h.queued
  · cases hpoll
  · cases hpoll

/-- The writer takes responses from the front of the queue. -/
theorem Carries.next (h : outbound.Carries queue) {payload : OutboundPayload}
    (hnext : outbound.next = some (payload, outbound')) :
    ∃ rest, queue = payload.response?.toList ++ rest ∧ outbound'.Carries rest := by
  unfold Outbound.next at hnext
  split at hnext
  · rename_i hcontrol
    exact h.poll (hcontrol.trans hnext)
  split at hnext
  · rename_i hresponse
    exact h.poll (hresponse.trans hnext)
  · exact h.poll hnext

end Outbound

/-! ## Connections -/

namespace Session

variable {config : ServerSessionConfig} {session : Session} {given : List ResponseEnvelope}

/-- The response that the loop has for its lane. -/
def held : Loop → List ResponseEnvelope
  | .sending _ payload _ _ => payload.response?.toList
  | _ => []

/-- Only the response lane is sent responses. -/
def LoopApart : Loop → Prop
  | .sending lane payload _ _ => lane ≠ .response → payload.response? = none
  | _ => True

/-- The connection can still be written to. -/
def Live (session : Session) : Prop := session.writer = true ∨ session.loop = .first

/-- The responses `given` so far are written in this order, as far as the writer got;
while it runs, the rest are queued or held. -/
structure Orderly (given : List ResponseEnvelope) (session : Session) : Prop where
  loop : LoopApart session.loop
  tasks : ∀ spawned ∈ session.tasks, ∀ frame, spawned.forwarding = .gap frame →
    (OutboundPayload.protocol frame).response? = none
  started : session.writer = true → session.loop ≠ .first
  opened : session.Live → session.outbound.Open
  written : responses session.written <+: given
  whole : ∃ queue, session.outbound.Carries queue ∧
    (session.Live → responses session.written ++ (queue ++ held session.loop) = given)

theorem orderly_new (outboundCapacity : Nat) : Orderly [] (new outboundCapacity) where
  loop := trivial
  tasks _ h := by cases h
  started h := by cases h
  opened _ _ := rfl
  written := List.prefix_rfl
  whole := ⟨[], .new outboundCapacity, fun _ => rfl⟩

/-- The loop goes on to where it holds what it held. -/
theorem Orderly.setLoop (h : Orderly given session) {loop : Loop} (hapart : LoopApart loop)
    (hheld : held loop = held session.loop) (hloop : loop ≠ .first) :
    Orderly given { session with loop } := by
  obtain ⟨queue, hcarries, hwhole⟩ := h.whole
  have hlive : Live { session with loop } → session.Live := by
    rintro (hwriter | hat)
    · exact .inl hwriter
    · exact absurd hat hloop
  refine ⟨hapart, h.tasks, fun _ => hloop, fun live => h.opened (hlive live), h.written,
    queue, hcarries, ?_⟩
  intro live
  show responses session.written ++ (queue ++ held loop) = given
  rw [hheld]
  exact hwhole (hlive live)

/-- The lanes change, but for the responses. -/
theorem Orderly.setOutbound (h : Orderly given session) {outbound : Outbound}
    (hopen : session.outbound.Open → outbound.Open)
    (hcarries : ∀ queue, session.outbound.Carries queue → outbound.Carries queue) :
    Orderly given { session with outbound } := by
  obtain ⟨queue, hbefore, hwhole⟩ := h.whole
  exact ⟨h.loop, h.tasks, h.started, fun live => hopen (h.opened live), h.written,
    queue, hcarries queue hbefore, hwhole⟩

theorem Orderly.setTasks (h : Orderly given session) {tasks : List SubscriptionTask}
    (htasks : ∀ spawned ∈ tasks, ∀ frame, spawned.forwarding = .gap frame →
      (OutboundPayload.protocol frame).response? = none)
    (subscriptions : Table AgentId Nat) : Orderly given { session with tasks, subscriptions } :=
  ⟨h.loop, htasks, h.started, h.opened, h.written, h.whole⟩

/-- Once nobody writes, what is not written is lost. -/
theorem Orderly.silence (h : Orderly given session) {session' : Session}
    (hloop : LoopApart session'.loop)
    (htasks : ∀ spawned ∈ session'.tasks, ∀ frame, spawned.forwarding = .gap frame →
      (OutboundPayload.protocol frame).response? = none)
    (hwriter : session'.writer = false) (hfirst : session'.loop ≠ .first)
    (hwritten : responses session'.written = responses session.written)
    (hcarries : ∃ queue, session'.outbound.Carries queue) : Orderly given session' := by
  have hdead : ¬ session'.Live := by
    rintro (hon | hat)
    · exact Bool.noConfusion (hwriter.symm.trans hon)
    · exact hfirst hat
  obtain ⟨queue, hqueue⟩ := hcarries
  refine ⟨hloop, htasks, ?_, fun live => absurd live hdead, ?_, queue, hqueue,
    fun live => absurd live hdead⟩
  · intro hon
    exact Bool.noConfusion (hwriter.symm.trans hon)
  · rw [hwritten]
    exact h.written

theorem Orderly.finish (h : Orderly given session) : Orderly given session.finish := by
  refine h.silence trivial ?_ rfl nofun rfl ⟨[], .close _⟩
  intro spawned hspawned frame hgap
  obtain ⟨task, -, rfl⟩ := List.mem_map.mp hspawned
  cases hgap

theorem Orderly.stopWriter (h : Orderly given session) (hwriter : session.writer = true) :
    Orderly given session.stopWriter := by
  refine h.silence h.loop h.tasks rfl (h.started hwriter) ?_ ⟨[], .close _⟩
  show responses (session.written ++ [_]) = _
  rw [responses_append]
  exact List.append_nil _

theorem Orderly.reject (h : Orderly given session) (hfirst : session.loop = .first) :
    Orderly given session.reject := by
  obtain ⟨queue, hcarries, -⟩ := h.whole
  refine h.silence trivial h.tasks ?_ nofun ?_ ⟨queue, hcarries⟩
  · cases hwriter : session.writer with
    | false => exact hwriter
    | true => exact absurd hfirst (h.started hwriter)
  · show responses (session.written ++ [_]) = _
    rw [responses_append]
    exact List.append_nil _

theorem Orderly.setTask (h : Orderly given session) {task : Nat} {forwarding : Forwarding}
    (hgap : ∀ frame, forwarding = .gap frame →
      (OutboundPayload.protocol frame).response? = none) :
    Orderly given (session.setTask task forwarding) := by
  refine h.setTasks ?_ session.subscriptions
  intro spawned hspawned frame hforwarding
  have hspawned : spawned ∈ (session.setTask task forwarding).tasks := hspawned
  obtain ⟨other, hother⟩ := List.mem_iff_getElem?.mp hspawned
  by_cases hsame : other = task
  · subst hsame
    rw [getElem?_setTask_self] at hother
    obtain ⟨old, -, rfl⟩ := Option.map_eq_some_iff.mp hother
    exact hgap frame hforwarding
  · rw [getElem?_setTask_of_ne hsame] at hother
    exact h.tasks spawned (List.mem_of_getElem? hother) frame hforwarding

theorem Orderly.abort (h : Orderly given session) (agentId : AgentId) :
    Orderly given (session.abort agentId) := by
  unfold Session.abort
  split
  · exact h
  · rename_i task _
    have hended : Orderly given (session.setTask task .ended) := h.setTask fun _ heq => nomatch heq
    exact hended.setTasks hended.tasks _

theorem loop_abort (session : Session) (agentId : AgentId) :
    (session.abort agentId).loop = session.loop := by
  unfold Session.abort
  split <;> rfl

theorem Orderly.spawn (h : Orderly given session) (agentId : AgentId) (start : SubscriptionStart)
    (hheld : held session.loop = []) : Orderly given (session.spawn agentId start) := by
  have hreceiving : Orderly given { session with loop := .receiving } :=
    h.setLoop trivial hheld.symm nofun
  have hemitted := hreceiving.setOutbound (fun hopen => Outbound.emitStart_open hopen start)
    (fun queue hcarries => hcarries.emitStart start)
  refine hemitted.setTasks ?_ _
  intro spawned hspawned frame hgap
  rcases List.mem_append.mp hspawned with hold | hnew
  · exact h.tasks spawned hold frame hgap
  · rw [List.mem_singleton.mp hnew] at hgap
    cases hgap

/-- What the loop holds gets into its lane. -/
theorem Orderly.sent (h : Orderly given session) {lane : Lane} {payload : OutboundPayload}
    {onSent onClosed : Bool} {outbound : Outbound}
    (hloop : session.loop = .sending lane payload onSent onClosed)
    (hsent : session.outbound.send lane payload = .sent outbound) :
    Orderly given { session with outbound, loop := .receiving } := by
  obtain ⟨queue, hcarries, hwhole⟩ := h.whole
  have hapart := h.loop
  rw [hloop] at hapart hwhole
  have hlive : Live { session with outbound, loop := .receiving } → session.Live := by
    rintro (hwriter | hat)
    · exact .inl hwriter
    · cases hat
  refine ⟨trivial, h.tasks, fun _ => nofun,
    fun live => Outbound.send_open hsent (h.opened (hlive live)), h.written, _,
    hcarries.send hapart hsent, ?_⟩
  intro live
  show responses session.written ++ (queue ++ payload.response?.toList ++ []) = given
  rw [List.append_nil]
  exact hwhole (hlive live)

/-- A lane is closed only when the writer is gone, and then nothing is owed. -/
theorem Orderly.dropped (h : Orderly given session) {lane : Lane} {payload : OutboundPayload}
    (hclosed : session.outbound.send lane payload = .closed) :
    Orderly given { session with loop := .receiving } := by
  have hwriter : session.writer = false := by
    cases hon : session.writer with
    | false => rfl
    | true => exact absurd (h.opened (.inl hon)) (Outbound.not_open_of_closed hclosed)
  obtain ⟨queue, hcarries, -⟩ := h.whole
  exact h.silence trivial h.tasks hwriter nofun rfl ⟨queue, hcarries⟩

theorem Orderly.resume (h : Orderly given session) : Orderly given session.resume := by
  unfold Session.resume
  split
  · rename_i lane payload onSent onClosed hloop
    split
    · rename_i outbound hsent
      have hqueued := h.sent hloop hsent
      split
      · exact hqueued
      · exact hqueued.finish
    · rename_i hclosed
      split
      · exact h.dropped hclosed
      · exact h.finish
    · exact h
  · rename_i agentId snapshot hloop
    have hheld : held session.loop = [] := by rw [hloop]; rfl
    split
    · rename_i outbound hsent
      have hgap := h.setOutbound (fun hopen => Outbound.send_open hsent hopen)
        (fun queue hcarries => hcarries.sendOther (response?_gapFrame snapshot _) hsent)
      exact hgap.spawn agentId _ hheld
    · exact h.spawn agentId _ hheld
    · exact h
  · exact h

theorem Orderly.reply (h : Orderly given session) {payload : OutboundPayload}
    (hnone : payload.response? = none) (hheld : held session.loop = []) (onSent onClosed : Bool) :
    Orderly given (session.reply payload onSent onClosed) := by
  refine h.setLoop (fun _ => hnone) ?_ nofun
  show payload.response?.toList = _
  rw [hnone, hheld]
  rfl

theorem Orderly.subscribed (h : Orderly given session) {request : SubscribeRequest}
    (hloop : session.loop = .subscribing request) (result : Subscribed) :
    Orderly given (session.subscribed request result) := by
  have hheld : held session.loop = [] := by rw [hloop]; rfl
  have haborted := h.abort request.agentId
  have hsame := (congrArg held (loop_abort session request.agentId)).trans hheld
  cases result with
  | agentNotFound => exact h.reply (response?_error _) hheld true true
  | failed => exact h.reply (response?_error _) hheld true true
  | started start =>
    cases start with
    | resyncRequired snapshot => exact haborted.setLoop trivial hsame.symm nofun
    | snapshot | replay => exact haborted.spawn request.agentId _ hsame

theorem Orderly.log (h : Orderly given session) {payload : OutboundPayload}
    (hnone : payload.response? = none) :
    Orderly given { session with written := session.written ++ [payload] } := by
  have hsame : responses (session.written ++ [payload]) = responses session.written := by
    rw [responses_append, responses_cons, hnone]
    exact List.append_nil _
  obtain ⟨queue, hcarries, hwhole⟩ := h.whole
  refine ⟨h.loop, h.tasks, h.started, h.opened, ?_, queue, hcarries, ?_⟩
  · show responses (session.written ++ [payload]) <+: given
    rw [hsame]
    exact h.written
  · intro live
    show responses (session.written ++ [payload]) ++ _ = given
    rw [hsame]
    exact hwhole live

/-- The writer writes what it takes, or ends. -/
theorem Orderly.write (h : Orderly given session) (hwriter : session.writer = true) (ok : Bool) :
    Orderly given (session.write config ok) := by
  unfold Session.write
  split
  · exact h
  rename_i payload outbound hnext
  obtain ⟨queue, hcarries, hwhole⟩ := h.whole
  obtain ⟨rest, rfl, hrest⟩ := hcarries.next hnext
  have hall := hwhole (.inl hwriter)
  have hnow : responses (session.written ++ [payload]) ++ (rest ++ held session.loop) = given := by
    rw [← hall, responses_append, responses_cons, responses_nil, List.append_nil,
      List.append_assoc, List.append_assoc]
  have hprefix : responses (session.written ++ [payload]) <+: given := ⟨_, hnow⟩
  have hopen : outbound.Open := (Outbound.next_takes hnext).2 (h.opened (.inl hwriter))
  have htaken : Orderly given
      { session with outbound, written := session.written ++ [payload] } :=
    ⟨h.loop, h.tasks, h.started, fun _ => hopen, hprefix, rest, hrest, fun _ => hnow⟩
  dsimp only
  split
  · -- it cannot be encoded
    refine h.silence h.loop h.tasks rfl (h.started hwriter) ?_ ⟨[], .close _⟩
    show responses (session.written ++ [_]) = _
    rw [responses_append]
    exact List.append_nil _
  · split
    · exact htaken
    · exact htaken.stopWriter hwriter

theorem Orderly.forward (h : Orderly given session) {task : Nat} {spawned : SubscriptionTask}
    (hspawned : session.tasks[task]? = some spawned) (input : SessionInput) :
    Orderly given (session.forward task spawned.forwarding input) := by
  have hasked : Orderly given (session.setTask task .snapshot) := h.setTask fun _ heq => nomatch heq
  have hended : Orderly given (session.setTask task .ended) := h.setTask fun _ heq => nomatch heq
  cases input with
  | update _ update =>
    have hupdated : Orderly given
        { session with outbound := (emitUpdate update session.outbound).2 } :=
      h.setOutbound (fun hopen => Outbound.state_open hopen _)
        (fun queue hcarries => hcarries.state (response?_updateFrame update))
    simp only [Session.forward]
    split
    · rename_i outbound _ hemit
      rwa [hemit] at hupdated
    · rename_i outbound _ hemit
      rw [hemit] at hupdated
      exact hupdated.setTask fun _ heq => nomatch heq
    · exact h
  | lagged =>
    simp only [Session.forward]
    split
    · exact hasked
    · exact h
  | closed =>
    simp only [Session.forward]
    split
    · exact hended
    · exact h
  | snapshot _ snapshot =>
    cases snapshot with
    | none =>
      simp only [Session.forward]
      split
      · exact hended
      · exact h
    | some snapshot =>
      simp only [Session.forward]
      split
      · refine h.setTask ?_
        rintro frame ⟨⟩
        exact response?_gapFrame snapshot _
      · exact h
  | resumeTask =>
    simp only [Session.forward]
    split
    · rename_i frame hgap
      have hnone := h.tasks spawned (List.mem_of_getElem? hspawned) frame hgap
      split
      · rename_i outbound hsent
        have hsentGap := h.setOutbound (fun hopen => Outbound.send_open hsent hopen)
          (fun queue hcarries => hcarries.sendOther hnone hsent)
        exact hsentGap.setTask fun _ heq => nomatch heq
      · exact hended
      · exact h
    · exact h
  | resume | subscribed | write | heartbeat | readerEnds | writerEnded => exact h

theorem Orderly.forwardTask (h : Orderly given session) (task : Nat) (input : SessionInput) :
    Orderly given (session.forwardTask task input) := by
  unfold Session.forwardTask
  split
  · rename_i spawned hspawned
    exact h.forward hspawned input
  · exact h

/-- **Nothing the tasks of a connection do makes, loses or reorders a response**, while
the writer runs. -/
theorem Orderly.step (h : Orderly given session) (input : SessionInput) :
    Orderly given (session.step config input) := by
  cases input with
  | resume => exact h.resume
  | subscribed result =>
    simp only [Session.step]
    split
    · rename_i request hloop
      exact h.subscribed hloop result
    · exact h
  | write ok =>
    simp only [Session.step]
    split
    · rename_i hwriter
      exact h.write hwriter ok
    · exact h
  | heartbeat ping active ok =>
    simp only [Session.step]
    split
    · rename_i hidle
      have hwriter : session.writer = true := (Bool.and_eq_true_iff.mp hidle).1
      have hpinged := h.log (response?_webSocket (.ping ping))
      split
      · exact h.stopWriter hwriter
      · split
        · exact hpinged
        · exact hpinged.stopWriter hwriter
    · exact h
  | readerEnds | writerEnded =>
    simp only [Session.step]
    split
    · exact h.finish
    · exact h
  | update | lagged | closed | snapshot | resumeTask => exact h.forwardTask _ _

theorem Orderly.handleClientFrame (h : Orderly given session) (hloop : session.loop = .receiving)
    (device : DeviceRecord) (frame : ClientFrame) :
    Orderly given (session.handleClientFrame device frame) := by
  have hheld : held session.loop = [] := by rw [hloop]; rfl
  cases frame with
  | request envelope | uiResponse envelope =>
    exact h.setLoop trivial hheld.symm (by intro heq; cases heq)
  | ping nonce => exact h.reply rfl hheld true false
  | hello hello => exact h.reply rfl hheld false false
  | subscribe request =>
    simp only [Session.handleClientFrame]
    split
    · exact h.reply rfl hheld true false
    · exact h.setLoop trivial hheld.symm (by intro heq; cases heq)
  | unsubscribe agentId =>
    simp only [Session.handleClientFrame]
    split
    · exact h.reply rfl hheld true false
    · exact h.abort agentId

theorem Orderly.receive (h : Orderly given session) (hloop : session.loop = .receiving)
    (device : DeviceRecord) (message : Message) :
    Orderly given (session.receive config device message) := by
  have hheld : held session.loop = [] := by rw [hloop]; rfl
  unfold Session.receive
  split
  · rename_i frame _
    have hlogged : Orderly given { session with received := session.received ++ [frame] } :=
      ⟨h.loop, h.tasks, h.started, h.opened, h.written, h.whole⟩
    exact hlogged.handleClientFrame hloop device frame
  · split
    · exact h.reply rfl hheld false false
    · exact h.reply rfl hheld true false
    · exact h
    · exact h.finish
    · exact h.reply rfl hheld false false

theorem Orderly.welcome (h : Orderly given session) (hfirst : session.loop = .first)
    (device : DeviceRecord) (welcome : ServerWelcome) (sent : Bool) :
    Orderly given (session.welcome device welcome sent) := by
  have hlogged : Orderly given
      { session with written := session.written ++ [.protocol (.welcome welcome)] } := h.log rfl
  obtain ⟨queue, hcarries, hwhole⟩ := hlogged.whole
  have hall := hwhole (.inr hfirst)
  rw [show held session.loop = [] by rw [hfirst]; rfl] at hall
  refine ⟨?_, h.tasks, ?_, fun _ => h.opened (.inr hfirst), hlogged.written, queue, hcarries, ?_⟩
  · cases sent <;> exact trivial
  · cases sent <;> exact fun _ => nofun
  · intro _
    cases sent <;> exact hall

/-- A request is answered: its response is held for the lane. -/
theorem Orderly.answer (h : Orderly given session) {requestId : RequestId}
    (hloop : session.loop = .executing requestId) (outcome : ResponseOutcome) :
    Orderly (given ++ [⟨requestId, outcome⟩]) { session with
      loop := .sending .response (.protocol (.response ⟨requestId, outcome⟩)) true false } := by
  obtain ⟨queue, hcarries, hwhole⟩ := h.whole
  rw [hloop] at hwhole
  have hlive : Live { session with
      loop := .sending .response (.protocol (.response ⟨requestId, outcome⟩)) true false } →
      session.Live := by
    rintro (hwriter | hat)
    · exact .inl hwriter
    · cases hat
  refine ⟨fun hne => absurd rfl hne, h.tasks, fun _ => nofun, fun live => h.opened (hlive live),
    h.written.trans (List.prefix_append _ _), queue, hcarries, ?_⟩
  intro live
  rw [← hwhole (hlive live)]
  show _ ++ (queue ++ [⟨requestId, outcome⟩]) = _ ++ (queue ++ []) ++ [⟨requestId, outcome⟩]
  rw [List.append_nil, List.append_assoc]

end Session

end OmpRemote.Ompd

import OmpRemote.Ompd.AtMostOnce
import OmpRemote.Ompd.Server

/-!
# Authorization

What the server does for a connection depends on the device that its first frame
authenticated, and on nothing that it sends later.

- `Session.Discreet`: a connection whose device lacks the observe scope has
  nothing of agents in its lanes, and no task that could put it there.
- `Advance`: what one step of a request does, by where the request is.
- `Lawful`: connections, requests and the ledger agree with the scopes.
- `authorization`: the law over whole runs.
-/

namespace OmpRemote.Ompd

open Lib

/-! ## What frames show -/

/-- The outcome shows an agent. -/
def ResponseOutcome.reveals : ResponseOutcome → Bool
  | .success (.agents _) | .success (.agent _) => true
  | _ => false

/-- The frame shows something of an agent. -/
def ServerFrame.reveals : ServerFrame → Bool
  | .snapshot _ | .delta _ | .event _ | .interactionRequest _ | .replayGap _ => true
  | .response envelope => ResponseOutcome.reveals envelope.outcome
  | _ => false

/-- The payload shows nothing of any agent. -/
def Plain (payload : OutboundPayload) : Prop :=
  ∀ frame, payload = .protocol frame → ServerFrame.reveals frame = false

theorem plain_error (error : ProtocolError) : Plain (Ompd.error error) := by
  rintro frame ⟨⟩
  rfl

theorem plain_webSocket (message : Message) : Plain (.webSocket message) := by
  intro frame h
  cases h

theorem reveals_execute {request : ControlRequest} {result : Except ControllerError Returned}
    (h : ResponseOutcome.reveals (execute request result) = true) :
    request.isMutating = false ∧ ∀ scopes, authorized scopes request = scopes.observe := by
  cases result with
  | error error => cases h
  | ok returned => cases request <;> first | exact ⟨rfl, fun _ => rfl⟩ | cases h

/-! ## Replayed outcomes -/

/-- A claim that is answered by an outcome finds it in a completed row. -/
theorem Store.claimOperation_completed {δ : Type} [DecidableEq δ] {backend : Backend δ}
    {store : Store δ} {key : OperationKey} {request : ControlRequest} {nowMs : UInt64}
    {fault : Option Nat} {outcome : ResponseOutcome}
    (h : (store.claimOperation backend key request nowMs fault).1 = .ok (.completed outcome)) :
    ∃ row bytes, store.operations.lookup key = some row ∧ row.status = .completed ∧
      row.outcomeCbor = some bytes ∧ backend.decodeOutcome bytes = .ok outcome := by
  unfold claimOperation at h
  split at h
  · cases h
  dsimp only at h
  split at h
  · cases h
  split at h
  · cases h
  split at h
  · split at h
    · cases h
    split at h <;> cases h
  rename_i row hrow
  split at h
  · cases h
  split at h
  · cases h
  · cases h
  rename_i hstatus
  split at h
  · cases h
  rename_i bytes hbytes
  split at h
  · cases h
  rename_i decoded hdecoded
  cases h
  exact ⟨row, bytes, hrow, hstatus, hbytes, hdecoded⟩

/-! ## Connections -/

namespace Session

variable {config : ServerSessionConfig} {session : Session}

/-- The loop neither has nor awaits anything of an agent. -/
def LoopPlain : Loop → Prop
  | .sending _ payload _ _ => Plain payload
  | .subscribing _ | .starting _ _ => False
  | _ => True

/-- Nothing has happened yet but a close. -/
structure Unopened (session : Session) : Prop where
  loop : session.loop = .first ∨ session.loop = .done
  tasks : session.tasks = []
  outbound : session.outbound.All Plain
  writer : session.writer = false
  written : ∀ payload ∈ session.written, payload = .webSocket .close

/-- Nothing of any agent is written, or is there to be written. -/
structure Quiet (session : Session) : Prop where
  loop : LoopPlain session.loop
  tasks : session.tasks = []
  outbound : session.outbound.All Plain
  written : ∀ payload ∈ session.written, Plain payload

/-- Before the first frame is accepted nothing happens, and without the observe
scope the connection is quiet. -/
structure Discreet (session : Session) : Prop where
  first : session.loop = .first → session.device = none
  unopened : session.device = none → Unopened session
  quiet : ∀ device, session.device = some device → device.scopes.observe = false → Quiet session

theorem discreet_new (outboundCapacity : Nat) : Discreet (new outboundCapacity) := by
  refine ⟨fun _ => rfl, fun _ => ⟨.inl rfl, rfl, Outbound.All.new outboundCapacity, rfl, ?_⟩, ?_⟩
  · intro payload hpayload
    cases hpayload
  · intro device hdevice
    cases hdevice

theorem Discreet.of_unopened (h : Unopened session) (hdevice : session.device = none) :
    Discreet session := by
  refine ⟨fun _ => hdevice, fun _ => h, ?_⟩
  intro device hsome
  rw [hdevice] at hsome
  cases hsome

theorem Unopened.reject (h : Unopened session) : Unopened session.reject := by
  refine ⟨.inr rfl, h.tasks, h.outbound, h.writer, ?_⟩
  intro payload hpayload
  rcases List.mem_append.mp hpayload with hold | hnew
  · exact h.written payload hold
  · exact List.mem_singleton.mp hnew

theorem Unopened.finish (h : Unopened session) : Unopened session.finish := by
  refine ⟨.inr rfl, ?_, Outbound.All.close, rfl, h.written⟩
  show session.tasks.map _ = []
  rw [h.tasks, List.map_nil]

theorem Discreet.reject (h : Discreet session) (hfirst : session.loop = .first) :
    Discreet session.reject :=
  .of_unopened (h.unopened (h.first hfirst)).reject (h.first hfirst)

/-- What is quiet stays so when more is written that shows nothing. -/
theorem Quiet.log (h : Quiet session) {payload : OutboundPayload} (hplain : Plain payload) :
    Quiet { session with written := session.written ++ [payload] } := by
  refine ⟨h.loop, h.tasks, h.outbound, ?_⟩
  intro sent hsent
  rcases List.mem_append.mp hsent with hold | hnew
  · exact h.written sent hold
  · rwa [List.mem_singleton.mp hnew]

theorem Quiet.setLoop (h : Quiet session) {loop : Loop} (hloop : LoopPlain loop) :
    Quiet { session with loop } := ⟨hloop, h.tasks, h.outbound, h.written⟩

theorem Quiet.setOutbound (h : Quiet session) {outbound : Outbound} (hall : outbound.All Plain) :
    Quiet { session with outbound } := ⟨h.loop, h.tasks, hall, h.written⟩

theorem Quiet.finish (h : Quiet session) : Quiet session.finish := by
  refine ⟨trivial, ?_, Outbound.All.close, h.written⟩
  show session.tasks.map _ = []
  rw [h.tasks, List.map_nil]

theorem Quiet.stopWriter (h : Quiet session) : Quiet session.stopWriter := by
  have hclosed : Quiet { session with outbound := session.outbound.close } :=
    h.setOutbound Outbound.All.close
  have hlogged := hclosed.log (plain_webSocket .close)
  exact ⟨hlogged.loop, hlogged.tasks, hlogged.outbound, hlogged.written⟩

theorem Quiet.resume (h : Quiet session) : Quiet session.resume := by
  have hloop := h.loop
  unfold Session.resume
  split
  · rename_i lane payload onSent onClosed heq
    rw [heq] at hloop
    split
    · rename_i outbound hsent
      have hout := h.setOutbound (h.outbound.send hloop hsent)
      split
      · exact hout.setLoop trivial
      · exact hout.finish
    · split
      · exact h.setLoop trivial
      · exact h.finish
    · exact h
  · rename_i heq
    rw [heq] at hloop
    exact hloop.elim
  · exact h

theorem Quiet.write (h : Quiet session) (ok : Bool) : Quiet (session.write config ok) := by
  unfold Session.write
  split
  · exact h
  rename_i payload outbound hnext
  obtain ⟨hplain, hall⟩ := h.outbound.next hnext
  have hout := h.setOutbound hall
  dsimp only
  split
  · exact hout.stopWriter
  split
  · exact hout.log hplain
  · exact (hout.log hplain).stopWriter

theorem forwardTask_of_tasks (h : session.tasks = []) (task : Nat) (input : SessionInput) :
    session.forwardTask task input = session := by
  unfold forwardTask
  rw [h, List.getElem?_nil]

/-- Whatever the tasks of a quiet connection do, it stays quiet. -/
theorem Quiet.step (h : Quiet session) (input : SessionInput) :
    Quiet (session.step config input) := by
  cases input with
  | resume => exact h.resume
  | subscribed result =>
    have hloop := h.loop
    simp only [Session.step]
    split
    · rename_i heq
      rw [heq] at hloop
      exact hloop.elim
    · exact h
  | write ok =>
    simp only [Session.step]
    split
    · exact h.write ok
    · exact h
  | heartbeat ping active ok =>
    have hping := h.log (plain_webSocket (.ping ping))
    simp only [Session.step]
    split
    · split
      · exact h.stopWriter
      split
      · exact hping
      · exact hping.stopWriter
    · exact h
  | readerEnds | writerEnded =>
    simp only [Session.step]
    split
    · exact h.finish
    · exact h
  | update | lagged | closed | snapshot | resumeTask =>
    simp only [Session.step, forwardTask_of_tasks h.tasks]
    exact h

theorem Unopened.step (h : Unopened session) (input : SessionInput) :
    session.step config input = session := by
  have hloop := h.loop
  cases input with
  | resume =>
    simp only [Session.step, Session.resume]
    rcases hloop with heq | heq <;> rw [heq]
  | subscribed result =>
    simp only [Session.step]
    rcases hloop with heq | heq <;> rw [heq]
  | readerEnds | writerEnded =>
    simp only [Session.step]
    rcases hloop with heq | heq <;> simp [heq]
  | write | heartbeat => simp [Session.step, h.writer]
  | update | lagged | closed | snapshot | resumeTask =>
    simp only [Session.step, forwardTask_of_tasks h.tasks]

theorem Discreet.finish (h : Discreet session) : Discreet session.finish := by
  refine ⟨?_, ?_, ?_⟩
  · intro hfirst
    cases hfirst
  · intro hnone
    exact (h.unopened hnone).finish
  · intro device hdevice hscope
    exact (h.quiet device hdevice hscope).finish

/-- The welcome is the first thing that is written. -/
theorem Discreet.welcome (h : Discreet session) (hfirst : session.loop = .first)
    (device : DeviceRecord) (welcome : ServerWelcome) (sent : Bool) :
    Discreet (session.welcome device welcome sent) := by
  have hunopened := h.unopened (h.first hfirst)
  refine ⟨?_, ?_, ?_⟩
  · intro hloop
    simp only [Session.welcome] at hloop
    split at hloop <;> cases hloop
  · intro hnone
    cases hnone
  intro _ _ _
  refine ⟨?_, hunopened.tasks, hunopened.outbound, ?_⟩
  · simp only [Session.welcome]
    split <;> exact trivial
  · intro payload hpayload
    rcases List.mem_append.mp hpayload with hold | hnew
    · rw [hunopened.written payload hold]
      exact plain_webSocket .close
    · rw [List.mem_singleton.mp hnew]
      rintro frame ⟨⟩
      rfl

/-- The device is the same, the loop has not gone back to the first frame, and
what was received is not forgotten. -/
structure Steady (session session' : Session) : Prop where
  device : session'.device = session.device
  loop : session'.loop = .first → session.loop = .first
  received : session.received ⊆ session'.received

theorem steady_of_eq {session' : Session} (hdevice : session'.device = session.device)
    (hloop : session'.loop = session.loop) (hreceived : session'.received = session.received) :
    Steady session session' :=
  ⟨hdevice, hloop.symm.trans, hreceived ▸ List.Subset.refl _⟩

theorem Steady.of_loop {session' session'' : Session} (h : Steady session session')
    (hdevice : session''.device = session'.device)
    (hreceived : session''.received = session'.received)
    (hloop : session''.loop ≠ .first) : Steady session session'' :=
  ⟨hdevice.trans h.device, fun hfirst => absurd hfirst hloop, hreceived ▸ h.received⟩

theorem steady_of_loop {session' : Session} (hdevice : session'.device = session.device)
    (hreceived : session'.received = session.received) (hloop : session'.loop ≠ .first) :
    Steady session session' :=
  ⟨hdevice, fun hfirst => absurd hfirst hloop, hreceived ▸ List.Subset.refl _⟩

theorem steady_abort (agentId : AgentId) : Steady session (session.abort agentId) := by
  unfold abort
  split <;> exact steady_of_eq rfl rfl rfl

theorem steady_resume : Steady session session.resume := by
  unfold Session.resume
  repeat' split
  all_goals first | exact steady_of_eq rfl rfl rfl | exact steady_of_loop rfl rfl nofun

theorem steady_subscribed (request : SubscribeRequest) (result : Subscribed) :
    Steady session (session.subscribed request result) := by
  unfold subscribed
  split
  · exact steady_of_loop rfl rfl nofun
  · exact steady_of_loop rfl rfl nofun
  · exact (steady_abort request.agentId).of_loop rfl rfl nofun
  · exact (steady_abort request.agentId).of_loop rfl rfl nofun

theorem steady_write (ok : Bool) : Steady session (session.write config ok) := by
  unfold Session.write
  repeat' split
  all_goals exact steady_of_eq rfl rfl rfl

theorem steady_forwardTask (task : Nat) (input : SessionInput) :
    Steady session (session.forwardTask task input) := by
  unfold forwardTask forward
  repeat' split
  all_goals exact steady_of_eq rfl rfl rfl

theorem steady_step (input : SessionInput) : Steady session (session.step config input) := by
  cases input with
  | resume => exact steady_resume
  | subscribed result =>
    simp only [Session.step]
    split
    · exact steady_subscribed _ result
    · exact steady_of_eq rfl rfl rfl
  | write ok =>
    simp only [Session.step]
    split
    · exact steady_write ok
    · exact steady_of_eq rfl rfl rfl
  | heartbeat ping active ok =>
    simp only [Session.step]
    repeat' split
    all_goals exact steady_of_eq rfl rfl rfl
  | readerEnds | writerEnded =>
    simp only [Session.step]
    split
    · exact steady_of_loop rfl rfl nofun
    · exact steady_of_eq rfl rfl rfl
  | update | lagged | closed | snapshot | resumeTask => exact steady_forwardTask _ _

theorem Discreet.step (h : Discreet session) (input : SessionInput) :
    Discreet (session.step config input) := by
  obtain ⟨hdevice, hloop, -⟩ : Steady session (session.step config input) := steady_step input
  refine ⟨?_, ?_, ?_⟩
  · intro hfirst
    rw [hdevice]
    exact h.first (hloop hfirst)
  · intro hnone
    have hunopened := h.unopened (hdevice.symm.trans hnone)
    rw [hunopened.step]
    exact hunopened
  · intro device hsome hscope
    exact (h.quiet device (hdevice.symm.trans hsome) hscope).step input

/-! ### What the loop does -/

theorem Quiet.reply (h : Quiet session) {payload : OutboundPayload} (hplain : Plain payload)
    (onSent onClosed : Bool) : Quiet (session.reply payload onSent onClosed) :=
  h.setLoop hplain

/-- Without the observe scope a client's frame is refused where agents are concerned. -/
theorem Quiet.handleClientFrame (h : Quiet session) {device : DeviceRecord}
    (hscope : device.scopes.observe = false) (frame : ClientFrame) :
    Quiet (session.handleClientFrame device frame) := by
  cases frame with
  | request envelope | uiResponse envelope => exact h.setLoop trivial
  | subscribe | unsubscribe =>
    simp only [Session.handleClientFrame, hscope, Bool.not_false, if_true]
    exact h.reply (plain_error _) _ _
  | ping nonce =>
    refine h.reply ?_ _ _
    rintro frame ⟨⟩
    rfl
  | hello => exact h.reply (plain_error _) _ _

theorem Quiet.receive (h : Quiet session) {device : DeviceRecord}
    (hscope : device.scopes.observe = false) (message : Message) :
    Quiet (session.receive config device message) := by
  unfold Session.receive
  split
  · rename_i frame _
    have hlogged : Quiet { session with received := session.received ++ [frame] } :=
      ⟨h.loop, h.tasks, h.outbound, h.written⟩
    exact hlogged.handleClientFrame hscope frame
  split
  · exact h.reply (plain_error _) _ _
  · exact h.reply (plain_webSocket _) _ _
  · exact h
  · exact h.finish
  · exact h.reply (plain_error _) _ _

theorem steady_handleClientFrame (device : DeviceRecord) (frame : ClientFrame) :
    Steady session (session.handleClientFrame device frame) := by
  cases frame with
  | request | uiResponse | ping | hello => exact steady_of_loop rfl rfl nofun
  | subscribe =>
    simp only [Session.handleClientFrame]
    split <;> exact steady_of_loop rfl rfl nofun
  | unsubscribe agentId =>
    simp only [Session.handleClientFrame]
    split
    · exact steady_of_loop rfl rfl nofun
    · exact steady_abort agentId

theorem steady_receive (device : DeviceRecord) (message : Message) :
    Steady session (session.receive config device message) := by
  unfold Session.receive
  split
  · rename_i frame _
    let logged : Session := { session with received := session.received ++ [frame] }
    have hlogged : Steady logged (logged.handleClientFrame device frame) :=
      steady_handleClientFrame device frame
    exact ⟨hlogged.device, hlogged.loop,
      List.Subset.trans (List.subset_append_left _ _) hlogged.received⟩
  split
  · exact steady_of_loop rfl rfl nofun
  · exact steady_of_loop rfl rfl nofun
  · exact steady_of_eq rfl rfl rfl
  · exact steady_of_loop rfl rfl nofun
  · exact steady_of_loop rfl rfl nofun

theorem mem_received_receive (device : DeviceRecord) {message : Message} {frame : ClientFrame}
    (h : decode config message = some frame) :
    frame ∈ (session.receive config device message).received := by
  unfold Session.receive
  rw [h]
  exact (steady_handleClientFrame device frame).received
    (List.mem_append_right _ (List.mem_singleton_self frame))

theorem Discreet.receive (h : Discreet session) {device : DeviceRecord}
    (hdevice : session.device = some device) (message : Message) :
    Discreet (session.receive config device message) := by
  obtain ⟨hsame, hloop, -⟩ : Steady session (session.receive config device message) :=
    steady_receive device message
  rw [hdevice] at hsame
  refine ⟨?_, ?_, ?_⟩
  · intro hfirst
    cases hdevice.symm.trans (h.first (hloop hfirst))
  · intro hnone
    cases hsame.symm.trans hnone
  · intro other hother hscope
    cases hsame.symm.trans hother
    exact (h.quiet device hdevice hscope).receive hscope message

end Session

/-! ## Requests -/

/-- The request came in a frame of the connection, is valid, and is in the
device's scopes. -/
def Accepted (device : DeviceRecord) (received : List ClientFrame) (key : Option OperationKey)
    (request : ControlRequest) : Prop :=
  ∃ frame ∈ received, ∃ envelope, ClientFrame.request? frame = some envelope ∧
    envelope.validate = .ok () ∧ authorized device.scopes envelope.request = true ∧
    envelope.request = request ∧
    key = envelope.operationId.map fun operationId => ⟨device.deviceId, operationId⟩

/-- The outcome shows no agent, or the device may see it. -/
def MayShow (device : DeviceRecord) (outcome : ResponseOutcome) : Prop :=
  ResponseOutcome.reveals outcome = true → device.scopes.observe = true

theorem MayShow.error (device : DeviceRecord) (error : ProtocolError) :
    MayShow device (.error error) := nofun

/-- A request with an operation id changes something. -/
theorem Accepted.isMutating {device : DeviceRecord} {received : List ClientFrame}
    {key : OperationKey} {request : ControlRequest}
    (h : Accepted device received (some key) request) : request.isMutating = true := by
  obtain ⟨-, -, envelope, -, hvalid, -, rfl, hkey⟩ := h
  unfold RequestEnvelope.validate at hvalid
  cases hoperation : envelope.operationId with
  | none =>
    rw [hoperation] at hkey
    cases hkey
  | some operationId =>
    rw [hoperation] at hvalid
    by_contra hmutating
    simp [hmutating] at hvalid

theorem Accepted.mono {device : DeviceRecord} {received received' : List ClientFrame}
    {key : Option OperationKey} {request : ControlRequest}
    (h : Accepted device received key request) (hsub : received ⊆ received') :
    Accepted device received' key request := by
  obtain ⟨frame, hframe, h⟩ := h
  exact ⟨frame, hsub hframe, h⟩

/-- A call of `execute_request` for a device, on a connection that received the
frames. -/
def Task.Sound (device : DeviceRecord) (received : List ClientFrame) : Task → Prop
  | .received envelope => ∃ frame ∈ received, ClientFrame.request? frame = some envelope
  | .claimed key request => Accepted device received (some key) request
  | .executing key request => Accepted device received key request
  | .executed _ outcome => ResponseOutcome.reveals outcome = false

theorem Task.Sound.mono {device : DeviceRecord} {received received' : List ClientFrame}
    {task : Task} (h : task.Sound device received) (hsub : received ⊆ received') :
    task.Sound device received' := by
  cases task with
  | received envelope =>
    obtain ⟨frame, hframe, h⟩ := h
    exact ⟨frame, hsub hframe, h⟩
  | claimed | executing => exact Accepted.mono h hsub
  | executed => exact h

namespace Daemon

variable {δ : Type} {backend : Backend δ}

/-- No outcome in the ledger shows an agent. -/
def LedgerPlain (backend : Backend δ) (daemon : Daemon δ) : Prop :=
  ∀ key row, daemon.store.operations.lookup key = some row → row.status = .completed →
    ∃ bytes outcome, row.outcomeCbor = some bytes ∧ backend.encodeOutcome outcome = .ok bytes ∧
      ResponseOutcome.reveals outcome = false

/-- Decoding what was encoded gives it back. -/
def Faithful (backend : Backend δ) : Prop :=
  ∀ outcome bytes decoded, backend.encodeOutcome outcome = .ok bytes →
    backend.decodeOutcome bytes = .ok decoded → decoded = outcome

/-- What a step of a request does to the connection that made it. -/
structure Advances (daemon : Daemon δ) (connection : Nat) (device : DeviceRecord)
    (received : List ClientFrame) (effect : Option Effect) (daemon' : Daemon δ) : Prop where
  connections : ∃ task, daemon'.connections =
    Function.update daemon.connections connection (some ⟨device, task⟩) ∧
      ∀ sound ∈ task, Task.Sound device received sound
  called : ∀ key request, effect = some (.called key request) →
    Accepted device received key request
  answered : ∀ outcome, effect.bind Effect.outcome? = some outcome → MayShow device outcome
  recorded : ∀ key outcome, effect = some (.recorded key outcome) →
    ResponseOutcome.reveals outcome = false

/-- A request is answered and gone. -/
theorem Advances.answer {daemon : Daemon δ} {connection : Nat} {device : DeviceRecord}
    {received : List ClientFrame} {outcome : ResponseOutcome} {daemon' : Daemon δ}
    (hconnections : daemon'.connections =
      Function.update daemon.connections connection (some ⟨device, none⟩))
    (hshow : MayShow device outcome) :
    Advances daemon connection device received (some (.answered outcome)) daemon' where
  connections := ⟨none, hconnections, fun _ hnone => by cases hnone⟩
  called _ _ heq := by cases heq
  answered shown heq := by
    cases heq
    exact hshow
  recorded _ _ heq := by cases heq

/-- A request is not answered yet. -/
theorem Advances.move {daemon : Daemon δ} {connection : Nat} {device : DeviceRecord}
    {received : List ClientFrame} {effect : Option Effect} {task : Task} {daemon' : Daemon δ}
    (hconnections : daemon'.connections =
      Function.update daemon.connections connection (some ⟨device, some task⟩))
    (hsound : task.Sound device received)
    (hcalled : ∀ key request, effect = some (.called key request) →
      Accepted device received key request)
    (hsilent : effect.bind Effect.outcome? = none) :
    Advances daemon connection device received effect daemon' where
  connections := ⟨some task, hconnections, fun _ hsome => by cases hsome; exact hsound⟩
  called := hcalled
  answered shown heq := by
    rw [hsilent] at heq
    cases heq
  recorded key outcome heq := by
    rw [heq] at hsilent
    cases hsilent

variable [DecidableEq δ]

/-- What a claim is answered with shows no agent. -/
theorem claimAnswer_plain {daemon : Daemon δ} (hledger : LedgerPlain backend daemon)
    (hfaithful : Faithful backend) (key : OperationKey) (request : ControlRequest)
    (nowMs : UInt64) (fault : Option Nat) {answer : ResponseOutcome}
    (h : claimAnswer (daemon.store.claimOperation backend key request nowMs fault).1 =
      some answer) : ResponseOutcome.reveals answer = false := by
  cases hclaim : (daemon.store.claimOperation backend key request nowMs fault).1 with
  | error error =>
    rw [hclaim] at h
    cases h
    rfl
  | ok claim =>
    rw [hclaim] at h
    cases claim with
    | execute => cases h
    | inProgress | indeterminate =>
      cases h
      rfl
    | completed outcome =>
      cases h
      obtain ⟨row, bytes, hrow, hstatus, hbytes, hdecoded⟩ :=
        Store.claimOperation_completed hclaim
      obtain ⟨bytes', recorded, hbytes', hencoded, hplain⟩ := hledger key row hrow hstatus
      cases hbytes.symm.trans hbytes'
      rwa [hfaithful recorded bytes answer hencoded hdecoded]

theorem claim_advances {daemon : Daemon δ} {connection : Nat} {device : DeviceRecord}
    {envelope : RequestEnvelope} {received : List ClientFrame}
    (hledger : LedgerPlain backend daemon) (hfaithful : Faithful backend)
    (hsound : ∃ frame ∈ received, ClientFrame.request? frame = some envelope) (nowMs : UInt64)
    (fault : Option Nat) :
    Advances daemon connection device received
      (some (daemon.claim backend connection device envelope nowMs fault).1)
      (daemon.claim backend connection device envelope nowMs fault).2 := by
  obtain ⟨frame, hframe, hrequest⟩ := hsound
  unfold claim
  split
  · exact .answer rfl (.error device _)
  rename_i hvalid
  split
  · exact .answer rfl (.error device _)
  rename_i hauthorized
  replace hauthorized : authorized device.scopes envelope.request = true := by
    simpa using hauthorized
  split
  · rename_i hnone
    have haccepted : Accepted device received none envelope.request :=
      ⟨frame, hframe, envelope, hrequest, hvalid, hauthorized, rfl, by rw [hnone]; rfl⟩
    exact .move rfl haccepted (fun _ _ heq => by cases heq; exact haccepted) rfl
  · rename_i operationId hsome
    have haccepted :
        Accepted device received (some ⟨device.deviceId, operationId⟩) envelope.request :=
      ⟨frame, hframe, envelope, hrequest, hvalid, hauthorized, rfl, by rw [hsome]; rfl⟩
    dsimp only
    split
    · exact .move rfl haccepted (fun _ _ heq => by cases heq) rfl
    · rename_i answer hanswer
      refine .answer rfl ?_
      intro hreveals
      rw [claimAnswer_plain hledger hfaithful _ _ _ _ hanswer] at hreveals
      cases hreveals

omit [DecidableEq δ] in
theorem complete_advances {daemon : Daemon δ} {connection : Nat} {device : DeviceRecord}
    {key : OperationKey} {outcome : ResponseOutcome} {received : List ClientFrame}
    (hplain : ResponseOutcome.reveals outcome = false) (nowMs : UInt64) (fault : Option Nat) :
    Advances daemon connection device received
      (some (daemon.complete backend connection device key outcome nowMs fault).1)
      (daemon.complete backend connection device key outcome nowMs fault).2 := by
  unfold complete
  dsimp only
  split
  · exact .answer rfl (.error device _)
  · refine ⟨⟨none, rfl, fun _ hnone => by cases hnone⟩, fun _ _ heq => (by cases heq), ?_, ?_⟩
    · intro shown heq hreveals
      cases heq
      rw [hplain] at hreveals
      cases hreveals
    · intro recordedKey recorded heq
      cases heq
      exact hplain

/-- The tasks of the connections agree with what `received` has of their frames. -/
def TasksSound (received : Nat → List ClientFrame) (daemon : Daemon δ) : Prop :=
  ∀ connection device task, daemon.connections connection = some ⟨device, some task⟩ →
    task.Sound device (received connection)

/-- The step does nothing, or takes the request of the connection on. -/
def AdvancesAt (received : List ClientFrame) (daemon : Daemon δ) (connection : Nat)
    (result : Option Effect × Daemon δ) : Prop :=
  result = (none, daemon) ∨ ∃ device task,
    daemon.connections connection = some ⟨device, some task⟩ ∧
      Advances daemon connection device received result.1 result.2

variable {daemon : Daemon δ} {received : Nat → List ClientFrame}

theorem step_claim (hledger : LedgerPlain backend daemon) (hfaithful : Faithful backend)
    (htasks : TasksSound received daemon) (connection : Nat) (nowMs : UInt64)
    (fault : Option Nat) : AdvancesAt (received connection) daemon connection
      (daemon.step backend (.claim connection nowMs fault)) := by
  dsimp only [step]
  split
  · rename_i device envelope hconnection
    exact .inr ⟨device, _, hconnection,
      claim_advances hledger hfaithful (htasks _ _ _ hconnection) nowMs fault⟩
  · exact .inl rfl

theorem step_call (backend : Backend δ) (htasks : TasksSound received daemon) (connection : Nat) :
    AdvancesAt (received connection) daemon connection
      (daemon.step backend (.call connection)) := by
  dsimp only [step]
  split
  · rename_i device key request hconnection
    have haccepted : Accepted device (received connection) (some key) request :=
      htasks _ _ _ hconnection
    exact .inr ⟨device, _, hconnection,
      .move rfl haccepted (fun _ _ heq => by cases heq; exact haccepted) rfl⟩
  · exact .inl rfl

/-- What the controller returns for a request shows an agent only where the
request asks for one. -/
theorem step_return (backend : Backend δ) (htasks : TasksSound received daemon)
    (connection : Nat) (outcome : ResponseOutcome)
    (houtcome : ∀ device key request,
      daemon.connections connection = some ⟨device, some (.executing key request)⟩ →
      ResponseOutcome.reveals outcome = true → request.isMutating = false ∧
        ∀ scopes, authorized scopes request = scopes.observe) :
    AdvancesAt (received connection) daemon connection
      (daemon.step backend (.return connection outcome)) := by
  dsimp only [step]
  split
  · rename_i device key request hconnection
    have haccepted : Accepted device (received connection) (some key) request :=
      htasks _ _ _ hconnection
    have hplain : ResponseOutcome.reveals outcome = false := by
      cases hreveals : ResponseOutcome.reveals outcome with
      | false => rfl
      | true =>
        have hpure := (houtcome _ _ _ hconnection hreveals).1
        rw [haccepted.isMutating] at hpure
        cases hpure
    have hexecuted : Task.Sound device (received connection) (.executed key outcome) := hplain
    exact .inr ⟨device, _, hconnection, .move rfl hexecuted (fun _ _ heq => by cases heq) rfl⟩
  · rename_i device request hconnection
    refine .inr ⟨device, _, hconnection, .answer rfl ?_⟩
    intro hreveals
    have haccepted : Accepted device (received connection) none request :=
      htasks _ _ _ hconnection
    obtain ⟨-, -, envelope, -, -, hauthorized, rfl, -⟩ := haccepted
    rw [← (houtcome _ _ _ hconnection hreveals).2]
    exact hauthorized
  · exact .inl rfl

theorem step_complete (backend : Backend δ) (htasks : TasksSound received daemon)
    (connection : Nat) (nowMs : UInt64) (fault : Option Nat) :
    AdvancesAt (received connection) daemon connection
      (daemon.step backend (.complete connection nowMs fault)) := by
  dsimp only [step]
  split
  · rename_i device key outcome hconnection
    exact .inr ⟨device, _, hconnection,
      complete_advances (htasks _ _ _ hconnection) nowMs fault⟩
  · exact .inl rfl

/-- The ledger stays as it is, but for what is recorded. -/
theorem ledgerPlain_step (hledger : LedgerPlain backend daemon) (input : DaemonInput)
    (hrecorded : ∀ key outcome, (daemon.step backend input).1 = some (.recorded key outcome) →
      ResponseOutcome.reveals outcome = false) :
    LedgerPlain backend (daemon.step backend input).2 := by
  intro key row hrow hstatus
  rcases completed_step (daemon.step_effect backend input) hrow hstatus with
    hold | ⟨bytes, outcome, hbytes, heffect, hencoded⟩
  · exact hledger key row hold hstatus
  · exact ⟨bytes, outcome, hbytes, hencoded, hrecorded key outcome heffect⟩

end Daemon

/-! ## The server -/

namespace Server

variable {δ : Type} {config : ServerSessionConfig} {backend : Backend δ} {server : Server δ}

/-- The frames that a connection has received. -/
def received (server : Server δ) (connection : Nat) : List ClientFrame :=
  (server.session connection).elim [] Session.received

theorem received_setSession_self (server : Server δ) (connection : Nat) (session : Session) :
    (server.setSession connection session).received connection = session.received := by
  show (Function.update server.session connection (some session) connection).elim [] _ = _
  rw [Function.update_self, Option.elim_some]

theorem received_setSession_of_ne (server : Server δ) {connection other : Nat}
    (hne : other ≠ connection) (session : Session) :
    (server.setSession connection session).received other = server.received other := by
  show (Function.update server.session connection (some session) other).elim [] _ = _
  rw [Function.update_of_ne hne]
  rfl

/-- Connections, requests and the ledger agree with the scopes. -/
structure Lawful (backend : Backend δ) (server : Server δ) : Prop where
  fresh : ∀ connection, server.accepted ≤ connection → server.session connection = none
  discreet : ∀ connection session, server.session connection = some session → session.Discreet
  connected : ∀ connection device task,
    server.daemon.connections connection = some ⟨device, task⟩ →
      ∃ session, server.session connection = some session ∧ session.device = some device
  tasks : server.daemon.TasksSound server.received
  ledger : server.daemon.LedgerPlain backend

theorem lawful_create (serverId : ServerId) : Lawful backend (create (δ := δ) serverId) where
  fresh _ _ := rfl
  discreet _ _ h := by cases h
  connected _ _ _ h := by cases h
  tasks _ _ _ h := by cases h
  ledger _ _ h := by cases h

theorem Lawful.lt_accepted (h : Lawful backend server) {connection : Nat} {session : Session}
    (hsession : server.session connection = some session) : connection < server.accepted := by
  by_contra hle
  rw [h.fresh connection (by omega)] at hsession
  cases hsession

/-- The daemon changes, and its connections are as before or accounted for. -/
theorem Lawful.setDaemon (h : Lawful backend server) {daemon : Daemon δ}
    (hconnections : ∀ connection device task,
      daemon.connections connection = some ⟨device, task⟩ →
        server.daemon.connections connection = some ⟨device, task⟩ ∨
        (∃ session, server.session connection = some session ∧ session.device = some device) ∧
          ∀ sound ∈ task, Task.Sound device (server.received connection) sound)
    (hledger : daemon.LedgerPlain backend) : Lawful backend { server with daemon } where
  fresh := h.fresh
  discreet := h.discreet
  connected connection device task hconnection := by
    rcases hconnections connection device task hconnection with hold | ⟨hsession, -⟩
    · exact h.connected connection device task hold
    · exact hsession
  tasks connection device task hconnection := by
    rcases hconnections connection device _ hconnection with hold | ⟨-, hsound⟩
    · exact h.tasks connection device task hold
    · exact hsound task rfl
  ledger := hledger

/-- The connection of one client changes, and nothing else. -/
theorem Lawful.updateConnection (h : Lawful backend server) {daemon : Daemon δ}
    {connection : Nat} {entry : Option Connection}
    (hconnections : daemon.connections =
      Function.update server.daemon.connections connection entry)
    (hentry : ∀ device task, entry = some ⟨device, task⟩ →
      (∃ session, server.session connection = some session ∧ session.device = some device) ∧
        ∀ sound ∈ task, Task.Sound device (server.received connection) sound)
    (hledger : daemon.LedgerPlain backend) : Lawful backend { server with daemon } := by
  refine h.setDaemon ?_ hledger
  intro other device task hother
  rw [hconnections] at hother
  by_cases hsame : other = connection
  · subst hsame
    rw [Function.update_self] at hother
    exact .inr (hentry device task hother)
  · rw [Function.update_of_ne hsame] at hother
    exact .inl hother

/-- A session changes; it keeps its device and what it has received. -/
theorem Lawful.setSession (h : Lawful backend server) {connection : Nat} {session : Session}
    (hfresh : connection < server.accepted) (hdiscreet : session.Discreet)
    (hdevice : ∀ device task, server.daemon.connections connection = some ⟨device, task⟩ →
      session.device = some device)
    (hreceived : server.received connection ⊆ session.received) :
    Lawful backend (server.setSession connection session) where
  fresh other hother := by
    have hne : other ≠ connection := by
      have : server.accepted ≤ other := hother
      omega
    exact (Function.update_of_ne hne _ _).trans (h.fresh other hother)
  discreet other found hfound := by
    by_cases hsame : other = connection
    · subst hsame
      cases (Function.update_self _ _ _).symm.trans hfound
      exact hdiscreet
    · exact h.discreet other found ((Function.update_of_ne hsame _ _).symm.trans hfound)
  connected other device task hother := by
    by_cases hsame : other = connection
    · subst hsame
      exact ⟨session, Function.update_self _ _ _, hdevice device task hother⟩
    · obtain ⟨found, hfound, hsome⟩ := h.connected other device task hother
      exact ⟨found, (Function.update_of_ne hsame _ _).trans hfound, hsome⟩
  tasks other device task hother := by
    have hsound := h.tasks other device task hother
    by_cases hsame : other = connection
    · subst hsame
      rw [received_setSession_self]
      exact hsound.mono hreceived
    · rwa [received_setSession_of_ne server hsame]
  ledger := h.ledger

/-- A session goes on, with the same device and no less received. -/
theorem Lawful.updateSession (h : Lawful backend server) {connection : Nat}
    {session session' : Session} (hsession : server.session connection = some session)
    (hdiscreet : session'.Discreet) (hdevice : session'.device = session.device)
    (hreceived : session.received ⊆ session'.received) :
    Lawful backend (server.setSession connection session') := by
  refine h.setSession (h.lt_accepted hsession) hdiscreet ?_ ?_
  · intro device task hconnection
    obtain ⟨found, hfound, hsome⟩ := h.connected connection device task hconnection
    cases hsession.symm.trans hfound
    exact hdevice.trans hsome
  · unfold Server.received
    rwa [hsession]

variable [DecidableEq δ]

/-- A step that uses the store and nothing else. -/
theorem connections_store (daemon : Daemon δ) (operation : StoreOperation) :
    (daemon.step backend (.store operation)).2.connections = daemon.connections := by
  dsimp only [Daemon.step]
  split <;> rfl

theorem output_store (daemon : Daemon δ) (operation : StoreOperation) :
    (daemon.step backend (.store operation)).1 = none := by
  dsimp only [Daemon.step]
  split <;> rfl

theorem Lawful.store (h : Lawful backend server) (operation : StoreOperation) :
    Lawful backend
      { server with daemon := (server.daemon.step backend (.store operation)).2 } := by
  refine h.setDaemon ?_ ?_
  · intro connection device task hconnection
    rw [connections_store] at hconnection
    exact .inl hconnection
  · refine Daemon.ledgerPlain_step h.ledger _ ?_
    intro key outcome hrecorded
    rw [output_store] at hrecorded
    cases hrecorded

omit [DecidableEq δ] in
/-- The answer of a request goes to its connection. -/
theorem Lawful.answered (h : Lawful backend server) {connection : Nat}
    {result : Option Effect × Daemon δ}
    (hadvances : Daemon.AdvancesAt (server.received connection) server.daemon connection result)
    (hledger : result.2.LedgerPlain backend) :
    Lawful backend (server.answered connection result).2 := by
  obtain ⟨effect, daemon⟩ := result
  rcases hadvances with heq | ⟨device, task, hconnection, hadvances⟩
  · cases heq
    exact h
  obtain ⟨session, hsession, hdevice⟩ := h.connected connection device (some task) hconnection
  have hdaemon : Lawful backend { server with daemon } := by
    obtain ⟨next, hconnections, hnext⟩ := hadvances.connections
    refine h.updateConnection hconnections ?_ hledger
    rintro device' task' ⟨⟩
    exact ⟨⟨session, hsession, hdevice⟩, hnext⟩
  unfold Server.answered
  dsimp only
  split
  · rename_i outcome found houtcome hfound
    cases hsession.symm.trans hfound
    split
    · rename_i requestId hloop
      refine hdaemon.updateSession hsession ?_ rfl (List.Subset.refl _)
      have hdiscreet := h.discreet connection session hsession
      refine ⟨?_, ?_, ?_⟩
      · intro hfirst
        cases hfirst
      · intro hnone
        cases hdevice.symm.trans hnone
      · intro device' hdevice' hscope
        cases hdevice.symm.trans hdevice'
        refine (hdiscreet.quiet device hdevice hscope).setLoop ?_
        rintro frame ⟨⟩
        cases hreveals : ResponseOutcome.reveals outcome with
        | false => exact hreveals
        | true =>
          have hobserve := hadvances.answered outcome houtcome hreveals
          rw [hscope] at hobserve
          cases hobserve
    · exact hdaemon
  · exact hdaemon

/-- A request that is taken on keeps the ledger plain. -/
theorem ledger_of_advances {daemon : Daemon δ} {received : List ClientFrame} {connection : Nat}
    (hledger : daemon.LedgerPlain backend) (input : DaemonInput)
    (hadvances : Daemon.AdvancesAt received daemon connection (daemon.step backend input)) :
    (daemon.step backend input).2.LedgerPlain backend := by
  refine Daemon.ledgerPlain_step hledger input ?_
  intro key outcome hrecorded
  rcases hadvances with heq | ⟨device, task, -, hadvances⟩
  · rw [heq] at hrecorded
    cases hrecorded
  · exact hadvances.recorded key outcome hrecorded

theorem Lawful.disconnect (h : Lawful backend server) (connection : Nat) :
    Lawful backend
      { server with daemon := (server.daemon.step backend (.disconnect connection)).2 } := by
  refine h.updateConnection rfl ?_ h.ledger
  intro device task hnone
  cases hnone

theorem Lawful.settle (h : Lawful backend server) {connection : Nat} {session session' : Session}
    (hsession : server.session connection = some session) (hdiscreet : session'.Discreet)
    (hdevice : session'.device = session.device)
    (hreceived : session.received ⊆ session'.received) :
    Lawful backend (server.settle backend connection session') := by
  have hupdated := h.updateSession hsession hdiscreet hdevice hreceived
  unfold Server.settle
  dsimp only
  split
  · exact hupdated.disconnect connection
  · exact hupdated

/-- A daemon that authenticates uses the store and nothing else. -/
theorem authenticate_store (backend : Backend δ) (daemon : Daemon δ)
    (authentication : ClientAuthentication)
    (handshake : Handshake) :
    ∃ operation, (authenticate backend daemon authentication handshake).2 =
      (daemon.step backend (.store operation)).2 := by
  unfold authenticate
  dsimp only
  cases authentication with
  | device deviceId token =>
    dsimp only
    split <;> exact ⟨_, rfl⟩
  | pair pairingId secret device =>
    dsimp only
    split
    · exact ⟨_, rfl⟩
    split <;> exact ⟨_, rfl⟩

theorem Lawful.connect (h : Lawful backend server) {connection : Nat} {session : Session}
    {device : DeviceRecord} (hsession : server.session connection = some session)
    (hdevice : session.device = some device) :
    Lawful backend
      { server with daemon := (server.daemon.step backend (.connect connection device)).2 } := by
  dsimp only [Daemon.step]
  split
  · refine h.updateConnection rfl ?_ h.ledger
    intro device' task heq
    cases heq
    refine ⟨⟨session, hsession, hdevice⟩, ?_⟩
    intro sound hnone
    cases hnone
  · exact h

theorem Lawful.first (h : Lawful backend server) {connection : Nat} {session : Session}
    (hsession : server.session connection = some session) (hfirst : session.loop = .first)
    (message : Option Message) (handshake : Handshake) :
    Lawful backend (server.first config backend connection session message handshake) := by
  have hdiscreet := h.discreet connection session hsession
  have hnone := hdiscreet.first hfirst
  unfold Server.first
  split
  · exact h.updateSession hsession (hdiscreet.reject hfirst) rfl (List.Subset.refl _)
  rename_i hello version _
  obtain ⟨operation, hstore⟩ :=
    authenticate_store backend server.daemon hello.authentication handshake
  have hdaemon := h.store operation
  rw [← hstore] at hdaemon
  split
  · rename_i daemon heq
    rw [heq] at hdaemon
    exact hdaemon.updateSession hsession (hdiscreet.reject hfirst) rfl (List.Subset.refl _)
  rename_i authenticated daemon heq
  rw [heq] at hdaemon
  dsimp only
  split
  · exact hdaemon.updateSession hsession (hdiscreet.reject hfirst) rfl (List.Subset.refl _)
  -- the session is welcomed before it is connected
  have hwelcomed : Lawful backend ({ server with daemon }.setSession connection
      (session.welcome authenticated.device
        (Server.welcome config daemon hello version authenticated handshake.connectionId)
        handshake.sent)) := by
    refine hdaemon.setSession (h.lt_accepted hsession) (hdiscreet.welcome hfirst _ _ _) ?_ ?_
    · intro device task hconnection
      obtain ⟨found, hfound, hsome⟩ := hdaemon.connected connection device task hconnection
      cases hsession.symm.trans hfound
      cases hnone.symm.trans hsome
    · unfold Server.received
      rw [hsession]
      exact List.Subset.refl _
  have hconnected := hwelcomed.connect (Function.update_self _ _ _) rfl
  cases hsent : handshake.sent with
  | true =>
    rw [hsent] at hconnected
    exact hconnected
  | false =>
    rw [hsent] at hwelcomed
    exact hwelcomed

theorem received_settle (server : Server δ) (connection : Nat) (session : Session) :
    (server.settle backend connection session).received connection = session.received := by
  unfold Server.settle
  dsimp only
  split <;> exact received_setSession_self server connection session

theorem Lawful.receive (h : Lawful backend server) {connection : Nat} {session : Session}
    {device : DeviceRecord} (hsession : server.session connection = some session)
    (hdevice : session.device = some device) (message : Message) :
    Lawful backend (server.receive config backend connection session device message) := by
  have hsettled : Lawful backend
      (server.settle backend connection (session.receive config device message)) :=
    h.settle hsession
    ((h.discreet connection session hsession).receive hdevice message)
    (Session.steady_receive device message).device
    (Session.steady_receive device message).received
  unfold Server.receive
  dsimp only
  split
  · rename_i frame hframe
    have hreceived : frame ∈
        (server.settle backend connection (session.receive config device message)).received
          connection := by
      rw [received_settle]
      exact Session.mem_received_receive device hframe
    dsimp only [Daemon.step]
    split
    · rename_i device' envelope hconnection hrequest
      refine hsettled.updateConnection rfl ?_ hsettled.ledger
      intro other task heq
      cases heq
      refine ⟨hsettled.connected connection device' none hconnection, ?_⟩
      rintro sound ⟨⟩
      exact ⟨frame, hreceived, hrequest⟩
    · exact hsettled
  · exact hsettled

/-- What one step of the server does is within the scopes: the state after it, and
what it calls the controller with. -/
def Legal (backend : Backend δ) (server : Server δ) (result : Option (Nat × Effect) × Server δ) :
    Prop :=
  Lawful backend result.2 ∧ ∀ connection key request,
    result.1 = some (connection, .called key request) → ∃ session device,
      server.session connection = some session ∧ session.device = some device ∧
        Accepted device session.received key request

omit [DecidableEq δ] in
theorem legal_silent {server' : Server δ} (h : Lawful backend server') :
    Legal backend server (none, server') :=
  ⟨h, fun _ _ _ hcalled => by cases hcalled⟩

omit [DecidableEq δ] in
theorem answered_output (server : Server δ) (connection : Nat)
    (result : Option Effect × Daemon δ) :
    (server.answered connection result).1 =
      result.1.map fun effect => (connection, effect) := by
  unfold Server.answered
  dsimp only
  repeat' split
  all_goals rfl

omit [DecidableEq δ] in
theorem legal_answered (h : Lawful backend server) {connection : Nat}
    {result : Option Effect × Daemon δ}
    (hadvances : Daemon.AdvancesAt (server.received connection) server.daemon connection result)
    (hledger : result.2.LedgerPlain backend) :
    Legal backend server (server.answered connection result) := by
  refine ⟨h.answered hadvances hledger, ?_⟩
  intro connection' key request hcalled
  rw [answered_output] at hcalled
  obtain ⟨effect, heffect, hpair⟩ := Option.map_eq_some_iff.mp hcalled
  obtain ⟨rfl, rfl⟩ := Prod.mk.inj hpair
  rcases hadvances with heq | ⟨device, task, hconnection, hadvances⟩
  · rw [heq] at heffect
    cases heffect
  · obtain ⟨session, hsession, hdevice⟩ := h.connected connection device _ hconnection
    have haccepted := hadvances.called key request heffect
    unfold Server.received at haccepted
    rw [hsession] at haccepted
    exact ⟨session, device, hsession, hdevice, haccepted⟩

omit [DecidableEq δ] in
theorem reveals_revoke {store : Store δ} {deviceId : DeviceId} {nowMs : UInt64}
    {fault : Option Nat} : ResponseOutcome.reveals (revoke store deviceId nowMs fault) = false := by
  unfold revoke
  split <;> rfl

theorem legal_answer (h : Lawful backend server) (connection : Nat)
    (result : Except ControllerError Returned) (nowMs : UInt64) (fault : Option Nat) :
    Legal backend server (server.answer backend connection result nowMs fault) := by
  unfold Server.answer
  split
  · rename_i device key deviceId hconnection
    -- the store is written before the controller returns
    have hstored := h.store (.revokeDevice deviceId nowMs fault)
    have hadvances := Daemon.step_return backend hstored.tasks connection
      (revoke server.daemon.store deviceId nowMs fault) (by
        intro _ _ _ _ hreveals
        rw [reveals_revoke] at hreveals
        cases hreveals)
    exact legal_answered hstored hadvances (ledger_of_advances hstored.ledger _ hadvances)
  · rename_i device key request _ hconnection
    have hadvances := Daemon.step_return backend h.tasks connection
      (execute request result) (by
        intro _ _ _ hother hreveals
        cases hconnection.symm.trans hother
        exact reveals_execute hreveals)
    exact legal_answered h hadvances (ledger_of_advances h.ledger _ hadvances)
  · exact legal_silent h

omit [DecidableEq δ] in
theorem Lawful.accept (h : Lawful backend server) (outboundCapacity : Nat) :
    Lawful backend { server.setSession server.accepted (.new outboundCapacity) with
      accepted := server.accepted + 1 } := by
  have hfresh := h.fresh server.accepted (Nat.le_refl _)
  have hroom : Lawful backend { server with accepted := server.accepted + 1 } :=
    { h with fresh := fun connection hle => h.fresh connection (Nat.le_of_succ_le hle) }
  refine hroom.setSession (Nat.lt_succ_self _) (Session.discreet_new outboundCapacity) ?_ ?_
  · intro device task hconnection
    obtain ⟨session, hsession, -⟩ := h.connected _ device task hconnection
    cases hfresh.symm.trans hsession
  · unfold Server.received
    rw [hfresh]
    exact List.Subset.refl _

/-- A crash ends every connection and drops every request. -/
theorem Lawful.crash (h : Lawful backend server) :
    Lawful backend { server with
      daemon := (server.daemon.step backend .crash).2
      session := fun connection => (server.session connection).map Session.finish } where
  fresh connection hle := by
    show (server.session connection).map _ = none
    rw [h.fresh connection hle, Option.map_none]
  discreet connection session hsession := by
    obtain ⟨old, hold, rfl⟩ := Option.map_eq_some_iff.mp hsession
    exact (h.discreet connection old hold).finish
  connected connection device task hconnection := by cases hconnection
  tasks connection device task hconnection := by cases hconnection
  ledger := h.ledger

theorem Lawful.start (h : Lawful backend server) (nowMs : UInt64) (fault : Option Nat) :
    Lawful backend
      { server with daemon := (server.daemon.step backend (.start nowMs fault)).2 } := by
  have hnone : (server.daemon.step backend (.start nowMs fault)).1 = none := by
    dsimp only [Daemon.step]
    split <;> rfl
  have hsame : (server.daemon.step backend (.start nowMs fault)).2.connections =
      server.daemon.connections := by
    dsimp only [Daemon.step]
    split <;> rfl
  refine h.setDaemon ?_ ?_
  · intro connection device task hconnection
    rw [hsame] at hconnection
    exact .inl hconnection
  · refine Daemon.ledgerPlain_step h.ledger _ ?_
    intro key outcome hrecorded
    rw [hnone] at hrecorded
    cases hrecorded

/-- **Every step is within the scopes.** -/
theorem legal_step (hfaithful : Daemon.Faithful backend) (h : Lawful backend server)
    (input : ServerInput) : Legal backend server (server.step config backend input) := by
  cases input with
  | accept =>
    dsimp only [step]
    split
    · exact legal_silent (h.accept config.outboundCapacity)
    · exact legal_silent h
  | first connection message handshake =>
    dsimp only [step]
    split
    · rename_i session hsession
      split
      · rename_i hfirst
        exact legal_silent (h.first hsession hfirst message handshake)
      · exact legal_silent h
    · exact legal_silent h
  | receive connection message =>
    dsimp only [step]
    split
    · rename_i session hsession
      split
      · rename_i device _ hdevice
        exact legal_silent (h.receive hsession hdevice message)
      · exact legal_silent h
    · exact legal_silent h
  | session connection input =>
    dsimp only [step]
    split
    · rename_i session hsession
      exact legal_silent (h.settle hsession ((h.discreet connection session hsession).step input)
        (Session.steady_step input).device (Session.steady_step input).received)
    · exact legal_silent h
  | claim connection nowMs fault =>
    have hadvances := Daemon.step_claim h.ledger hfaithful h.tasks connection nowMs fault
    exact legal_answered h hadvances (ledger_of_advances h.ledger _ hadvances)
  | call connection =>
    have hadvances := Daemon.step_call backend h.tasks connection
    exact legal_answered h hadvances (ledger_of_advances h.ledger _ hadvances)
  | answer connection result nowMs fault => exact legal_answer h connection result nowMs fault
  | complete connection nowMs fault =>
    have hadvances := Daemon.step_complete backend h.tasks connection nowMs fault
    exact legal_answered h hadvances (ledger_of_advances h.ledger _ hadvances)
  | store operation => exact legal_silent (h.store operation)
  | crash => exact legal_silent h.crash
  | start nowMs fault => exact legal_silent (h.start nowMs fault)

/-! ### Where devices come from -/

/-- The connection has been authenticated as the device. -/
def Holds (server : Server δ) (connection : Nat) (device : DeviceRecord) : Prop :=
  ∃ session, server.session connection = some session ∧ session.device = some device

/-- The step authenticates the first frame of the connection. -/
def Opens (config : ServerSessionConfig) (backend : Backend δ) (e : Event δ) (connection : Nat)
    (device : DeviceRecord) : Prop :=
  ∃ message handshake hello version authenticated,
    e.input = .first connection (some message) handshake ∧
    firstHello config message = some (hello, version) ∧
    (authenticate backend e.before.daemon hello.authentication handshake).1 = some authenticated ∧
    authenticated.device = device

omit [DecidableEq δ] in
theorem holds_setSession {connection other : Nat} {session : Session} {device : DeviceRecord}
    (h : (server.setSession connection session).Holds other device)
    (hdevice : session.device = some device → server.Holds connection device) :
    server.Holds other device := by
  obtain ⟨found, hfound, hsome⟩ := h
  by_cases hsame : other = connection
  · subst hsame
    cases (Function.update_self _ _ _).symm.trans hfound
    exact hdevice hsome
  · exact ⟨found, (Function.update_of_ne hsame _ _).symm.trans hfound, hsome⟩

theorem holds_settle {connection other : Nat} {session session' : Session} {device : DeviceRecord}
    (hsession : server.session connection = some session)
    (hsame : session'.device = session.device)
    (h : (server.settle backend connection session').Holds other device) :
    server.Holds other device := by
  have hset : (server.setSession connection session').Holds other device := by
    unfold Server.settle at h
    dsimp only at h
    split at h <;> exact h
  refine holds_setSession hset ?_
  intro hdevice
  exact ⟨session, hsession, hsame.symm.trans hdevice⟩

omit [DecidableEq δ] in
theorem holds_answered {connection other : Nat} {result : Option Effect × Daemon δ}
    {device : DeviceRecord} (h : (server.answered connection result).2.Holds other device) :
    server.Holds other device := by
  unfold Server.answered at h
  dsimp only at h
  split at h
  · rename_i session _ hsession
    split at h
    · exact holds_setSession h fun hdevice => ⟨session, hsession, hdevice⟩
    · exact h
  · exact h

/-- A step that is not the first frame of the connection authenticates nobody. -/
theorem holds_step {input : ServerInput} {connection : Nat} {device : DeviceRecord}
    (h : (server.step config backend input).2.Holds connection device) :
    server.Holds connection device ∨
      Opens config backend (Mealy.event (step config backend) server input) connection device := by
  cases input with
  | accept =>
    dsimp only [step] at h
    split at h
    · -- a new connection has no device
      refine .inl (holds_setSession h ?_)
      intro hnone
      cases hnone
    · exact .inl h
  | first other message handshake =>
    dsimp only [step] at h
    split at h
    · rename_i session hsession
      split at h
      · rename_i hfirst
        unfold Server.first at h
        split at h
        · exact .inl (holds_setSession h fun hdevice => ⟨session, hsession, hdevice⟩)
        rename_i hello version hhello
        obtain ⟨first, rfl, hfirstHello⟩ := Option.bind_eq_some_iff.mp hhello
        split at h
        · exact .inl (holds_setSession h fun hdevice => ⟨session, hsession, hdevice⟩)
        rename_i authenticated daemon hauthenticated
        dsimp only at h
        split at h
        · exact .inl (holds_setSession h fun hdevice => ⟨session, hsession, hdevice⟩)
        -- the one place where a connection gets a device: its hello has been authenticated
        by_cases hsame : connection = other
        · obtain ⟨found, hfound, hsome⟩ := h
          subst hsame
          cases (Function.update_self _ _ _).symm.trans hfound
          exact .inr ⟨first, handshake, hello, version, authenticated, rfl, hfirstHello,
            congrArg Prod.fst hauthenticated, Option.some.inj hsome⟩
        · obtain ⟨found, hfound, hsome⟩ := h
          exact .inl ⟨found, (Function.update_of_ne hsame _ _).symm.trans hfound, hsome⟩
      · exact .inl h
    · exact .inl h
  | receive other message =>
    dsimp only [step] at h
    split at h
    · rename_i session hsession
      split at h
      · rename_i device' _ _
        unfold Server.receive at h
        dsimp only at h
        split at h <;>
          exact .inl (holds_settle hsession (Session.steady_receive device' message).device h)
      · exact .inl h
    · exact .inl h
  | session other input =>
    dsimp only [step] at h
    split at h
    · rename_i session hsession
      exact .inl (holds_settle hsession (Session.steady_step input).device h)
    · exact .inl h
  | claim | call | complete => exact .inl (holds_answered h)
  | answer other result nowMs fault =>
    dsimp only [step] at h
    unfold Server.answer at h
    split at h
    · exact .inl (holds_answered h)
    · exact .inl (holds_answered h)
    · exact .inl h
  | store | start => exact .inl h
  | crash =>
    obtain ⟨found, hfound, hsome⟩ := h
    obtain ⟨session, hsession, rfl⟩ := Option.map_eq_some_iff.mp hfound
    exact .inl ⟨session, hsession, hsome⟩

/-! ### The law -/

/-- **Authorization over whole connections.**

In every run of the server on a new database, with any connections and any
messages: only a first frame that the store authenticates gives a connection its
device; until then nothing is written but a close; the controller is called only
with a request that came in a frame of an authenticated connection, is valid, and
is in the scopes of its device; and to a device without the observe scope no frame
is written that shows anything of an agent. -/
theorem authorization (config : ServerSessionConfig) (backend : Backend δ)
    (hfaithful : Daemon.Faithful backend) (serverId : ServerId) (inputs : List ServerInput) :
    ∀ e ∈ history config backend serverId inputs, ∀ connection,
      (∀ device, e.after.Holds connection device →
        e.before.Holds connection device ∨ Opens config backend e connection device) ∧
      (∀ session, e.after.session connection = some session → session.device = none →
        ∀ payload ∈ session.written, payload = .webSocket .close) ∧
      (∀ key request, e.output = some (connection, .called key request) →
        ∃ session device, e.before.session connection = some session ∧
          session.device = some device ∧ Accepted device session.received key request) ∧
      ∀ session device, e.after.session connection = some session →
        session.device = some device → device.scopes.observe = false →
        ∀ frame, .protocol frame ∈ session.written → ServerFrame.reveals frame = false := by
  intro e he connection
  obtain ⟨pre, post, hsplit⟩ := List.append_of_mem he
  obtain ⟨hbefore, hevent⟩ := Mealy.history_at (P := fun _ server => Lawful backend server)
    (lawful_create serverId) (fun _ _ input h => (legal_step hfaithful h input).1) hsplit
  obtain ⟨hafter, hcalled⟩ : Legal backend e.before (e.before.step config backend e.input) :=
    legal_step hfaithful hbefore e.input
  have hstep : e.after = (e.before.step config backend e.input).2 := by rw [hevent]; rfl
  have houtput : e.output = (e.before.step config backend e.input).1 := by rw [hevent]; rfl
  rw [← hstep] at hafter
  rw [← houtput] at hcalled
  refine ⟨?_, ?_, hcalled connection, ?_⟩
  · intro device hholds
    rw [hstep] at hholds
    rcases holds_step hholds with hold | hopens
    · exact .inl hold
    · rw [← hevent] at hopens
      exact .inr hopens
  · intro session hsession hnone
    exact ((hafter.discreet connection session hsession).unopened hnone).written
  · intro session device hsession hdevice hscope frame hframe
    exact ((hafter.discreet connection session hsession).quiet device hdevice hscope).written
      (.protocol frame) hframe frame rfl

/-- A database of which only the hashes are used. -/
def plainBackend : Backend ByteArray :=
  ⟨id, fun _ => .error "", fun _ => .error "", fun _ => .error ""⟩

/-- A server that serializes everything into one byte. -/
def byteConfig : ServerSessionConfig := ⟨.default, 4, 15000, fun _ => ([⟨#[0xa1]⟩], none)⟩

/-- A message of ten bytes. -/
def binary (frame : ClientFrame) : Message := .binary ⟨10, .ok (frame, 10)⟩

/-- A device pairs and asks for the agents. -/
def paired : List ServerInput :=
  [.start 0 none,
    .store (.createPairing "phone" ⟨true, false, false, false, false, false⟩ 0 ⟨100, by decide⟩
      ⟨"grant"⟩ ⟨"secret"⟩ none),
    .accept,
    .first 0 (some (binary (.hello ⟨[1], [], .pair ⟨"grant"⟩ ⟨"secret"⟩ ⟨"", .mobile⟩⟩)))
      ⟨50, ⟨"device"⟩, ⟨"token"⟩, ⟨"connection"⟩, none, true, true⟩,
    .receive 0 (binary (.request ⟨⟨"1"⟩, none, .listAgents⟩)),
    .claim 0 60 none]

/-- The agents are listed for the device that has paired, and for a reason. -/
theorem authorization_paired :
    (∃ e ∈ history byteConfig plainBackend ⟨"server"⟩ paired,
      e.output = some (0, .called none .listAgents)) ∧
    ∀ e ∈ history byteConfig plainBackend ⟨"server"⟩ paired, ∀ key request,
      e.output = some (0, .called key request) → ∃ session device,
        e.before.session 0 = some session ∧ session.device = some device ∧
          Accepted device session.received key request := by
  refine ⟨?_, fun e he => (authorization byteConfig plainBackend ?_ ⟨"server"⟩ paired e he 0).2.2.1⟩
  · have hcalled : ((history byteConfig plainBackend ⟨"server"⟩ paired).any fun e =>
        e.output = some (0, .called none .listAgents)) = true := rfl
    obtain ⟨e, he, houtput⟩ := List.any_eq_true.mp hcalled
    exact ⟨e, he, of_decide_eq_true houtput⟩
  · intro outcome bytes decoded hencoded
    cases hencoded

end Server

end OmpRemote.Ompd

import OmpRemote.Ompd.ResponseLanes

/-!
# Responses

Every request of a connection is answered in turn, and the loop takes no further message
meanwhile, so a connection is answered in the order of its requests.

- `Task.Serves`: which request a call of `execute_request` is for.
- `Agrees`: how the loop and the daemon's task count the requests.
- `responses_in_order`: the law over whole runs of the server.
-/

namespace OmpRemote.Ompd

open Lib

/-! ## Requests and their tasks -/

/-- The loop is in none of a request, the first frame and its end. -/
def Loop.waits : Loop → Bool
  | .receiving | .sending .. | .subscribing _ | .starting .. => true
  | .first | .executing _ | .done => false

def requests (received : List ClientFrame) : List RequestEnvelope :=
  received.filterMap ClientFrame.request?

/-- The key under which a device's request is claimed. -/
def operationKey (device : DeviceRecord) (envelope : RequestEnvelope) : Option OperationKey :=
  envelope.operationId.map fun operationId => ⟨device.deviceId, operationId⟩

/-- The call of `execute_request` is for the request. -/
def Task.Serves (device : DeviceRecord) (envelope : RequestEnvelope) : Task → Prop
  | .received asked => asked = envelope
  | .claimed key request => operationKey device envelope = some key ∧ request = envelope.request
  | .executing key request => operationKey device envelope = key ∧ request = envelope.request
  | .executed key _ => operationKey device envelope = some key

namespace Daemon

variable {δ : Type} {backend : Backend δ} {daemon : Daemon δ} {connection : Nat}

/-- What a step does to the request of one connection: nothing, or it takes the request
on, or answers it. -/
structure Handling (daemon : Daemon δ) (connection : Nat) (result : Option Effect × Daemon δ) :
    Prop where
  up : result.2.up = daemon.up
  others : ∀ other, other ≠ connection →
    result.2.connections other = daemon.connections other
  silent : (∀ device task, daemon.connections connection ≠ some ⟨device, some task⟩) →
    result.1 = none ∧ result.2.connections connection = daemon.connections connection
  goes : ∀ device task envelope, daemon.connections connection = some ⟨device, some task⟩ →
    task.Serves device envelope →
      (∃ task', result.2.connections connection = some ⟨device, some task'⟩ ∧
        task'.Serves device envelope ∧ result.1.bind Effect.outcome? = none) ∨
      (result.2.connections connection = some ⟨device, none⟩ ∧
        (result.1.bind Effect.outcome?).isSome = true)

theorem handling_refl (daemon : Daemon δ) (connection : Nat) :
    Handling daemon connection (none, daemon) where
  up := rfl
  others _ _ := rfl
  silent _ := ⟨rfl, rfl⟩
  goes _ task _ hconnection hserves := .inl ⟨task, hconnection, hserves, rfl⟩

/-- The request's task moves on, or is gone with the answer. -/
theorem handling_setTask {device : DeviceRecord} {task : Task} {after : Option Task}
    {effect : Option Effect} {daemon' : Daemon δ} (hup : daemon'.up = daemon.up)
    (hconnections : daemon'.connections =
      Function.update daemon.connections connection (some ⟨device, after⟩))
    (hconnection : daemon.connections connection = some ⟨device, some task⟩)
    (hafter : ∀ envelope, task.Serves device envelope →
      (∃ task', after = some task' ∧ task'.Serves device envelope ∧
        effect.bind Effect.outcome? = none) ∨
      (after = none ∧ (effect.bind Effect.outcome?).isSome = true)) :
    Handling daemon connection (effect, daemon') where
  up := hup
  others other hother := by
    show daemon'.connections other = _
    rw [hconnections, Function.update_of_ne hother]
  silent hnone := absurd hconnection (hnone device task)
  goes device' task' envelope hconnection' hserves := by
    rw [hconnection] at hconnection'
    cases hconnection'
    rcases hafter envelope hserves with ⟨task', rfl, hserves', hsilent⟩ | ⟨rfl, hanswered⟩
    · refine .inl ⟨task', ?_, hserves', hsilent⟩
      show daemon'.connections connection = _
      rw [hconnections, Function.update_self]
    · refine .inr ⟨?_, hanswered⟩
      show daemon'.connections connection = _
      rw [hconnections, Function.update_self]

variable [DecidableEq δ]

theorem handling_claim (backend : Backend δ) (daemon : Daemon δ) (connection : Nat) (nowMs : UInt64)
    (fault : Option Nat) :
    Handling daemon connection (daemon.step backend (.claim connection nowMs fault)) := by
  dsimp only [step]
  split
  · rename_i device envelope hconnection
    unfold claim
    split
    · exact handling_setTask rfl rfl hconnection fun _ _ => .inr ⟨rfl, rfl⟩
    split
    · exact handling_setTask rfl rfl hconnection fun _ _ => .inr ⟨rfl, rfl⟩
    split
    · rename_i hnone
      refine handling_setTask rfl rfl hconnection ?_
      intro served hserved
      cases (show envelope = served from hserved)
      refine .inl ⟨_, rfl, ⟨?_, rfl⟩, rfl⟩
      rw [operationKey, hnone]
      rfl
    · rename_i operationId hsome
      dsimp only
      split
      · refine handling_setTask rfl rfl hconnection ?_
        intro served hserved
        cases (show envelope = served from hserved)
        refine .inl ⟨_, rfl, ⟨?_, rfl⟩, rfl⟩
        rw [operationKey, hsome]
        rfl
      · exact handling_setTask rfl rfl hconnection fun _ _ => .inr ⟨rfl, rfl⟩
  · exact handling_refl daemon connection

theorem handling_call (backend : Backend δ) (daemon : Daemon δ) (connection : Nat) :
    Handling daemon connection (daemon.step backend (.call connection)) := by
  dsimp only [step]
  split
  · rename_i device key request hconnection
    exact handling_setTask rfl rfl hconnection fun _ hserves => .inl ⟨_, rfl, hserves, rfl⟩
  · exact handling_refl daemon connection

theorem handling_return (backend : Backend δ) (daemon : Daemon δ) (connection : Nat)
    (outcome : ResponseOutcome) :
    Handling daemon connection (daemon.step backend (.return connection outcome)) := by
  dsimp only [step]
  split
  · rename_i device key request hconnection
    exact handling_setTask rfl rfl hconnection fun _ hserves => .inl ⟨_, rfl, hserves.1, rfl⟩
  · rename_i device request hconnection
    exact handling_setTask rfl rfl hconnection fun _ _ => .inr ⟨rfl, rfl⟩
  · exact handling_refl daemon connection

theorem handling_complete (backend : Backend δ) (daemon : Daemon δ) (connection : Nat)
    (nowMs : UInt64) (fault : Option Nat) :
    Handling daemon connection (daemon.step backend (.complete connection nowMs fault)) := by
  dsimp only [step]
  split
  · rename_i device key outcome hconnection
    unfold complete
    dsimp only
    split
    · exact handling_setTask rfl rfl hconnection fun _ _ => .inr ⟨rfl, rfl⟩
    · exact handling_setTask rfl rfl hconnection fun _ _ => .inr ⟨rfl, rfl⟩
  · exact handling_refl daemon connection

end Daemon

namespace Session

variable {config : ServerSessionConfig} {session session' : Session}

/-- What the connection's own steps leave of the requests, and where its loop may go. -/
structure Turned (session session' : Session) : Prop where
  device : session'.device = session.device
  received : session'.received = session.received
  loop : session'.loop = session.loop ∨ (session.loop.waits = true ∧
    (session'.loop.waits = true ∨ session'.loop = .done))

theorem turned_refl (session : Session) : Turned session session := ⟨rfl, rfl, .inl rfl⟩

theorem turned_of_waits (hdevice : session'.device = session.device)
    (hreceived : session'.received = session.received) (hwaits : session.loop.waits = true)
    (hloop : session'.loop.waits = true ∨ session'.loop = .done) : Turned session session' :=
  ⟨hdevice, hreceived, .inr ⟨hwaits, hloop⟩⟩

theorem turned_abort (session : Session) (agentId : AgentId) :
    Turned session (session.abort agentId) := by
  unfold Session.abort
  split <;> exact ⟨rfl, rfl, .inl rfl⟩

theorem turned_resume (session : Session) : Turned session session.resume := by
  unfold Session.resume
  split
  · rename_i hloop
    have hwaits : session.loop.waits = true := by rw [hloop]; rfl
    repeat' split
    all_goals
      first
        | exact turned_refl session
        | exact turned_of_waits rfl rfl hwaits (.inl rfl)
        | exact turned_of_waits rfl rfl hwaits (.inr rfl)
  · rename_i hloop
    have hwaits : session.loop.waits = true := by rw [hloop]; rfl
    split
    · exact turned_of_waits rfl rfl hwaits (.inl rfl)
    · exact turned_of_waits rfl rfl hwaits (.inl rfl)
    · exact turned_refl session
  · exact turned_refl session

theorem turned_subscribed {request : SubscribeRequest} (hloop : session.loop = .subscribing request)
    (result : Subscribed) : Turned session (session.subscribed request result) := by
  have hwaits : session.loop.waits = true := by rw [hloop]; rfl
  obtain ⟨hdevice, hreceived, -⟩ := turned_abort session request.agentId
  cases result with
  | agentNotFound | failed => exact turned_of_waits rfl rfl hwaits (.inl rfl)
  | started start =>
    cases start with
    | snapshot | replay | resyncRequired =>
      exact turned_of_waits hdevice hreceived hwaits (.inl rfl)

theorem turned_step (session : Session) (input : SessionInput) :
    Turned session (session.step config input) := by
  cases input with
  | resume => exact turned_resume session
  | subscribed result =>
    simp only [Session.step]
    split
    · rename_i request hloop
      exact turned_subscribed hloop result
    · exact turned_refl session
  | write ok =>
    simp only [Session.step]
    split
    · unfold Session.write
      repeat' split
      all_goals exact ⟨rfl, rfl, .inl rfl⟩
    · exact turned_refl session
  | heartbeat ping active ok =>
    simp only [Session.step]
    repeat' split
    all_goals exact ⟨rfl, rfl, .inl rfl⟩
  | readerEnds =>
    simp only [Session.step]
    split
    · rename_i hloop
      exact turned_of_waits rfl rfl (by rw [hloop]; rfl) (.inr rfl)
    · exact turned_refl session
  | writerEnded =>
    simp only [Session.step]
    split
    · rename_i hloop
      rw [Bool.and_eq_true, decide_eq_true_iff] at hloop
      exact turned_of_waits rfl rfl (by rw [hloop.1]; rfl) (.inr rfl)
    · exact turned_refl session
  | update | lagged | closed | snapshot | resumeTask =>
    simp only [Session.step, Session.forwardTask, Session.forward]
    repeat' split
    all_goals exact ⟨rfl, rfl, .inl rfl⟩

/-- A request is received: the loop executes it. -/
theorem receive_request {device : DeviceRecord} {message : Message} {frame : ClientFrame}
    {envelope : RequestEnvelope} (hframe : decode config message = some frame)
    (hrequest : ClientFrame.request? frame = some envelope) :
    session.receive config device message = { session with
      received := session.received ++ [frame]
      loop := .executing envelope.requestId } := by
  unfold Session.receive
  rw [hframe]
  cases frame with
  | request | uiResponse =>
    cases hrequest
    rfl
  | subscribe | unsubscribe | ping | hello => cases hrequest

/-- Anything else does not make the loop execute. -/
theorem receive_other {device : DeviceRecord} {message : Message}
    (hloop : session.loop = .receiving)
    (hother : ∀ frame, decode config message = some frame → ClientFrame.request? frame = none) :
    (session.receive config device message).device = session.device ∧
      requests (session.receive config device message).received = requests session.received ∧
      ((session.receive config device message).loop.waits = true ∨
        (session.receive config device message).loop = .done) := by
  have hwaits : session.loop.waits = true := by rw [hloop]; rfl
  unfold Session.receive
  split
  · rename_i frame hframe
    have hnone := hother frame hframe
    have hsame : requests (session.received ++ [frame]) = requests session.received := by
      unfold requests
      rw [List.filterMap_append, List.filterMap_cons, hnone]
      exact List.append_nil _
    cases frame with
    | request | uiResponse => cases hnone
    | ping | hello => exact ⟨rfl, hsame, .inl rfl⟩
    | subscribe request =>
      simp only [Session.handleClientFrame]
      split <;> exact ⟨rfl, hsame, .inl rfl⟩
    | unsubscribe agentId =>
      simp only [Session.handleClientFrame]
      split
      · exact ⟨rfl, hsame, .inl rfl⟩
      · obtain ⟨hdevice, hreceived, -⟩ :=
          turned_abort { session with received := session.received ++ [.unsubscribe agentId] }
            agentId
        refine ⟨hdevice, (congrArg requests hreceived).trans hsame, .inl ?_⟩
        rw [loop_abort]
        exact hwaits
  · split
    · exact ⟨rfl, rfl, .inl rfl⟩
    · exact ⟨rfl, rfl, .inl rfl⟩
    · exact ⟨rfl, rfl, .inl hwaits⟩
    · exact ⟨rfl, rfl, .inr rfl⟩
    · exact ⟨rfl, rfl, .inl rfl⟩

end Session

/-! ## The server -/

namespace Server

variable {δ : Type} {config : ServerSessionConfig} {backend : Backend δ} {server : Server δ}
  {history : List (Event δ)}

/-- The outcome with which a step answers the request of a connection. -/
def answerTo (connection : Nat) (e : Event δ) : Option ResponseOutcome :=
  match e.output with
  | some (other, effect) => if other = connection then effect.outcome? else none
  | none => none

/-- The outcomes that the requests of a connection got, oldest first. -/
def outcomes (history : List (Event δ)) (connection : Nat) : List ResponseOutcome :=
  history.filterMap (answerTo connection)

/-- Requests, each with its outcome. -/
def respond (requests : List RequestEnvelope) (outcomes : List ResponseOutcome) :
    List ResponseEnvelope :=
  (requests.zip outcomes).map fun pair => ⟨pair.1.requestId, pair.2⟩

theorem outcomes_append (history : List (Event δ)) (e : Event δ) (connection : Nat) :
    outcomes (history ++ [e]) connection =
      outcomes history connection ++ (answerTo connection e).toList := by
  unfold outcomes
  rw [List.filterMap_append, List.filterMap_cons]
  cases answerTo connection e <;> rfl

theorem zip_append_of_le {α β : Type} {as : List α} {bs : List β} (h : bs.length ≤ as.length)
    (more : List α) : (as ++ more).zip bs = as.zip bs := by
  induction bs generalizing as with
  | nil => rw [List.zip_nil_right, List.zip_nil_right]
  | cons b bs ih =>
    cases as with
    | nil => cases h
    | cons a as =>
      rw [List.cons_append, List.zip_cons_cons, List.zip_cons_cons, ih (Nat.le_of_succ_le_succ h)]

theorem respond_snoc {earlier : List RequestEnvelope} {outcomes : List ResponseOutcome}
    (hlength : earlier.length = outcomes.length) (envelope : RequestEnvelope)
    (outcome : ResponseOutcome) :
    respond (earlier ++ [envelope]) (outcomes ++ [outcome]) =
      respond (earlier ++ [envelope]) outcomes ++ [⟨envelope.requestId, outcome⟩] := by
  unfold respond
  rw [List.zip_append hlength, zip_append_of_le (Nat.le_of_eq hlength.symm), List.map_append]
  rfl

/-- A request without an outcome has no response. -/
theorem respond_pending {earlier : List RequestEnvelope} {outcomes : List ResponseOutcome}
    (hlength : earlier.length = outcomes.length) (later : List RequestEnvelope) :
    respond (earlier ++ later) outcomes = respond earlier outcomes := by
  unfold respond
  rw [zip_append_of_le (Nat.le_of_eq hlength.symm)]

/-- How a connection and the daemon's task for it agree on the requests, `answered` of
which have outcomes. -/
inductive Agrees (session : Session) (answered : Nat) : Option Connection → Prop where
  | unopened : session.loop = .first → session.device = none → session.received = [] →
      answered = 0 → Agrees session answered none
  | idle (device : DeviceRecord) : session.device = some device → session.loop.waits = true →
      (requests session.received).length = answered →
      Agrees session answered (some ⟨device, none⟩)
  | busy (device : DeviceRecord) (envelope : RequestEnvelope) (earlier : List RequestEnvelope)
      (task : Task) : session.device = some device →
      session.loop = .executing envelope.requestId →
      requests session.received = earlier ++ [envelope] → earlier.length = answered →
      task.Serves device envelope → Agrees session answered (some ⟨device, some task⟩)
  | done : session.loop = .done → answered ≤ (requests session.received).length →
      (requests session.received).length ≤ answered + 1 → Agrees session answered none

/-- The responses of every connection, as far as the steps so far tell. -/
structure Answering (history : List (Event δ)) (server : Server δ) : Prop where
  unborn : ∀ connection, server.accepted ≤ connection → server.session connection = none
  absent : ∀ connection, server.session connection = none →
    server.daemon.connections connection = none ∧ outcomes history connection = []
  agrees : ∀ connection session, server.session connection = some session →
    Agrees session (outcomes history connection).length (server.daemon.connections connection)
  orderly : ∀ connection session, server.session connection = some session →
    session.Orderly (respond (requests session.received) (outcomes history connection))
  up : ∀ connection session, server.session connection = some session →
    session.loop ≠ .done → server.daemon.up = true

theorem answering_create (serverId : ServerId) : Answering [] (create (δ := δ) serverId) where
  unborn _ _ := rfl
  absent _ _ := ⟨rfl, rfl⟩
  agrees _ _ h := by cases h
  orderly _ _ h := by cases h
  up _ _ h := by cases h

theorem Answering.lt_accepted (h : Answering history server) {connection : Nat}
    {session : Session} (hsession : server.session connection = some session) :
    connection < server.accepted := by
  by_contra hle
  rw [h.unborn connection (by omega)] at hsession
  cases hsession

/-- One connection moves. -/
theorem Answering.move (h : Answering history server) {connection : Nat} {session : Session}
    {server' : Server δ} {e : Event δ}
    (hsession : server'.session = Function.update server.session connection (some session))
    (hconnections : ∀ other, other ≠ connection →
      server'.daemon.connections other = server.daemon.connections other)
    (hup : server'.daemon.up = server.daemon.up) (haccepted : server.accepted ≤ server'.accepted)
    (hlt : connection < server'.accepted)
    (hothers : ∀ other, other ≠ connection → answerTo other e = none)
    (hagrees : Agrees session (outcomes (history ++ [e]) connection).length
      (server'.daemon.connections connection))
    (horderly : session.Orderly
      (respond (requests session.received) (outcomes (history ++ [e]) connection)))
    (hlive : session.loop ≠ .done → server.daemon.up = true) :
    Answering (history ++ [e]) server' := by
  have hself : server'.session connection = some session := by
    rw [hsession, Function.update_self]
  have hother : ∀ other, other ≠ connection → server'.session other = server.session other := by
    intro other hne
    rw [hsession, Function.update_of_ne hne]
  have hsame : ∀ other, other ≠ connection →
      outcomes (history ++ [e]) other = outcomes history other := by
    intro other hne
    rw [outcomes_append, hothers other hne]
    exact List.append_nil _
  constructor
  case unborn =>
    intro other hle
    have hne : other ≠ connection := by omega
    rw [hother other hne]
    exact h.unborn other (by omega)
  case absent =>
    intro other hnone
    have hne : other ≠ connection := by
      rintro rfl
      rw [hself] at hnone
      cases hnone
    rw [hother other hne] at hnone
    rw [hsame other hne, hconnections other hne]
    exact h.absent other hnone
  case agrees =>
    intro other found hfound
    by_cases hne : other = connection
    · subst hne
      cases hself.symm.trans hfound
      exact hagrees
    · rw [hother other hne] at hfound
      rw [hsame other hne, hconnections other hne]
      exact h.agrees other found hfound
  case orderly =>
    intro other found hfound
    by_cases hne : other = connection
    · subst hne
      cases hself.symm.trans hfound
      exact horderly
    · rw [hother other hne] at hfound
      rw [hsame other hne]
      exact h.orderly other found hfound
  case up =>
    intro other found hfound hloop
    rw [hup]
    by_cases hne : other = connection
    · subst hne
      cases hself.symm.trans hfound
      exact hlive hloop
    · rw [hother other hne] at hfound
      exact h.up other found hfound hloop

/-- A step that leaves connections as they are, and answers nothing. -/
theorem Answering.keep (h : Answering history server) {server' : Server δ} {e : Event δ}
    (hsession : server'.session = server.session)
    (hconnections : server'.daemon.connections = server.daemon.connections)
    (hup : server.daemon.up = true → server'.daemon.up = true)
    (haccepted : server'.accepted = server.accepted) (hsilent : e.output = none) :
    Answering (history ++ [e]) server' := by
  have hsame : ∀ connection, outcomes (history ++ [e]) connection = outcomes history connection := by
    intro connection
    rw [outcomes_append, answerTo, hsilent]
    exact List.append_nil _
  constructor
  case unborn =>
    intro connection hle
    rw [hsession]
    exact h.unborn connection (haccepted ▸ hle)
  case absent =>
    intro connection hnone
    rw [hsame, hconnections]
    exact h.absent connection (hsession ▸ hnone)
  case agrees =>
    intro connection session hfound
    rw [hsame, hconnections]
    exact h.agrees connection session (hsession ▸ hfound)
  case orderly =>
    intro connection session hfound
    rw [hsame]
    exact h.orderly connection session (hsession ▸ hfound)
  case up =>
    intro connection session hfound hloop
    exact hup (h.up connection session (hsession ▸ hfound) hloop)

/-! ### Steps -/

theorem answerTo_pair {e : Event δ} {connection : Nat} {effect : Option Effect}
    (he : e.output = effect.map fun effect => (connection, effect)) :
    answerTo connection e = effect.bind Effect.outcome? ∧
      ∀ other, other ≠ connection → answerTo other e = none := by
  unfold answerTo
  rw [he]
  cases effect with
  | none => exact ⟨rfl, fun _ _ => rfl⟩
  | some effect => exact ⟨if_pos rfl, fun other hne => if_neg (Ne.symm hne)⟩

/-- The answer of a connection's request goes to its session. -/
theorem answered_some {connection : Nat} {result : Option Effect × Daemon δ} {session : Session}
    {requestId : RequestId} {outcome : ResponseOutcome}
    (houtcome : result.1.bind Effect.outcome? = some outcome)
    (hsession : server.session connection = some session)
    (hloop : session.loop = .executing requestId) :
    (server.answered connection result).2 =
      ({ server with daemon := result.2 }).setSession connection { session with
        loop := .sending .response (.protocol (.response ⟨requestId, outcome⟩)) true false } := by
  unfold Server.answered
  dsimp only
  rw [houtcome, hsession]
  dsimp only
  rw [hloop]

theorem answered_none {connection : Nat} {result : Option Effect × Daemon δ}
    (houtcome : result.1.bind Effect.outcome? = none) :
    (server.answered connection result).2 = { server with daemon := result.2 } := by
  unfold Server.answered
  dsimp only
  rw [houtcome]

/-- A request is taken on or answered. -/
theorem Answering.answered (h : Answering history server) {connection : Nat}
    {result : Option Effect × Daemon δ} (hhandling : server.daemon.Handling connection result)
    {e : Event δ} (he : e.output = (server.answered connection result).1) :
    Answering (history ++ [e]) (server.answered connection result).2 := by
  rw [answered_output] at he
  obtain ⟨hanswer, hothers⟩ := answerTo_pair he
  have hquiet (hnone : ∀ device task,
      server.daemon.connections connection ≠ some ⟨device, some task⟩) :
      Answering (history ++ [e]) (server.answered connection result).2 := by
    obtain ⟨hsilent, hsame⟩ := hhandling.silent hnone
    rw [answered_none (by rw [hsilent]; rfl)]
    refine h.keep rfl ?_ (fun hup => hhandling.up.trans hup) rfl (by rw [he, hsilent]; rfl)
    funext other
    by_cases hother : other = connection
    · rw [hother]
      exact hsame
    · exact hhandling.others other hother
  cases hsession : server.session connection with
  | none =>
    refine hquiet ?_
    intro device task hsome
    rw [(h.absent connection hsession).1] at hsome
    cases hsome
  | some session =>
    have hagrees := h.agrees connection session hsession
    have horderly := h.orderly connection session hsession
    have hup := h.up connection session hsession
    generalize hconnection : server.daemon.connections connection = entry at hagrees
    cases hagrees with
    | unopened | idle | done =>
      refine hquiet ?_
      intro device task hsome
      rw [hconnection] at hsome
      cases hsome
    | busy device envelope earlier task hdevice hloop hrequests hlength hserves =>
      rcases hhandling.goes device task envelope hconnection hserves with
        ⟨task', hnext, hserves', hsilent⟩ | ⟨hnext, hanswered⟩
      · rw [answered_none hsilent]
        rw [hsilent] at hanswer
        have hsame : outcomes (history ++ [e]) connection = outcomes history connection := by
          rw [outcomes_append, hanswer]
          exact List.append_nil _
        have hkept : server.session = Function.update server.session connection (some session) := by
          rw [← hsession, Function.update_eq_self]
        refine h.move hkept hhandling.others hhandling.up (Nat.le_refl _) (h.lt_accepted hsession) hothers ?_ ?_ hup
        · rw [hsame]
          show Agrees session _ (result.2.connections connection)
          rw [hnext]
          exact .busy device envelope earlier task' hdevice hloop hrequests hlength hserves'
        · rw [hsame]
          exact horderly
      · obtain ⟨outcome, houtcome⟩ := Option.isSome_iff_exists.mp hanswered
        rw [answered_some houtcome hsession hloop]
        have hnew : outcomes (history ++ [e]) connection =
            outcomes history connection ++ [outcome] := by
          rw [outcomes_append, hanswer, houtcome]
          rfl
        refine h.move rfl hhandling.others hhandling.up (Nat.le_refl _) (h.lt_accepted hsession)
          hothers ?_ ?_ (fun _ => hup (by rw [hloop]; nofun))
        · show Agrees _ _ (result.2.connections connection)
          rw [hnext, hnew]
          refine .idle device hdevice rfl ?_
          show (requests session.received).length = _
          rw [hrequests, List.length_append, List.length_append, hlength]
          rfl
        · show Session.Orderly (respond (requests session.received) _) _
          rw [hnew, hrequests, respond_snoc hlength, ← hrequests]
          exact horderly.answer hloop outcome

variable [DecidableEq δ]

theorem up_store (daemon : Daemon δ) (operation : StoreOperation) :
    (daemon.step backend (.store operation)).2.up = daemon.up := by
  dsimp only [Daemon.step]
  split <;> rfl

/-- A daemon that authenticates is otherwise as before. -/
theorem authenticate_keeps (backend : Backend δ) (daemon : Daemon δ)
    (authentication : ClientAuthentication) (handshake : Handshake) :
    (authenticate backend daemon authentication handshake).2.connections = daemon.connections ∧
      (authenticate backend daemon authentication handshake).2.up = daemon.up := by
  obtain ⟨operation, hstore⟩ := authenticate_store backend daemon authentication handshake
  rw [hstore]
  exact ⟨connections_store daemon operation, up_store daemon operation⟩

variable (backend) in
/-- What settles a connection: its session, and no task once it is done. -/
theorem settle_daemon (server : Server δ) (connection : Nat) (session : Session) :
    (server.settle backend connection session).daemon.up = server.daemon.up ∧
      (∀ other, other ≠ connection →
        (server.settle backend connection session).daemon.connections other =
          server.daemon.connections other) ∧
      (server.settle backend connection session).daemon.connections connection =
        if session.loop = .done then none else server.daemon.connections connection := by
  unfold Server.settle
  dsimp only
  split
  · exact ⟨rfl, fun other hne => Function.update_of_ne hne _ _, Function.update_self _ _ _⟩
  · exact ⟨rfl, fun _ _ => rfl, rfl⟩

/-- A connection settles where it is not answered. -/
theorem Answering.settle (h : Answering history server) {connection : Nat}
    {session session' : Session} (hsession : server.session connection = some session)
    (horderly : session'.Orderly
      (respond (requests session'.received) (outcomes history connection)))
    (hagrees : Agrees session' (outcomes history connection).length
      (if session'.loop = .done then none else server.daemon.connections connection))
    (hlive : session'.loop ≠ .done → session.loop ≠ .done) {e : Event δ} (hsilent : e.output = none) :
    Answering (history ++ [e]) (server.settle backend connection session') := by
  obtain ⟨hup, hothers, hself⟩ := settle_daemon backend server connection session'
  have hnone : ∀ other, answerTo other e = none := by
    intro other
    unfold answerTo
    rw [hsilent]
  have hsame : outcomes (history ++ [e]) connection = outcomes history connection := by
    rw [outcomes_append, hnone]
    exact List.append_nil _
  refine h.move (settle_session server connection session') hothers hup
    (Nat.le_of_eq (settle_accepted server connection session').symm) ?_ (fun other _ => hnone other)
    ?_ ?_ (fun hloop => h.up connection session hsession (hlive hloop))
  · rw [settle_accepted]
    exact h.lt_accepted hsession
  · rw [hsame, hself]
    exact hagrees
  · rw [hsame]
    exact horderly

theorem Answering.session (h : Answering history server) {connection : Nat} {session : Session}
    (hsession : server.session connection = some session) (input : SessionInput) {e : Event δ}
    (hsilent : e.output = none) :
    Answering (history ++ [e])
      (server.settle backend connection (session.step config input)) := by
  have hagrees := h.agrees connection session hsession
  have hturned : Session.Turned session (session.step config input) := session.turned_step input
  obtain ⟨hdevice, hreceived, hloop⟩ := hturned
  have horderly : (session.step config input).Orderly _ :=
    (h.orderly connection session hsession).step input
  have hlive : (session.step config input).loop ≠ .done → session.loop ≠ .done := by
    intro hne hdone
    rcases hloop with hsame | ⟨hwaits, -⟩
    · exact hne (hsame.trans hdone)
    · rw [hdone] at hwaits
      cases hwaits
  rw [← hreceived] at horderly
  refine h.settle hsession horderly ?_ hlive hsilent
  generalize server.daemon.connections connection = entry at hagrees
  cases hagrees with
  | unopened hfirst hnone hempty hzero =>
    rcases hloop with hsame | ⟨hwaits, -⟩
    · rw [hsame, hfirst]
      exact .unopened (hsame.trans hfirst) (hdevice.trans hnone) (hreceived.trans hempty) hzero
    · rw [hfirst] at hwaits
      cases hwaits
  | idle device hsome hwaits hlength =>
    rw [← hreceived] at hlength
    have hnext : (session.step config input).loop.waits = true ∨
        (session.step config input).loop = .done := by
      rcases hloop with hsame | ⟨-, hnext⟩
      · exact .inl (hsame ▸ hwaits)
      · exact hnext
    rcases hnext with hwaits' | hdone
    · rw [if_neg (by intro hdone; rw [hdone] at hwaits'; cases hwaits')]
      exact .idle device (hdevice.trans hsome) hwaits' hlength
    · rw [if_pos hdone]
      exact .done hdone (by omega) (by omega)
  | busy device envelope earlier task hsome hexecuting hrequests hlength hserves =>
    rcases hloop with hsame | ⟨hwaits, -⟩
    · rw [hsame, hexecuting]
      exact .busy device envelope earlier task (hdevice.trans hsome) (hsame.trans hexecuting)
        (by rw [hreceived]; exact hrequests) hlength hserves
    · rw [hexecuting] at hwaits
      cases hwaits
  | done hdone hle hlt =>
    rcases hloop with hsame | ⟨hwaits, -⟩
    · rw [if_pos (hsame.trans hdone)]
      exact .done (hsame.trans hdone) (by rw [hreceived]; exact hle) (by rw [hreceived]; exact hlt)
    · rw [hdone] at hwaits
      cases hwaits

omit [DecidableEq δ] in
/-- An idle connection, as a connection that awaits a message is. -/
theorem Answering.idle (h : Answering history server) {connection : Nat} {session : Session}
    {device : DeviceRecord} (hsession : server.session connection = some session)
    (hwaits : session.loop.waits = true) (hdevice : session.device = some device) :
    server.daemon.connections connection = some ⟨device, none⟩ ∧
      (requests session.received).length = (outcomes history connection).length := by
  have hagrees := h.agrees connection session hsession
  generalize server.daemon.connections connection = entry at hagrees
  cases hagrees with
  | unopened hloop | done hloop | busy _ _ _ _ _ hloop =>
    rw [hloop] at hwaits
    cases hwaits
  | idle device' hsome _ hlength =>
    cases hsome.symm.trans hdevice
    exact ⟨rfl, hlength⟩

theorem Answering.receive (h : Answering history server) {connection : Nat} {session : Session}
    {device : DeviceRecord} (hsession : server.session connection = some session)
    (hloop : session.loop = .receiving) (hdevice : session.device = some device)
    (message : Message) {e : Event δ} (hsilent : e.output = none) :
    Answering (history ++ [e])
      (server.receive config backend connection session device message) := by
  have hwaits : session.loop.waits = true := by rw [hloop]; rfl
  obtain ⟨hconnection, hlength⟩ := h.idle hsession hwaits hdevice
  have horderly : (session.receive config device message).Orderly _ :=
    (h.orderly connection session hsession).receive hloop device message
  have hlive : session.loop ≠ .done := by
    rw [hloop]
    nofun
  cases hrequest : (Session.decode config message).bind ClientFrame.request? with
  | some envelope =>
    obtain ⟨frame, hframe, hrequest⟩ := Option.bind_eq_some_iff.mp hrequest
    have hsession' : session.receive config device message = { session with
        received := session.received ++ [frame]
        loop := .executing envelope.requestId } := Session.receive_request hframe hrequest
    have hrequests : requests (session.received ++ [frame]) =
        requests session.received ++ [envelope] := by
      unfold requests
      rw [List.filterMap_append, List.filterMap_cons, hrequest]
      rfl
    have hstep : server.receive config backend connection session device message =
        { server.setSession connection { session with
            received := session.received ++ [frame]
            loop := .executing envelope.requestId } with
          daemon := server.daemon.setTask connection device (some (.received envelope)) } := by
      unfold Server.receive
      dsimp only
      rw [hsession', hframe]
      dsimp only [Server.settle]
      rw [if_neg (by nofun)]
      dsimp only [Daemon.step, setSession]
      rw [hconnection, hrequest]
    have hsame : outcomes (history ++ [e]) connection = outcomes history connection := by
      rw [outcomes_append, answerTo, hsilent]
      exact List.append_nil _
    rw [hstep]
    refine h.move rfl (fun other hne => Function.update_of_ne hne _ _) rfl (Nat.le_refl _)
      (h.lt_accepted hsession) (fun other _ => by rw [answerTo, hsilent]) ?_ ?_
      (fun _ => h.up connection session hsession hlive)
    · rw [hsame]
      show Agrees _ _ (Function.update server.daemon.connections connection _ connection)
      rw [Function.update_self]
      exact .busy device envelope (requests session.received) _ hdevice rfl hrequests hlength rfl
    · rw [hsame]
      show Session.Orderly (respond (requests (session.received ++ [frame])) _) _
      rw [hrequests, respond_pending hlength, ← hsession']
      exact horderly
  | none =>
    have hother : ∀ frame, Session.decode config message = some frame →
        ClientFrame.request? frame = none := by
      intro frame hframe
      rw [hframe] at hrequest
      exact hrequest
    obtain ⟨hsame, hrequests, hnext⟩ :=
      @Session.receive_other config session device message hloop hother
    have hstep : server.receive config backend connection session device message =
        server.settle backend connection (session.receive config device message) := by
      unfold Server.receive
      dsimp only
      split
      · rename_i frame hframe
        have hnone := hother frame hframe
        dsimp only [Daemon.step]
        rw [hnone]
        split
        · rename_i heq
          cases heq
        · rfl
      · rfl
    rw [hstep]
    rw [← hrequests] at horderly
    refine h.settle hsession horderly ?_ (fun _ => hlive) hsilent
    rw [← hrequests] at hlength
    rcases hnext with hwaits' | hdone
    · rw [if_neg (by intro hdone; rw [hdone] at hwaits'; cases hwaits'), hconnection]
      exact .idle device (hsame.trans hdevice) hwaits' hlength
    · rw [if_pos hdone]
      exact .done hdone (by omega) (by omega)

omit [DecidableEq δ] in
/-- A connection that has not been opened yet. -/
theorem Answering.first_agrees (h : Answering history server) {connection : Nat}
    {session : Session} (hsession : server.session connection = some session)
    (hfirst : session.loop = .first) :
    server.daemon.connections connection = none ∧ requests session.received = [] ∧
      outcomes history connection = [] := by
  have hagrees := h.agrees connection session hsession
  generalize server.daemon.connections connection = entry at hagrees
  cases hagrees with
  | unopened _ _ hempty hzero =>
    exact ⟨rfl, by rw [hempty]; rfl, List.eq_nil_of_length_eq_zero hzero⟩
  | idle _ _ hwaits =>
    rw [hfirst] at hwaits
    cases hwaits
  | busy _ _ _ _ _ hloop | done hloop => cases hfirst.symm.trans hloop

theorem Answering.first (h : Answering history server) {connection : Nat} {session : Session}
    (hsession : server.session connection = some session) (hfirst : session.loop = .first)
    (message : Option Message) (handshake : Handshake) {e : Event δ} (hsilent : e.output = none) :
    Answering (history ++ [e])
      (server.first config backend connection session message handshake) := by
  obtain ⟨hnone, hempty, hzero⟩ := h.first_agrees hsession hfirst
  have horderly := h.orderly connection session hsession
  have hnow : outcomes (history ++ [e]) connection = [] := by
    rw [outcomes_append, answerTo, hsilent, hzero]
    rfl
  have hothers : ∀ other, other ≠ connection → answerTo other e = none := by
    intro other _
    unfold answerTo
    rw [hsilent]
  have hup := h.up connection session hsession (by rw [hfirst]; nofun)
  -- whatever the daemon did, the connection has no task
  have hended (daemon : Daemon δ) {session' : Session} (horderly' : session'.Orderly [])
      (hsame : session'.received = session.received) (hdone : session'.loop = .done)
      (hconnections : daemon.connections = server.daemon.connections)
      (hup' : daemon.up = server.daemon.up) :
      Answering (history ++ [e]) (({ server with daemon }).setSession connection session') := by
    refine h.move rfl (fun other _ => congrFun hconnections other) hup' (Nat.le_refl _)
      (h.lt_accepted hsession) hothers ?_ ?_ (fun _ => hup)
    · show Agrees session' _ (daemon.connections connection)
      rw [hnow, hconnections, hnone]
      exact .done hdone (Nat.zero_le _) (by rw [hsame, hempty]; exact Nat.zero_le _)
    · rw [hnow, hsame, hempty]
      exact horderly'
  rw [hzero, hempty] at horderly
  have hrejected := horderly.reject hfirst
  unfold Server.first
  split
  · exact hended server.daemon hrejected rfl rfl rfl rfl
  rename_i hello version _
  obtain ⟨hconnections, hup'⟩ :=
    authenticate_keeps backend server.daemon hello.authentication handshake
  split
  · rename_i daemon heq
    rw [heq] at hconnections hup'
    exact hended _ hrejected rfl rfl hconnections hup'
  rename_i authenticated daemon heq
  rw [heq] at hconnections hup'
  dsimp only at hconnections hup' ⊢
  split
  · exact hended _ hrejected rfl rfl hconnections hup'
  have hwelcomed := horderly.welcome hfirst authenticated.device
    (Server.welcome config daemon hello version authenticated handshake.connectionId)
    handshake.sent
  cases hsent : handshake.sent with
  | false =>
    rw [hsent] at hwelcomed
    exact hended _ hwelcomed rfl rfl hconnections hup'
  | true =>
    rw [hsent] at hwelcomed
    have hconnected : (daemon.step backend (.connect connection authenticated.device)).2 =
        daemon.setTask connection authenticated.device none := by
      dsimp only [Daemon.step]
      rw [if_pos (hup'.trans hup)]
    rw [if_pos rfl, hconnected]
    refine h.move rfl ?_ hup' (Nat.le_refl _) (h.lt_accepted hsession) hothers ?_ ?_ (fun _ => hup)
    · intro other hne
      exact (Function.update_of_ne hne _ _).trans (congrFun hconnections other)
    · show Agrees _ _ (Function.update daemon.connections connection _ connection)
      rw [Function.update_self, hnow]
      exact .idle authenticated.device rfl rfl (by
        show (requests session.received).length = 0
        rw [hempty]
        rfl)
    · rw [hnow]
      show Session.Orderly (respond (requests session.received) []) _
      rw [hempty]
      exact hwelcomed

omit [DecidableEq δ] in
theorem Answering.accept (h : Answering history server) (hup : server.daemon.up = true)
    (outboundCapacity : Nat) {e : Event δ} (hsilent : e.output = none) :
    Answering (history ++ [e])
      { server.setSession server.accepted (.new outboundCapacity) with
        accepted := server.accepted + 1 } := by
  obtain ⟨hnone, hempty⟩ :=
    h.absent server.accepted (h.unborn server.accepted (Nat.le_refl _))
  have hnow : outcomes (history ++ [e]) server.accepted = [] := by
    rw [outcomes_append, answerTo, hsilent, hempty]
    rfl
  refine h.move rfl (fun _ _ => rfl) rfl (Nat.le_succ _) (Nat.lt_succ_self _)
    (fun other _ => by rw [answerTo, hsilent]) ?_ ?_ (fun _ => hup)
  · show Agrees _ _ (server.daemon.connections server.accepted)
    rw [hnone, hnow]
    exact .unopened rfl rfl rfl rfl
  · rw [hnow]
    exact Session.orderly_new outboundCapacity

omit [DecidableEq δ] in
/-- What the loop counted when it ended. -/
theorem Agrees.finish {session : Session} {answered : Nat} {connection : Option Connection}
    (h : Agrees session answered connection) : Agrees session.finish answered none := by
  refine .done rfl ?_ ?_
  all_goals
    show _ ≤ _
    cases h with
    | unopened _ _ hempty hzero =>
      simp only [Session.finish, hempty, hzero]
      exact Nat.zero_le _
    | idle _ _ _ hlength =>
      simp only [Session.finish]
      omega
    | busy _ _ _ _ _ _ hrequests hlength =>
      simp only [Session.finish, hrequests, List.length_append, List.length_singleton]
      omega
    | done _ hle hlt =>
      simp only [Session.finish]
      omega

theorem Answering.crash (h : Answering history server) {e : Event δ} (hsilent : e.output = none) :
    Answering (history ++ [e]) { server with
      daemon := (server.daemon.step backend .crash).2
      session := fun connection => (server.session connection).map Session.finish } := by
  have hsame : ∀ connection,
      outcomes (history ++ [e]) connection = outcomes history connection := by
    intro connection
    rw [outcomes_append, answerTo, hsilent]
    exact List.append_nil _
  constructor
  case unborn =>
    intro connection hle
    show (server.session connection).map _ = none
    rw [h.unborn connection hle, Option.map_none]
  case absent =>
    intro connection hnone
    rw [hsame]
    exact ⟨rfl, (h.absent connection (Option.map_eq_none_iff.mp hnone)).2⟩
  case agrees =>
    intro connection session hsession
    obtain ⟨before, hbefore, rfl⟩ := Option.map_eq_some_iff.mp hsession
    rw [hsame]
    exact (h.agrees connection before hbefore).finish
  case orderly =>
    intro connection session hsession
    obtain ⟨before, hbefore, rfl⟩ := Option.map_eq_some_iff.mp hsession
    rw [hsame]
    exact (h.orderly connection before hbefore).finish
  case up =>
    intro connection session hsession hloop
    obtain ⟨before, -, rfl⟩ := Option.map_eq_some_iff.mp hsession
    exact absurd rfl hloop

theorem Answering.answer (h : Answering history server) (connection : Nat)
    (result : Except ControllerError Returned) (nowMs : UInt64) (fault : Option Nat) {e : Event δ} :
    e.output = (server.answer backend connection result nowMs fault).1 →
      Answering (history ++ [e]) (server.answer backend connection result nowMs fault).2 := by
  unfold Server.answer
  split
  · rename_i device key deviceId hconnection
    -- a revocation writes the store before it returns
    have hhandling : Daemon.Handling server.daemon connection
        ((server.daemon.step backend (.store (.revokeDevice deviceId nowMs fault))).2.step backend
          (.return connection (revoke server.daemon.store deviceId nowMs fault))) := by
      obtain ⟨hup, hothers, hsilent, hgoes⟩ := Daemon.handling_return backend
        (server.daemon.step backend (.store (.revokeDevice deviceId nowMs fault))).2 connection
        (revoke server.daemon.store deviceId nowMs fault)
      rw [connections_store] at hothers hsilent hgoes
      rw [up_store] at hup
      exact ⟨hup, hothers, hsilent, hgoes⟩
    exact h.answered hhandling
  · exact h.answered (Daemon.handling_return backend server.daemon connection _)
  · exact h.keep rfl rfl id rfl

/-- **Every step keeps account of the responses.** -/
theorem answering_step (h : Answering history server) (input : ServerInput) {e : Event δ} :
    e.output = (server.step config backend input).1 →
      Answering (history ++ [e]) (server.step config backend input).2 := by
  cases input with
  | accept =>
    dsimp only [step]
    split
    · rename_i hup
      exact h.accept hup config.outboundCapacity
    · exact h.keep rfl rfl id rfl
  | first connection message handshake =>
    dsimp only [step]
    split
    · rename_i session hsession
      split
      · rename_i hfirst
        exact h.first hsession hfirst message handshake
      · exact h.keep rfl rfl id rfl
    · exact h.keep rfl rfl id rfl
  | receive connection message =>
    dsimp only [step]
    split
    · rename_i session hsession
      split
      · rename_i device hloop hdevice
        exact h.receive hsession hloop hdevice message
      · exact h.keep rfl rfl id rfl
    · exact h.keep rfl rfl id rfl
  | session connection input =>
    dsimp only [step]
    split
    · rename_i session hsession
      exact h.session hsession input
    · exact h.keep rfl rfl id rfl
  | claim connection nowMs fault =>
    exact h.answered (Daemon.handling_claim backend server.daemon connection nowMs fault)
  | call connection => exact h.answered (Daemon.handling_call backend server.daemon connection)
  | complete connection nowMs fault =>
    exact h.answered (Daemon.handling_complete backend server.daemon connection nowMs fault)
  | answer connection result nowMs fault => exact h.answer connection result nowMs fault
  | store operation =>
    exact h.keep rfl (connections_store server.daemon operation)
      (fun hup => (up_store server.daemon operation).trans hup) rfl
  | crash => exact h.crash
  | start nowMs fault =>
    refine h.keep rfl ?_ ?_ rfl
    · dsimp only [step, Daemon.step]
      split <;> rfl
    · intro hup
      dsimp only [step, Daemon.step]
      rw [if_pos hup]
      exact hup

/-! ### The law -/

theorem answering_run (config : ServerSessionConfig) (backend : Backend δ) (serverId : ServerId)
    (inputs : List ServerInput) :
    Answering (Server.history config backend serverId inputs)
      (Mealy.run (step config backend) (create serverId) inputs) :=
  Mealy.history_invariant (answering_create serverId)
    (fun _ _ input h => answering_step h input rfl) inputs

/-- **Requests are answered in order, each once.**

In every run of the server, on every connection: all requests but the last have their
outcome, and the last has it unless the loop executes it; what is written are the
responses with these outcomes and the requests' own ids, in the order of the requests;
and while the writer runs none is missing, those that are not written being queued in
the response lane or held by the loop. -/
theorem responses_in_order (config : ServerSessionConfig) (backend : Backend δ)
    (serverId : ServerId) (inputs : List ServerInput) (connection : Nat) (session : Session)
    (hsession : (Mealy.run (step config backend) (create serverId) inputs).session connection =
      some session) :
    let answered := outcomes (Server.history config backend serverId inputs) connection
    let given := respond (requests session.received) answered
    (session.loop.waits = true → answered.length = (requests session.received).length) ∧
    (∀ requestId, session.loop = .executing requestId → ∃ earlier envelope,
      requests session.received = earlier ++ [envelope] ∧ envelope.requestId = requestId ∧
        answered.length = earlier.length) ∧
    (answered.length ≤ (requests session.received).length ∧
      (requests session.received).length ≤ answered.length + 1) ∧
    responses session.written <+: given ∧
    (session.writer = true → responses session.written ++
      (responses (session.outbound.lane .response).buffer ++ Session.held session.loop) = given) := by
  intro answered given
  have h := answering_run config backend serverId inputs
  have hagrees := h.agrees connection session hsession
  have horderly := h.orderly connection session hsession
  generalize (Mealy.run (step config backend) (create serverId) inputs).daemon.connections
    connection = entry at hagrees
  refine ⟨?_, ?_, ?_, horderly.written, ?_⟩
  · intro hwaits
    cases hagrees with
    | idle _ _ _ hlength => exact hlength.symm
    | unopened hloop | busy _ _ _ _ _ hloop | done hloop =>
      rw [hloop] at hwaits
      cases hwaits
  · intro requestId hexecuting
    cases hagrees with
    | busy _ envelope earlier _ _ hloop hrequests hlength =>
      rw [hloop] at hexecuting
      cases hexecuting
      exact ⟨earlier, envelope, hrequests, rfl, hlength.symm⟩
    | idle _ _ hwaits =>
      rw [hexecuting] at hwaits
      cases hwaits
    | unopened hloop | done hloop => cases hloop.symm.trans hexecuting
  · cases hagrees with
    | unopened _ _ hempty hzero =>
      show (outcomes _ connection).length ≤ _ ∧ _
      rw [hempty, hzero]
      exact ⟨Nat.le_refl _, Nat.zero_le _⟩
    | idle _ _ _ hlength =>
      exact ⟨Nat.le_of_eq hlength.symm, Nat.le_succ_of_le (Nat.le_of_eq hlength)⟩
    | busy _ _ _ _ _ _ hrequests hlength =>
      rw [hrequests, List.length_append, List.length_singleton, hlength]
      exact ⟨Nat.le_succ _, Nat.le_refl _⟩
    | done _ hle hlt => exact ⟨hle, hlt⟩
  · intro hwriter
    obtain ⟨queue, hcarries, hwhole⟩ := horderly.whole
    rw [hcarries.queued]
    exact hwhole (.inl hwriter)

/-- The device's request is answered, and the response waits in its lane. -/
def listed : List ServerInput :=
  paired ++ [.answer 0 (.error (.runtime "busy")) 60 none, .session 0 .resume]

theorem responses_in_order_listed : ∃ session,
    (Mealy.run (step byteConfig plainBackend) (create ⟨"server"⟩) listed).session 0 = some session ∧
      session.writer = true ∧ (requests session.received).length = 1 ∧
      responses session.written ++
        (responses (session.outbound.lane .response).buffer ++ Session.held session.loop) =
        respond (requests session.received)
          (outcomes (Server.history byteConfig plainBackend ⟨"server"⟩ listed) 0) := by
  have hsome : ((Mealy.run (step byteConfig plainBackend) (create ⟨"server"⟩) listed).session
      0).isSome = true := rfl
  obtain ⟨session, hsession⟩ := Option.isSome_iff_exists.mp hsome
  have hwriter : ((Mealy.run (step byteConfig plainBackend) (create ⟨"server"⟩) listed).session
      0).any (fun found => found.writer && (requests found.received).length == 1) = true := rfl
  rw [hsession] at hwriter
  have hstate : session.writer = true ∧ (requests session.received).length = 1 := by
    simpa using hwriter
  exact ⟨session, hsession, hstate.1, hstate.2,
    (responses_in_order byteConfig plainBackend ⟨"server"⟩ listed 0 session
      hsession).2.2.2.2 hstate.1⟩

end Server

end OmpRemote.Ompd

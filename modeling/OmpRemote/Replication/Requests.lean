import OmpRemote.Client.RequestTable
import OmpRemote.Ompd.Executions
import OmpRemote.Ompd.Passages

/-!
# Requests from end to end

An application's client and the daemon, with everybody else who talks to the daemon. The
network loses, delays, repeats and reorders what is sent on a connection; connections
break, and the daemon crashes and starts again.

- `System.step`: one side goes on, or a message arrives.
- `Delivered`: what the client's connections carry, and what its replies answer.
- `reply_executed`: what a reply says about the controller, over whole runs.
-/

namespace OmpRemote.Replication

open Lib Client
open ClientRunner (Input)
open Ompd (Server ServerInput ServerSessionConfig Session Backend DeviceRecord OutboundPayload
  requests)

/-! ## The client -/

/-- What the runner has sent and replied, but for responses. -/
structure Keeps (runner runner' : ClientRunner) : Prop where
  requests : runner.requests ⊆ runner'.requests
  connection : runner'.connection = runner.connection
  replies : ∀ reply ∈ runner'.replies, reply ∈ runner.replies ∨ reply.2 = .error .clientStopped

namespace Keeps

variable {runner runner' runner'' : ClientRunner}

theorem of_eq (hrequests : runner'.requests = runner.requests)
    (hconnection : runner'.connection = runner.connection)
    (hreplies : runner'.replies = runner.replies) : Keeps runner runner' := by
  refine ⟨?_, hconnection, ?_⟩
  · rw [hrequests]
    exact List.Subset.refl _
  · intro reply hreply
    rw [hreplies] at hreply
    exact .inl hreply

theorem refl (runner : ClientRunner) : Keeps runner runner := of_eq rfl rfl rfl

theorem trans (h : Keeps runner runner') (h' : Keeps runner' runner'') : Keeps runner runner'' := by
  refine ⟨List.Subset.trans h.requests h'.requests, h'.connection.trans h.connection, ?_⟩
  intro reply hreply
  rcases h'.replies reply hreply with hold | hstopped
  · exact h.replies reply hold
  · exact .inr hstopped

/-- What is dropped is replied to with `ClientStopped`. -/
theorem drop (tickets : List Ticket) (hrequests : runner'.requests = runner.requests)
    (hconnection : runner'.connection = runner.connection)
    (hreplies : runner'.replies =
      runner.replies ++ tickets.map fun ticket => (ticket, .error .clientStopped)) :
    Keeps runner runner' := by
  refine ⟨?_, hconnection, ?_⟩
  · rw [hrequests]
    exact List.Subset.refl _
  · intro reply hreply
    rw [hreplies] at hreply
    rcases List.mem_append.mp hreply with hold | hnew
    · exact .inl hold
    · obtain ⟨ticket, -, rfl⟩ := List.mem_map.mp hnew
      exact .inr rfl

theorem insertPending (runner : ClientRunner) (payload : PendingPayload) (response : Ticket) :
    Keeps runner (runner.insertPending payload response) := by
  refine drop ((runner.pending.lookup runner.nextPending).toList.map (·.response)) rfl rfl ?_
  rw [List.map_map]
  rfl

theorem failPending (runner : ClientRunner) :
    Keeps runner (runner.failPending .clientStopped) := by
  refine drop (runner.pending.rows.map (·.2.response)) rfl rfl ?_
  rw [List.map_map]
  rfl

theorem shutdown (runner : ClientRunner) : Keeps runner runner.shutdown :=
  (failPending runner).trans (of_eq rfl rfl rfl)

theorem stop (runner : ClientRunner) : Keeps runner runner.stop := by
  refine (failPending runner).trans
    (drop (runner.commands.filterMap ClientCommand.ticket?) rfl rfl ?_)
  rfl

theorem disconnected (runner : ClientRunner) : Keeps runner runner.disconnected := of_eq rfl rfl rfl

theorem sendPending (runner : ClientRunner) (key : UInt64) (ok : Bool) :
    Keeps runner (runner.sendPending key ok).2 := by
  unfold ClientRunner.sendPending
  split
  · exact refl runner
  dsimp only
  split
  · exact of_eq rfl rfl rfl
  have hgrown {sent : Sent} {next : ClientRunner}
      (hrequests : next.requests = runner.requests ++ [sent])
      (hconnection : next.connection = runner.connection)
      (hreplies : next.replies = runner.replies) : Keeps runner next := by
    refine ⟨?_, hconnection, ?_⟩
    · rw [hrequests]
      exact List.subset_append_left _ _
    · intro reply hreply
      exact .inl (hreplies ▸ hreply)
  split <;> exact hgrown rfl rfl rfl

theorem handleOfflineCommand (runner : ClientRunner) (command : ClientCommand) :
    Keeps runner (runner.handleOfflineCommand command) := by
  cases command with
  | request payload response => exact insertPending runner payload response
  | subscribe | unsubscribe => exact of_eq rfl rfl rfl
  | shutdown => exact shutdown runner

theorem handleConnectedCommand (runner : ClientRunner) (ok : Bool) (command : ClientCommand) :
    Keeps runner (runner.handleConnectedCommand ok command) := by
  cases command with
  | request payload response =>
    have hsent := (insertPending runner payload response).trans
      (sendPending (runner.insertPending payload response) runner.nextPending ok)
    simp only [ClientRunner.handleConnectedCommand]
    split
    · exact hsent
    · exact hsent.trans (disconnected _)
  | subscribe | unsubscribe =>
    simp only [ClientRunner.handleConnectedCommand]
    repeat' split
    all_goals exact of_eq rfl rfl rfl
  | shutdown => exact shutdown runner

theorem call (runner : ClientRunner) (input : Input) : Keeps runner (runner.call input) := by
  cases input with
  | request | freshRequest | respondToUi | command =>
    simp only [ClientRunner.call]
    repeat' split
    all_goals exact of_eq rfl rfl rfl
  | _ => exact of_eq rfl rfl rfl

theorem take (runner : ClientRunner) (ok : Bool) : Keeps runner (runner.take ok) := by
  have htaken (commands : List ClientCommand) : Keeps runner { runner with commands } :=
    of_eq rfl rfl rfl
  unfold ClientRunner.take
  split
  · exact (htaken _).trans (handleOfflineCommand _ _)
  · exact (htaken _).trans (handleConnectedCommand _ ok _)
  · split
    · exact refl runner
    · exact shutdown runner
  · split
    · exact refl runner
    · exact shutdown runner
  · exact refl runner

/-- Whatever is neither a welcome nor a frame. -/
theorem step (runner : ClientRunner) {input : Input} (hwelcome : input ≠ .welcome)
    (hframe : ∀ frame ok, input ≠ .frame frame ok) : Keeps runner (runner.step input) := by
  cases input with
  | welcome => exact absurd rfl hwelcome
  | frame frame ok => exact absurd rfl (hframe frame ok)
  | take ok => exact take runner ok
  | initializeConnection ok =>
    simp only [ClientRunner.step]
    split
    · split
      · exact of_eq rfl rfl rfl
      · exact disconnected runner
    · rename_i key keys _
      have hsent := sendPending runner key ok
      split
      · exact hsent.trans (of_eq rfl rfl rfl)
      · exact hsent.trans (disconnected _)
    · exact of_eq rfl rfl rfl
    · exact refl runner
  | lose =>
    simp only [ClientRunner.step]
    split
    · exact disconnected runner
    · exact refl runner
  | fail =>
    simp only [ClientRunner.step]
    split
    · exact of_eq rfl rfl rfl
    · exact refl runner
  | closed =>
    simp only [ClientRunner.step]
    split
    · exact stop runner
    · exact refl runner
  | request | freshRequest | respondToUi | command | dropHandles =>
    simp only [ClientRunner.step]
    split
    · exact call runner _
    · exact refl runner

/-- A frame that is no response. -/
theorem handleServerFrame (runner : ClientRunner) {frame : ServerFrame}
    (hresponse : ∀ response, frame ≠ .response response) (ok : Bool) :
    Keeps runner (runner.handleServerFrame frame ok) := by
  cases frame with
  | response response => exact absurd rfl (hresponse response)
  | error | pong => exact refl runner
  | serverShutdown => exact disconnected runner
  | welcome => exact of_eq rfl rfl rfl
  | snapshot | delta | event | replayGap | interactionRequest =>
    simp only [ClientRunner.handleServerFrame]
    split <;> exact of_eq rfl rfl rfl

end Keeps

/-- What a frame makes the runner reply: what the response with the id of a request says. -/
theorem frame_cases {runner : ClientRunner} (h : ClientRunner.Invariant runner)
    (frame : ServerFrame) (ok : Bool) :
    Keeps runner (runner.step (.frame frame ok)) ∨
      ∃ response key entry, frame = .response response ∧ runner.phase = .connected ∧
        runner.pending.lookup key = some entry ∧
        entry.sentRequestId = some response.requestId ∧
        (runner.step (.frame frame ok)).requests = runner.requests ∧
        (runner.step (.frame frame ok)).connection = runner.connection ∧
        (runner.step (.frame frame ok)).replies =
          runner.replies ++ [(entry.response, ClientRunner.outcome response)] := by
  simp only [ClientRunner.step]
  split
  · rename_i hphase
    by_cases hresponse : ∃ response, frame = .response response
    · obtain ⟨response, rfl⟩ := hresponse
      simp only [ClientRunner.handleServerFrame]
      rcases ClientRunner.completeResponse_cases h.tables response with
        ⟨-, hsame⟩ | ⟨key, entry, hentry, hmark, hdone⟩
      · rw [hsame]
        exact .inl (Keeps.refl runner)
      · rw [hdone]
        exact .inr ⟨response, key, entry, rfl, hphase, hentry, hmark, rfl, rfl, rfl⟩
    · exact .inl (Keeps.handleServerFrame runner (fun response heq => hresponse ⟨response, heq⟩) ok)
  · exact .inl (Keeps.refl runner)

/-! ## Both sides -/

structure System (δ : Type) where
  runner : ClientRunner
  server : Server δ
  /-- The client's connection at the other end of a connection of the server. -/
  link : Nat → Option Nat
  /-- The steps of the server so far. -/
  history : List (Server.Event δ)

inductive SystemInput where
  /-- The application, the runner, or its socket. -/
  | client (input : Input)
  /-- The client accepts the welcome of a connection. -/
  | welcome (connection : Nat)
  /-- The client gets a frame that was written to its connection. -/
  | deliver (connection : Nat) (frame : ServerFrame) (ok : Bool)
  /-- The server, and whoever else talks to it. -/
  | server (input : ServerInput)

/-- What the client gets from the server comes in other ways. -/
def fromServer : Input → Bool
  | .welcome | .frame .. => true
  | _ => false

namespace System

variable {δ : Type}

def create (random : String) (serverId : ServerId) : System δ :=
  ⟨.new random, .create serverId, fun _ => none, []⟩

def isWelcome : OutboundPayload → Bool
  | .protocol (.welcome _) => true
  | _ => false

/-- The connection has been welcomed, and is nobody else's. -/
def welcomes (system : System δ) (connection : Nat) : Bool :=
  system.runner.phase = .offline && (system.link connection).isNone &&
    (system.server.session connection).any fun session =>
      session.written.any isWelcome && (requests session.received).isEmpty

/-- The frame was written to the connection that the client has now. -/
def delivers (system : System δ) (connection : Nat) (frame : ServerFrame) : Bool :=
  system.link connection = some system.runner.connection &&
    (system.server.session connection).any fun session => .protocol frame ∈ session.written

/-- A request that arrives on a connection of the client was sent on it. -/
def carries (config : ServerSessionConfig) (system : System δ) : ServerInput → Bool
  | .receive connection message =>
    match system.link connection, Session.decode config message with
    | some number, some frame => (Ompd.ClientFrame.request? frame).isNone ||
        system.runner.requests.any fun sent => sent.connection = number && sent.frame = frame
    | _, _ => true
  | _ => true

variable [DecidableEq δ]

def step (config : ServerSessionConfig) (backend : Backend δ) (system : System δ) :
    SystemInput → System δ
  | .client input =>
    if fromServer input then system else { system with runner := system.runner.step input }
  | .welcome connection =>
    if system.welcomes connection then
      { system with
        runner := system.runner.step .welcome
        link := Function.update system.link connection (some (system.runner.connection + 1)) }
    else system
  | .deliver connection frame ok =>
    if system.delivers connection frame then
      { system with runner := system.runner.step (.frame frame ok) }
    else system
  | .server input =>
    if system.carries config input then
      { system with
        server := (system.server.step config backend input).2
        history := system.history ++ [Mealy.event (Server.step config backend) system.server input] }
    else system

end System

/-! ## What a connection carries -/

/-- Where the requests of a connection come from. -/
inductive Received {δ : Type} (config : ServerSessionConfig) (server : Server δ)
    (input : ServerInput) (connection : Nat) (found : Session) : Prop where
  | none : requests found.received = [] → Received config server input connection found
  | same (session : Session) : server.session connection = some session →
      found.received = session.received → found.device = session.device →
      Received config server input connection found
  | message (session : Session) (device : DeviceRecord) (message : Ompd.Message) :
      input = .receive connection message → server.session connection = some session →
      session.loop = .receiving → session.device = some device → found = session.receive config device message →
      Received config server input connection found

section

variable {δ : Type} [DecidableEq δ] {config : ServerSessionConfig} {backend : Backend δ}
  {server : Server δ} {history : List (Server.Event δ)}

theorem received_step (h : Server.Answering history server) {input : ServerInput}
    {connection : Nat} {found : Session}
    (hfound : (server.step config backend input).2.session connection = some found) :
    Received config server input connection found := by
  cases Server.passage_step hfound with
  | opened _ heq =>
    subst heq
    exact .none rfl
  | kept hsession => exact .same found hsession rfl rfl
  | stepped session i hsession heq =>
    have hturned : Session.Turned session (session.step config i) := Session.turned_step session i
    rw [← heq] at hturned
    exact .same session hsession hturned.received hturned.device
  | received session device message hinput hsession hloop hdevice heq =>
    exact .message session device message hinput hsession hloop hdevice heq
  | rejected session hsession hfirst heq =>
    subst heq
    exact .none (h.first_agrees hsession hfirst).2.1
  | welcomed session message handshake hello version authenticated daemon _ hsession hfirst _ _
      heq =>
    subst heq
    exact .none (h.first_agrees hsession hfirst).2.1
  | answered session requestId outcome hsession _ heq =>
    subst heq
    exact .same session hsession rfl rfl
  | finished session hsession heq =>
    subst heq
    exact .same session hsession rfl rfl

/-- The request that a message adds is the one it holds. -/
theorem received_cases {session : Session} {device : DeviceRecord} {message : Ompd.Message}
    {envelope : RequestEnvelope} (hloop : session.loop = .receiving)
    (h : envelope ∈ requests (session.receive config device message).received) :
    envelope ∈ requests session.received ∨ ∃ frame, Session.decode config message = some frame ∧
      Ompd.ClientFrame.request? frame = some envelope := by
  cases hrequest : (Session.decode config message).bind Ompd.ClientFrame.request? with
  | some envelope' =>
    obtain ⟨frame, hframe, hrequest⟩ := Option.bind_eq_some_iff.mp hrequest
    rw [Session.receive_request hframe hrequest] at h
    unfold requests at h
    rw [List.filterMap_append, List.mem_append] at h
    rcases h with hold | hnew
    · exact .inl hold
    · simp only [List.filterMap_cons, hrequest, List.filterMap_nil, List.mem_singleton] at hnew
      exact .inr ⟨frame, hframe, hnew ▸ hrequest⟩
  | none =>
    refine .inl ?_
    have hother : ∀ frame, Session.decode config message = some frame →
        Ompd.ClientFrame.request? frame = none := by
      intro frame hframe
      rw [hframe] at hrequest
      exact hrequest
    rwa [(Session.receive_other hloop hother).2.1] at h

omit [DecidableEq δ] in
theorem exchanges_found {connection : Nat} {exchange : RequestEnvelope × ResponseOutcome}
    (h : exchange ∈ Server.exchanges history server connection) :
    ∃ session, server.session connection = some session ∧
      exchange.1 ∈ requests session.received := by
  unfold Server.exchanges at h
  split at h
  · rename_i session hsession
    exact ⟨session, hsession, (List.of_mem_zip h).1⟩
  · cases h

theorem exchanges_mono (h : Server.Answering history server) (input : ServerInput)
    (connection : Nat) : Server.exchanges history server connection ⊆
      Server.exchanges (history ++ [Mealy.event (Server.step config backend) server input])
        (server.step config backend input).2 connection := by
  intro exchange hexchange
  rcases @Server.exchanges_step δ _ backend config server history h input connection _ rfl with
    hsame | ⟨_, _, _, _, _, _, _, _, _, _, _, _, _, hgrown⟩
  · rwa [hsame]
  · rw [hgrown]
    exact List.mem_append_left _ hexchange

end

/-- What was sent asks the daemon for the request. -/
theorem request?_frame (sent : Sent) : ∃ envelope,
    Ompd.ClientFrame.request? sent.frame = some envelope ∧ envelope.requestId = sent.requestId := by
  obtain ⟨response, connection, requestId, payload⟩ := sent
  cases payload <;> exact ⟨_, rfl, rfl⟩

/-! ## The law -/

/-- A session at the other end of a connection of the client. -/
structure Carried (runner : ClientRunner) (number : Nat) (session : Session) : Prop where
  authenticated : requests session.received ≠ [] → session.device.isSome
  sent : ∀ envelope ∈ requests session.received, ∃ sent ∈ runner.requests,
    sent.connection = number ∧ Ompd.ClientFrame.request? sent.frame = some envelope

/-- A reply is the outcome that the request has on a connection it was sent on. -/
def System.Answered {δ : Type} (system : System δ) (ticket : Ticket)
    (reply : Except RequestError ControlResponse) : Prop :=
  ∃ sent ∈ system.runner.requests, sent.response = ticket ∧ ∃ connection envelope outcome,
    system.link connection = some sent.connection ∧
    Ompd.ClientFrame.request? sent.frame = some envelope ∧
    (envelope, outcome) ∈ Server.exchanges system.history system.server connection ∧
    reply = ClientRunner.outcome ⟨envelope.requestId, outcome⟩

structure Delivered {δ : Type} [DecidableEq δ] (config : ServerSessionConfig) (backend : Backend δ)
    (serverId : ServerId) (system : System δ) : Prop where
  runner : ClientRunner.Invariant system.runner
  reached : ∃ inputs, system.history = Server.history config backend serverId inputs ∧
    system.server = Mealy.run (Server.step config backend) (.create serverId) inputs
  carried : ∀ connection number session, system.link connection = some number →
    system.server.session connection = some session → Carried system.runner number session
  replies : ∀ reply ∈ system.runner.replies, reply.2 = .error .clientStopped ∨
    system.Answered reply.1 reply.2

section

variable {δ : Type} [DecidableEq δ] {config : ServerSessionConfig} {backend : Backend δ}
  {serverId : ServerId} {system : System δ}

theorem Carried.mono {runner runner' : ClientRunner} {number : Nat} {session : Session}
    (h : Carried runner number session) (hrequests : runner.requests ⊆ runner'.requests) :
    Carried runner' number session := by
  refine ⟨h.authenticated, ?_⟩
  intro envelope henvelope
  obtain ⟨sent, hsent, hfrom⟩ := h.sent envelope henvelope
  exact ⟨sent, hrequests hsent, hfrom⟩

omit [DecidableEq δ] in
theorem System.Answered.mono {system' : System δ} {ticket : Ticket}
    {reply : Except RequestError ControlResponse} (h : system.Answered ticket reply)
    (hrequests : system.runner.requests ⊆ system'.runner.requests)
    (hlink : ∀ connection number, system.link connection = some number →
      system'.link connection = some number)
    (hexchanges : ∀ connection, Server.exchanges system.history system.server connection ⊆
      Server.exchanges system'.history system'.server connection) :
    system'.Answered ticket reply := by
  obtain ⟨sent, hsent, hticket, connection, envelope, outcome, hlinked, hrequest, hexchange, heq⟩ :=
    h
  exact ⟨sent, hrequests hsent, hticket, connection, envelope, outcome,
    hlink connection _ hlinked, hrequest, hexchanges connection hexchange, heq⟩

theorem Delivered.explaining (h : Delivered config backend serverId system) :
    Server.Explaining backend serverId system.history system.server := by
  obtain ⟨inputs, hhistory, hserver⟩ := h.reached
  rw [hhistory, hserver]
  exact Server.explaining_run config backend serverId inputs

/-- The client goes on, and replies to nothing with a response. -/
theorem Delivered.keep (h : Delivered config backend serverId system) {runner : ClientRunner}
    (hrunner : ClientRunner.Invariant runner) (hkeeps : Keeps system.runner runner) :
    Delivered config backend serverId { system with runner } := by
  constructor
  case runner => exact hrunner
  case reached => exact h.reached
  case carried =>
    intro connection number session hlink hsession
    exact (h.carried connection number session hlink hsession).mono hkeeps.requests
  case replies =>
    intro reply hreply
    rcases hkeeps.replies reply hreply with hold | hstopped
    · rcases h.replies reply hold with hstopped | hanswered
      · exact .inl hstopped
      · exact .inr (hanswered.mono hkeeps.requests (fun _ _ hlinked => hlinked)
          fun _ => List.Subset.refl _)
    · exact .inl hstopped

/-- The client accepts a welcome. -/
theorem Delivered.welcome (h : Delivered config backend serverId system) {connection : Nat}
    (hwelcomes : system.welcomes connection = true) :
    Delivered config backend serverId { system with
      runner := system.runner.step .welcome
      link := Function.update system.link connection (some (system.runner.connection + 1)) } := by
  unfold System.welcomes at hwelcomes
  simp only [Bool.and_eq_true, decide_eq_true_eq, Option.isNone_iff_eq_none] at hwelcomes
  obtain ⟨⟨hphase, hunlinked⟩, hsome⟩ := hwelcomes
  have hstep : system.runner.step .welcome = { system.runner with
      phase := .initializing system.runner.desiredSubscriptions
        ((system.runner.pending.rows.map Prod.fst).mergeSort (· ≤ ·))
      connection := system.runner.connection + 1 } := if_pos hphase
  constructor
  case runner => exact h.runner.step .welcome
  case reached => exact h.reached
  case carried =>
    intro other number session hlink hsession
    rw [hstep]
    by_cases hsame : other = connection
    · subst hsame
      -- nothing has been received on the new connection
      rw [show system.server.session other = some session from hsession, Option.any_some,
        Bool.and_eq_true, List.isEmpty_iff] at hsome
      refine ⟨fun hne => absurd hsome.2 hne, ?_⟩
      intro envelope henvelope
      rw [hsome.2] at henvelope
      cases henvelope
    · exact (h.carried other number session ((Function.update_of_ne hsame _ _).symm.trans hlink)
        hsession).mono (List.Subset.refl _)
  case replies =>
    intro reply hreply
    rw [hstep] at hreply ⊢
    rcases h.replies reply hreply with hstopped | hanswered
    · exact .inl hstopped
    · refine .inr (hanswered.mono (List.Subset.refl _) ?_ fun _ => List.Subset.refl _)
      intro other number hlinked
      have hne : other ≠ connection := by
        rintro rfl
        rw [hunlinked] at hlinked
        cases hlinked
      exact (Function.update_of_ne hne _ _).trans hlinked

/-- The client gets a frame. -/
theorem Delivered.deliver (h : Delivered config backend serverId system) {connection : Nat}
    {frame : ServerFrame} (hdelivers : system.delivers connection frame = true) (ok : Bool) :
    Delivered config backend serverId
      { system with runner := system.runner.step (.frame frame ok) } := by
  rcases frame_cases h.runner frame ok with hkeeps |
    ⟨response, key, entry, rfl, -, hentry, hmark, hrequests, -, hreplies⟩
  · exact h.keep (h.runner.step _) hkeeps
  have hmono : system.runner.requests ⊆
      (system.runner.step (.frame (.response response) ok)).requests := by
    rw [hrequests]
    exact List.Subset.refl _
  constructor
  case runner => exact h.runner.step (.frame (.response response) ok)
  case reached => exact h.reached
  case carried =>
    intro other number session hlink hsession
    exact (h.carried other number session hlink hsession).mono hmono
  case replies =>
    intro reply hreply
    rw [hreplies] at hreply
    rcases List.mem_append.mp hreply with hold | hnew
    · rcases h.replies reply hold with hstopped | hanswered
      · exact .inl hstopped
      · exact .inr (hanswered.mono hmono (fun _ _ hlinked => hlinked) fun _ => List.Subset.refl _)
    · obtain rfl := List.mem_singleton.mp hnew
      right
      unfold System.delivers at hdelivers
      rw [Bool.and_eq_true, decide_eq_true_eq] at hdelivers
      obtain ⟨hlink, hwritten⟩ := hdelivers
      rw [Option.any_eq_true] at hwritten
      obtain ⟨session, hsession, hwritten⟩ := hwritten
      have hresponse : response ∈ Ompd.responses session.written :=
        List.mem_filterMap.mpr ⟨_, of_decide_eq_true hwritten, rfl⟩
      obtain ⟨envelope, hexchange, hid⟩ :=
        Server.mem_exchanges_of_response h.explaining.answering hsession hresponse
      obtain ⟨found, hfound, hreceived⟩ := exchanges_found hexchange
      cases hsession.symm.trans hfound
      -- the request with this id is the one that is pending
      obtain ⟨sent, hsent, hconnection, hrequest⟩ :=
        (h.carried connection _ session hlink hsession).sent envelope hreceived
      have hmarked := h.runner.tables.marked key entry _ hentry hmark
      have hsame : sent = ⟨entry.response, system.runner.connection, response.requestId,
          entry.payload⟩ := by
        obtain ⟨envelope', hrequest', hid'⟩ := request?_frame sent
        cases hrequest.symm.trans hrequest'
        exact List.inj_on_of_nodup_map h.runner.tables.ids_once hsent hmarked
          (hid'.symm.trans hid)
      refine ⟨sent, hmono hsent, congrArg Sent.response hsame, connection, envelope,
        response.outcome, by rw [hconnection]; exact hlink, hrequest, hexchange, ?_⟩
      rw [hid]

/-- The server goes on. -/
theorem Delivered.serve (h : Delivered config backend serverId system) {input : ServerInput}
    (hcarries : system.carries config input = true) :
    Delivered config backend serverId { system with
      server := (system.server.step config backend input).2
      history := system.history ++
        [Mealy.event (Server.step config backend) system.server input] } := by
  have hanswering := h.explaining.answering
  constructor
  case runner => exact h.runner
  case reached =>
    obtain ⟨inputs, hhistory, hserver⟩ := h.reached
    refine ⟨inputs ++ [input], ?_, ?_⟩
    · show _ ++ _ = _
      rw [hhistory, hserver]
      unfold Server.history
      rw [Mealy.trace_append]
      rfl
    · show (system.server.step config backend input).2 = _
      rw [hserver]
      unfold Mealy.run
      rw [run_append]
      rfl
  case carried =>
    intro connection number found hlink hfound
    cases received_step hanswering hfound with
    | none hempty =>
      refine ⟨fun hne => absurd hempty hne, ?_⟩
      intro envelope henvelope
      rw [hempty] at henvelope
      cases henvelope
    | same session hsession hreceived hdevice =>
      have hcarried := h.carried connection number session hlink hsession
      exact ⟨by rw [hreceived, hdevice]; exact hcarried.authenticated,
        by rw [hreceived]; exact hcarried.sent⟩
    | message session device message hinput hsession hloop hdevice heq =>
      have hcarried := h.carried connection number session hlink hsession
      have hsteady : (session.receive config device message).device = session.device :=
        (Session.steady_receive device message).device
      subst heq hinput
      refine ⟨fun _ => by rw [hsteady, hdevice]; rfl, ?_⟩
      intro envelope henvelope
      rcases received_cases hloop henvelope with hold | ⟨frame, hframe, hrequest⟩
      · exact hcarried.sent envelope hold
      · -- a request on a connection of the client was sent by it
        dsimp only [System.carries] at hcarries
        rw [show system.link connection = some number from hlink, hframe] at hcarries
        dsimp only at hcarries
        rw [hrequest] at hcarries
        obtain ⟨sent, hsent, hsame⟩ := List.any_eq_true.mp hcarries
        simp only [Bool.and_eq_true, decide_eq_true_eq] at hsame
        exact ⟨sent, hsent, hsame.1, by rw [hsame.2]; exact hrequest⟩
  case replies =>
    intro reply hreply
    rcases h.replies reply hreply with hstopped | hanswered
    · exact .inl hstopped
    · exact .inr (hanswered.mono (List.Subset.refl _) (fun _ _ hlinked => hlinked)
        fun connection => exchanges_mono hanswering input connection)

end

/-- A client that asks for its device to be revoked, and is told that it has been. -/
def revoking : List SystemInput :=
  let requestId : RequestId := ⟨"request-r-0"⟩
  [.client (.request (.revokeDevice ⟨"device"⟩) (some ⟨"operation"⟩)), .client (.take true),
    .server (.start 0 none),
    .server (.store (.createPairing "phone" ⟨true, false, false, false, false, true⟩ 0
      ⟨100, Server.lifetime_ne⟩ ⟨"grant"⟩ ⟨"secret"⟩ none)),
    .server .accept,
    .server (.first 0 (some (Server.binary
        (.hello ⟨[1], [], .pair ⟨"grant"⟩ ⟨"secret"⟩ ⟨"", .mobile⟩⟩)))
      ⟨50, ⟨"device"⟩, ⟨"token"⟩, ⟨"connection"⟩, none, true, true⟩),
    .welcome 0, .client (.initializeConnection true), .client (.initializeConnection true),
    .server (.receive 0 (Server.binary
      (.request ⟨requestId, some ⟨"operation"⟩, .revokeDevice ⟨"device"⟩⟩))),
    .server (.claim 0 60 none), .server (.call 0), .server (.answer 0 (.error (.runtime "")) 61 none),
    .server (.complete 0 62 none), .server (.session 0 .resume), .server (.session 0 (.write true)),
    .deliver 0 (.response ⟨requestId, .success (.deviceRevoked ⟨"device"⟩)⟩) true]

end OmpRemote.Replication

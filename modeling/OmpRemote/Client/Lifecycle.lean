import Mathlib.Data.List.Chain
import OmpRemote.Lib.Duration
import OmpRemote.Client.Events
import OmpRemote.Client.Handshake
import OmpRemote.Client.RequestTable

/-!
# The life of a client

What `run` does around its runner: it connects, authenticates, keeps the device
credential, waits before it connects again, tells the application its status, and
returns.

- `Lifecycle.step`: one `await` of `run` at a time.
- `runner_step`: requests are handled as the runner alone handles them.
- `statuses_follow`: the statuses the application sees, over whole runs.

`actions` is not in the source: it logs what the client does that others can see.
-/

namespace OmpRemote.Client

open Lib

/-! ## What the client is given -/

inductive AuthenticationSource where
  | storedCredential
  | pair (authentication : ClientAuthentication)

structure ReconnectPolicy where
  initialDelay : Duration
  maximumDelay : Duration

namespace ReconnectPolicy

def default : ReconnectPolicy := ⟨.ofMillis 250, .ofMillis 10000⟩

def backoff (policy : ReconnectPolicy) : Backoff := ⟨policy.initialDelay, policy.maximumDelay⟩

end ReconnectPolicy

def nextDelay (current maximum : Duration) : Duration := min (current.saturatingMul 2) maximum

/-- `ClientConfig`, with what `run` reads of it. -/
structure RunConfig extends ClientConfig where
  authentication : AuthenticationSource
  reconnect : ReconnectPolicy

def ClientRunError.message : ClientRunError → String
  | credentialUnavailable => "no device credential is stored for this server"
  | credentialServerMismatch => "device credential does not match the connected server"
  | credentialStorage error => "device credential storage failed: " ++ error
  | serverIdentityMismatch => "connected server identity does not match the configured server"
  | protocol error => "control protocol failed: " ++ error
  | transport error => "WebSocket transport failed: " ++ error

/-- What the socket receives. -/
inductive SocketEvent where
  | binary (message : WireMessage ServerFrame)
  | closed (reason : Option String)

def deviceAuthentication (credential : DeviceCredential) : ClientAuthentication :=
  .device credential.deviceId credential.token

/-! ## The states of `run` -/

/-- Where `run` is. -/
inductive Stage where
  | starting
  | connecting (authentication : ClientAuthentication)
  /-- The hello is being sent. -/
  | greeting (authentication : ClientAuthentication)
  | authenticating (authentication : ClientAuthentication)
  | initializing (codec : CborCodec)
  | serving (codec : CborCodec)
  /-- Before it connects again; the delay is that of the time after. -/
  | waiting (delay : Duration)
  /-- The socket is being closed, after which `run` returns so. -/
  | closing (error : Option ClientRunError)
  /-- A shutdown without a connection: the status is set before the socket is closed. -/
  | leaving
  | returned (error : Option ClientRunError)

/-- Why the client waits before it connects again. -/
inductive Setback where
  /-- There was no connection, or no welcome. -/
  | unreached
  /-- What is sent after the welcome could not be sent. -/
  | uninitialized
  /-- The connection was there; the server may say when to come back. -/
  | ended (after : Option Duration)

inductive Action where
  | status (status : ConnectionStatus)
  | hello (hello : Hello)
  | saved (credential : DeviceCredential)
  | sleep (setback : Setback) (duration : Duration)

structure Lifecycle where
  stage : Stage
  runner : ClientRunner
  activeCredential : Option DeviceCredential
  reconnectDelay : Duration
  status : ConnectionStatus
  actions : List Action

/-- What the application does with its handles. -/
def ofApplication : ClientRunner.Input → Bool
  | .request .. | .freshRequest _ | .respondToUi .. | .command _ | .dropHandles => true
  | _ => false

inductive LifecycleInput where
  | application (input : ClientRunner.Input)
  /-- The head of the loop; `loaded` is what the credential store has for the server. -/
  | start (loaded : Except String (Option DeviceCredential))
  /-- The runner takes the next command; `sent` is what sending a frame comes to. -/
  | take (sent : Except String Unit)
  | connected (result : Except String Unit)
  | greeted (sent : Except String Unit)
  /-- The first answer; `saved` is what the credential store says to a new credential. -/
  | answered (event : Except String SocketEvent) (saved : Except String Unit)
  | initialization (sent : Except String Unit)
  | received (event : Except String SocketEvent) (sent : Except String Unit)
  | wake
  | closed

namespace Lifecycle

def new (config : RunConfig) (random : String) : Lifecycle where
  stage := .starting
  runner := .new random
  activeCredential := none
  reconnectDelay := config.reconnect.initialDelay
  status := .disconnected none
  actions := []

def setStatus (client : Lifecycle) (status : ConnectionStatus) : Lifecycle :=
  { client with status, actions := client.actions ++ [.status status] }

/-- Something that ends the run: the socket is closed first. -/
def fatal (client : Lifecycle) (error : ClientRunError) : Lifecycle :=
  { client with runner := client.runner.step .fail, stage := .closing (some error) }

/-- `run` returns, after `fail_pending` and with its last status. -/
def stop (client : Lifecycle) (error : Option ClientRunError) : Lifecycle :=
  { client.setStatus (.stopped (error.map ClientRunError.message)) with
    runner := client.runner.step .closed
    stage := .returned error }

/-- A shutdown without a connection. Where there is no socket left to be closed, closing
it takes no time. -/
def leave (client : Lifecycle) : Lifecycle :=
  { client.setStatus (.stopped none) with stage := .leaving }

/-- `disconnected`, and `wait_before_reconnect` until it sleeps. -/
def setBack (client : Lifecycle) (config : RunConfig) (reason : Option String)
    (setback : Setback) : Lifecycle :=
  let duration := match setback with
    | .ended (some after) => after
    | _ => client.reconnectDelay
  let delay := match setback with
    | .uninitialized => client.reconnectDelay
    | _ => nextDelay client.reconnectDelay config.reconnect.maximumDelay
  let client := client.setStatus (.disconnected reason)
  { client with
    actions := client.actions ++ [.sleep setback duration]
    stage := .waiting delay }

/-- `authentication`; a stored credential is kept. -/
def authentication (client : Lifecycle) (config : RunConfig)
    (loaded : Except String (Option DeviceCredential)) :
    Except ClientRunError ClientAuthentication × Lifecycle :=
  match client.activeCredential, config.authentication with
  | some credential, _ => (.ok (deviceAuthentication credential), client)
  | none, .pair authentication => (.ok authentication, client)
  | none, .storedCredential =>
    match loaded with
    | .error error => (.error (.credentialStorage error), client)
    | .ok none => (.error .credentialUnavailable, client)
    | .ok (some credential) =>
      if credential.serverId ≠ config.serverId then (.error .credentialServerMismatch, client)
      else (.ok (deviceAuthentication credential),
        { client with activeCredential := some credential })

/-- The credential that a first answer makes the client save. -/
def issued (config : RunConfig) (authentication : ClientAuthentication)
    (saved : Except String Unit) (message : WireMessage ServerFrame) : Option DeviceCredential :=
  match (config.frameLimits.codec .authenticated).decodeValue message with
  | .ok (.welcome welcome) =>
    if welcome.protocolVersion ≠ 1 ∨ welcome.serverId ≠ config.serverId then none
    else match config.acceptCredential authentication welcome saved with
      | .ok credential => credential
      | .error _ => none
  | _ => none

def keep (client : Lifecycle) : Option DeviceCredential → Lifecycle
  | none => client
  | some credential => { client with
      activeCredential := some credential
      actions := client.actions ++ [.saved credential] }

/-- What a frame that could not be sent leaves as the reason: no id was left for it, or
what the socket says. -/
def sendError (client : Lifecycle) (request : Bool) : Except String Unit → String
  | .error error =>
    if request && (client.runner.ids.next "request").isNone then
      "control client identifier space is exhausted"
    else error
  | .ok () =>
    if (client.runner.ids.next "request").isNone then "control client identifier space is exhausted"
    else "pending request disappeared before send"

def sends (result : Except String Unit) : Bool := result.isOk

/-- The next command is a request. -/
def takesRequest (client : Lifecycle) : Bool :=
  client.runner.commands.head?.any fun command => command.ticket?.isSome

/-- A frame for the application, or one that ends the connection. -/
def receive (client : Lifecycle) (config : RunConfig) (frame : ServerFrame)
    (sent : Except String Unit) : Lifecycle :=
  let next := { client with runner := client.runner.step (.frame frame (sends sent)) }
  match next.runner.phase, frame with
  | .offline, .serverShutdown reason after =>
    next.setBack config (some reason) (.ended (after.map Duration.ofMillis))
  | .offline, _ => next.setBack config (some (client.sendError false sent)) (.ended none)
  | .closing, _ =>
    { next with stage := .closing (some (.protocol "server sent a second welcome frame")) }
  | _, _ => next

def step (config : RunConfig) (client : Lifecycle) : LifecycleInput → Lifecycle
  | .application input =>
    if ofApplication input then { client with runner := client.runner.step input } else client
  | .start loaded =>
    match client.stage with
    | .starting =>
      match (client.setStatus .connecting).authentication config loaded with
      | (.error error, client) => (client.fatal error).stop (some error)
      | (.ok authentication, client) => { client with stage := .connecting authentication }
    | _ => client
  | .take sent =>
    let next := { client with runner := client.runner.step (.take (sends sent)) }
    match client.stage with
    | .connecting _ | .authenticating _ | .waiting _ =>
      if next.runner.phase = .closing then next.leave else next
    | .serving _ =>
      match next.runner.phase with
      | .offline =>
        next.setBack config (some (client.sendError client.takesRequest sent)) (.ended none)
      | .closing => { next with stage := .closing none }
      | _ => next
    | _ => client
  | .connected result =>
    match client.stage, result with
    | .connecting authentication, .ok () => { client with stage := .greeting authentication }
    | .connecting _, .error error => client.setBack config (some error) .unreached
    | _, _ => client
  | .greeted sent =>
    match client.stage with
    | .greeting authentication =>
      let hello := client.runner.hello config.toClientConfig authentication
      match client.runner.encodeHello config.toClientConfig authentication, sent with
      | .error error, _ => client.setBack config (some error.message) .unreached
      | .ok _, sent =>
        let greeting : Lifecycle := { client with actions := client.actions ++ [.hello hello] }
        match sent with
        | .error error => greeting.setBack config (some error) .unreached
        | .ok () => { greeting with stage := .authenticating authentication }
    | _ => client
  | .answered event saved =>
    match client.stage with
    | .authenticating authentication =>
      match event with
      | .error error => client.setBack config (some error) .unreached
      | .ok (.closed reason) =>
        client.setBack config
          (some (reason.getD "server closed during authentication")) .unreached
      | .ok (.binary message) =>
        let client := client.keep (issued config authentication saved message)
        match config.handshake authentication saved message with
        | .error error => client.fatal error
        | .ok (welcome, _, codec) =>
          let client := { client with reconnectDelay := config.reconnect.initialDelay }.setStatus
            (.connected welcome.serverId welcome.deviceId welcome.protocolVersion)
          { client with
            runner := client.runner.step .welcome
            stage := .initializing codec }
    | _ => client
  | .initialization sent =>
    match client.stage with
    | .initializing codec =>
      let next := { client with runner := client.runner.step (.initializeConnection (sends sent)) }
      match next.runner.phase with
      | .offline =>
        let request := match client.runner.phase with
          | .initializing [] _ => true
          | _ => false
        next.setBack config (some (client.sendError request sent)) .uninitialized
      | .connected => { next with stage := .serving codec }
      | _ => next
    | _ => client
  | .received event sent =>
    match client.stage with
    | .serving codec =>
      match event with
      | .error error =>
        { client with runner := client.runner.step .lose }.setBack config (some error) (.ended none)
      | .ok (.closed reason) =>
        { client with runner := client.runner.step .lose }.setBack config reason (.ended none)
      | .ok (.binary message) =>
        match codec.decodeValue message with
        | .error error => client.fatal (.protocol error.message)
        | .ok frame => client.receive config frame sent
    | _ => client
  | .wake =>
    match client.stage with
    | .waiting delay => { client with stage := .starting, reconnectDelay := delay }
    | _ => client
  | .closed =>
    match client.stage with
    | .closing error => client.stop error
    | .leaving =>
      { client with runner := client.runner.step .closed, stage := .returned none }
    | _ => client

end Lifecycle

/-! ## Where the runner is -/

def Stage.Matches : Stage → Phase → Prop
  | .starting, phase | .connecting _, phase | .greeting _, phase | .authenticating _, phase
  | .waiting _, phase => phase = .offline
  | .initializing _, phase => ∃ subscriptions keys, phase = .initializing subscriptions keys
  | .serving _, phase => phase = .connected
  | .closing _, phase | .leaving, phase => phase = .closing
  | .returned _, phase => phase = .stopped

namespace ClientRunner

variable {runner : ClientRunner}

theorem phase_application {input : Input} (h : ofApplication input = true) :
    (runner.step input).phase = runner.phase := by
  cases input with
  | request | freshRequest | respondToUi | command =>
    simp only [step, call]
    repeat' split
    all_goals rfl
  | dropHandles =>
    simp only [step, call]
    split <;> rfl
  | _ => cases h

theorem phase_take_offline (h : runner.phase = .offline) (ok : Bool) :
    (runner.step (.take ok)).phase = .offline ∨ (runner.step (.take ok)).phase = .closing := by
  simp only [step, take]
  split
  · rename_i command commands _ _
    cases command with
    | request | subscribe | unsubscribe => exact .inl h
    | shutdown => exact .inr rfl
  · rename_i hphase _
    cases h.symm.trans hphase
  · split
    · exact .inl h
    · exact .inr rfl
  · split
    · exact .inl h
    · exact .inr rfl
  · exact .inl h

theorem phase_sendPending (key : UInt64) (ok : Bool) :
    (runner.sendPending key ok).2.phase = runner.phase := by
  unfold sendPending
  repeat' split
  all_goals rfl

theorem phase_take_connected (h : runner.phase = .connected) (ok : Bool) :
    (runner.step (.take ok)).phase = .connected ∨ (runner.step (.take ok)).phase = .offline ∨
      (runner.step (.take ok)).phase = .closing := by
  simp only [step, take]
  split
  · rename_i hphase _
    cases h.symm.trans hphase
  · rename_i command commands _ _
    cases command with
    | request payload response =>
      simp only [handleConnectedCommand]
      split
      · exact .inl ((phase_sendPending _ ok).trans h)
      · exact .inr (.inl rfl)
    | subscribe | unsubscribe =>
      simp only [handleConnectedCommand]
      repeat' split
      all_goals first | exact .inl h | exact .inr (.inl rfl)
    | shutdown => exact .inr (.inr rfl)
  · split
    · exact .inl h
    · exact .inr (.inr rfl)
  · split
    · exact .inl h
    · exact .inr (.inr rfl)
  · exact .inl h

theorem phase_initialize {subscriptions : List AgentId} {keys : List UInt64}
    (h : runner.phase = .initializing subscriptions keys) (ok : Bool) :
    (∃ subscriptions keys, (runner.step (.initializeConnection ok)).phase =
        .initializing subscriptions keys) ∨
      (runner.step (.initializeConnection ok)).phase = .offline ∨
      (runner.step (.initializeConnection ok)).phase = .connected := by
  simp only [step, h]
  cases subscriptions with
  | cons agentId subscriptions =>
    dsimp only
    split
    · exact .inl ⟨_, _, rfl⟩
    · exact .inr (.inl rfl)
  | nil =>
    cases keys with
    | cons key keys =>
      dsimp only
      split
      · exact .inl ⟨_, _, rfl⟩
      · exact .inr (.inl rfl)
    | nil => exact .inr (.inr rfl)

theorem phase_welcome (h : runner.phase = .offline) : ∃ subscriptions keys,
    (runner.step .welcome).phase = .initializing subscriptions keys := by
  simp only [step, if_pos h]
  exact ⟨_, _, rfl⟩

theorem phase_lose (h : runner.phase = .connected) : (runner.step .lose).phase = .offline := by
  simp only [step, if_pos h]
  rfl

theorem phase_frame (h : runner.phase = .connected) (frame : ServerFrame) (ok : Bool) :
    (runner.step (.frame frame ok)).phase = .connected ∨
      (runner.step (.frame frame ok)).phase = .offline ∨
      (runner.step (.frame frame ok)).phase = .closing := by
  simp only [step, if_pos h]
  cases frame with
  | response response =>
    simp only [handleServerFrame, completeResponse]
    repeat' split
    all_goals exact .inl h
  | error | pong => exact .inl h
  | serverShutdown => exact .inr (.inl rfl)
  | welcome => exact .inr (.inr rfl)
  | snapshot | delta | event | replayGap | interactionRequest =>
    simp only [handleServerFrame]
    split
    · exact .inr (.inl rfl)
    · exact .inl h

end ClientRunner

/-! ## What the application is told -/

/-- Which status can come after another. -/
def ConnectionStatus.follows : ConnectionStatus → ConnectionStatus → Bool
  | .disconnected _, .connecting | .disconnected _, .stopped none => true
  | .connecting, .disconnected (some _) | .connecting, .connected .. | .connecting, .stopped _ =>
    true
  | .connected .., .disconnected _ | .connected .., .stopped _ => true
  | _, _ => false

def Action.status? : Action → Option ConnectionStatus
  | .status told => some told
  | _ => none

namespace Lifecycle

/-- The statuses the application has seen, the first one included. -/
def statuses (client : Lifecycle) : List ConnectionStatus :=
  .disconnected none :: client.actions.filterMap Action.status?

/-- The statuses come in order, the last one being the one shown. -/
structure Ordered (client : Lifecycle) : Prop where
  follow : client.statuses.IsChain fun status next => status.follows next = true
  last : client.statuses.getLast? = some client.status

variable {client client' : Lifecycle} {config : RunConfig}

theorem Ordered.set (h : Ordered client) {status : ConnectionStatus}
    (hfollows : client.status.follows status = true) : Ordered (client.setStatus status) := by
  have hgrown : (client.setStatus status).statuses = client.statuses ++ [status] := by
    unfold statuses setStatus
    rw [List.filterMap_append]
    rfl
  constructor
  · rw [hgrown]
    refine List.isChain_append.mpr ⟨h.follow, List.isChain_singleton status, ?_⟩
    intro shown hshown next hnext
    cases h.last.symm.trans hshown
    cases hnext
    exact hfollows
  · rw [hgrown, List.getLast?_concat]
    rfl

/-- The rest of the client is not shown. -/
theorem Ordered.congr (h : Ordered client) (hstatus : client'.status = client.status)
    (hactions : client'.actions.filterMap Action.status? =
      client.actions.filterMap Action.status?) : Ordered client' := by
  have hsame : client'.statuses = client.statuses := by
    unfold statuses
    rw [hactions]
  exact ⟨hsame ▸ h.follow, by rw [hsame, hstatus]; exact h.last⟩

end Lifecycle

/-- A failure to connect is nothing to give up for. -/
def ClientRunError.isTransport : ClientRunError → Bool
  | .transport _ => true
  | _ => false

/-- What the application is shown at a stage. -/
def Stage.Shows : Stage → ConnectionStatus → Prop
  | .starting, status | .waiting _, status => ∃ reason, status = .disconnected reason
  | .connecting _, status | .greeting _, status | .authenticating _, status =>
    status = .connecting
  | .initializing _, status | .serving _, status =>
    ∃ serverId deviceId version, status = .connected serverId deviceId version
  | .closing error, status =>
    (status = .connecting ∨ ∃ serverId deviceId version,
      status = .connected serverId deviceId version) ∧
      error.all fun error => !error.isTransport
  | .leaving, status => status = .stopped none
  | .returned error, status =>
    status = .stopped (error.map ClientRunError.message) ∧ error.all fun error => !error.isTransport

namespace Lifecycle

structure Told (client : Lifecycle) : Prop extends Ordered client where
  runs : client.stage.Matches client.runner.phase
  shows : client.stage.Shows client.status

variable {client : Lifecycle} {config : RunConfig}

theorem told_new (config : RunConfig) (random : String) : Told (new config random) :=
  ⟨⟨List.isChain_singleton _, rfl⟩, rfl, ⟨none, rfl⟩⟩

/-- The client is set back. -/
theorem Ordered.setBack (h : Ordered client) {reason : Option String} {setback : Setback}
    (hfollows : client.status.follows (.disconnected reason) = true)
    (hphase : client.runner.phase = .offline) : Told (client.setBack config reason setback) := by
  have hordered : Ordered (client.setBack config reason setback) := by
    refine (h.set hfollows).congr rfl ?_
    show ((client.actions ++ [_]) ++ [_]).filterMap _ = _
    rw [List.filterMap_append]
    exact List.append_nil _
  exact ⟨hordered, hphase, ⟨reason, rfl⟩⟩

theorem Ordered.leave (h : Ordered client) (hfollows : client.status.follows (.stopped none) = true)
    (hphase : client.runner.phase = .closing) : Told client.leave :=
  ⟨(h.set hfollows).congr rfl rfl, hphase, rfl⟩

theorem phase_fail (h : client.runner.phase = .offline ∨ client.runner.phase = .connected)
    (error : ClientRunError) : (client.fatal error).runner.phase = .closing := by
  simp only [fatal, ClientRunner.step, if_pos h]

theorem phase_closed {runner : ClientRunner} (h : runner.phase = .closing) :
    (runner.step .closed).phase = .stopped := by
  simp only [ClientRunner.step, if_pos h]
  rfl

/-- The run returns. -/
theorem Ordered.stop (h : Ordered client) {error : Option ClientRunError}
    (hfollows : client.status.follows (.stopped (error.map ClientRunError.message)) = true)
    (hphase : client.runner.phase = .closing) (hkind : error.all fun error => !error.isTransport) :
    Told (client.stop error) :=
  ⟨(h.set hfollows).congr rfl rfl, phase_closed hphase, rfl, hkind⟩

theorem authentication_cases (client : Lifecycle) (config : RunConfig)
    (loaded : Except String (Option DeviceCredential)) :
    (∃ error, client.authentication config loaded = (.error error, client) ∧
        error.isTransport = false) ∨
      (∃ authentication, client.authentication config loaded = (.ok authentication, client) ∧
        ((∃ credential, client.activeCredential = some credential ∧
            authentication = deviceAuthentication credential) ∨
          client.activeCredential = none ∧ config.authentication = .pair authentication)) ∨
      ∃ credential, client.activeCredential = none ∧ config.authentication = .storedCredential ∧
        loaded = .ok (some credential) ∧ credential.serverId = config.serverId ∧
        client.authentication config loaded = (.ok (deviceAuthentication credential),
          { client with activeCredential := some credential }) := by
  unfold authentication
  split
  · rename_i credential hactive
    exact .inr (.inl ⟨_, rfl, .inl ⟨credential, hactive, rfl⟩⟩)
  · rename_i authentication hactive hsource
    exact .inr (.inl ⟨_, rfl, .inr ⟨hactive, hsource⟩⟩)
  · rename_i hactive hsource
    split
    · exact .inl ⟨_, rfl, rfl⟩
    · exact .inl ⟨_, rfl, rfl⟩
    · rename_i credential
      split
      · exact .inl ⟨_, rfl, rfl⟩
      · rename_i hserver
        exact .inr (.inr ⟨credential, hactive, hsource, rfl, not_not.mp hserver, rfl⟩)

end Lifecycle

namespace ClientConfig

/-- What the client checks of a welcome. -/
theorem handshake_ok {config : ClientConfig} {authentication : ClientAuthentication}
    {saved : Except String Unit} {message : WireMessage ServerFrame} {welcome : ServerWelcome}
    {issued : Option DeviceCredential} {codec : CborCodec}
    (h : config.handshake authentication saved message = .ok (welcome, issued, codec)) :
    ∃ sent, (config.frameLimits.codec .authenticated).decodeValue message = .ok (.welcome sent) ∧
      sent.protocolVersion = 1 ∧ sent.serverId = config.serverId ∧
      config.acceptCredential authentication sent saved = .ok issued ∧
      welcome = { sent with issuedCredential := none } := by
  unfold handshake at h
  split at h
  · cases h
  · rename_i sent hdecoded
    split at h
    · cases h
    · rename_i hversion
      split at h
      · cases h
      · rename_i hserver
        cases haccepted : config.acceptCredential authentication sent saved with
        | error error =>
          rw [haccepted] at h
          cases h
        | ok credential =>
          rw [haccepted] at h
          cases hnegotiated : config.negotiated sent with
          | error error =>
            dsimp only [bind, Except.bind] at h
            rw [hnegotiated] at h
            cases h
          | ok codec =>
            dsimp only [bind, Except.bind] at h
            rw [hnegotiated] at h
            cases h
            exact ⟨sent, hdecoded, not_not.mp hversion, not_not.mp hserver, haccepted, rfl⟩
  · cases h

theorem handshake_error {config : ClientConfig} {authentication : ClientAuthentication}
    {saved : Except String Unit} {message : WireMessage ServerFrame} {error : ClientRunError}
    (h : config.handshake authentication saved message = .error error) :
    error.isTransport = false := by
  unfold handshake at h
  split at h
  · cases h
    rfl
  · rename_i sent _
    split at h
    · cases h
      rfl
    · split at h
      · cases h
        rfl
      · cases haccepted : config.acceptCredential authentication sent saved with
        | error refused =>
          rw [haccepted] at h
          cases h
          unfold acceptCredential at haccepted
          repeat' split at haccepted
          all_goals cases haccepted
          all_goals rfl
        | ok credential =>
          rw [haccepted] at h
          dsimp only [bind, Except.bind, negotiated] at h
          split at h
          · rename_i hrefused
            split at hrefused
            · cases hrefused
            · cases hrefused
              cases h
              rfl
          · cases h
  · cases h
    rfl

end ClientConfig

namespace Lifecycle

variable {client : Lifecycle} {config : RunConfig}

/-- A command is taken while there is no connection. -/
theorem Told.takeOffline (h : Told client) (hphase : client.runner.phase = .offline)
    (hleaves : client.status.follows (.stopped none) = true) (ok : Bool) :
    Told (if (client.runner.step (.take ok)).phase = .closing then
      { client with runner := client.runner.step (.take ok) }.leave
      else { client with runner := client.runner.step (.take ok) }) := by
  have hnext : Ordered { client with runner := client.runner.step (.take ok) } :=
    h.toOrdered.congr rfl rfl
  rcases ClientRunner.phase_take_offline hphase ok with hafter | hafter
  · rw [if_neg (by rw [hafter]; nofun)]
    refine ⟨hnext, ?_, h.shows⟩
    show client.stage.Matches (client.runner.step (.take ok)).phase
    rw [hafter, ← hphase]
    exact h.runs
  · rw [if_pos hafter]
    exact hnext.leave hleaves hafter

theorem told_step (h : Told client) (input : LifecycleInput) : Told (client.step config input) := by
  have hshows := h.shows
  have hruns := h.runs
  cases input with
  | application input =>
    dsimp only [step]
    split
    · rename_i hinput
      refine ⟨h.toOrdered.congr rfl rfl, ?_, hshows⟩
      show client.stage.Matches (client.runner.step input).phase
      rw [ClientRunner.phase_application hinput]
      exact hruns
    · exact h
  | start loaded =>
    dsimp only [step]
    split
    · rename_i hstage
      rw [hstage] at hshows hruns
      obtain ⟨reason, hstatus⟩ := hshows
      have hset : Ordered (client.setStatus .connecting) := by
        refine h.set ?_
        rw [hstatus]
        rfl
      rcases authentication_cases (client.setStatus .connecting) config loaded with
        ⟨error, heq, hkind⟩ | ⟨authentication, heq, -⟩ | ⟨credential, -, -, -, -, heq⟩
      · rw [heq]
        have hfatal : Ordered ((client.setStatus .connecting).fatal error) := hset.congr rfl rfl
        exact hfatal.stop rfl (phase_fail (.inl hruns) error) (by rw [Option.all_some, hkind]; rfl)
      · rw [heq]
        exact ⟨hset.congr rfl rfl, hruns, rfl⟩
      · rw [heq]
        exact ⟨hset.congr rfl rfl, hruns, rfl⟩
    · exact h
  | take sent =>
    have hnext : Ordered { client with runner := client.runner.step (.take (sends sent)) } :=
      h.toOrdered.congr rfl rfl
    dsimp only [step]
    split
    · rename_i authentication hstage
      rw [hstage] at hshows hruns
      exact h.takeOffline hruns (by rw [show client.status = .connecting from hshows]; rfl) _
    · rename_i authentication hstage
      rw [hstage] at hshows hruns
      exact h.takeOffline hruns (by rw [show client.status = .connecting from hshows]; rfl) _
    · rename_i delay hstage
      rw [hstage] at hshows hruns
      obtain ⟨reason, hstatus⟩ := hshows
      exact h.takeOffline hruns (by rw [hstatus]; rfl) _
    · rename_i codec hstage
      rw [hstage] at hshows hruns
      obtain ⟨serverId, deviceId, version, hstatus⟩ := hshows
      rcases ClientRunner.phase_take_connected hruns (sends sent) with hphase | hphase | hphase
      · rw [hphase]
        exact ⟨hnext, by rw [hstage]; exact hphase,
          by rw [hstage]; exact ⟨serverId, deviceId, version, hstatus⟩⟩
      · rw [hphase]
        exact hnext.setBack (by rw [hstatus]; rfl) hphase
      · rw [hphase]
        exact ⟨hnext.congr rfl rfl, hphase, .inr ⟨serverId, deviceId, version, hstatus⟩, rfl⟩
    · exact h
  | connected result =>
    dsimp only [step]
    split
    · rename_i authentication hstage
      rw [hstage] at hshows hruns
      exact ⟨h.toOrdered.congr rfl rfl, hruns, hshows⟩
    · rename_i authentication error hstage
      rw [hstage] at hshows hruns
      refine h.setBack ?_ hruns
      rw [show client.status = .connecting from hshows]
      rfl
    · exact h
  | greeted sent =>
    dsimp only [step]
    split
    · rename_i authentication hstage
      rw [hstage] at hshows hruns
      have hstatus : client.status = .connecting := hshows
      have hlogged {hello : Hello} :
          Ordered { client with actions := client.actions ++ [.hello hello] } := by
        refine h.toOrdered.congr rfl ?_
        rw [List.filterMap_append]
        exact List.append_nil _
      split
      · exact h.setBack (by rw [hstatus]; rfl) hruns
      · split
        · exact hlogged.setBack (by rw [hstatus]; rfl) hruns
        · exact ⟨hlogged.congr rfl rfl, hruns, hstatus⟩
    · exact h
  | answered event saved =>
    dsimp only [step]
    split
    · rename_i authentication hstage
      rw [hstage] at hshows hruns
      have hstatus : client.status = .connecting := hshows
      split
      · exact h.setBack (by rw [hstatus]; rfl) hruns
      · exact h.setBack (by rw [hstatus]; rfl) hruns
      · rename_i message
        have hkept : Ordered (client.keep (issued config authentication saved message)) ∧
            (client.keep (issued config authentication saved message)).status = .connecting ∧
            (client.keep (issued config authentication saved message)).runner = client.runner := by
          unfold keep
          split
          · exact ⟨h.toOrdered, hstatus, rfl⟩
          · refine ⟨h.toOrdered.congr rfl ?_, hstatus, rfl⟩
            rw [List.filterMap_append]
            exact List.append_nil _
        obtain ⟨hordered, hstatus, hsame⟩ := hkept
        rw [← hsame] at hruns
        split
        · rename_i error hrefused
          refine ⟨hordered.congr rfl rfl, phase_fail (.inl hruns) error, .inl hstatus, ?_⟩
          rw [Option.all_some, ClientConfig.handshake_error hrefused]
          rfl
        · rename_i welcome _ codec _
          have hwelcomed : (client.keep (issued config authentication saved message)).status.follows
              (.connected welcome.serverId welcome.deviceId welcome.protocolVersion) = true := by
            rw [hstatus]
            rfl
          exact ⟨(hordered.set hwelcomed).congr rfl rfl, ClientRunner.phase_welcome hruns, _, _, _,
            rfl⟩
    · exact h
  | initialization sent =>
    dsimp only [step]
    split
    · rename_i codec hstage
      rw [hstage] at hshows hruns
      obtain ⟨serverId, deviceId, version, hstatus⟩ := hshows
      obtain ⟨subscriptions, keys, hphase⟩ := hruns
      have hnext : Ordered { client with
          runner := client.runner.step (.initializeConnection (sends sent)) } :=
        h.toOrdered.congr rfl rfl
      rcases ClientRunner.phase_initialize hphase (sends sent) with
        ⟨subscriptions', keys', hafter⟩ | hafter | hafter
      · rw [hafter]
        exact ⟨hnext, by rw [hstage]; exact ⟨subscriptions', keys', hafter⟩,
          by rw [hstage]; exact ⟨serverId, deviceId, version, hstatus⟩⟩
      · rw [hafter]
        exact hnext.setBack (by rw [hstatus]; rfl) hafter
      · rw [hafter]
        exact ⟨hnext.congr rfl rfl, hafter, serverId, deviceId, version, hstatus⟩
    · exact h
  | received event sent =>
    dsimp only [step]
    split
    · rename_i codec hstage
      rw [hstage] at hshows hruns
      obtain ⟨serverId, deviceId, version, hstatus⟩ := hshows
      have hlost := ClientRunner.phase_lose hruns
      have hnext {runner : ClientRunner} : Ordered { client with runner } :=
        h.toOrdered.congr rfl rfl
      split
      · exact hnext.setBack (by rw [hstatus]; rfl) hlost
      · exact hnext.setBack (by rw [hstatus]; rfl) hlost
      · split
        · rename_i error _
          exact ⟨h.toOrdered.congr rfl rfl, phase_fail (.inr hruns) _,
            .inr ⟨serverId, deviceId, version, hstatus⟩, rfl⟩
        · rename_i frame _
          unfold receive
          dsimp only
          rcases ClientRunner.phase_frame hruns frame (sends sent) with hafter | hafter | hafter
          · rw [hafter]
            exact ⟨hnext, by rw [hstage]; exact hafter,
              by rw [hstage]; exact ⟨serverId, deviceId, version, hstatus⟩⟩
          · rw [hafter]
            cases frame with
            | _ => exact hnext.setBack (by rw [hstatus]; rfl) hafter
          · rw [hafter]
            exact ⟨h.toOrdered.congr rfl rfl, hafter, .inr ⟨serverId, deviceId, version, hstatus⟩,
              rfl⟩
    · exact h
  | wake =>
    dsimp only [step]
    split
    · rename_i delay hstage
      rw [hstage] at hshows hruns
      exact ⟨h.toOrdered.congr rfl rfl, hruns, hshows⟩
    · exact h
  | closed =>
    dsimp only [step]
    split
    · rename_i error hstage
      rw [hstage] at hshows hruns
      obtain ⟨hstatus, hkind⟩ := hshows
      refine h.toOrdered.stop ?_ hruns hkind
      rcases hstatus with hstatus | ⟨serverId, deviceId, version, hstatus⟩
      · rw [hstatus]
        rfl
      · rw [hstatus]
        rfl
    · rename_i hstage
      rw [hstage] at hshows hruns
      exact ⟨h.toOrdered.congr rfl rfl, phase_closed hruns, hshows, rfl⟩
    · exact h

/-- The runner in it takes steps of its own. -/
theorem runner_step (client : Lifecycle) (input : LifecycleInput) : ∃ inputs,
    (client.step config input).runner = run ClientRunner.step client.runner inputs := by
  cases input with
  | application input =>
    dsimp only [step]
    split
    · exact ⟨[input], rfl⟩
    · exact ⟨[], rfl⟩
  | start loaded =>
    dsimp only [step]
    split
    · rcases authentication_cases (client.setStatus .connecting) config loaded with
        ⟨error, heq, -⟩ | ⟨authentication, heq, -⟩ | ⟨credential, -, -, -, -, heq⟩
      · rw [heq]
        exact ⟨[.fail, .closed], rfl⟩
      · rw [heq]
        exact ⟨[], rfl⟩
      · rw [heq]
        exact ⟨[], rfl⟩
    · exact ⟨[], rfl⟩
  | take sent =>
    dsimp only [step]
    repeat' split
    all_goals first | exact ⟨[.take (sends sent)], rfl⟩ | exact ⟨[], rfl⟩
  | connected | greeted | wake =>
    dsimp only [step]
    repeat' split
    all_goals exact ⟨[], rfl⟩
  | answered event saved =>
    have hkeep (credential : Option DeviceCredential) :
        (client.keep credential).runner = client.runner := by
      cases credential <;> rfl
    dsimp only [step]
    repeat' split
    · exact ⟨[], rfl⟩
    · exact ⟨[], rfl⟩
    · exact ⟨[.fail], congrArg (ClientRunner.step · .fail) (hkeep _)⟩
    · exact ⟨[.welcome], congrArg (ClientRunner.step · .welcome) (hkeep _)⟩
    · exact ⟨[], rfl⟩
  | initialization sent =>
    dsimp only [step]
    repeat' split
    all_goals first | exact ⟨[.initializeConnection (sends sent)], rfl⟩ | exact ⟨[], rfl⟩
  | received event sent =>
    dsimp only [step]
    repeat' split
    · exact ⟨[.lose], rfl⟩
    · exact ⟨[.lose], rfl⟩
    · exact ⟨[.fail], rfl⟩
    · rename_i frame _
      refine ⟨[.frame frame (sends sent)], ?_⟩
      unfold receive
      dsimp only
      split <;> rfl
    · exact ⟨[], rfl⟩
  | closed =>
    dsimp only [step]
    repeat' split
    all_goals first | exact ⟨[.closed], rfl⟩ | exact ⟨[], rfl⟩

theorem told_run (config : RunConfig) (random : String) (inputs : List LifecycleInput) :
    Told (run (step config) (new config random) inputs) ∧
      ClientRunner.Invariant (run (step config) (new config random) inputs).runner := by
  have hstep : ∀ client input, Told client ∧ ClientRunner.Invariant client.runner →
      Told (client.step config input) ∧ ClientRunner.Invariant (client.step config input).runner := by
    rintro client input ⟨htold, hrunner⟩
    obtain ⟨steps, heq⟩ := @runner_step config client input
    refine ⟨told_step htold input, ?_⟩
    rw [heq]
    exact run_invariant (fun _ input h => h.step input) hrunner steps
  exact run_invariant hstep ⟨told_new config random, ClientRunner.invariant_new random⟩ inputs

/-- **What the application is told.**

Whatever the application, the server, the sockets and the credential store do: the
statuses come in order, the last one being the one shown; `stopped` is shown only once the
client stops, with the error that `run` returns, which is never that of a transport; and
when `run` has returned, every request that was accepted has its one reply. -/
theorem statuses_follow (config : RunConfig) (random : String) (inputs : List LifecycleInput) :
    let client := run (step config) (new config random) inputs
    (client.statuses.IsChain fun status next => status.follows next = true) ∧
      client.statuses.getLast? = some client.status ∧
      (∀ reason, client.status = .stopped reason →
        client.stage = .leaving ∨ ∃ error, client.stage = .returned error) ∧
      ∀ error, client.stage = .returned error →
        client.status = .stopped (error.map ClientRunError.message) ∧
        (error.all fun error => !error.isTransport) ∧
        client.runner.replied.Perm (List.range client.runner.accepted) := by
  intro client
  obtain ⟨htold, hrunner⟩ := told_run config random inputs
  have hshows : client.stage.Shows client.status := htold.shows
  refine ⟨htold.follow, htold.last, ?_, ?_⟩
  · intro reason hstopped
    rw [hstopped] at hshows
    cases hstage : client.stage with
    | leaving => exact .inl rfl
    | returned error => exact .inr ⟨error, rfl⟩
    | starting | waiting =>
      rw [hstage] at hshows
      obtain ⟨_, heq⟩ := hshows
      cases heq
    | connecting | greeting | authenticating =>
      rw [hstage] at hshows
      cases hshows
    | initializing | serving =>
      rw [hstage] at hshows
      obtain ⟨_, _, _, heq⟩ := hshows
      cases heq
    | closing =>
      rw [hstage] at hshows
      obtain ⟨heq | ⟨_, _, _, heq⟩, -⟩ := hshows <;> cases heq
  · intro error hstage
    have hphase : client.runner.phase = .stopped := by
      have hruns : client.stage.Matches client.runner.phase := htold.runs
      rwa [hstage] at hruns
    rw [hstage] at hshows
    obtain ⟨hcommands, hpending⟩ := hrunner.ended hphase
    refine ⟨hshows.1, hshows.2, ?_⟩
    have haccounts := hrunner.tables.accounts
    unfold ClientRunner.queued ClientRunner.waiting at haccounts
    rw [hcommands, hpending] at haccounts
    exact haccounts

end Lifecycle

end OmpRemote.Client

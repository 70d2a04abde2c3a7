import OmpRemote.Client.Identity
import OmpRemote.Ompd.Executions
import OmpRemote.Ompd.Welcomes

/-!
# Who is connected as whom

A client over all its connections, and the daemon with everybody else who talks to it.
What the client believes of its identity is what the daemon holds of it, across crashes of
the daemon and whatever is lost on the way.

- `advances_step`: what a step makes the client say and show.
- `Peers.step`: one side goes on, or a message arrives.
- `peers_agree`: the law over whole runs.
-/

namespace OmpRemote.Replication

open Lib Client
open Ompd (Server ServerInput ServerSessionConfig Session Backend Store Keyed Daemon OutboundPayload)

/-! ## What the client does -/

/-- Whom the client presents on the connection it has. -/
def presented : Stage → Option ClientAuthentication
  | .greeting authentication | .authenticating authentication => some authentication
  | _ => none

/-- What an action tells about the step it is of. -/
def Does (config : RunConfig) (client : Lifecycle) (input : LifecycleInput) : Action → Prop
  | .hello hello => presented client.stage = some hello.authentication
  | .saved credential => ∃ authentication message saved,
    client.stage = .authenticating authentication ∧
      input = .answered (.ok (.binary message)) saved ∧
      Lifecycle.issued config authentication saved message = some credential
  | .status (.connected serverId deviceId _) => ∃ authentication message saved welcome issued codec,
    client.stage = .authenticating authentication ∧
      input = .answered (.ok (.binary message)) saved ∧
      config.handshake authentication saved message = .ok (welcome, issued, codec) ∧
      welcome.serverId = serverId ∧ welcome.deviceId = deviceId
  | _ => True

/-- The client after a step, with what it did. -/
structure Advances (config : RunConfig) (client : Lifecycle) (input : LifecycleInput)
    (client' : Lifecycle) (more : List Action) : Prop where
  actions : client'.actions = client.actions ++ more
  does : ∀ action ∈ more, Does config client input action
  status : client'.status = client.status ∨ .status client'.status ∈ more
  stage : presented client'.stage = none ∨ presented client'.stage = presented client.stage ∨
    ∃ authentication, client.stage = .connecting authentication ∧ input = .connected (.ok ()) ∧
      client'.stage = .greeting authentication

namespace Advances

variable {config : RunConfig} {client client' client'' : Lifecycle} {input : LifecycleInput}
  {more : List Action}

theorem refl (config : RunConfig) (client : Lifecycle) (input : LifecycleInput) :
    Advances config client input client [] :=
  ⟨(List.append_nil _).symm, nofun, .inl rfl, .inr (.inl rfl)⟩

/-- Nothing more is done. -/
theorem congr (h : Advances config client input client' more)
    (hactions : client''.actions = client'.actions) (hstatus : client''.status = client'.status)
    (hstage : presented client''.stage = none ∨ client''.stage = client'.stage) :
    Advances config client input client'' more := by
  refine ⟨hactions.trans h.actions, h.does, by rw [hstatus]; exact h.status, ?_⟩
  rcases hstage with hnone | hsame
  · exact .inl hnone
  · rw [hsame]
    exact h.stage

/-- One thing more is done. -/
theorem act (h : Advances config client input client' more) {action : Action}
    (hactions : client''.actions = client'.actions ++ [action])
    (hdoes : Does config client input action)
    (hstatus : client''.status = client'.status ∨ action = .status client''.status)
    (hstage : presented client''.stage = none ∨ client''.stage = client'.stage) :
    Advances config client input client'' (more ++ [action]) := by
  constructor
  case actions => rw [hactions, h.actions, List.append_assoc]
  case does =>
    intro other hother
    rcases List.mem_append.mp hother with hold | hnew
    · exact h.does other hold
    · rw [List.mem_singleton.mp hnew]
      exact hdoes
  case status =>
    rcases hstatus with hsame | rfl
    · rw [hsame]
      rcases h.status with hold | hnew
      · exact .inl hold
      · exact .inr (List.mem_append_left _ hnew)
    · exact .inr (List.mem_append_right _ (List.mem_singleton_self _))
  case stage =>
    rcases hstage with hnone | hsame
    · exact .inl hnone
    · rw [hsame]
      exact h.stage

theorem setBack (h : Advances config client input client' more) (reason : Option String)
    (setback : Setback) :
    ∃ more, Advances config client input (client'.setBack config reason setback) more := by
  have hstatus : Advances config client input (client'.setStatus (.disconnected reason))
      (more ++ [.status (.disconnected reason)]) :=
    h.act rfl trivial (.inr rfl) (.inr rfl)
  exact ⟨_, hstatus.act rfl trivial (.inl rfl) (.inl rfl)⟩

end Advances

section

variable {config : RunConfig} {client : Lifecycle}

theorem advances_answered (event : Except String SocketEvent) (saved : Except String Unit) :
    ∃ more, Advances config client (.answered event saved)
      (client.step config (.answered event saved)) more := by
  have hrefl := Advances.refl config client (.answered event saved)
  dsimp only [Lifecycle.step]
  split
  · rename_i authentication hstage
    split
    · exact hrefl.setBack _ _
    · exact hrefl.setBack _ _
    · rename_i message
      obtain ⟨more, hkept⟩ : ∃ more, Advances config client (.answered (.ok (.binary message)) saved)
          (client.keep (Lifecycle.issued config authentication saved message)) more := by
        cases hissued : Lifecycle.issued config authentication saved message with
        | none => exact ⟨[], hrefl⟩
        | some credential =>
          exact ⟨_, hrefl.act rfl ⟨authentication, message, saved, hstage, rfl, hissued⟩ (.inl rfl)
            (.inr rfl)⟩
      split
      · exact ⟨more, hkept.congr rfl rfl (.inl rfl)⟩
      · rename_i welcome issued codec hwelcome
        exact ⟨_, hkept.act rfl ⟨authentication, message, saved, welcome, issued, codec, hstage, rfl,
          hwelcome, rfl, rfl⟩ (.inr rfl) (.inl rfl)⟩
  · exact ⟨[], hrefl⟩

/-- **What a step makes the client do.** -/
theorem advances_step (input : LifecycleInput) :
    ∃ more, Advances config client input (client.step config input) more := by
  have hrefl := Advances.refl config client input
  have hkept (runner : ClientRunner) : Advances config client input { client with runner } [] :=
    hrefl.congr rfl rfl (.inr rfl)
  cases input with
  | answered event saved => exact advances_answered event saved
  | start loaded =>
    have hconnecting : Advances config client (.start loaded) (client.setStatus .connecting)
        ([] ++ [.status .connecting]) := hrefl.act rfl trivial (.inr rfl) (.inr rfl)
    dsimp only [Lifecycle.step]
    split
    · rcases Lifecycle.authentication_cases (client.setStatus .connecting) config loaded with
        ⟨error, heq, -⟩ | ⟨authentication, heq, -⟩ | ⟨credential, -, -, -, -, heq⟩
      · rw [heq]
        exact ⟨_, hconnecting.act rfl trivial (.inr rfl) (.inl rfl)⟩
      · rw [heq]
        exact ⟨_, hconnecting.congr rfl rfl (.inl rfl)⟩
      · rw [heq]
        exact ⟨_, hconnecting.congr rfl rfl (.inl rfl)⟩
    · exact ⟨[], hrefl⟩
  | application input =>
    dsimp only [Lifecycle.step]
    split
    · exact ⟨[], hkept _⟩
    · exact ⟨[], hrefl⟩
  | take sent =>
    have hleave (runner : ClientRunner) : ∃ more, Advances config client (.take sent)
        (Lifecycle.leave { client with runner }) more :=
      ⟨_, (hkept runner).act rfl trivial (.inr rfl) (.inl rfl)⟩
    dsimp only [Lifecycle.step]
    split
    · split
      · exact hleave _
      · exact ⟨[], hkept _⟩
    · split
      · exact hleave _
      · exact ⟨[], hkept _⟩
    · split
      · exact hleave _
      · exact ⟨[], hkept _⟩
    · split
      · exact (hkept _).setBack _ _
      · exact ⟨[], hrefl.congr rfl rfl (.inl rfl)⟩
      · exact ⟨[], hkept _⟩
    · exact ⟨[], hrefl⟩
  | connected result =>
    dsimp only [Lifecycle.step]
    split
    · rename_i authentication hstage
      exact ⟨[], hrefl.actions, nofun, .inl rfl, .inr (.inr ⟨authentication, hstage, rfl, rfl⟩)⟩
    · exact hrefl.setBack _ _
    · exact ⟨[], hrefl⟩
  | greeted sent =>
    dsimp only [Lifecycle.step]
    split
    · rename_i authentication hstage
      have hsaid : Advances config client (.greeted sent) { client with actions := client.actions ++
          [.hello (client.runner.hello config.toClientConfig authentication)] }
          ([] ++ [.hello (client.runner.hello config.toClientConfig authentication)]) :=
        hrefl.act rfl (congrArg presented hstage) (.inl rfl) (.inr rfl)
      cases client.runner.encodeHello config.toClientConfig authentication with
      | error error => exact hrefl.setBack _ _
      | ok encoded =>
        cases sent with
        | error error => exact hsaid.setBack _ _
        | ok => exact ⟨_, hsaid.actions, hsaid.does, hsaid.status,
            .inr (.inl (congrArg presented hstage).symm)⟩
    · exact ⟨[], hrefl⟩
  | initialization sent =>
    dsimp only [Lifecycle.step]
    split
    · split
      · exact (hkept _).setBack _ _
      · exact ⟨[], hrefl.congr rfl rfl (.inl rfl)⟩
      · exact ⟨[], hkept _⟩
    · exact ⟨[], hrefl⟩
  | received event sent =>
    dsimp only [Lifecycle.step]
    split
    · split
      · exact (hkept _).setBack _ _
      · exact (hkept _).setBack _ _
      · split
        · exact ⟨[], hrefl.congr rfl rfl (.inl rfl)⟩
        · unfold Lifecycle.receive
          dsimp only
          split
          · exact (hkept _).setBack _ _
          · exact (hkept _).setBack _ _
          · exact ⟨[], hrefl.congr rfl rfl (.inl rfl)⟩
          · exact ⟨[], hkept _⟩
    · exact ⟨[], hrefl⟩
  | wake =>
    dsimp only [Lifecycle.step]
    split
    · exact ⟨[], hrefl.congr rfl rfl (.inl rfl)⟩
    · exact ⟨[], hrefl⟩
  | closed =>
    dsimp only [Lifecycle.step]
    split
    · exact ⟨_, hrefl.act rfl trivial (.inr rfl) (.inl rfl)⟩
    · exact ⟨[], hrefl.congr rfl rfl (.inl rfl)⟩
    · exact ⟨[], hrefl⟩

end

/-! ## Both sides -/

structure Peers (δ : Type) where
  client : Lifecycle
  server : Server δ
  /-- The connections of the client, with the hellos it has sent on each. -/
  link : Nat → Option (List Hello)
  /-- The connection it made last. -/
  peer : Option Nat

inductive PeersInput where
  /-- The client, its application, or its socket. -/
  | client (input : LifecycleInput)
  /-- The client gets its connection. -/
  | connect (connection : Nat)
  /-- The client gets a first answer. -/
  | answer (message : WireMessage ServerFrame) (saved : Except String Unit)
  /-- The server, and whoever else talks to it. -/
  | server (input : ServerInput)

/-- What the client gets from the server comes in other ways. -/
def fromPeer : LifecycleInput → Bool
  | .connected (.ok _) | .answered (.ok (.binary _)) _ => true
  | _ => false

def hello? : Action → Option Hello
  | .hello hello => some hello
  | _ => none

def saved? : Action → Option DeviceCredential
  | .saved credential => some credential
  | _ => none

namespace Peers

variable {δ : Type}

def create (config : RunConfig) (random : String) (serverId : ServerId) : Peers δ :=
  ⟨.new config random, .create serverId, fun _ => none, none⟩

/-- The client goes on, and says what it says on its connection. -/
def advance (config : RunConfig) (peers : Peers δ) (input : LifecycleInput) : Peers δ :=
  let client := peers.client.step config input
  let hellos := (client.actions.drop peers.client.actions.length).filterMap hello?
  { peers with
    client
    link := fun connection =>
      if peers.peer = some connection then (peers.link connection).map (· ++ hellos)
      else peers.link connection }

/-- The connection was accepted, is nobody else's, and has not been authenticated. -/
def connects (peers : Peers δ) (connection : Nat) : Bool :=
  (peers.link connection).isNone &&
    (peers.server.session connection).any fun session => session.device.isNone

/-- A first answer that can be read is the first frame written to the connection. -/
def answers (config : RunConfig) (peers : Peers δ) (message : WireMessage ServerFrame) : Bool :=
  match (config.frameLimits.codec .authenticated).decodeValue message with
  | .ok frame => peers.peer.any fun connection => (peers.server.session connection).any
      fun session => session.written.head? = some (.protocol frame)
  | .error _ => true

/-- A hello that arrives on a connection of the client was sent on it. -/
def carries (config : ServerSessionConfig) (peers : Peers δ) : ServerInput → Bool
  | .first connection message _ =>
    match peers.link connection, message.bind (Ompd.firstHello config) with
    | some hellos, some (hello, _) => hello ∈ hellos.map Hello.clientHello
    | _, _ => true
  | _ => true

variable [DecidableEq δ]

def step (config : RunConfig) (session : ServerSessionConfig) (backend : Backend δ)
    (peers : Peers δ) : PeersInput → Peers δ
  | .client input => if fromPeer input then peers else peers.advance config input
  | .connect connection =>
    match peers.client.stage with
    | .connecting _ =>
      if peers.connects connection then
        { peers with
          client := peers.client.step config (.connected (.ok ()))
          link := Function.update peers.link connection (some [])
          peer := some connection }
      else peers
    | _ => peers
  | .answer message saved =>
    if peers.answers config message then
      peers.advance config (.answered (.ok (.binary message)) saved)
    else peers
  | .server input =>
    if peers.carries session input then
      { peers with server := (peers.server.step session backend input).2 }
    else peers

end Peers

/-! ## What the two hold of each other -/

section

variable {δ : Type} [DecidableEq δ] {backend : Backend δ}

/-- The first frame of a connection is the welcome of whom a hello of it has presented. -/
def Greeted (backend : Backend δ) (store : Store δ) (hellos : List Hello) (session : Session)
    (frame : ServerFrame) : Prop :=
  ∃ hello ∈ hellos, ∃ welcome authenticated, frame = .welcome welcome ∧
    welcome.serverId = store.serverId ∧ welcome.deviceId = authenticated.device.deviceId ∧
    welcome.issuedCredential = authenticated.issuedCredential ∧
    session.device = some authenticated.device ∧
    Server.Vouched backend store authenticated hello.authentication

/-- The connection was welcomed as the device. -/
def Serves (server : Server δ) (connection : Nat) (deviceId : DeviceId) : Prop :=
  ∃ session device welcome, server.session connection = some session ∧
    session.device = some device ∧ device.deviceId = deviceId ∧
    session.written.head? = some (.protocol (.welcome welcome))

variable {config : ServerSessionConfig} {server : Server δ}

omit [DecidableEq δ] in
theorem Greeted.mono {store : Store δ} {hellos hellos' : List Hello} {session : Session}
    {frame : ServerFrame} (h : Greeted backend store hellos session frame)
    (hhellos : hellos ⊆ hellos') : Greeted backend store hellos' session frame := by
  obtain ⟨hello, hmem, hgreeted⟩ := h
  exact ⟨hello, hhellos hmem, hgreeted⟩

/-- What the operations of the store preserve, the steps of the server do. -/
theorem store_step {P : Store δ → Prop}
    (hoperation : ∀ store operation, P store → P (store.execute backend operation).2)
    (h : P server.daemon.store) (input : ServerInput) :
    P (server.step config backend input).2.daemon.store :=
  Ompd.Server.daemon_step (P := fun daemon => P daemon.store)
    (fun daemon input h => daemon.store_preserves hoperation input h) h input

theorem serverId_step (server : Server δ) (input : ServerInput) :
    (server.step config backend input).2.daemon.store.serverId = server.daemon.store.serverId :=
  store_step (P := fun store => store.serverId = server.daemon.store.serverId)
    (fun store operation h => ((store.execute_frame backend operation).serverId).trans h) rfl input

theorem knows_step {deviceId : DeviceId} {token : DeviceToken} {scopes : DeviceScopes}
    (h : server.daemon.store.Knows backend deviceId token scopes) (input : ServerInput) :
    (server.step config backend input).2.daemon.store.Knows backend deviceId token scopes :=
  store_step (P := fun store => store.Knows backend deviceId token scopes)
    (fun _ operation h => h.execute operation) h input

theorem vouched_step {authenticated : Ompd.Authenticated} {authentication : ClientAuthentication}
    (h : Ompd.Server.Vouched backend server.daemon.store authenticated authentication)
    (input : ServerInput) :
    Ompd.Server.Vouched backend (server.step config backend input).2.daemon.store authenticated
      authentication := by
  cases authentication with
  | device deviceId token => exact ⟨h.1, h.2.1, knows_step h.2.2 input⟩
  | pair =>
    obtain ⟨credential, hissued, hdevice, hserver, hscopes, hknows⟩ := h
    exact ⟨credential, hissued, hdevice, hserver.trans (serverId_step server input).symm, hscopes,
      knows_step hknows input⟩

/-- A connection serves whom it serves. -/
theorem serves_step {history : List (Ompd.Server.Event δ)}
    (hanswering : Ompd.Server.Answering history server)
    (hsealed : ∀ connection session, server.session connection = some session → session.Sealed)
    {connection : Nat} {deviceId : DeviceId} (h : Serves server connection deviceId)
    (input : ServerInput) : Serves (server.step config backend input).2 connection deviceId := by
  obtain ⟨session, device, welcome, hsession, hdevice, hid, hhead⟩ := h
  have hlater : ∃ found, (server.step config backend input).2.session connection = some found ∧
      found.written.head? = some (.protocol (.welcome welcome)) ∧ found.device = session.device :=
    Ompd.Server.head_step hanswering hsealed input hsession hhead
  obtain ⟨found, hfound, hsame, hstays⟩ := hlater
  exact ⟨found, device, welcome, hfound, hstays.trans hdevice, hid, hsame⟩

/-- What the client has and shows is what the daemon holds. -/
structure Agreeing (backend : Backend δ) (serverId : ServerId) (peers : Peers δ) : Prop where
  answering : ∃ history, Ompd.Server.Answering history peers.server
  keyed : Keyed peers.server.daemon.store.devices
  identity : peers.server.daemon.store.serverId = serverId
  sealed : ∀ connection session, peers.server.session connection = some session → session.Sealed
  silent : ∀ connection session, peers.server.session connection = some session →
    session.device = none → ∀ frame, session.written.head? ≠ some (.protocol frame)
  greeted : ∀ connection hellos session frame, peers.link connection = some hellos →
    peers.server.session connection = some session →
    session.written.head? = some (.protocol frame) →
    Greeted backend peers.server.daemon.store hellos session frame
  told : peers.client.Told
  linked : ∀ authentication, presented peers.client.stage = some authentication →
    ∃ connection hellos, peers.peer = some connection ∧ peers.link connection = some hellos ∧
      ∀ hello ∈ hellos, hello.authentication = authentication
  saved : ∀ credential, .saved credential ∈ peers.client.actions →
    credential.serverId = serverId ∧ peers.server.daemon.store.Knows backend credential.deviceId
      credential.token credential.scopes
  connected : ∀ server deviceId version,
    .status (.connected server deviceId version) ∈ peers.client.actions →
    server = serverId ∧ ∃ connection, (peers.link connection).isSome ∧
      Serves peers.server connection deviceId
  current : ∀ server deviceId version, peers.client.status = .connected server deviceId version →
    ∃ connection, peers.peer = some connection ∧ Serves peers.server connection deviceId

end

/-! ## The law -/

/-- What a client that is issued a credential has read. -/
theorem issued_welcome {config : RunConfig} {authentication : ClientAuthentication}
    {saved : Except String Unit} {message : WireMessage ServerFrame} {credential : DeviceCredential}
    (h : Lifecycle.issued config authentication saved message = some credential) :
    ∃ welcome pairingId secret device, authentication = .pair pairingId secret device ∧
      (config.frameLimits.codec .authenticated).decodeValue message = .ok (.welcome welcome) ∧
      welcome.issuedCredential = some credential := by
  unfold Lifecycle.issued at h
  split at h
  · rename_i welcome hdecoded
    split at h
    · cases h
    · split at h
      · rename_i accepted haccepted
        subst h
        unfold ClientConfig.acceptCredential at haccepted
        split at haccepted
        · rename_i pairingId secret device
          split at haccepted
          · cases haccepted
          · rename_i issued hissued
            split at haccepted
            · cases haccepted
            · split at haccepted
              · cases haccepted
              · cases haccepted
                exact ⟨welcome, pairingId, secret, device, rfl, hdecoded, hissued⟩
        · split at haccepted <;> cases haccepted
      · cases h
  · cases h

namespace Agreeing

variable {δ : Type} {config : RunConfig} {session : ServerSessionConfig} {backend : Backend δ}
  {serverId : ServerId} {peers : Peers δ}

theorem create (config : RunConfig) (random : String) (backend : Backend δ) (serverId : ServerId) :
    Agreeing backend serverId (Peers.create config random serverId) where
  answering := ⟨[], Ompd.Server.answering_create serverId⟩
  keyed _ _ h := by cases h
  identity := rfl
  sealed _ _ h := by cases h
  silent _ _ h := by cases h
  greeted _ _ _ _ h := by cases h
  told := Lifecycle.told_new config random
  linked _ h := by cases h
  saved _ h := by cases h
  connected _ _ _ h := by cases h
  current _ _ _ h := by cases h

/-- What an answer that can be read has been made from. -/
theorem answered (h : Agreeing backend serverId peers) {message : WireMessage ServerFrame}
    (hanswers : peers.answers config message = true) {frame : ServerFrame}
    (hdecoded : (config.frameLimits.codec .authenticated).decodeValue message = .ok frame)
    {authentication : ClientAuthentication}
    (hpresented : presented peers.client.stage = some authentication) :
    ∃ connection session welcome authenticated, peers.peer = some connection ∧
      (peers.link connection).isSome ∧ peers.server.session connection = some session ∧
      session.written.head? = some (.protocol frame) ∧ frame = .welcome welcome ∧
      welcome.serverId = peers.server.daemon.store.serverId ∧
      welcome.deviceId = authenticated.device.deviceId ∧
      welcome.issuedCredential = authenticated.issuedCredential ∧
      session.device = some authenticated.device ∧
      Ompd.Server.Vouched backend peers.server.daemon.store authenticated authentication := by
  unfold Peers.answers at hanswers
  rw [hdecoded] at hanswers
  obtain ⟨connection, hpeer, hsome⟩ := (Option.any_eq_true _ _).mp hanswers
  obtain ⟨session, hsession, hhead⟩ := (Option.any_eq_true _ _).mp hsome
  obtain ⟨other, hellos, hother, hlink, hsame⟩ := h.linked authentication hpresented
  cases hpeer.symm.trans hother
  obtain ⟨hello, hmem, welcome, authenticated, hwelcome, hserver, hdevice, hissued, hknown, hvouched⟩ :=
    h.greeted connection hellos session frame hlink hsession (of_decide_eq_true hhead)
  rw [hsame hello hmem] at hvouched
  exact ⟨connection, session, welcome, authenticated, hpeer, by rw [hlink]; rfl, hsession,
    of_decide_eq_true hhead, hwelcome, hserver, hdevice, hissued, hknown, hvouched⟩

/-- The client goes on. -/
theorem advance (h : Agreeing backend serverId peers) {input : LifecycleInput}
    (hconnected : input ≠ .connected (.ok ()))
    (hanswers : ∀ message saved, input = .answered (.ok (.binary message)) saved →
      peers.answers config message = true) :
    Agreeing backend serverId (peers.advance config input) := by
  obtain ⟨more, hadvances⟩ := @advances_step config peers.client input
  have hlink {connection : Nat} {hellos' : List Hello}
      (hsome : (peers.advance config input).link connection = some hellos') :
      ∃ hellos, peers.link connection = some hellos ∧ hellos ⊆ hellos' := by
    dsimp only [Peers.advance] at hsome
    split at hsome
    · obtain ⟨hellos, hhellos, rfl⟩ := Option.map_eq_some_iff.mp hsome
      exact ⟨hellos, hhellos, List.subset_append_left _ _⟩
    · exact ⟨hellos', hsome, List.Subset.refl _⟩
  have hlinked (connection : Nat) : ((peers.advance config input).link connection).isSome =
      (peers.link connection).isSome := by
    dsimp only [Peers.advance]
    split
    · exact Option.isSome_map
    · rfl
  -- whom the client is connected as, if it is by this step
  have hserves {server : ServerId} {deviceId : DeviceId} {version : ProtocolVersion}
      (hmem : .status (.connected server deviceId version) ∈ more) :
      server = serverId ∧ ∃ connection, peers.peer = some connection ∧
        (peers.link connection).isSome ∧ Serves peers.server connection deviceId := by
    obtain ⟨authentication, message, saved, welcome, issued, codec, hstage, rfl, hwelcome, rfl, rfl⟩ :=
      hadvances.does _ hmem
    obtain ⟨sent, hdecoded, -, -, -, rfl⟩ := ClientConfig.handshake_ok hwelcome
    obtain ⟨connection, session, welcome, authenticated, hpeer, hsome, hsession, hhead, heq, hserver,
      hdevice, -, hknown, -⟩ := h.answered (hanswers message saved rfl) hdecoded
        (congrArg presented hstage)
    cases heq
    exact ⟨hserver.trans h.identity, connection, hpeer, hsome, session, authenticated.device, sent,
      hsession, hknown, hdevice.symm, hhead⟩
  constructor
  case answering => exact h.answering
  case keyed => exact h.keyed
  case identity => exact h.identity
  case sealed => exact h.sealed
  case silent => exact h.silent
  case greeted =>
    intro connection hellos' session frame hsome hsession hhead
    obtain ⟨hellos, hold, hsub⟩ := hlink hsome
    exact (h.greeted connection hellos session frame hold hsession hhead).mono hsub
  case told => exact Lifecycle.told_step h.told input
  case linked =>
    intro authentication hpresented
    have hsame : presented peers.client.stage = some authentication := by
      rcases hadvances.stage with hnone | hsame | ⟨_, -, hinput, -⟩
      · exact absurd (hnone.symm.trans hpresented) nofun
      · exact hsame.symm.trans hpresented
      · exact absurd hinput hconnected
    obtain ⟨connection, hellos, hpeer, hold, hall⟩ := h.linked authentication hsame
    refine ⟨connection, hellos ++ more.filterMap hello?, hpeer, ?_, ?_⟩
    · show (if peers.peer = some connection then _ else _) = _
      rw [if_pos hpeer, hold, hadvances.actions, List.drop_left]
      rfl
    · intro hello hmem
      rcases List.mem_append.mp hmem with hbefore | hnew
      · exact hall hello hbefore
      · obtain ⟨action, haction, heq⟩ := List.mem_filterMap.mp hnew
        cases action with
        | hello said =>
          cases heq
          exact Option.some.inj ((hadvances.does _ haction).symm.trans hsame)
        | status | saved | sleep => cases heq
  case saved =>
    intro credential hmem
    rw [show (peers.advance config input).client.actions = _ from hadvances.actions] at hmem
    rcases List.mem_append.mp hmem with hold | hnew
    · exact h.saved credential hold
    · obtain ⟨authentication, message, saved, hstage, rfl, hissued⟩ := hadvances.does _ hnew
      obtain ⟨welcome, pairingId, secret, device, rfl, hdecoded, hcredential⟩ :=
        issued_welcome hissued
      obtain ⟨connection, session, other, authenticated, -, -, -, -, heq, -, -, hsame, -, hvouched⟩ :=
        h.answered (hanswers message saved rfl) hdecoded (congrArg presented hstage)
      cases heq
      obtain ⟨vouched, hvouched, -, hserver, -, hknows⟩ := hvouched
      cases (hcredential.symm.trans hsame).trans hvouched
      exact ⟨hserver.trans h.identity, hknows⟩
  case connected =>
    intro server deviceId version hmem
    rw [show (peers.advance config input).client.actions = _ from hadvances.actions] at hmem
    rcases List.mem_append.mp hmem with hold | hnew
    · obtain ⟨hserver, connection, hsome, hserved⟩ := h.connected server deviceId version hold
      exact ⟨hserver, connection, (hlinked connection).trans hsome, hserved⟩
    · obtain ⟨hserver, connection, -, hsome, hserved⟩ := hserves hnew
      exact ⟨hserver, connection, (hlinked connection).trans hsome, hserved⟩
  case current =>
    intro server deviceId version hstatus
    rcases hadvances.status with hsame | hnew
    · exact h.current server deviceId version (hsame.symm.trans hstatus)
    · rw [show (peers.client.step config input).status = _ from hstatus] at hnew
      obtain ⟨-, connection, hpeer, -, hserved⟩ := hserves hnew
      exact ⟨connection, hpeer, hserved⟩

/-- The client gets its connection. -/
theorem connect (h : Agreeing backend serverId peers) {connection : Nat}
    {authentication : ClientAuthentication}
    (hstage : peers.client.stage = .connecting authentication)
    (hconnects : peers.connects connection = true) :
    Agreeing backend serverId { peers with
      client := peers.client.step config (.connected (.ok ()))
      link := Function.update peers.link connection (some [])
      peer := some connection } := by
  have hclient : peers.client.step config (.connected (.ok ())) =
      { peers.client with stage := .greeting authentication } := by
    dsimp only [Lifecycle.step]
    rw [hstage]
  unfold Peers.connects at hconnects
  rw [Bool.and_eq_true, Option.isNone_iff_eq_none] at hconnects
  obtain ⟨hnew, hsome⟩ := hconnects
  obtain ⟨found, hfound, hdevice⟩ := (Option.any_eq_true _ _).mp hsome
  rw [Option.isNone_iff_eq_none] at hdevice
  constructor
  case answering => exact h.answering
  case keyed => exact h.keyed
  case identity => exact h.identity
  case sealed => exact h.sealed
  case silent => exact h.silent
  case greeted =>
    intro other hellos session frame hlink hsession hhead
    by_cases hsame : other = connection
    · subst hsame
      cases hfound.symm.trans hsession
      exact absurd hhead (h.silent other _ hfound hdevice frame)
    · exact h.greeted other hellos session frame
        ((Function.update_of_ne hsame _ _).symm.trans hlink) hsession hhead
  case told =>
    show (Lifecycle.step config peers.client (.connected (.ok ()))).Told
    exact Lifecycle.told_step h.told _
  case linked =>
    intro other _
    exact ⟨connection, [], rfl, Function.update_self _ _ _, nofun⟩
  case saved =>
    rw [hclient]
    exact h.saved
  case connected =>
    rw [hclient]
    intro server deviceId version hmem
    obtain ⟨hserver, other, hlinked, hserved⟩ := h.connected server deviceId version hmem
    refine ⟨hserver, other, ?_, hserved⟩
    by_cases hsame : other = connection
    · rw [hsame]
      show (Function.update peers.link connection (some []) connection).isSome = true
      rw [Function.update_self]
      rfl
    · show (Function.update peers.link connection (some []) other).isSome = true
      rwa [Function.update_of_ne hsame]
  case current =>
    -- a client that connects does not show that it is connected
    rw [hclient]
    intro server deviceId version hstatus
    have hshows := h.told.shows
    rw [hstage] at hshows
    cases hshows.symm.trans hstatus

variable [DecidableEq δ]

/-- The server goes on. -/
theorem serve (h : Agreeing backend serverId peers) {input : ServerInput}
    (hcarries : peers.carries session input = true) :
    Agreeing backend serverId
      { peers with server := (peers.server.step session backend input).2 } := by
  obtain ⟨history, hanswering⟩ := h.answering
  have hgreeting {connection : Nat} {found : Session}
      (hfound : (peers.server.step session backend input).2.session connection = some found) :=
    Ompd.Server.greeting_step hanswering h.sealed hfound
  constructor
  case answering =>
    exact ⟨_, Ompd.Server.answering_step (e := Mealy.event (Server.step session backend) peers.server
      input) hanswering input rfl⟩
  case keyed =>
    exact Ompd.Server.daemon_step (P := fun daemon => Keyed daemon.store.devices)
      (fun daemon input h => (daemon.device_effect backend input).keyed h) h.keyed input
  case identity => exact (serverId_step peers.server input).trans h.identity
  case sealed =>
    intro connection found hfound
    exact (hgreeting hfound).1
  case silent =>
    intro connection found hfound hdevice frame hhead
    cases (hgreeting hfound).2 with
    | none hnone => exact hnone frame hhead
    | same before hsession hsame hkept =>
      exact h.silent connection before hsession (hkept.symm.trans hdevice) frame
        (hsame.symm.trans hhead)
    | welcomed _ _ _ _ authenticated _ _ _ _ _ hknown => cases hknown.symm.trans hdevice
  case greeted =>
    intro connection hellos found frame hlink hfound hhead
    cases (hgreeting hfound).2 with
    | none hnone => exact absurd hhead (hnone frame)
    | same before hsession hsame hkept =>
      obtain ⟨hello, hmem, welcome, authenticated, hwelcome, hserver, hdevice, hissued, hknown,
        hvouched⟩ := h.greeted connection hellos before frame hlink hsession (hsame.symm.trans hhead)
      exact ⟨hello, hmem, welcome, authenticated, hwelcome,
        hserver.trans (serverId_step peers.server input).symm, hdevice, hissued,
        hkept.trans hknown, vouched_step hvouched input⟩
    | welcomed message handshake hello version authenticated daemon hinput hhello hauthenticated hnow
        hknown hup hstore =>
      subst hinput
      dsimp only [Peers.carries] at hcarries
      rw [show peers.link connection = some hellos from hlink, hhello] at hcarries
      obtain ⟨said, hsaid, hsame⟩ := List.mem_map.mp (of_decide_eq_true hcarries)
      cases hnow.symm.trans hhead
      have hvouched := Ompd.Server.authenticate_ok hup h.keyed hauthenticated
      rw [hstore] at hvouched
      refine ⟨said, hsaid, _, authenticated, rfl, ?_, rfl, rfl, hknown, ?_⟩
      · exact congrArg Store.serverId hstore
      · rw [show said.authentication = hello.authentication from
          congrArg ClientHello.authentication hsame]
        exact hvouched
  case told => exact h.told
  case linked => exact h.linked
  case saved =>
    intro credential hmem
    obtain ⟨hserver, hknows⟩ := h.saved credential hmem
    exact ⟨hserver, knows_step hknows input⟩
  case connected =>
    intro server deviceId version hmem
    obtain ⟨hserver, connection, hsome, hserved⟩ := h.connected server deviceId version hmem
    exact ⟨hserver, connection, hsome, serves_step hanswering h.sealed hserved input⟩
  case current =>
    intro server deviceId version hstatus
    obtain ⟨connection, hpeer, hserved⟩ := h.current server deviceId version hstatus
    exact ⟨connection, hpeer, serves_step hanswering h.sealed hserved input⟩

theorem step (h : Agreeing backend serverId peers) (input : PeersInput) :
    Agreeing backend serverId (peers.step config session backend input) := by
  cases input with
  | client input =>
    dsimp only [Peers.step]
    split
    · exact h
    · rename_i hown
      refine h.advance ?_ ?_
      · rintro rfl
        exact hown rfl
      · rintro message saved rfl
        exact absurd rfl hown
  | connect connection =>
    dsimp only [Peers.step]
    split
    · rename_i authentication hstage
      split
      · exact h.connect hstage ‹_›
      · exact h
    · exact h
  | answer message saved =>
    dsimp only [Peers.step]
    split
    · rename_i hanswers
      refine h.advance nofun ?_
      rintro _ _ ⟨⟩
      exact hanswers
    · exact h
  | server input =>
    dsimp only [Peers.step]
    split
    · exact h.serve ‹_›
    · exact h

end Agreeing

/-- **Both sides agree on who is connected.**

In every run of the client, the network and the daemon, over reconnections, crashes and
whatever else the daemon does: a credential that the client has saved is one of the
daemon's, with the scopes it says, and authenticates for as long as its device is not
revoked; and whenever the client was connected, it was so on a connection of its own which
the daemon serves as that device, and is so on its last connection while it shows it. -/
theorem peers_agree {δ : Type} [DecidableEq δ] (config : RunConfig) (session : ServerSessionConfig)
    (backend : Backend δ) (random : String) (serverId : ServerId) (inputs : List PeersInput) :
    let peers := run (Peers.step config session backend) (.create config random serverId) inputs
    let store := peers.server.daemon.store
    (∀ credential, .saved credential ∈ peers.client.actions →
      credential.serverId = serverId ∧ store.serverId = serverId ∧
        ∃ row, store.devices.lookup credential.deviceId = some row ∧
          row.record.scopes = credential.scopes ∧
          ∀ nowMs : UInt64, nowMs.toNat < 2 ^ 63 →
            ((∃ record, (store.authenticateDevice backend credential.deviceId credential.token nowMs
                none).1 = .ok record) ↔ row.record.revokedAtMs = none)) ∧
      (∀ server deviceId version,
        .status (.connected server deviceId version) ∈ peers.client.actions →
        server = serverId ∧ ∃ connection, (peers.link connection).isSome ∧
          Serves peers.server connection deviceId) ∧
      ∀ server deviceId version, peers.client.status = .connected server deviceId version →
        ∃ connection, peers.peer = some connection ∧ Serves peers.server connection deviceId := by
  intro peers store
  have h : Agreeing backend serverId peers :=
    run_invariant (P := Agreeing backend serverId) (fun _ input h => h.step input)
      (Agreeing.create config random backend serverId) inputs
  refine ⟨?_, h.connected, h.current⟩
  intro credential hmem
  obtain ⟨hserver, row, hrow, hhash, hscopes⟩ := h.saved credential hmem
  refine ⟨hserver, h.identity, row, hrow, hscopes, ?_⟩
  intro nowMs hnow
  constructor
  · rintro ⟨record, hrecord⟩
    obtain ⟨found, hfound, -, hunrevoked, -⟩ := (Store.authenticateDevice_iff hnow).mp hrecord
    cases hrow.symm.trans hfound
    exact hunrevoked
  · intro hunrevoked
    exact ⟨_, (Store.authenticateDevice_iff hnow).mpr ⟨row, hrow, hhash, hunrevoked, rfl⟩⟩

/-- A client that pairs. -/
def pairing : RunConfig :=
  ⟨⟨⟨"server"⟩, ⟨"", "", .desktop, []⟩, .default⟩,
    .pair (.pair ⟨"grant"⟩ ⟨"secret"⟩ ⟨"", .desktop⟩), .default⟩

/-- It is paired, and connected again after the daemon has crashed. -/
def reconnected : List PeersInput :=
  let credential : DeviceCredential := ⟨⟨"server"⟩, ⟨"device"⟩, ⟨"token"⟩,
    ⟨true, false, false, false, false, false⟩⟩
  let hello (authentication : ClientAuthentication) : Ompd.Message :=
    Ompd.Server.binary (.hello ⟨[1], [], authentication⟩)
  let handshake : Ompd.Handshake :=
    ⟨50, ⟨"device"⟩, ⟨"token"⟩, ⟨"connection"⟩, none, true, true⟩
  let welcome (issued : Option DeviceCredential) : WireMessage ServerFrame :=
    ⟨10, .ok (.welcome ⟨1, ⟨"server"⟩, ⟨"connection"⟩, ⟨"device"⟩, ⟨[], 1048576⟩, 15000, issued⟩, 10)⟩
  [.server (.start 0 none),
    .server (.store (.createPairing "phone" credential.scopes 0 ⟨100, Ompd.Server.lifetime_ne⟩
      ⟨"grant"⟩ ⟨"secret"⟩ none)),
    .client (.start (.ok none)), .server .accept, .connect 0, .client (.greeted (.ok ())),
    .server (.first 0 (some (hello (.pair ⟨"grant"⟩ ⟨"secret"⟩ ⟨"", .desktop⟩))) handshake),
    .answer (welcome (some credential)) (.ok ()), .client (.initialization (.ok ())),
    .server .crash, .client (.received (.error "gone") (.ok ())), .client .wake,
    .server (.start 60 none), .client (.start (.ok none)), .server .accept, .connect 1,
    .client (.greeted (.ok ())),
    .server (.first 1 (some (hello (.device ⟨"device"⟩ ⟨"token"⟩))) handshake),
    .answer (welcome none) (.ok ())]

theorem peers_agree_reconnected : ∃ peers : Peers ByteArray,
    peers = run (Peers.step pairing Ompd.Server.byteConfig Ompd.Server.shortBackend)
      (.create pairing "r" ⟨"server"⟩) reconnected ∧
    (∃ row, peers.server.daemon.store.devices.lookup ⟨"device"⟩ = some row ∧
      row.record.scopes = ⟨true, false, false, false, false, false⟩) ∧
      Serves peers.server 1 ⟨"device"⟩ := by
  have hsaved : ((run (Peers.step pairing Ompd.Server.byteConfig Ompd.Server.shortBackend)
      (.create pairing "r" ⟨"server"⟩) reconnected).client.actions.filterMap saved?) =
      [⟨⟨"server"⟩, ⟨"device"⟩, ⟨"token"⟩, ⟨true, false, false, false, false, false⟩⟩] := by
    decide +kernel
  have hstatus : (run (Peers.step pairing Ompd.Server.byteConfig Ompd.Server.shortBackend)
      (.create pairing "r" ⟨"server"⟩) reconnected).client.status =
        .connected ⟨"server"⟩ ⟨"device"⟩ 1 := by decide +kernel
  have hlast : (run (Peers.step pairing Ompd.Server.byteConfig Ompd.Server.shortBackend)
      (.create pairing "r" ⟨"server"⟩) reconnected).peer = some 1 := by decide +kernel
  obtain ⟨hcredentials, -, hcurrent⟩ := peers_agree pairing Ompd.Server.byteConfig
    Ompd.Server.shortBackend "r" ⟨"server"⟩ reconnected
  generalize run (Peers.step pairing Ompd.Server.byteConfig Ompd.Server.shortBackend)
    (.create pairing "r" ⟨"server"⟩) reconnected = peers at *
  refine ⟨peers, rfl, ?_, ?_⟩
  · obtain ⟨action, haction, heq⟩ := List.mem_filterMap.mp (hsaved ▸ List.mem_singleton_self _)
    cases action with
    | saved credential =>
      cases heq
      obtain ⟨-, -, row, hrow, hscopes, -⟩ := hcredentials _ haction
      exact ⟨row, hrow, hscopes⟩
    | status | hello | sleep => cases heq
  · obtain ⟨connection, hpeer, hserves⟩ := hcurrent _ _ _ hstatus
    cases hlast.symm.trans hpeer
    exact hserves

end OmpRemote.Replication

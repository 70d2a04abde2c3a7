import OmpRemote.Ompd.Controller
import OmpRemote.Ompd.Session

/-!
# The control server

Any number of control connections over one daemon: its database, its controller
and the requests in flight.

- `Server.authenticate`: the handshake up to the welcome.
- `Server.step`: connections, requests and the daemon's crashes and starts. A
  request goes through the steps of `Daemon`; its answer comes back to the
  connection's loop.
-/

namespace OmpRemote.Ompd

open Lib

/-! ## The handshake -/

def supportedProtocolVersions : List ProtocolVersion := [1]

def negotiateVersion (clientVersions : List ProtocolVersion) : Option ProtocolVersion :=
  supportedProtocolVersions.reverse.find? fun version => version ∈ clientVersions

def negotiateClientHello : ClientFrame → Option (ClientHello × ProtocolVersion)
  | .hello hello => (negotiateVersion hello.supportedVersions).map fun version => (hello, version)
  | _ => none

def availableCapabilities : List String := ["event_replay", "interaction_leases", "state_deltas"]

/-- The hello of a first message. -/
def firstHello (config : ServerSessionConfig) : Message → Option (ClientHello × ProtocolVersion)
  | .binary message =>
    if message.size > config.frameLimits.preAuth.1.toNat then none
    else match (config.frameLimits.codec .preAuth).decode message with
      | .ok frame => negotiateClientHello frame
      | .error _ => none
  | _ => none

structure Authenticated where
  device : DeviceRecord
  issuedCredential : Option DeviceCredential

/-- What the handshake draws at random, reads from the clock, and meets. -/
structure Handshake where
  nowMs : UInt64
  /-- The id and the token of a device that is paired. -/
  deviceId : DeviceId
  token : DeviceToken
  connectionId : ConnectionId
  fault : Option Nat
  /-- The record of a device that was just paired can be read. -/
  readable : Bool
  /-- The socket takes the welcome. -/
  sent : Bool

structure Server (δ : Type) where
  daemon : Daemon δ
  session : Nat → Option Session
  /-- The number of connections so far. -/
  accepted : Nat

inductive ServerInput where
  /-- The server accepts a connection. -/
  | accept
  /-- The first message of a connection; none if there is none in time. -/
  | first (connection : Nat) (message : Option Message) (handshake : Handshake)
  | receive (connection : Nat) (message : Message)
  | session (connection : Nat) (input : SessionInput)
  | claim (connection : Nat) (nowMs : UInt64) (fault : Option Nat)
  | call (connection : Nat)
  /-- The controller has executed a request; a revocation is executed here. -/
  | answer (connection : Nat) (result : Except ControllerError Returned) (nowMs : UInt64)
      (fault : Option Nat)
  | complete (connection : Nat) (nowMs : UInt64) (fault : Option Nat)
  /-- Something else uses the store. -/
  | store (operation : StoreOperation)
  | crash
  | start (nowMs : UInt64) (fault : Option Nat)

/-- The step is the connection's own. -/
def ServerInput.isOf (input : ServerInput) (connection : Nat) : Prop :=
  ∃ i, input = .session connection i

/-- The answer that an effect of a request gives its connection. -/
def Effect.outcome? : Effect → Option ResponseOutcome
  | .answered outcome | .recorded _ outcome => some outcome
  | _ => none

namespace Server

variable {δ : Type} [DecidableEq δ]

omit [DecidableEq δ] in
def create (serverId : ServerId) : Server δ := ⟨.create serverId, fun _ => none, 0⟩

omit [DecidableEq δ] in
def setSession (server : Server δ) (connection : Nat) (session : Session) : Server δ :=
  { server with session := Function.update server.session connection (some session) }

/-- The store's answer to the credentials of a hello, and the daemon with it. -/
def authenticate (backend : Backend δ) (daemon : Daemon δ) (authentication : ClientAuthentication)
    (handshake : Handshake) : Option Authenticated × Daemon δ :=
  match authentication with
  | .device deviceId token =>
    let operation := StoreOperation.authenticateDevice deviceId token handshake.nowMs handshake.fault
    let daemon' := (daemon.step backend (.store operation)).2
    match (daemon.store.authenticateDevice backend deviceId token handshake.nowMs
        handshake.fault).1 with
    | .ok device => (some ⟨device, none⟩, daemon')
    | .error _ => (none, daemon')
  | .pair pairingId secret device =>
    let operation := StoreOperation.exchangePairing pairingId secret device handshake.nowMs
      handshake.token handshake.deviceId handshake.fault
    let daemon' := (daemon.step backend (.store operation)).2
    match (daemon.store.exchangePairing backend pairingId secret device handshake.nowMs
        handshake.token handshake.deviceId handshake.fault).1 with
    | .error _ => (none, daemon')
    | .ok credential =>
      match daemon'.store.device credential.deviceId with
      | some device =>
        (if handshake.readable then some ⟨device, some credential⟩ else none, daemon')
      | none => (none, daemon')

omit [DecidableEq δ] in
/-- The welcome of an authenticated connection. -/
def welcome (config : ServerSessionConfig) (daemon : Daemon δ) (hello : ClientHello)
    (version : ProtocolVersion) (authenticated : Authenticated) (connectionId : ConnectionId) :
    ServerWelcome where
  protocolVersion := version
  serverId := daemon.store.serverId
  connectionId := connectionId
  deviceId := authenticated.device.deviceId
  capabilities :=
    ⟨availableCapabilities.filter fun capability => capability ∈ hello.capabilities,
      config.frameLimits.postAuth⟩
  heartbeatIntervalMs := config.heartbeatIntervalMs
  issuedCredential := authenticated.issuedCredential

/-- `run_connection` up to its loop. -/
def first (config : ServerSessionConfig) (backend : Backend δ) (server : Server δ)
    (connection : Nat) (session : Session) (message : Option Message) (handshake : Handshake) :
    Server δ :=
  match message.bind (firstHello config) with
  | none => server.setSession connection session.reject
  | some (hello, version) =>
    match authenticate backend server.daemon hello.authentication handshake with
    | (none, daemon) => { server with daemon }.setSession connection session.reject
    | (some authenticated, daemon) =>
      let welcome :=
        welcome config daemon hello version authenticated handshake.connectionId
      if !Session.encodes config (.protocol (.welcome welcome)) then
        { server with daemon }.setSession connection session.reject
      else
        { server with
          daemon :=
            if handshake.sent then
              (daemon.step backend (.connect connection authenticated.device)).2
            else daemon }.setSession connection
          (session.welcome authenticated.device welcome handshake.sent)

omit [DecidableEq δ] in
/-- A request's effect, and its answer if it has one. -/
def answered (server : Server δ) (connection : Nat) (step : Option Effect × Daemon δ) :
    Option (Nat × Effect) × Server δ :=
  let server := { server with daemon := step.2 }
  let effect := step.1.map fun effect => (connection, effect)
  match step.1.bind Effect.outcome?, server.session connection with
  | some outcome, some session =>
    match session.loop with
    | .executing requestId =>
      (effect, server.setSession connection { session with
        loop := .sending .response (.protocol (.response ⟨requestId, outcome⟩)) true false })
    | _ => (effect, server)
  | _, _ => (effect, server)

/-- The controller returns from `execute`. -/
def answer (backend : Backend δ) (server : Server δ) (connection : Nat)
    (result : Except ControllerError Returned) (nowMs : UInt64) (fault : Option Nat) :
    Option (Nat × Effect) × Server δ :=
  match server.daemon.connections connection with
  | some ⟨_, some (.executing _ (.revokeDevice deviceId))⟩ =>
    let outcome := revoke server.daemon.store deviceId nowMs fault
    let daemon := (server.daemon.step backend (.store (.revokeDevice deviceId nowMs fault))).2
    server.answered connection (daemon.step backend (.return connection outcome))
  | some ⟨_, some (.executing _ request)⟩ =>
    server.answered connection
      (server.daemon.step backend (.return connection (execute request result)))
  | _ => (none, server)

/-- A connection whose loop has ended drops its request. -/
def settle (backend : Backend δ) (server : Server δ) (connection : Nat) (session : Session) :
    Server δ :=
  let server := server.setSession connection session
  if session.loop = .done then
    { server with daemon := (server.daemon.step backend (.disconnect connection)).2 }
  else server

/-- A message of an authenticated client; a request goes to the daemon. -/
def receive (config : ServerSessionConfig) (backend : Backend δ) (server : Server δ)
    (connection : Nat) (session : Session) (device : DeviceRecord) (message : Message) :
    Server δ :=
  let server := server.settle backend connection (session.receive config device message)
  match Session.decode config message with
  | some frame =>
    { server with daemon := (server.daemon.step backend (.receive connection frame)).2 }
  | none => server

def step (config : ServerSessionConfig) (backend : Backend δ) (server : Server δ) :
    ServerInput → Option (Nat × Effect) × Server δ
  | .accept =>
    if server.daemon.up then
      (none, { server.setSession server.accepted (.new config.outboundCapacity) with
        accepted := server.accepted + 1 })
    else (none, server)
  | .first connection message handshake =>
    match server.session connection with
    | some session =>
      if session.loop = .first then
        (none, server.first config backend connection session message handshake)
      else (none, server)
    | none => (none, server)
  | .receive connection message =>
    match server.session connection with
    | some session =>
      match session.loop, session.device with
      | .receiving, some device =>
        (none, server.receive config backend connection session device message)
      | _, _ => (none, server)
    | none => (none, server)
  | .session connection input =>
    match server.session connection with
    | some session => (none, server.settle backend connection (session.step config input))
    | none => (none, server)
  | .claim connection nowMs fault =>
    server.answered connection (server.daemon.step backend (.claim connection nowMs fault))
  | .call connection => server.answered connection (server.daemon.step backend (.call connection))
  | .answer connection result nowMs fault => server.answer backend connection result nowMs fault
  | .complete connection nowMs fault =>
    server.answered connection (server.daemon.step backend (.complete connection nowMs fault))
  | .store operation =>
    (none, { server with daemon := (server.daemon.step backend (.store operation)).2 })
  | .crash =>
    (none, { server with
      daemon := (server.daemon.step backend .crash).2
      session := fun connection => (server.session connection).map Session.finish })
  | .start nowMs fault =>
    (none, { server with daemon := (server.daemon.step backend (.start nowMs fault)).2 })

/-! ## What a step does to a connection -/

/-- What a step can do to a connection that is there. -/
inductive Turn (config : ServerSessionConfig) (connection : Nat) (session : Session)
    (input : ServerInput) : Session → Prop where
  | step (i : SessionInput) : input = .session connection i →
      Turn config connection session input (session.step config i)
  | same : ¬ input.isOf connection → Turn config connection session input session
  | receive (device : DeviceRecord) (message : Message) : ¬ input.isOf connection →
      session.device = some device →
      Turn config connection session input (session.receive config device message)
  | reject : ¬ input.isOf connection → session.loop = .first →
      Turn config connection session input session.reject
  | welcome (device : DeviceRecord) (welcome : ServerWelcome) (sent : Bool) :
      ¬ input.isOf connection → session.loop = .first →
      Turn config connection session input (session.welcome device welcome sent)
  /-- The answer of its request. -/
  | answer (requestId : RequestId) (outcome : ResponseOutcome) : ¬ input.isOf connection →
      session.loop = .executing requestId →
      Turn config connection session input { session with
        loop := .sending .response (.protocol (.response ⟨requestId, outcome⟩)) true false }
  /-- The daemon crashes. -/
  | finish : ¬ input.isOf connection → Turn config connection session input session.finish

section Turns

variable {config : ServerSessionConfig} {backend : Backend δ} {server : Server δ}
  {connection other : Nat} {session found : Session}

omit [DecidableEq δ] in
theorem setSession_cases (h : (server.setSession connection session).session other = some found) :
    (other = connection ∧ found = session) ∨ server.session other = some found := by
  by_cases hsame : other = connection
  · subst hsame
    cases (Function.update_self _ _ _).symm.trans h
    exact .inl ⟨rfl, rfl⟩
  · exact .inr ((Function.update_of_ne hsame _ _).symm.trans h)

theorem settle_session (server : Server δ) (connection : Nat) (session : Session) :
    (server.settle backend connection session).session =
      (server.setSession connection session).session := by
  unfold settle
  dsimp only
  split <;> rfl

omit [DecidableEq δ] in
theorem answered_cases {result : Option Effect × Daemon δ}
    (h : (server.answered connection result).2.session other = some found) :
    server.session other = some found ∨ ∃ session requestId outcome,
      server.session other = some session ∧ session.loop = .executing requestId ∧
        found = { session with
          loop := .sending .response (.protocol (.response ⟨requestId, outcome⟩)) true false } := by
  unfold answered at h
  dsimp only at h
  split at h
  · rename_i outcome session _ hsession
    split at h
    · rename_i requestId hloop
      rcases setSession_cases h with ⟨rfl, rfl⟩ | hold
      · exact .inr ⟨session, requestId, outcome, hsession, hloop, rfl⟩
      · exact .inl hold
    · exact .inl h
  · exact .inl h

/-- A connection after a step is a new one, or had its turn. -/
theorem session_step {input : ServerInput}
    (h : (server.step config backend input).2.session connection = some found) :
    (input = .accept ∧ server.daemon.up = true ∧ connection = server.accepted ∧
        found = .new config.outboundCapacity) ∨
      ∃ session, server.session connection = some session ∧
        Turn config connection session input found := by
  cases input with
  | accept =>
    have hother : ¬ ServerInput.isOf .accept connection := fun ⟨_, heq⟩ => by cases heq
    dsimp only [step] at h
    split at h
    · rename_i hup
      rcases setSession_cases h with ⟨rfl, rfl⟩ | hold
      · exact .inl ⟨rfl, hup, rfl, rfl⟩
      · exact .inr ⟨found, hold, .same hother⟩
    · exact .inr ⟨found, h, .same hother⟩
  | first other message handshake =>
    have hother : ¬ ServerInput.isOf (.first other message handshake) connection :=
      fun ⟨_, heq⟩ => by cases heq
    dsimp only [step] at h
    split at h
    · rename_i session hsession
      split at h
      · rename_i hfirst
        unfold Server.first at h
        split at h
        · -- the message is no hello of a version that the server speaks
          rcases setSession_cases h with ⟨rfl, rfl⟩ | hold
          · exact .inr ⟨session, hsession, .reject hother hfirst⟩
          · exact .inr ⟨found, hold, .same hother⟩
        split at h
        · rcases setSession_cases h with ⟨rfl, rfl⟩ | hold
          · exact .inr ⟨session, hsession, .reject hother hfirst⟩
          · exact .inr ⟨found, hold, .same hother⟩
        dsimp only at h
        split at h
        · -- the credential is good, but the welcome does not encode
          rcases setSession_cases h with ⟨rfl, rfl⟩ | hold
          · exact .inr ⟨session, hsession, .reject hother hfirst⟩
          · exact .inr ⟨found, hold, .same hother⟩
        · rcases setSession_cases h with ⟨rfl, rfl⟩ | hold
          · exact .inr ⟨session, hsession, .welcome _ _ _ hother hfirst⟩
          · exact .inr ⟨found, hold, .same hother⟩
      · exact .inr ⟨found, h, .same hother⟩
    · exact .inr ⟨found, h, .same hother⟩
  | receive other message =>
    have hother : ¬ ServerInput.isOf (.receive other message) connection :=
      fun ⟨_, heq⟩ => by cases heq
    dsimp only [step] at h
    split at h
    · rename_i session hsession
      split at h
      · rename_i device _ hdevice
        -- `settle` then drops the request, so the session is the one that `receive` left
        have hsettled : (server.setSession other (session.receive config device message)).session
            connection = some found := by
          unfold Server.receive at h
          dsimp only at h
          split at h <;> exact settle_session server other _ ▸ h
        rcases setSession_cases hsettled with ⟨rfl, rfl⟩ | hold
        · exact .inr ⟨session, hsession, .receive device message hother hdevice⟩
        · exact .inr ⟨found, hold, .same hother⟩
      · exact .inr ⟨found, h, .same hother⟩
    · exact .inr ⟨found, h, .same hother⟩
  | session other input =>
    dsimp only [step] at h
    split at h
    · rename_i session hsession
      rw [settle_session] at h
      by_cases hsame : connection = other
      · subst hsame
        cases (Function.update_self _ _ _).symm.trans h
        exact .inr ⟨session, hsession, .step input rfl⟩
      · refine .inr ⟨found, (Function.update_of_ne hsame _ _).symm.trans h, .same ?_⟩
        rintro ⟨i, heq⟩
        cases heq
        exact hsame rfl
    · rename_i hnone
      -- no such connection: the input cannot be of one that is found
      refine .inr ⟨found, h, .same ?_⟩
      rintro ⟨i, heq⟩
      cases heq
      cases hnone.symm.trans h
  | claim | call | complete =>
    rcases answered_cases h with hold | ⟨session, requestId, outcome, hold, hloop, rfl⟩
    · exact .inr ⟨found, hold, .same fun ⟨_, heq⟩ => by cases heq⟩
    · exact .inr ⟨session, hold, .answer requestId outcome (fun ⟨_, heq⟩ => by cases heq) hloop⟩
  | answer other result nowMs fault =>
    have hother : ¬ ServerInput.isOf (.answer other result nowMs fault) connection :=
      fun ⟨_, heq⟩ => by cases heq
    have hanswered {step : Option Effect × Daemon δ}
        (h : (server.answered other step).2.session connection = some found) :
        ∃ session, server.session connection = some session ∧
          Turn config connection session (.answer other result nowMs fault) found := by
      rcases answered_cases h with hold | ⟨session, requestId, outcome, hold, hloop, rfl⟩
      · exact ⟨found, hold, .same hother⟩
      · exact ⟨session, hold, .answer requestId outcome hother hloop⟩
    dsimp only [Server.step] at h
    unfold Server.answer at h
    split at h
    · exact .inr (hanswered h)
    · exact .inr (hanswered h)
    · exact .inr ⟨found, h, .same hother⟩
  | store | start => exact .inr ⟨found, h, .same fun ⟨_, heq⟩ => by cases heq⟩
  | crash =>
    have hother : ¬ ServerInput.isOf .crash connection := fun ⟨_, heq⟩ => by cases heq
    -- a crash finishes every connection
    obtain ⟨session, hsession, rfl⟩ := Option.map_eq_some_iff.mp h
    exact .inr ⟨session, hsession, .finish hother⟩

/-- The connection's own step. -/
theorem own_step (hsession : server.session connection = some session) (input : SessionInput) :
    (server.step config backend (.session connection input)).2.session connection =
      some (session.step config input) := by
  dsimp only [step]
  rw [hsession]
  dsimp only
  rw [settle_session]
  exact Function.update_self _ _ _

theorem settle_accepted (server : Server δ) (connection : Nat) (session : Session) :
    (server.settle backend connection session).accepted = server.accepted := by
  unfold settle
  dsimp only
  split <;> rfl

omit [DecidableEq δ] in
theorem answered_accepted (server : Server δ) (connection : Nat)
    (result : Option Effect × Daemon δ) :
    (server.answered connection result).2.accepted = server.accepted := by
  unfold answered
  dsimp only
  repeat' split
  all_goals rfl

/-- Connections are only ever added. -/
theorem accepted_le (server : Server δ) (input : ServerInput) :
    server.accepted ≤ (server.step config backend input).2.accepted := by
  cases input with
  | accept =>
    dsimp only [step]
    split
    · exact Nat.le_succ _
    · exact Nat.le_refl _
  | first connection message handshake =>
    dsimp only [step, Server.first]
    repeat' split
    all_goals exact Nat.le_refl _
  | receive connection message =>
    dsimp only [step, Server.receive]
    repeat' split
    all_goals first | exact Nat.le_refl _ | exact Nat.le_of_eq (settle_accepted _ _ _).symm
  | session connection input =>
    dsimp only [step]
    split
    · exact Nat.le_of_eq (settle_accepted _ _ _).symm
    · exact Nat.le_refl _
  | claim | call | complete => exact Nat.le_of_eq (answered_accepted _ _ _).symm
  | answer connection result nowMs fault =>
    dsimp only [step, Server.answer]
    split
    · exact Nat.le_of_eq (answered_accepted _ _ _).symm
    · exact Nat.le_of_eq (answered_accepted _ _ _).symm
    · exact Nat.le_refl _
  | store | crash | start => exact Nat.le_refl _

end Turns

/-- One step of a run of the server. -/
abbrev Event (δ : Type) := Mealy.Event (Server δ) ServerInput (Option (Nat × Effect))

/-- The steps of a run of the server on a new database. -/
def history (config : ServerSessionConfig) (backend : Backend δ) (serverId : ServerId)
    (inputs : List ServerInput) : List (Event δ) :=
  Mealy.trace (step config backend) (create serverId) inputs

end Server

end OmpRemote.Ompd

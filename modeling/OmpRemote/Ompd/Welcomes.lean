import OmpRemote.Ompd.Credential
import OmpRemote.Ompd.Passages

/-!
# Welcomes

The first frame that is written on a connection is the welcome or nothing the client
accepts. What the welcome says is what the daemon holds: the device it has authenticated,
and a credential under which it will authenticate again.

- `Store.Knows`: the daemon has the device's token.
- `Session.Appends`: nothing that was written is unwritten.
- `authenticate_ok`: what the daemon holds of whom it has authenticated.
- `greeting_step`: a first frame is what it was, or the welcome of this step.
-/

namespace OmpRemote.Ompd

open Lib

variable {δ : Type}

/-! ## What the store holds -/

/-- The device is there, with the hash of the token and the scopes. -/
def Store.Knows (backend : Backend δ) (store : Store δ) (deviceId : DeviceId) (token : DeviceToken)
    (scopes : DeviceScopes) : Prop :=
  ∃ row, store.devices.lookup deviceId = some row ∧
    row.tokenHash = Store.hashSecret backend token.text ∧ row.record.scopes = scopes

section

variable [DecidableEq δ] {backend : Backend δ}

theorem Store.Knows.execute {store : Store δ} {deviceId : DeviceId} {token : DeviceToken}
    {scopes : DeviceScopes} (h : store.Knows backend deviceId token scopes)
    (operation : StoreOperation) :
    (store.execute backend operation).2.Knows backend deviceId token scopes := by
  obtain ⟨row, hrow, hhash, hscopes⟩ := h
  obtain ⟨row', hrow', hkeeps⟩ := Store.device_keeps backend store operation hrow
  exact ⟨row', hrow', hkeeps.tokenHash.trans hhash, hkeeps.scopes.trans hscopes⟩

variable (backend) in
/-- A step of the daemon is at most one operation of the store. -/
theorem Daemon.store_step (daemon : Daemon δ) (input : DaemonInput) :
    (daemon.step backend input).2.store = daemon.store ∨
      ∃ operation, (daemon.step backend input).2.store =
        (daemon.store.execute backend operation).2 := by
  cases input with
  | connect | receive | call | «return» =>
    dsimp only [step]
    split <;> exact .inl rfl
  | claim connection nowMs fault =>
    dsimp only [step]
    split
    · rename_i device envelope _
      dsimp only [claim, Prod.map]
      split
      · exact .inl rfl
      split
      · exact .inl rfl
      split
      · exact .inl rfl
      rename_i operationId _
      refine .inr ⟨.claimOperation ⟨device.deviceId, operationId⟩ envelope.request nowMs fault, ?_⟩
      dsimp only [Store.execute, Prod.map, id]
      split <;> rfl
    · exact .inl rfl
  | complete connection nowMs fault =>
    dsimp only [step]
    split
    · rename_i device key outcome _
      refine .inr ⟨.completeOperation key outcome nowMs fault, ?_⟩
      dsimp only [Store.execute, Prod.map, id, complete]
      split <;> rfl
    · exact .inl rfl
  | disconnect | crash => exact .inl rfl
  | store operation =>
    dsimp only [step]
    split
    · exact .inr ⟨operation, rfl⟩
    · exact .inl rfl
  | start nowMs fault =>
    dsimp only [step]
    split
    · exact .inl rfl
    · exact .inr ⟨.reopen nowMs fault, rfl⟩

/-- What the operations of the store preserve, the steps of the daemon do. -/
theorem Daemon.store_preserves {P : Store δ → Prop}
    (hoperation : ∀ store operation, P store → P (store.execute backend operation).2)
    (daemon : Daemon δ) (input : DaemonInput) (h : P daemon.store) :
    P (daemon.step backend input).2.store := by
  rcases daemon.store_step backend input with hsame | ⟨operation, heq⟩
  · rw [hsame]
    exact h
  · rw [heq]
    exact hoperation _ operation h

end

/-! ## What is written -/

namespace Session

/-- What was written stays, and without a writer nothing more is. -/
structure Appends (session session' : Session) : Prop where
  written : session.written <+: session'.written
  silent : session.writer = false →
    session'.writer = false ∧ session'.written = session.written

variable {session session' : Session}

theorem appends_of_eq (hwritten : session'.written = session.written)
    (hwriter : session'.writer = session.writer ∨ session'.writer = false) :
    Appends session session' := by
  refine ⟨by rw [hwritten], ?_⟩
  intro hsilent
  refine ⟨?_, hwritten⟩
  rcases hwriter with hsame | hnone
  · rw [hsame, hsilent]
  · exact hnone

theorem appends_abort (session : Session) (agentId : AgentId) :
    Appends session (session.abort agentId) := by
  unfold abort
  split <;> exact appends_of_eq rfl (.inl rfl)

theorem appends_receive (config : ServerSessionConfig) (session : Session) (device : DeviceRecord)
    (message : Message) : Appends session (session.receive config device message) := by
  unfold receive
  split
  · rename_i frame _
    cases frame with
    | request | uiResponse | ping | hello => exact appends_of_eq rfl (.inl rfl)
    | subscribe request =>
      simp only [handleClientFrame]
      split <;> exact appends_of_eq rfl (.inl rfl)
    | unsubscribe agentId =>
      simp only [handleClientFrame]
      split
      · exact appends_of_eq rfl (.inl rfl)
      · have haborted := appends_abort { session with received := session.received ++
          [.unsubscribe agentId] } agentId
        exact ⟨haborted.written, haborted.silent⟩
  · split
    · exact appends_of_eq rfl (.inl rfl)
    · exact appends_of_eq rfl (.inl rfl)
    · exact appends_of_eq rfl (.inl rfl)
    · exact appends_of_eq rfl (.inr rfl)
    · exact appends_of_eq rfl (.inl rfl)

theorem appends_resume (session : Session) : Appends session session.resume := by
  unfold resume
  repeat' split
  all_goals first | exact appends_of_eq rfl (.inl rfl) | exact appends_of_eq rfl (.inr rfl)

theorem appends_subscribed (session : Session) (request : SubscribeRequest) (result : Subscribed) :
    Appends session (session.subscribed request result) := by
  have haborted := appends_abort session request.agentId
  cases result with
  | agentNotFound | failed => exact appends_of_eq rfl (.inl rfl)
  | started start => cases start <;> exact ⟨haborted.written, haborted.silent⟩

theorem appends_forwardTask (session : Session) (task : Nat) (input : SessionInput) :
    Appends session (session.forwardTask task input) := by
  unfold forwardTask
  split
  · unfold forward
    repeat' split
    all_goals exact appends_of_eq rfl (.inl rfl)
  · exact appends_of_eq rfl (.inl rfl)

/-- What the writer does. -/
theorem appends_writing (hwriter : session.writer = true)
    (hwritten : session.written <+: session'.written) : Appends session session' := by
  refine ⟨hwritten, ?_⟩
  intro hsilent
  rw [hwriter] at hsilent
  cases hsilent

theorem appends_step (config : ServerSessionConfig) (session : Session) (input : SessionInput) :
    Appends session (session.step config input) := by
  cases input with
  | resume => exact appends_resume session
  | subscribed result =>
    simp only [step]
    split
    · exact appends_subscribed session _ result
    · exact appends_of_eq rfl (.inl rfl)
  | write ok =>
    simp only [step]
    split
    · rename_i hwriter
      refine appends_writing hwriter ?_
      unfold write
      split
      · exact List.prefix_refl _
      · dsimp only
        split
        · exact List.prefix_append _ _
        · split
          · exact List.prefix_append _ _
          · exact (List.prefix_append _ _).trans (List.prefix_append _ _)
    · exact appends_of_eq rfl (.inl rfl)
  | heartbeat ping active ok =>
    simp only [step]
    split
    · rename_i hidle
      rw [Bool.and_eq_true] at hidle
      refine appends_writing hidle.1 ?_
      split
      · exact List.prefix_append _ _
      · split
        · exact List.prefix_append _ _
        · exact (List.prefix_append _ _).trans (List.prefix_append _ _)
    · exact appends_of_eq rfl (.inl rfl)
  | readerEnds | writerEnded =>
    simp only [step]
    split
    · exact appends_of_eq rfl (.inr rfl)
    · exact appends_of_eq rfl (.inl rfl)
  | update | lagged | closed | snapshot | resumeTask => exact appends_forwardTask session _ _

/-- Before the first message, and without a writer, nothing is written. -/
structure Sealed (session : Session) : Prop where
  fresh : session.loop = .first → session.writer = false ∧ session.written = []
  unwritten : session.written = [] → session.writer = false

theorem Sealed.appends (h : Sealed session) (happends : Appends session session')
    (hloop : session'.loop = .first → session.loop = .first) : Sealed session' := by
  constructor
  · intro hfirst
    obtain ⟨hwriter, hwritten⟩ := h.fresh (hloop hfirst)
    obtain ⟨hsilent, hsame⟩ := happends.silent hwriter
    exact ⟨hsilent, hsame.trans hwritten⟩
  · intro hempty
    have hbefore : session.written = [] := List.prefix_nil.mp (hempty ▸ happends.written)
    exact (happends.silent (h.unwritten hbefore)).1

/-- What has been written first stays so. -/
theorem head_of_appends (h : Sealed session) (happends : Appends session session') :
    session'.written.head? = session.written.head? := by
  cases hwritten : session.written with
  | nil => rw [(happends.silent (h.unwritten hwritten)).2, hwritten]
  | cons payload written =>
    obtain ⟨more, hmore⟩ := happends.written
    rw [← hmore, hwritten]
    rfl

end Session

/-! ## What a welcome says -/

namespace Server

variable [DecidableEq δ] {config : ServerSessionConfig} {backend : Backend δ} {server : Server δ}

/-- Whom the daemon has authenticated, and what it holds of them. -/
def Vouched (backend : Backend δ) (store : Store δ) (authenticated : Authenticated) :
    ClientAuthentication → Prop
  | .device deviceId token => authenticated.issuedCredential = none ∧
    authenticated.device.deviceId = deviceId ∧
    store.Knows backend deviceId token authenticated.device.scopes
  | .pair .. => ∃ credential, authenticated.issuedCredential = some credential ∧
    credential.deviceId = authenticated.device.deviceId ∧ credential.serverId = store.serverId ∧
    credential.scopes = authenticated.device.scopes ∧
    store.Knows backend credential.deviceId credential.token credential.scopes

theorem authenticateDevice_knows {store : Store δ} (hkeyed : Keyed store.devices)
    {deviceId : DeviceId} {token : DeviceToken} {nowMs : UInt64} {fault : Option Nat}
    {record : DeviceRecord}
    (h : (store.authenticateDevice backend deviceId token nowMs fault).1 = .ok record) :
    record.deviceId = deviceId ∧
      (store.authenticateDevice backend deviceId token nowMs fault).2.Knows backend deviceId token
        record.scopes := by
  have hknows : store.Knows backend deviceId token record.scopes ∧ record.deviceId = deviceId := by
    unfold Store.authenticateDevice at h
    split at h
    · cases h
    split at h
    · cases h
    rename_i row hrow
    split at h
    · cases h
    rename_i hhash
    split at h
    · cases h
    split at h
    · cases h
    split at h
    · cases h
    dsimp only at h
    split at h
    · cases h
    split at h
    · cases h
    rename_i found hfound
    cases h
    simp only [Store.device, Table.lookup_modify, if_true, hrow, Option.map_some,
      Option.some.injEq] at hfound
    subst hfound
    exact ⟨⟨row, hrow, not_not.mp hhash, rfl⟩, hkeyed deviceId row hrow⟩
  exact ⟨hknows.2, hknows.1.execute (.authenticateDevice deviceId token nowMs fault)⟩

/-- **What the daemon holds of whom it has authenticated.** -/
theorem authenticate_ok {daemon daemon' : Daemon δ} (hup : daemon.up = true)
    (hkeyed : Keyed daemon.store.devices) {authentication : ClientAuthentication}
    {handshake : Handshake} {authenticated : Authenticated}
    (h : authenticate backend daemon authentication handshake = (some authenticated, daemon')) :
    Vouched backend daemon'.store authenticated authentication := by
  have hstep (operation : StoreOperation) (hleaves : Daemon.leavesOperations operation = true) :
      (daemon.step backend (.store operation)).2.store =
        (daemon.store.execute backend operation).2 := by
    dsimp only [Daemon.step]
    rw [hup, hleaves]
    rfl
  unfold authenticate at h
  cases authentication with
  | device deviceId token =>
    dsimp only at h
    split at h
    · rename_i record hok
      cases h
      obtain ⟨hdevice, hknows⟩ := authenticateDevice_knows hkeyed hok
      refine ⟨rfl, hdevice, ?_⟩
      rw [hstep _ rfl]
      exact hknows
    · cases h
  | pair pairingId secret descriptor =>
    dsimp only at h
    rcases daemon.store.exchangePairing_cases backend pairingId secret descriptor handshake.nowMs
      handshake.token handshake.deviceId handshake.fault with
      ⟨error, hexchange⟩ | ⟨raw, devices, -, hinsert, hexchange⟩
    · rw [hexchange] at h
      cases h
    · rw [hstep _ rfl] at h
      simp only [Store.execute, hexchange] at h
      have hrow : devices.lookup handshake.deviceId =
          some (Store.exchangedRow backend raw descriptor handshake.nowMs handshake.token
            handshake.deviceId) := by
        rw [Table.lookup_insert hinsert, if_pos rfl]
      simp only [Prod.map, id, Store.device, hrow, Option.map_some] at h
      cases hreadable : handshake.readable with
      | false =>
        rw [hreadable] at h
        cases h
      | true =>
        rw [hreadable] at h
        cases h
        refine ⟨_, rfl, rfl, ?_, rfl, ?_⟩
        · rw [hstep _ rfl]
          simp only [Store.execute, hexchange]
          rfl
        · rw [hstep _ rfl]
          simp only [Store.execute, hexchange]
          exact ⟨_, hrow, rfl, rfl⟩

/-- The daemon after a first message that authenticates. -/
theorem first_store {connection : Nat} {session : Session} {message : Option Message}
    {handshake : Handshake} {hello : ClientHello} {version : ProtocolVersion}
    {authenticated : Authenticated} {daemon : Daemon δ}
    (hhello : message.bind (firstHello config) = some (hello, version))
    (hauthenticated : authenticate backend server.daemon hello.authentication handshake =
      (some authenticated, daemon)) :
    (server.first config backend connection session message handshake).daemon.store =
      daemon.store := by
  unfold Server.first
  rw [hhello]
  dsimp only
  rw [hauthenticated]
  dsimp only
  split
  · rfl
  · show (if handshake.sent then _ else _ : Daemon δ).store = _
    split
    · dsimp only [Daemon.step]
      split <;> rfl
    · rfl

/-- What a connection's first frame is after a step. -/
inductive Greeting (config : ServerSessionConfig) (backend : Backend δ) (server : Server δ)
    (input : ServerInput) (connection : Nat) (found : Session) : Prop where
  | none : (∀ frame, found.written.head? ≠ some (.protocol frame)) →
      Greeting config backend server input connection found
  | same (session : Session) : server.session connection = some session →
      found.written.head? = session.written.head? → found.device = session.device →
      Greeting config backend server input connection found
  | welcomed (message : Option Message) (handshake : Handshake) (hello : ClientHello)
      (version : ProtocolVersion) (authenticated : Authenticated) (daemon : Daemon δ) :
      input = .first connection message handshake →
      message.bind (firstHello config) = some (hello, version) →
      authenticate backend server.daemon hello.authentication handshake =
        (some authenticated, daemon) →
      found.written.head? = some (.protocol (.welcome
        (welcome config daemon hello version authenticated handshake.connectionId))) →
      found.device = some authenticated.device →
      server.daemon.up = true → daemon.store = (server.step config backend input).2.daemon.store →
      Greeting config backend server input connection found

theorem greeting_step {history : List (Event δ)} (h : Answering history server)
    (hsealed : ∀ connection session, server.session connection = some session → session.Sealed)
    {input : ServerInput} {connection : Nat} {found : Session}
    (hfound : (server.step config backend input).2.session connection = some found) :
    found.Sealed ∧ Greeting config backend server input connection found := by
  cases passage_step hfound with
  | opened _ heq =>
    subst heq
    exact ⟨⟨fun _ => ⟨rfl, rfl⟩, fun _ => rfl⟩, .none fun _ => nofun⟩
  | kept hsession => exact ⟨hsealed connection found hsession, .same found hsession rfl rfl⟩
  | stepped session i hsession heq =>
    subst heq
    have happends := Session.appends_step config session i
    have hsteady : Session.Steady session (session.step config i) := Session.steady_step i
    have hbefore := hsealed connection session hsession
    exact ⟨hbefore.appends happends hsteady.loop,
      .same session hsession (Session.head_of_appends hbefore happends) hsteady.device⟩
  | received session device message _ hsession _ _ heq =>
    subst heq
    have happends := Session.appends_receive config session device message
    have hsteady : Session.Steady session (session.receive config device message) :=
      Session.steady_receive device message
    have hbefore := hsealed connection session hsession
    exact ⟨hbefore.appends happends hsteady.loop,
      .same session hsession (Session.head_of_appends hbefore happends) hsteady.device⟩
  | rejected session hsession hfirst heq =>
    subst heq
    obtain ⟨hwriter, hwritten⟩ := (hsealed connection session hsession).fresh hfirst
    refine ⟨⟨nofun, fun _ => hwriter⟩, .none ?_⟩
    intro frame hhead
    rw [show session.reject.written = [.webSocket .close] from congrArg (· ++ _) hwritten] at hhead
    cases hhead
  | welcomed session message handshake hello version authenticated daemon hinput hsession hfirst
      hhello hauthenticated heq =>
    obtain ⟨hwriter, hwritten⟩ := (hsealed connection session hsession).fresh hfirst
    have hup := h.up connection session hsession (by rw [hfirst]; nofun)
    have hnow : found.written = [.protocol (.welcome
        (welcome config daemon hello version authenticated handshake.connectionId))] := by
      rw [heq]
      exact congrArg (· ++ _) hwritten
    refine ⟨⟨?_, ?_⟩, .welcomed message handshake hello version authenticated daemon hinput hhello
      hauthenticated (by rw [hnow]; rfl) (by rw [heq]; rfl) hup ?_⟩
    · intro hloop
      rw [heq] at hloop
      dsimp only [Session.welcome] at hloop
      split at hloop <;> cases hloop
    · intro hempty
      rw [hnow] at hempty
      cases hempty
    · subst hinput
      dsimp only [step]
      rw [hsession]
      dsimp only
      rw [if_pos hfirst]
      exact (first_store hhello hauthenticated).symm
  | answered session requestId outcome hsession hloop heq =>
    subst heq
    have hbefore := hsealed connection session hsession
    exact ⟨⟨nofun, hbefore.unwritten⟩, .same session hsession rfl rfl⟩
  | finished session hsession heq =>
    subst heq
    have hbefore := hsealed connection session hsession
    exact ⟨⟨nofun, fun _ => rfl⟩, .same session hsession rfl rfl⟩

/-- **The first frame of a connection stays what it is**, and so does the device. -/
theorem head_step {history : List (Event δ)} (h : Answering history server)
    (hsealed : ∀ connection session, server.session connection = some session → session.Sealed)
    (input : ServerInput) {connection : Nat} {session : Session} {payload : OutboundPayload}
    (hsession : server.session connection = some session)
    (hhead : session.written.head? = some payload) :
    ∃ found, (server.step config backend input).2.session connection = some found ∧
      found.written.head? = some payload ∧ found.device = session.device := by
  have hsome : (server.session connection).isSome := by rw [hsession]; rfl
  obtain ⟨found, hfound⟩ := Option.isSome_iff_exists.mp
    (@session_persists δ _ config backend server connection hsome input)
  have hbefore := hsealed connection session hsession
  have hunwritten : session.loop ≠ .first := by
    intro hfirst
    rw [(hbefore.fresh hfirst).2] at hhead
    cases hhead
  refine ⟨found, hfound, ?_⟩
  cases passage_step hfound with
  | opened hnew =>
    rw [hnew, h.unborn server.accepted (Nat.le_refl _)] at hsession
    cases hsession
  | kept hold =>
    cases hsession.symm.trans hold
    exact ⟨hhead, rfl⟩
  | stepped before i hold heq =>
    cases hsession.symm.trans hold
    subst heq
    have hsteady : Session.Steady session (session.step config i) := Session.steady_step i
    rw [Session.head_of_appends hbefore (Session.appends_step config session i)]
    exact ⟨hhead, hsteady.device⟩
  | received before device message _ hold _ _ heq =>
    cases hsession.symm.trans hold
    subst heq
    have hsteady : Session.Steady session (session.receive config device message) :=
      Session.steady_receive device message
    rw [Session.head_of_appends hbefore (Session.appends_receive config session device message)]
    exact ⟨hhead, hsteady.device⟩
  | rejected before hold hfirst =>
    cases hsession.symm.trans hold
    exact absurd hfirst hunwritten
  | welcomed before _ _ _ _ _ _ _ hold hfirst =>
    cases hsession.symm.trans hold
    exact absurd hfirst hunwritten
  | answered before requestId outcome hold _ heq =>
    cases hsession.symm.trans hold
    subst heq
    exact ⟨hhead, rfl⟩
  | finished before hold heq =>
    cases hsession.symm.trans hold
    subst heq
    exact ⟨hhead, rfl⟩

end Server

end OmpRemote.Ompd

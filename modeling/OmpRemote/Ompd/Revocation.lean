import OmpRemote.Ompd.Authorization
import OmpRemote.Ompd.Pairing

/-!
# Revocation

A revoked device stays revoked, so its credential opens no connection any more.
The connections it has already opened are not looked up again.

- `DeviceEffect`: the three things an operation can do to the devices.
- `Server.daemon_step`: what steps of the daemon preserve, steps of the server do.
- `Server.revocation`: after a revocation the connections of the device are the
  ones from before.
-/

namespace OmpRemote.Ompd

open Lib

variable {δ : Type}

/-! ## Device rows -/

/-- What an operation does to the devices: no row is deleted, and no revocation
undone. -/
inductive DeviceEffect (devices : Table DeviceId (DeviceRow δ)) :
    Table DeviceId (DeviceRow δ) → Prop where
  | same : DeviceEffect devices devices
  | inserts {devices'} (row : DeviceRow δ) :
      devices.insert row.record.deviceId row = some devices' → DeviceEffect devices devices'
  | modifies (deviceId : DeviceId) (f : DeviceRow δ → DeviceRow δ) :
      (∀ row, (f row).record.deviceId = row.record.deviceId ∧
        (row.record.revokedAtMs.isSome = true → (f row).record.revokedAtMs.isSome = true)) →
      DeviceEffect devices (devices.modify deviceId f)

/-- The row of a device has its id. -/
def Keyed (devices : Table DeviceId (DeviceRow δ)) : Prop :=
  ∀ deviceId row, devices.lookup deviceId = some row → row.record.deviceId = deviceId

def Revoked (deviceId : DeviceId) (devices : Table DeviceId (DeviceRow δ)) : Prop :=
  ∃ row, devices.lookup deviceId = some row ∧ row.record.revokedAtMs.isSome = true

namespace DeviceEffect

variable {devices devices' : Table DeviceId (DeviceRow δ)}

theorem keyed (h : DeviceEffect devices devices') (hkeyed : Keyed devices) : Keyed devices' := by
  intro deviceId row hrow
  cases h with
  | same => exact hkeyed deviceId row hrow
  | inserts inserted hinsert =>
    rw [Table.lookup_insert hinsert] at hrow
    split at hrow
    · rename_i hsame
      cases hrow
      exact hsame.symm
    · exact hkeyed deviceId row hrow
  | modifies modified f hf =>
    rw [Table.lookup_modify] at hrow
    split at hrow
    · obtain ⟨old, hold, rfl⟩ := Option.map_eq_some_iff.mp hrow
      rw [(hf old).1]
      exact hkeyed deviceId old hold
    · exact hkeyed deviceId row hrow

theorem revoked (h : DeviceEffect devices devices') {deviceId : DeviceId}
    (hrevoked : Revoked deviceId devices) : Revoked deviceId devices' := by
  obtain ⟨row, hrow, hsome⟩ := hrevoked
  cases h with
  | same => exact ⟨row, hrow, hsome⟩
  | inserts inserted hinsert =>
    have hne : deviceId ≠ inserted.record.deviceId := by
      rintro rfl
      rw [(Table.insert_eq_some hinsert).1] at hrow
      cases hrow
    exact ⟨row, by rw [Table.lookup_insert hinsert, if_neg hne, hrow], hsome⟩
  | modifies modified f hf =>
    unfold Revoked
    rw [Table.lookup_modify, hrow]
    split
    · exact ⟨f row, rfl, (hf row).2 hsome⟩
    · exact ⟨row, rfl, hsome⟩

end DeviceEffect

namespace Store

variable [DecidableEq δ]

theorem authenticateDevice_effect (backend : Backend δ) (store : Store δ) (deviceId : DeviceId)
    (token : DeviceToken) (nowMs : UInt64) (fault : Option Nat) :
    DeviceEffect store.devices
      (store.authenticateDevice backend deviceId token nowMs fault).2.devices := by
  unfold authenticateDevice
  split
  · exact .same
  split
  · exact .same
  split
  · exact .same
  split
  · exact .same
  split
  · exact .same
  split
  · exact .same
  -- from here on the time has been noted
  have hnoted (seen : UInt64) : DeviceEffect store.devices (store.devices.modify deviceId
      fun row => { row with record := { row.record with lastSeenAtMs := some seen } }) :=
    .modifies deviceId _ fun row => ⟨rfl, id⟩
  dsimp only
  split
  · exact hnoted _
  split <;> exact hnoted _

omit [DecidableEq δ] in
theorem revokeDevice_effect (store : Store δ) (deviceId : DeviceId) (nowMs : UInt64)
    (fault : Option Nat) :
    DeviceEffect store.devices (store.revokeDevice deviceId nowMs fault).2.devices := by
  unfold revokeDevice
  split
  · exact .same
  split
  · exact .same
  dsimp only
  refine .modifies deviceId _ fun row => ?_
  split
  · exact ⟨rfl, fun _ => rfl⟩
  · exact ⟨rfl, id⟩

omit [DecidableEq δ] in
theorem insertDevice_effect (backend : Backend δ) (store : Store δ) (record : DeviceRecord)
    (token : DeviceToken) (fault : Option Nat) :
    DeviceEffect store.devices (store.insertDevice backend record token fault).2.devices := by
  refine statement_preserves (P := fun s => DeviceEffect store.devices s.devices) .same ?_
  intro store' h
  obtain ⟨-, -, h⟩ := bind_eq_ok.mp h
  obtain ⟨-, -, h⟩ := bind_eq_ok.mp h
  obtain ⟨-, -, h⟩ := bind_eq_ok.mp h
  split at h
  · cases h
  · rename_i devices hinsert
    cases h
    exact .inserts ⟨record, hashSecret backend token.text⟩ hinsert

theorem authenticateDevice_ok {backend : Backend δ} {store : Store δ} {deviceId : DeviceId}
    {token : DeviceToken} {nowMs : UInt64} {fault : Option Nat} {record : DeviceRecord}
    (h : (store.authenticateDevice backend deviceId token nowMs fault).1 = .ok record) :
    ∃ row, store.devices.lookup deviceId = some row ∧ row.record.revokedAtMs.isSome = false ∧
      record.deviceId = row.record.deviceId := by
  unfold authenticateDevice at h
  split at h
  · cases h
  split at h
  · cases h
  rename_i row hrow
  split at h
  · cases h
  split at h
  · cases h
  rename_i hunrevoked
  split at h
  · cases h
  split at h
  · cases h
  dsimp only at h
  split at h
  · cases h
  split at h
  · cases h
  rename_i found hfound
  cases h
  refine ⟨row, hrow, by simpa using hunrevoked, ?_⟩
  simp only [device, Table.lookup_modify, if_true, hrow, Option.map_some, Option.some.injEq] at hfound
  rw [← hfound]

omit [DecidableEq δ] in
theorem revokeDevice_revoked {store : Store δ} {deviceId : DeviceId} {nowMs : UInt64}
    {fault : Option Nat} (h : (store.revokeDevice deviceId nowMs fault).1 = .ok true) :
    Revoked deviceId (store.revokeDevice deviceId nowMs fault).2.devices := by
  unfold revokeDevice at h ⊢
  cases hnow : sqlU64 nowMs "device revoked_at_ms" with
  | error error =>
    rw [hnow] at h
    cases h
  | ok seen =>
    rw [hnow] at h
    dsimp only at h ⊢
    split at h
    · cases h
    rename_i hfault
    rw [if_neg hfault]
    cases hrow : store.devices.lookup deviceId with
    | none => simp [device, hrow] at h
    | some row =>
      have hnone : row.record.revokedAtMs.isNone = true := by simpa [device, hrow] using h
      refine ⟨_, by rw [Table.lookup_modify, if_pos rfl, hrow]; rfl, ?_⟩
      dsimp only
      rw [if_pos hnone]
      rfl

theorem device_effect (backend : Backend δ) (store : Store δ) (operation : StoreOperation) :
    DeviceEffect store.devices (store.execute backend operation).2.devices := by
  have hframe (hother : .devices ∉ operation.tables) :
      DeviceEffect store.devices (store.execute backend operation).2.devices := by
    rw [(store.execute_frame backend operation).devices hother]
    exact .same
  cases operation with
  | insertDevice record token fault => exact store.insertDevice_effect backend record token fault
  | authenticateDevice deviceId token nowMs fault =>
    exact store.authenticateDevice_effect backend deviceId token nowMs fault
  | revokeDevice deviceId nowMs fault => exact store.revokeDevice_effect deviceId nowMs fault
  | exchangePairing pairingId secret descriptor nowMs token deviceId fault =>
    rcases store.exchangePairing_cases backend pairingId secret descriptor nowMs token deviceId
      fault with ⟨error, h⟩ | ⟨raw, devices, -, hinsert, h⟩
    · rw [execute, h]
      exact .same
    · rw [execute, h]
      exact .inserts (exchangedRow backend raw descriptor nowMs token deviceId) hinsert
  | upsertAgent | upsertSession | createPairing | consumePairing | claimOperation
  | completeOperation | pruneOperations | reopen =>
    exact hframe (by simp [StoreOperation.tables])

end Store

/-! ## The daemon -/

namespace Daemon

variable [DecidableEq δ] {backend : Backend δ}

/-- A step of the daemon does to the devices what an operation of the store can. -/
theorem device_effect (backend : Backend δ) (daemon : Daemon δ) (input : DaemonInput) :
    DeviceEffect daemon.store.devices (daemon.step backend input).2.store.devices := by
  cases input with
  | connect | «return» =>
    dsimp only [step]
    split <;> exact .same
  | receive | call =>
    dsimp only [step]
    split <;> exact .same
  | claim connection nowMs fault =>
    dsimp only [step]
    split
    · rename_i device envelope _
      dsimp only [claim, Prod.map]
      split
      · exact .same
      split
      · exact .same
      split
      · exact .same
      rename_i operationId _
      have hsame := (daemon.store.execute_frame backend (.claimOperation
        ⟨device.deviceId, operationId⟩ envelope.request nowMs fault)).devices
          (by simp [StoreOperation.tables])
      dsimp only [Store.execute, Prod.map, id] at hsame ⊢
      split <;> exact hsame ▸ .same
    · exact .same
  | complete connection nowMs fault =>
    dsimp only [step]
    split
    · rename_i device key outcome _
      have hsame := (daemon.store.execute_frame backend (.completeOperation key outcome nowMs
        fault)).devices (by simp [StoreOperation.tables])
      dsimp only [Store.execute, Prod.map, id, complete] at hsame ⊢
      split <;> exact hsame ▸ .same
    · exact .same
  | disconnect | crash => exact .same
  | store operation =>
    dsimp only [step]
    split
    · exact daemon.store.device_effect backend operation
    · exact .same
  | start nowMs fault =>
    dsimp only [step]
    split
    · exact .same
    · exact daemon.store.device_effect backend (.reopen nowMs fault)

omit [DecidableEq δ] in
/-- A daemon that is down has no connections. -/
def DownIdle (daemon : Daemon δ) : Prop :=
  ∀ connection entry, daemon.connections connection = some entry → daemon.up = true

omit [DecidableEq δ] in
theorem DownIdle.setTask {daemon : Daemon δ} (h : daemon.up = true) (connection : Nat)
    (device : DeviceRecord) (task : Option Task) :
    (daemon.setTask connection device task).DownIdle := fun _ _ _ => h

/-- The state of the daemon that revocations rest on. -/
structure Tracks (deviceId : DeviceId) (daemon : Daemon δ) : Prop where
  keyed : Keyed daemon.store.devices
  revoked : Revoked deviceId daemon.store.devices

theorem Tracks.step {deviceId : DeviceId} {daemon : Daemon δ} (h : Tracks deviceId daemon)
    (input : DaemonInput) : Tracks deviceId (daemon.step backend input).2 :=
  ⟨(daemon.device_effect backend input).keyed h.keyed,
    (daemon.device_effect backend input).revoked h.revoked⟩

theorem downIdle_step {daemon : Daemon δ} (h : daemon.DownIdle) (input : DaemonInput) :
    (daemon.step backend input).2.DownIdle := by
  cases input with
  | connect connection device =>
    dsimp only [step]
    split
    · rename_i hup
      exact .setTask hup connection device none
    · exact h
  | receive connection frame =>
    dsimp only [step]
    split
    · rename_i hconnection _
      exact .setTask (h connection _ hconnection) connection _ _
    · exact h
  | claim connection nowMs fault =>
    dsimp only [step]
    split
    · rename_i device envelope hconnection
      have hup := h connection _ hconnection
      dsimp only [claim, Prod.map]
      repeat' split
      all_goals exact fun _ _ _ => hup
    · exact h
  | call connection =>
    dsimp only [step]
    split
    · rename_i hconnection
      exact .setTask (h connection _ hconnection) connection _ _
    · exact h
  | «return» connection outcome =>
    dsimp only [step]
    split
    · rename_i hconnection
      exact .setTask (h connection _ hconnection) connection _ _
    · rename_i hconnection
      exact .setTask (h connection _ hconnection) connection _ _
    · exact h
  | complete connection nowMs fault =>
    dsimp only [step]
    split
    · rename_i hconnection
      have hup := h connection _ hconnection
      dsimp only [complete, Prod.map]
      split <;> exact fun _ _ _ => hup
    · exact h
  | disconnect connection =>
    -- the connection goes; every other one stays as it was
    intro other entry hother
    change Function.update daemon.connections connection none other = some entry at hother
    by_cases hsame : other = connection
    · subst hsame
      rw [Function.update_self] at hother
      cases hother
    · rw [Function.update_of_ne hsame] at hother
      exact h other entry hother
  | store operation =>
    dsimp only [step]
    split <;> exact h
  | crash =>
    -- a crash drops every connection
    intro other entry hother
    cases hother
  | start nowMs fault =>
    dsimp only [step]
    split
    · exact h
    · rename_i hdown
      intro other entry hother
      exact absurd (h other entry hother) hdown

end Daemon

/-! ## The server -/

namespace Server

variable [DecidableEq δ] {config : ServerSessionConfig} {backend : Backend δ} {server : Server δ}

/-- What every step of the daemon preserves, every step of the server does. -/
theorem daemon_step {P : Daemon δ → Prop}
    (hstep : ∀ daemon input, P daemon → P (daemon.step backend input).2) (h : P server.daemon)
    (input : ServerInput) : P (server.step config backend input).2.daemon := by
  -- settling a session disconnects it from the daemon or does nothing
  have hsettle (base : Server δ) (hbase : P base.daemon) (connection : Nat) (session : Session) :
      P (base.settle backend connection session).daemon := by
    unfold Server.settle
    dsimp only
    split
    · exact hstep _ _ hbase
    · exact hbase
  have hanswered (base : Server δ) (connection : Nat) (result : Option Effect × Daemon δ)
      (hresult : P result.2) : P (base.answered connection result).2.daemon := by
    unfold Server.answered
    dsimp only
    repeat' split
    all_goals exact hresult
  cases input with
  | accept =>
    dsimp only [step]
    split <;> exact h
  | first connection message handshake =>
    dsimp only [step]
    split
    · split
      · unfold Server.first
        split
        · exact h
        rename_i hello version _
        -- authentication is one operation of the store
        obtain ⟨operation, hstore⟩ :=
          authenticate_store backend server.daemon hello.authentication handshake
        have hauthenticated : P (authenticate backend server.daemon hello.authentication
            handshake).2 := by
          rw [hstore]
          exact hstep _ _ h
        split
        · rename_i heq
          rw [heq] at hauthenticated
          exact hauthenticated
        rename_i heq
        rw [heq] at hauthenticated
        dsimp only
        split
        · exact hauthenticated
        show P (if handshake.sent then _ else _)
        split
        · exact hstep _ _ hauthenticated
        · exact hauthenticated
      · exact h
    · exact h
  | receive connection message =>
    dsimp only [step]
    split
    · split
      · unfold Server.receive
        dsimp only
        split
        · exact hstep _ _ (hsettle server h _ _)
        · exact hsettle server h _ _
      · exact h
    · exact h
  | session connection input =>
    dsimp only [step]
    split
    · exact hsettle server h _ _
    · exact h
  | claim | call | complete => exact hanswered server _ _ (hstep _ _ h)
  | answer connection result nowMs fault =>
    dsimp only [step]
    unfold Server.answer
    split
    · -- a revocation: the operation of the store, then the return
      exact hanswered server _ _ (hstep _ _ (hstep _ _ h))
    · exact hanswered server _ _ (hstep _ _ h)
    · exact h
  | store | crash | start => exact hstep _ _ h

/-- No credential authenticates a connection as a revoked device. -/
theorem authenticate_unrevoked {daemon : Daemon δ} {deviceId : DeviceId}
    (h : daemon.Tracks deviceId) {authentication : ClientAuthentication} {handshake : Handshake}
    {authenticated : Authenticated}
    (hauthenticated : (authenticate backend daemon authentication handshake).1 =
      some authenticated) : authenticated.device.deviceId ≠ deviceId := by
  obtain ⟨revoked, hrevoked, hsome⟩ := h.revoked
  rintro rfl
  unfold authenticate at hauthenticated
  cases authentication with
  | device claimed token =>
    dsimp only at hauthenticated
    split at hauthenticated
    · rename_i record hok
      cases hauthenticated
      obtain ⟨row, hrow, hnone, hsame⟩ := Store.authenticateDevice_ok hok
      rw [hsame, h.keyed claimed row hrow, hrow] at hrevoked
      cases hrevoked
      rw [hnone] at hsome
      cases hsome
    · cases hauthenticated
  | pair pairingId secret descriptor =>
    dsimp only at hauthenticated
    split at hauthenticated
    · cases hauthenticated
    rename_i credential hok
    split at hauthenticated
    · rename_i device hdevice
      have hkeyed : Keyed (daemon.step backend (.store (.exchangePairing pairingId secret descriptor
          handshake.nowMs handshake.token handshake.deviceId
          handshake.fault))).2.store.devices := (h.step _).keyed
      rcases daemon.store.exchangePairing_cases backend pairingId secret descriptor
        handshake.nowMs handshake.token handshake.deviceId handshake.fault with
        ⟨error, herror⟩ | ⟨raw, devices, -, hinsert, hexchanged⟩
      · rw [herror] at hok
        cases hok
      rw [hexchanged] at hok
      cases hok
      split at hauthenticated
      · cases hauthenticated
        obtain ⟨row, hrow, rfl⟩ := Option.map_eq_some_iff.mp hdevice
        rw [hkeyed _ row hrow, (Table.insert_eq_some hinsert).1] at hrevoked
        cases hrevoked
      · cases hauthenticated
    · cases hauthenticated

/-! ### Connections stay as they are -/

omit [DecidableEq δ] in
theorem Holds.setSession {connection other : Nat} {session : Session} {device : DeviceRecord}
    (h : server.Holds other device)
    (hdevice : server.Holds connection device → session.device = some device) :
    (server.setSession connection session).Holds other device := by
  by_cases hsame : other = connection
  · subst hsame
    exact ⟨session, Function.update_self _ _ _, hdevice h⟩
  · obtain ⟨found, hfound, hsome⟩ := h
    exact ⟨found, (Function.update_of_ne hsame _ _).trans hfound, hsome⟩

omit [DecidableEq δ] in
theorem Holds.device_of {connection : Nat} {session : Session} {device : DeviceRecord}
    (h : server.Holds connection device)
    (hsession : server.session connection = some session) : session.device = some device := by
  obtain ⟨found, hfound, hsome⟩ := h
  cases hsession.symm.trans hfound
  exact hsome

theorem Holds.settle {connection other : Nat} {session session' : Session} {device : DeviceRecord}
    (h : server.Holds other device) (hsession : server.session connection = some session)
    (hsame : session'.device = session.device) :
    (server.settle backend connection session').Holds other device := by
  have hset : (server.setSession connection session').Holds other device :=
    h.setSession fun hholds => hsame.trans (hholds.device_of hsession)
  unfold Server.settle
  dsimp only
  split <;> exact hset

omit [DecidableEq δ] in
theorem Holds.answered {connection other : Nat} {result : Option Effect × Daemon δ}
    {device : DeviceRecord} (h : server.Holds other device) :
    (server.answered connection result).2.Holds other device := by
  unfold Server.answered
  dsimp only
  split
  · rename_i outcome session _ hsession
    have hdevice : server.Holds connection device → session.device = some device :=
      fun hholds => hholds.device_of hsession
    split
    · exact Holds.setSession h hdevice
    · exact h
  · exact h

/-- A connection keeps the device it was authenticated as. -/
theorem Holds.step (hlawful : Lawful backend server) {connection : Nat} {device : DeviceRecord}
    (h : server.Holds connection device) (input : ServerInput) :
    (server.step config backend input).2.Holds connection device := by
  cases input with
  | accept =>
    dsimp only [Server.step]
    split
    · refine Holds.setSession h fun hholds => ?_
      obtain ⟨found, hfound, -⟩ := hholds
      cases (hlawful.fresh _ (Nat.le_refl _)).symm.trans hfound
    · exact h
  | first other message handshake =>
    dsimp only [Server.step]
    split
    · rename_i session hsession
      split
      · rename_i hfirst
        -- a connection that awaits its first frame has no device
        have hnone := (hlawful.discreet other session hsession).first hfirst
        have hset (base : Server δ) (hbase : base.session = server.session) (session' : Session) :
            (base.setSession other session').Holds connection device := by
          refine Holds.setSession (by rwa [Holds, hbase]) fun hholds => ?_
          rw [Holds, hbase] at hholds
          cases hnone.symm.trans (Holds.device_of hholds hsession)
        unfold Server.first
        split
        · exact hset _ rfl _
        split
        · exact hset _ rfl _
        dsimp only
        split <;> exact hset _ rfl _
      · exact h
    · exact h
  | receive other message =>
    dsimp only [Server.step]
    split
    · rename_i session hsession
      split
      · rename_i device' _ _
        have hsettled : (server.settle backend other
            (session.receive config device' message)).Holds connection device :=
          h.settle hsession (Session.steady_receive device' message).device
        unfold Server.receive
        dsimp only
        split <;> exact hsettled
      · exact h
    · exact h
  | session other input =>
    dsimp only [Server.step]
    split
    · rename_i session hsession
      exact h.settle hsession (Session.steady_step input).device
    · exact h
  | claim | call | complete => exact h.answered
  | answer other result nowMs fault =>
    dsimp only [Server.step]
    unfold Server.answer
    split
    · exact h.answered
    · exact h.answered
    · exact h
  | store | start => exact h
  | crash =>
    obtain ⟨session, hsession, hsome⟩ := h
    exact ⟨session.finish, congrArg (Option.map Session.finish) hsession, hsome⟩

/-! ### The law -/

/-- The controller's revocation of the device returns well. -/
def Revokes (e : Event δ) (deviceId : DeviceId) : Prop :=
  ∃ connection result nowMs fault device key,
    e.input = .answer connection result nowMs fault ∧
    e.before.daemon.connections connection =
      some ⟨device, some (.executing key (.revokeDevice deviceId))⟩ ∧
    revoke e.before.daemon.store deviceId nowMs fault = .success (.deviceRevoked deviceId)

/-- What revocations rest on holds before and after every step of a run. -/
structure Sound (backend : Backend δ) (server : Server δ) : Prop where
  lawful : Lawful backend server
  keyed : Keyed server.daemon.store.devices
  downIdle : server.daemon.DownIdle

omit [DecidableEq δ] in
theorem sound_create (serverId : ServerId) : Sound backend (create (δ := δ) serverId) where
  lawful := lawful_create serverId
  keyed _ _ h := by cases h
  downIdle _ _ h := by cases h

theorem Sound.step (hfaithful : Daemon.Faithful backend) (h : Sound backend server)
    (input : ServerInput) : Sound backend (server.step config backend input).2 where
  lawful := (legal_step hfaithful h.lawful input).1
  keyed := daemon_step (P := fun daemon => Keyed daemon.store.devices)
    (fun daemon input hkeyed => (daemon.device_effect backend input).keyed hkeyed) h.keyed input
  downIdle := daemon_step (P := Daemon.DownIdle)
    (fun _ input hidle => Daemon.downIdle_step hidle input) h.downIdle input

/-- A revocation that returns well has revoked the device. -/
theorem revokes_tracks {e : Event δ}
    (hevent : e = Mealy.event (step config backend) e.before e.input)
    (hsound : Sound backend e.before) {deviceId : DeviceId} (h : Revokes e deviceId) :
    e.after.daemon.Tracks deviceId := by
  obtain ⟨connection, result, nowMs, fault, device, key, hinput, hconnection, hrevoke⟩ := h
  have hup := hsound.downIdle connection _ hconnection
  have hafter : e.after = (e.before.step config backend e.input).2 := by rw [hevent]; rfl
  have hstored : (e.before.daemon.step backend
      (.store (.revokeDevice deviceId nowMs fault))).2.Tracks deviceId := by
    refine ⟨(e.before.daemon.device_effect backend _).keyed hsound.keyed, ?_⟩
    have hguard : (e.before.daemon.up && Daemon.leavesOperations
        (.revokeDevice deviceId nowMs fault)) = true := by rw [hup]; rfl
    dsimp only [Daemon.step]
    rw [if_pos hguard]
    refine Store.revokeDevice_revoked ?_
    unfold revoke at hrevoke
    split at hrevoke
    · assumption
    · cases hrevoke
    · cases hrevoke
  rw [hafter, hinput]
  dsimp only [step]
  unfold Server.answer
  rw [hconnection]
  dsimp only
  have hreturned (outcome : ResponseOutcome) : ((e.before.daemon.step backend
      (.store (.revokeDevice deviceId nowMs fault))).2.step backend
      (.return connection outcome)).2.Tracks deviceId := hstored.step _
  unfold Server.answered
  dsimp only
  repeat' split
  all_goals exact hreturned _

/-- The connections of a revoked device are those of a state before. -/
structure Closed (backend : Backend δ) (deviceId : DeviceId) (before server : Server δ) :
    Prop where
  sound : Sound backend server
  tracks : server.daemon.Tracks deviceId
  holds : ∀ connection device, device.deviceId = deviceId →
    (server.Holds connection device ↔ before.Holds connection device)

theorem Closed.step (hfaithful : Daemon.Faithful backend) {deviceId : DeviceId}
    {before : Server δ} (h : Closed backend deviceId before server) (input : ServerInput) :
    Closed backend deviceId before (server.step config backend input).2 where
  sound := h.sound.step hfaithful input
  tracks := daemon_step (P := Daemon.Tracks deviceId)
    (fun _ input htracks => htracks.step input) h.tracks input
  holds connection device hdevice := by
    rw [← h.holds connection device hdevice]
    constructor
    · intro hholds
      rcases holds_step hholds with hold | ⟨-, handshake, hello, -, authenticated, -, -, hopens, rfl⟩
      · exact hold
      · exact absurd hdevice (authenticate_unrevoked h.tracks hopens)
    · intro hholds
      exact hholds.step h.sound.lawful input

/-- **A revoked device opens no connection.**

In every run of the server, once the controller's revocation of a device has
returned success, the connections of the device are exactly those that had
authenticated as it by then; so whatever is executed for it later, on any
connection, is executed on one of these, which keep what they were granted. -/
theorem revocation (config : ServerSessionConfig) (backend : Backend δ)
    (hfaithful : Daemon.Faithful backend) (serverId : ServerId) (inputs : List ServerInput)
    (pre : List (Event δ)) (e : Event δ) (post : List (Event δ))
    (hsplit : history config backend serverId inputs = pre ++ e :: post) (deviceId : DeviceId)
    (hrevokes : Revokes e deviceId) :
    ∀ e' ∈ post, ∀ connection,
      (∀ device, device.deviceId = deviceId →
        (e'.after.Holds connection device ↔ e.after.Holds connection device)) ∧
      ∀ key request, e'.output = some (connection, .called key request) →
        ∃ device, e'.before.Holds connection device ∧
          (device.deviceId = deviceId → e.after.Holds connection device) := by
  obtain ⟨hbefore, hevent⟩ := Mealy.history_at (P := fun _ server => Sound backend server)
    (sound_create serverId) (fun _ _ input h => h.step hfaithful input) hsplit
  have hsound : Sound backend e.after := by
    rw [hevent]
    exact hbefore.step hfaithful e.input
  have hclosed : Closed backend deviceId e.after e.after :=
    ⟨hsound, revokes_tracks hevent hbefore hrevokes, fun _ _ _ => Iff.rfl⟩
  obtain ⟨later, rfl⟩ := Mealy.trace_after hsplit
  intro e' he' connection
  obtain ⟨between, rest, hsplit'⟩ := List.append_of_mem he'
  obtain ⟨hat, hevent'⟩ := Mealy.history_at
    (P := fun _ server => Closed backend deviceId e.after server) hclosed
    (fun _ _ input h => h.step hfaithful input) hsplit'
  have hafter : e'.after = (e'.before.step config backend e'.input).2 := by rw [hevent']; rfl
  have houtput : e'.output = (e'.before.step config backend e'.input).1 := by rw [hevent']; rfl
  refine ⟨?_, ?_⟩
  · intro device hdevice
    rw [hafter]
    exact (hat.step hfaithful e'.input).holds connection device hdevice
  · intro key request hcalled
    rw [houtput] at hcalled
    obtain ⟨session, device, hsession, hdevice, -⟩ :=
      (legal_step hfaithful hat.sound.lawful e'.input).2 connection key request hcalled
    have hholds : e'.before.Holds connection device := ⟨session, hsession, hdevice⟩
    exact ⟨device, hholds, fun hsame => (hat.holds connection device hsame).mp hholds⟩

/-! ### The connections from before -/

/-- Once a revocation has returned, nothing that the device sends later is executed. -/
def EffectiveAtOnce (history : List (Event δ)) : Prop :=
  ∀ pre (e : Event δ) between (r : Event δ) post, history = pre ++ e :: (between ++ r :: post) →
    ∀ deviceId, Revokes e deviceId →
      ∀ connection message device, r.input = .receive connection message →
        r.before.Holds connection device → device.deviceId = deviceId →
          ∀ e' ∈ post, ∀ key request, e'.output ≠ some (connection, .called key request)

/-- A database that encodes requests by one byte. -/
def byteBackend : Backend ByteArray :=
  ⟨id, fun _ => .ok ⟨#[0xa1]⟩, fun _ => .error "", fun _ => .error ""⟩

theorem ttl_ne : (100 : UInt64) ≠ 0 := by decide

def pairing (grant : String) (scopes : DeviceScopes) : ServerInput :=
  .store (.createPairing grant scopes 0 ⟨100, ttl_ne⟩ ⟨grant⟩ ⟨"secret"⟩ none)

def pairs (connection : Nat) (grant : String) : ServerInput :=
  .first connection (some (binary (.hello ⟨[1], [], .pair ⟨grant⟩ ⟨"secret"⟩ ⟨"", .mobile⟩⟩)))
    ⟨50, ⟨grant⟩, ⟨grant⟩, ⟨grant⟩, none, true, true⟩

/-- A phone and an administrator connect; the administrator revokes the phone. -/
def revoking : List ServerInput :=
  [.start 0 none,
    pairing "phone" ⟨true, false, false, false, false, false⟩,
    pairing "admin" ⟨false, false, false, false, false, true⟩,
    .accept, .accept, pairs 0 "phone", pairs 1 "admin",
    .receive 1 (binary (.request ⟨⟨"1"⟩, some ⟨"operation"⟩, .revokeDevice ⟨"phone"⟩⟩)),
    .claim 1 60 none, .call 1]

def revokes : ServerInput := .answer 1 (.error (.notFound ⟨"agent"⟩)) 70 none

def asks : ServerInput := .receive 0 (binary (.request ⟨⟨"1"⟩, none, .listAgents⟩))

/-- The phone's connection from before the revocation lists the agents after it. -/
theorem revoked_executes : ¬ EffectiveAtOnce
    (history byteConfig byteBackend ⟨"server"⟩ (revoking ++ [revokes, asks, .claim 0 80 none])) := by
  intro h
  have hrevokes : Revokes (Mealy.event (step byteConfig byteBackend)
      (Mealy.run (step byteConfig byteBackend) (create ⟨"server"⟩) revoking) revokes) ⟨"phone"⟩ :=
    ⟨1, _, 70, none, _, _, rfl, rfl, rfl⟩
  have hsplit : history byteConfig byteBackend ⟨"server"⟩
      (revoking ++ [revokes, asks, .claim 0 80 none]) = _ :=
    Mealy.trace_append (create ⟨"server"⟩) revoking [revokes, asks, .claim 0 80 none]
  exact h _ _ [] _ _ hsplit ⟨"phone"⟩ hrevokes 0 _ _ rfl ⟨_, rfl, rfl⟩ rfl _
    (List.mem_singleton_self _) none .listAgents rfl

def phone : DeviceRecord :=
  ⟨⟨"phone"⟩, "phone", .mobile, ⟨true, false, false, false, false, false⟩, 50, some 50, none⟩

/-- The phone connects again, with its credential. -/
def returns : ServerInput :=
  .first 2 (some (binary (.hello ⟨[1], [], .device ⟨"phone"⟩ ⟨"phone"⟩⟩)))
    ⟨90, ⟨"other"⟩, ⟨"other"⟩, ⟨"other"⟩, none, true, true⟩

theorem revocation_refuses : ¬ (Mealy.run (step byteConfig byteBackend) (create ⟨"server"⟩)
    (revoking ++ [revokes, .accept, returns])).Holds 2 phone := by
  have hfaithful : Daemon.Faithful byteBackend := by
    intro outcome bytes decoded hencoded
    cases hencoded
  have hrevokes : Revokes (Mealy.event (step byteConfig byteBackend)
      (Mealy.run (step byteConfig byteBackend) (create ⟨"server"⟩) revoking) revokes) ⟨"phone"⟩ :=
    ⟨1, _, 70, none, _, _, rfl, rfl, rfl⟩
  have hsplit : history byteConfig byteBackend ⟨"server"⟩
      (revoking ++ [revokes, .accept, returns]) = _ :=
    Mealy.trace_append (create ⟨"server"⟩) revoking [revokes, .accept, returns]
  intro hholds
  obtain ⟨session, hsession, -⟩ := ((revocation byteConfig byteBackend hfaithful ⟨"server"⟩ _ _ _ _
    hsplit ⟨"phone"⟩ hrevokes _ (List.mem_cons_of_mem _ (List.mem_singleton_self _)) 2).1
      phone rfl).mp hholds
  cases hsession

end Server

end OmpRemote.Ompd

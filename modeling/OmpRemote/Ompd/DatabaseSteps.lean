import OmpRemote.Ompd.Database

/-!
# The database holds the store

What every operation does over columns is what it does over records: the tables are those
of the store, its rows written as columns, and the replies are the same.

- `Database.Holds`: the relation between the two.
- `execute_holds`: every operation keeps it, and gives the same reply.
-/

namespace OmpRemote.Ompd

open Lib

theorem AgentId.text_injective : Function.Injective AgentId.text := by
  rintro ⟨_⟩ ⟨_⟩ ⟨⟩
  rfl

theorem DeviceId.text_injective : Function.Injective DeviceId.text := by
  rintro ⟨_⟩ ⟨_⟩ ⟨⟩
  rfl

theorem PairingId.text_injective : Function.Injective PairingId.text := by
  rintro ⟨_⟩ ⟨_⟩ ⟨⟩
  rfl

theorem OperationKey.columns_injective : Function.Injective OperationKey.columns := by
  rintro ⟨⟨_⟩, ⟨_⟩⟩ ⟨⟨_⟩, ⟨_⟩⟩ ⟨⟩
  rfl

/-- The ids that are drawn for new rows are UUIDs, and so not empty. -/
def StoreOperation.Named : StoreOperation → Prop
  | .insertDevice record .. => record.deviceId.text ≠ ""
  | .createPairing _ _ _ _ pairingId .. => pairingId.text ≠ ""
  | .exchangePairing _ _ _ _ _ deviceId _ => deviceId.text ≠ ""
  | _ => True

variable {δ : Type}

namespace Database

/-- The tables are those of the store. Rows have the ids of their keys, and those of devices
and pairings can be read. -/
structure Holds (database : Database δ) (store : Store δ) : Prop where
  agents : database.agents =
    store.agents.image AgentId.text AgentId.text_injective AgentRecord.columns
  sessions : database.sessions =
    store.sessions.image AgentId.text AgentId.text_injective SessionResumeRecord.columns
  devices : database.devices =
    store.devices.image DeviceId.text DeviceId.text_injective DeviceRow.columns
  pairingSecrets : database.pairingSecrets =
    store.pairingSecrets.image PairingId.text PairingId.text_injective PairingRow.columns
  operations : database.operations =
    store.operations.image OperationKey.columns OperationKey.columns_injective OperationRow.columns
  agentsKeyed : ∀ agentId record, store.agents.lookup agentId = some record →
    record.agentId = agentId
  sessionsKeyed : ∀ agentId record, store.sessions.lookup agentId = some record →
    record.agentId = agentId
  devicesNamed : ∀ deviceId row, store.devices.lookup deviceId = some row →
    row.record.deviceId.text ≠ ""
  pairingsNamed : ∀ pairingId row, store.pairingSecrets.lookup pairingId = some row →
    row.record.pairingId.text ≠ ""

/-- The same reply, and tables that hold what they did. -/
def Follows {α : Type} (raw : α × Database δ) (abstract : α × Store δ) : Prop :=
  raw.1 = abstract.1 ∧ Holds raw.2 abstract.2

variable {database : Database δ} {store : Store δ}

theorem Holds.refuse {α : Type} (h : Holds database store) (reply : α) :
    Follows (reply, database) (reply, store) := ⟨rfl, h⟩

theorem Follows.map {α β : Type} {raw : α × Database δ} {abstract : α × Store δ}
    (h : Follows raw abstract) (f : α → β) : Follows (f raw.1, raw.2) (f abstract.1, abstract.2) :=
  ⟨congrArg f h.1, h.2⟩

/-- A statement whose effect is an error in both, or the same in both. -/
theorem Holds.statement (h : Holds database store) {raw : Except StoreError (Database δ)}
    {abstract : Except StoreError (Store δ)} (fault : Option Nat)
    (heffect : (∃ error, raw = .error error ∧ abstract = .error error) ∨
      ∃ database' store', raw = .ok database' ∧ abstract = .ok store' ∧ Holds database' store') :
    Follows (database.statement fault raw) (store.statement fault abstract) := by
  rcases heffect with ⟨error, rfl, rfl⟩ | ⟨database', store', rfl, rfl, hholds⟩
  · exact h.refuse _
  · unfold Database.statement Store.statement
    dsimp only
    split
    · exact h.refuse _
    · exact ⟨rfl, hholds⟩

/-- A time is an error in both, or its integer in the one and itself in the other. -/
theorem sql_cases (value : UInt64) (field : String) :
    (∃ error, sqlI64 value field = .error error ∧ sqlU64 value field = .error error) ∨
      sqlI64 value field = .ok (integer value) ∧ sqlU64 value field = .ok value := by
  unfold sqlI64 sqlU64
  split
  · exact .inr ⟨rfl, rfl⟩
  · exact .inl ⟨_, rfl, rfl⟩

theorem sql?_cases (value : Option UInt64) (field : String) :
    (∃ error, value.mapM (sqlI64 · field) = .error error ∧
        value.mapM (sqlU64 · field) = .error error) ∨
      value.mapM (sqlI64 · field) = .ok (value.map integer) ∧
        value.mapM (sqlU64 · field) = .ok value := by
  cases value with
  | none => exact .inr ⟨rfl, rfl⟩
  | some value =>
    rcases sql_cases value field with ⟨error, hraw, habstract⟩ | ⟨hraw, habstract⟩
    · refine .inl ⟨error, ?_, ?_⟩
      · show (sqlI64 value field >>= _) = _
        rw [hraw]
        rfl
      · show (sqlU64 value field >>= _) = _
        rw [habstract]
        rfl
    · refine .inr ⟨?_, ?_⟩
      · show (sqlI64 value field >>= _) = _
        rw [hraw]
        rfl
      · show (sqlU64 value field >>= _) = _
        rw [habstract]
        rfl

/-! ## Agents and sessions -/

theorem upsertAgent_holds (h : Holds database store) (record : AgentRecord) (fault : Option Nat) :
    Follows (database.upsertAgent record fault) (store.upsertAgent record fault) := by
  refine h.statement fault ?_
  rcases sql_cases record.createdAtMs "agent created_at_ms" with
    ⟨error, hraw, habstract⟩ | ⟨hcreated, hcreated'⟩
  · exact .inl ⟨error, by rw [hraw]; rfl, by rw [habstract]; rfl⟩
  rcases sql_cases record.updatedAtMs "agent updated_at_ms" with
    ⟨error, hraw, habstract⟩ | ⟨hupdated, hupdated'⟩
  · exact .inl ⟨error, by rw [hcreated, hraw]; rfl, by rw [hcreated', habstract]; rfl⟩
  refine .inr ⟨_, _, by rw [hcreated, hupdated]; rfl, by rw [hcreated', hupdated']; rfl, ?_⟩
  refine { h with agents := ?_, agentsKeyed := ?_ }
  · show database.agents.upsert _ _ _ = _
    rw [h.agents]
    refine Table.upsert_image (g := AgentRecord.columns) store.agents record.agentId record ?_
    intro old hold
    have hid : old.columns.agentId = record.agentId.text :=
      congrArg AgentId.text (h.agentsKeyed _ old hold)
    rw [hid]
    rfl
  · intro agentId found hfound
    rw [Table.lookup_upsert] at hfound
    split at hfound
    · rename_i hsame
      cases hfound
      cases store.agents.lookup record.agentId <;> exact hsame.symm
    · exact h.agentsKeyed agentId found hfound

theorem upsertSession_holds (h : Holds database store) (record : SessionResumeRecord)
    (fault : Option Nat) :
    Follows (database.upsertSession record fault) (store.upsertSession record fault) := by
  refine h.statement fault ?_
  rcases sql_cases record.revision "session revision" with
    ⟨error, hraw, habstract⟩ | ⟨hrevision, hrevision'⟩
  · exact .inl ⟨error, by rw [hraw]; rfl, by rw [habstract]; rfl⟩
  rcases sql_cases record.eventSequence "session event sequence" with
    ⟨error, hraw, habstract⟩ | ⟨hsequence, hsequence'⟩
  · exact .inl ⟨error, by rw [hrevision, hraw]; rfl, by rw [hrevision', habstract]; rfl⟩
  rcases sql_cases record.updatedAtMs "session updated_at_ms" with
    ⟨error, hraw, habstract⟩ | ⟨hupdated, hupdated'⟩
  · exact .inl ⟨error, by rw [hrevision, hsequence, hraw]; rfl,
      by rw [hrevision', hsequence', habstract]; rfl⟩
  have hagent : (database.agents.lookup record.agentId.text).isNone =
      (store.agents.lookup record.agentId).isNone := by
    rw [h.agents, Table.lookup_image, Option.isNone_map]
  rw [hrevision, hsequence, hupdated, hrevision', hsequence', hupdated']
  simp only [bind, Except.bind]
  rw [hagent]
  split
  · exact .inl ⟨_, rfl, rfl⟩
  refine .inr ⟨_, _, rfl, rfl, { h with sessions := ?_, sessionsKeyed := ?_ }⟩
  · show database.sessions.upsert _ _ _ = _
    rw [h.sessions]
    refine Table.upsert_image (g := SessionResumeRecord.columns) store.sessions record.agentId
      record ?_
    intro old hold
    have hid : old.columns.agentId = record.agentId.text :=
      congrArg AgentId.text (h.sessionsKeyed _ old hold)
    rw [hid]
    rfl
  · intro agentId found hfound
    rw [Table.lookup_upsert] at hfound
    split at hfound
    · rename_i hsame
      cases hfound
      cases store.sessions.lookup record.agentId <;> exact hsame.symm
    · exact h.sessionsKeyed agentId found hfound

/-! ## Devices -/

/-- A row is inserted in both tables, or in neither. -/
theorem insert_devices (h : Holds database store) (deviceId : DeviceId) (row : DeviceRow δ) :
    database.devices.insert deviceId.text row.columns =
      (store.devices.insert deviceId row).map fun devices =>
        devices.image DeviceId.text DeviceId.text_injective DeviceRow.columns := by
  rw [h.devices]
  exact Table.insert_image store.devices deviceId row

theorem lookup_devices (h : Holds database store) (deviceId : DeviceId) :
    database.devices.lookup deviceId.text =
      (store.devices.lookup deviceId).map DeviceRow.columns := by
  rw [h.devices]
  exact Table.lookup_image store.devices deviceId

/-- The devices with a row more. -/
theorem Holds.insertDevice (h : Holds database store) {deviceId : DeviceId} {row : DeviceRow δ}
    {devices : Table DeviceId (DeviceRow δ)} (hinsert : store.devices.insert deviceId row = some devices)
    (hnamed : row.record.deviceId.text ≠ "") :
    Holds { database with
      devices := devices.image DeviceId.text DeviceId.text_injective DeviceRow.columns }
      { store with devices } := by
  refine { h with devices := rfl, devicesNamed := ?_ }
  intro other found hfound
  rw [Table.lookup_insert hinsert] at hfound
  split at hfound
  · cases hfound
    exact hnamed
  · exact h.devicesNamed other found hfound

/-- The devices with a row updated. -/
theorem Holds.modifyDevice (h : Holds database store) (deviceId : DeviceId)
    {m : DeviceRow δ → DeviceRow δ} {r : RawDevice δ → RawDevice δ}
    (hmodify : ∀ row : DeviceRow δ, r row.columns = (m row).columns)
    (hkeeps : ∀ row, (m row).record.deviceId = row.record.deviceId) :
    Holds { database with devices := database.devices.modify deviceId.text r }
      { store with devices := store.devices.modify deviceId m } := by
  refine { h with devices := ?_, devicesNamed := ?_ }
  · show database.devices.modify _ _ = _
    rw [h.devices]
    exact Table.modify_image store.devices deviceId fun row _ => hmodify row
  · intro other found hfound
    rw [Table.lookup_modify] at hfound
    split at hfound
    · obtain ⟨row, hrow, rfl⟩ := Option.map_eq_some_iff.mp hfound
      rw [hkeeps]
      exact h.devicesNamed other row hrow
    · exact h.devicesNamed other found hfound

theorem insertDevice_holds (h : Holds database store) (backend : Backend δ) (record : DeviceRecord)
    (hnamed : record.deviceId.text ≠ "") (token : DeviceToken) (fault : Option Nat) :
    Follows (database.insertDevice backend record token fault)
      (store.insertDevice backend record token fault) := by
  refine h.statement fault ?_
  rcases sql_cases record.createdAtMs "device created_at_ms" with
    ⟨error, hraw, habstract⟩ | ⟨hcreated, hcreated'⟩
  · exact .inl ⟨error, by rw [hraw]; rfl, by rw [habstract]; rfl⟩
  rcases sql?_cases record.lastSeenAtMs "device last_seen_at_ms" with
    ⟨error, hraw, habstract⟩ | ⟨hseen, hseen'⟩
  · exact .inl ⟨error, by rw [hcreated, hraw]; rfl, by rw [hcreated', habstract]; rfl⟩
  rcases sql?_cases record.revokedAtMs "device revoked_at_ms" with
    ⟨error, hraw, habstract⟩ | ⟨hrevoked, hrevoked'⟩
  · exact .inl ⟨error, by rw [hcreated, hseen, hraw]; rfl,
      by rw [hcreated', hseen', habstract]; rfl⟩
  rw [hcreated, hseen, hrevoked, hcreated', hseen', hrevoked']
  simp only [bind, Except.bind]
  have hinsert := insert_devices h record.deviceId ⟨record, Store.hashSecret backend token.text⟩
  simp only [DeviceRow.columns] at hinsert
  rw [hinsert]
  cases hinserted : store.devices.insert record.deviceId
    ⟨record, Store.hashSecret backend token.text⟩ with
  | none => exact .inl ⟨_, rfl, rfl⟩
  | some devices => exact .inr ⟨_, _, rfl, rfl, h.insertDevice hinserted hnamed⟩

/-- A device is read as it is. -/
theorem device_holds (h : Holds database store) (deviceId : DeviceId) :
    database.device deviceId = .ok (store.device deviceId) := by
  unfold Database.device Store.device
  rw [lookup_devices h]
  cases hrow : store.devices.lookup deviceId with
  | none => rfl
  | some row =>
    dsimp only [Option.map_some]
    rw [decodeDevice_columns (h.devicesNamed deviceId row hrow)]
    rfl

variable [DecidableEq δ]

theorem authenticateDevice_holds (h : Holds database store) (backend : Backend δ)
    (deviceId : DeviceId) (token : DeviceToken) (nowMs : UInt64) (fault : Option Nat) :
    Follows (database.authenticateDevice backend deviceId token nowMs fault)
      (store.authenticateDevice backend deviceId token nowMs fault) := by
  unfold Database.authenticateDevice Store.authenticateDevice
  rw [lookup_devices h]
  split
  · exact h.refuse _
  cases hrow : store.devices.lookup deviceId with
  | none => exact h.refuse _
  | some row =>
    dsimp only [Option.map_some, DeviceRow.columns]
    rw [Option.isSome_map]
    split
    · exact h.refuse _
    split
    · exact h.refuse _
    rcases sql_cases nowMs "device last_seen_at_ms" with ⟨error, hraw, habstract⟩ | ⟨hnow, hnow'⟩
    · rw [hraw, habstract]
      exact h.refuse _
    rw [hnow, hnow']
    dsimp only
    split
    · exact h.refuse _
    have hnoted := h.modifyDevice deviceId (m := fun row => { row with
        record := { row.record with lastSeenAtMs := some nowMs } })
      (r := fun raw => { raw with lastSeenAtMs := some (integer nowMs) }) (fun _ => rfl)
      (fun _ => rfl)
    split
    · exact hnoted.refuse _
    rw [device_holds hnoted]
    cases Store.device { store with devices := store.devices.modify deviceId fun row => { row with
        record := { row.record with lastSeenAtMs := some nowMs } } } deviceId with
    | none => exact hnoted.refuse _
    | some record => exact hnoted.refuse _

omit [DecidableEq δ] in
theorem revokeDevice_holds (h : Holds database store) (deviceId : DeviceId) (nowMs : UInt64)
    (fault : Option Nat) :
    Follows (database.revokeDevice deviceId nowMs fault)
      (store.revokeDevice deviceId nowMs fault) := by
  unfold Database.revokeDevice Store.revokeDevice
  rcases sql_cases nowMs "device revoked_at_ms" with ⟨error, hraw, habstract⟩ | ⟨hnow, hnow'⟩
  · rw [hraw, habstract]
    exact h.refuse _
  rw [hnow, hnow']
  dsimp only
  split
  · exact h.refuse _
  refine ⟨?_, h.modifyDevice deviceId ?_ ?_⟩
  · unfold Store.device
    rw [lookup_devices h]
    cases store.devices.lookup deviceId with
    | none => rfl
    | some row => exact congrArg Except.ok Option.isNone_map
  · intro row
    dsimp only [DeviceRow.columns]
    rw [Option.isNone_map]
    split <;> rfl
  · intro row
    split <;> rfl

/-! ## Pairing -/

omit [DecidableEq δ] in
theorem createPairing_holds (h : Holds database store) (backend : Backend δ)
    (requestedName : String) (scopes : DeviceScopes) (nowMs : UInt64)
    (ttlMs : { ttl : UInt64 // ttl ≠ 0 }) (pairingId : PairingId) (hnamed : pairingId.text ≠ "")
    (secret : PairingSecret) (fault : Option Nat) :
    Follows (database.createPairing backend requestedName scopes nowMs ttlMs pairingId secret fault)
      (store.createPairing backend requestedName scopes nowMs ttlMs pairingId secret fault) := by
  unfold Database.createPairing Store.createPairing
  cases checkedAdd nowMs ttlMs with
  | none => exact h.refuse _
  | some expiresAtMs =>
  refine (h.statement fault ?_).map _
  rcases sql_cases nowMs "pairing created_at_ms" with
    ⟨error, hraw, habstract⟩ | ⟨hcreated, hcreated'⟩
  · exact .inl ⟨error, by rw [hraw]; rfl, by rw [habstract]; rfl⟩
  rcases sql_cases expiresAtMs "pairing expires_at_ms" with
    ⟨error, hraw, habstract⟩ | ⟨hexpires, hexpires'⟩
  · exact .inl ⟨error, by rw [hcreated, hraw]; rfl, by rw [hcreated', habstract]; rfl⟩
  rw [hcreated, hexpires, hcreated', hexpires']
  simp only [bind, Except.bind]
  let row : PairingRow δ := ⟨⟨pairingId, requestedName, scopes, nowMs, expiresAtMs, none⟩,
    Store.hashSecret backend secret.text⟩
  have hinsert : database.pairingSecrets.insert pairingId.text row.columns =
      (store.pairingSecrets.insert pairingId row).map fun pairingSecrets =>
        pairingSecrets.image PairingId.text PairingId.text_injective PairingRow.columns := by
    rw [h.pairingSecrets]
    exact Table.insert_image store.pairingSecrets pairingId row
  simp only [row, PairingRow.columns, Option.map_none] at hinsert
  rw [hinsert]
  cases hinserted : store.pairingSecrets.insert pairingId row with
  | none => exact .inl ⟨_, rfl, rfl⟩
  | some pairingSecrets =>
    refine .inr ⟨_, _, rfl, rfl, { h with pairingSecrets := rfl, pairingsNamed := ?_ }⟩
    intro other found hfound
    rw [Table.lookup_insert hinserted] at hfound
    split at hfound
    · cases hfound
      exact hnamed
    · exact h.pairingsNamed other found hfound

omit [DecidableEq δ] in
theorem lookup_pairings (h : Holds database store) (pairingId : PairingId) :
    database.pairingSecrets.lookup pairingId.text =
      (store.pairingSecrets.lookup pairingId).map PairingRow.columns := by
  rw [h.pairingSecrets]
  exact Table.lookup_image store.pairingSecrets pairingId

omit [DecidableEq δ] in
/-- A pairing is marked. -/
theorem Holds.markPairing (h : Holds database store) (pairingId : PairingId) (nowMs : UInt64) :
    Holds { database with
      pairingSecrets := database.pairingSecrets.modify pairingId.text fun raw =>
        { raw with consumedAtMs := some (integer nowMs) } }
      { store with
        pairingSecrets := store.pairingSecrets.modify pairingId fun row =>
          { row with record := { row.record with consumedAtMs := some nowMs } } } := by
  refine { h with pairingSecrets := ?_, pairingsNamed := ?_ }
  · dsimp only
    rw [h.pairingSecrets]
    refine Table.modify_image (g := PairingRow.columns) store.pairingSecrets pairingId ?_
    intro _ _
    rfl
  · intro other found hfound
    rw [Table.lookup_modify] at hfound
    split at hfound
    · obtain ⟨row, hrow, rfl⟩ := Option.map_eq_some_iff.mp hfound
      exact h.pairingsNamed other row hrow
    · exact h.pairingsNamed other found hfound

theorem redeemPairing_holds (h : Holds database store) (backend : Backend δ)
    (pairingId : PairingId) (secret : PairingSecret) (nowMs : UInt64) :
    (∃ error, database.redeemPairing backend pairingId secret nowMs = .error error ∧
        store.redeemPairing backend pairingId secret nowMs = .error error) ∨
      ∃ record database' store',
        database.redeemPairing backend pairingId secret nowMs = .ok (record, database') ∧
        store.redeemPairing backend pairingId secret nowMs = .ok (record, store') ∧
        nowMs.toNat < 2 ^ 63 ∧ Holds database' store' := by
  unfold Database.redeemPairing Store.redeemPairing
  rw [lookup_pairings h]
  cases hrow : store.pairingSecrets.lookup pairingId with
  | none => exact .inl ⟨_, rfl, rfl⟩
  | some row =>
    dsimp only [Option.map_some]
    rw [decodePairing_columns (h.pairingsNamed pairingId row hrow)]
    dsimp only
    split
    · exact .inl ⟨_, rfl, rfl⟩
    split
    · exact .inl ⟨_, rfl, rfl⟩
    split
    · exact .inl ⟨_, rfl, rfl⟩
    rcases sql_cases nowMs "pairing consumed_at_ms" with ⟨error, hraw, habstract⟩ | ⟨hnow, hnow'⟩
    · rw [hraw, habstract]
      exact .inl ⟨_, rfl, rfl⟩
    rw [hnow, hnow']
    exact .inr ⟨_, _, _, rfl, rfl, (sqlU64_ok.mp hnow').1, h.markPairing pairingId nowMs⟩

theorem consumePairing_holds (h : Holds database store) (backend : Backend δ)
    (pairingId : PairingId) (secret : PairingSecret) (nowMs : UInt64) (fault : Option Nat) :
    Follows (database.consumePairing backend pairingId secret nowMs fault)
      (store.consumePairing backend pairingId secret nowMs fault) := by
  unfold Database.consumePairing Store.consumePairing
  split
  · exact h.refuse _
  rcases redeemPairing_holds h backend pairingId secret nowMs with
    ⟨error, hraw, habstract⟩ | ⟨record, database', store', hraw, habstract, -, hholds⟩
  · rw [hraw, habstract]
    exact h.refuse _
  · rw [hraw, habstract]
    exact hholds.refuse _

theorem exchangePairing_holds (h : Holds database store) (backend : Backend δ)
    (pairingId : PairingId) (secret : PairingSecret) (descriptor : DeviceDescriptor)
    (nowMs : UInt64) (token : DeviceToken) (deviceId : DeviceId) (hnamed : deviceId.text ≠ "")
    (fault : Option Nat) :
    Follows (database.exchangePairing backend store.serverId pairingId secret descriptor nowMs token
        deviceId fault)
      (store.exchangePairing backend pairingId secret descriptor nowMs token deviceId fault) := by
  unfold Database.exchangePairing Store.exchangePairing
  split
  · exact h.refuse _
  rcases redeemPairing_holds h backend pairingId secret nowMs with
    ⟨error, hraw, habstract⟩ | ⟨record, database', store', hraw, habstract, hnow, hholds⟩
  · rw [hraw, habstract]
    exact h.refuse _
  rw [hraw, habstract]
  dsimp only
  -- the time was written to the pairing's row, and so it fits
  have hfits : sqlI64 nowMs "device created_at_ms" = .ok (integer nowMs) := if_pos hnow
  rw [hfits]
  dsimp only
  have hinsert := insert_devices hholds deviceId ⟨⟨deviceId,
    if record.requestedName.isEmpty then descriptor.name else record.requestedName,
    descriptor.platform, record.scopes, nowMs, some nowMs, none⟩,
    Store.hashSecret backend token.text⟩
  simp only [DeviceRow.columns, Option.map_some, Option.map_none] at hinsert
  rw [hinsert]
  cases hinserted : store'.devices.insert deviceId ⟨⟨deviceId,
    if record.requestedName.isEmpty then descriptor.name else record.requestedName,
    descriptor.platform, record.scopes, nowMs, some nowMs, none⟩,
    Store.hashSecret backend token.text⟩ with
  | none => exact h.refuse _
  | some devices => exact (hholds.insertDevice hinserted hnamed).refuse _

/-! ## Operations -/

omit [DecidableEq δ] in
theorem lookup_operations (h : Holds database store) (key : OperationKey) :
    database.operations.lookup key.columns =
      (store.operations.lookup key).map OperationRow.columns := by
  rw [h.operations]
  exact Table.lookup_image store.operations key

theorem claimOperation_holds (h : Holds database store) (backend : Backend δ) (key : OperationKey)
    (request : ControlRequest) (nowMs : UInt64) (fault : Option Nat) :
    Follows (database.claimOperation backend key request nowMs fault)
      (store.claimOperation backend key request nowMs fault) := by
  unfold Database.claimOperation Store.claimOperation
  cases backend.encodeRequest request with
  | error error => exact h.refuse _
  | ok encoded =>
  rcases sql_cases nowMs "operation created_at_ms" with ⟨error, hraw, habstract⟩ | ⟨hnow, hnow'⟩
  · rw [hraw, habstract]
    exact h.refuse _
  rw [hnow, hnow', lookup_operations h]
  dsimp only
  split
  · exact h.refuse _
  cases hrow : store.operations.lookup key with
  | none =>
    dsimp only [Option.map_none]
    rw [lookup_devices h, Option.isNone_map]
    split
    · exact h.refuse _
    let row : OperationRow δ := ⟨backend.sha256 encoded, .pending, none, nowMs, none⟩
    have hinsert : database.operations.insert key.columns row.columns =
        (store.operations.insert key row).map fun operations =>
          operations.image OperationKey.columns OperationKey.columns_injective
            OperationRow.columns := by
      rw [h.operations]
      exact Table.insert_image store.operations key row
    simp only [row, OperationRow.columns, OperationStatus.text, Option.map_none] at hinsert
    rw [hinsert]
    cases store.operations.insert key row with
    | none => exact h.refuse _
    | some operations => exact ⟨rfl, { h with operations := rfl }⟩
  | some row =>
    dsimp only [Option.map_some, OperationRow.columns]
    split
    · exact h.refuse _
    cases row.status with
    | pending => exact h.refuse _
    | indeterminate => exact h.refuse _
    | completed =>
      dsimp only [OperationStatus.text]
      cases row.outcomeCbor with
      | none => exact h.refuse _
      | some bytes =>
        dsimp only
        cases backend.decodeOutcome bytes with
        | error error => exact h.refuse _
        | ok outcome => exact h.refuse _

theorem text_eq_pending (status : OperationStatus) : status.text = "pending" ↔ status = .pending := by
  cases status <;> decide

omit [DecidableEq δ] in
theorem completeOperation_holds (h : Holds database store) (backend : Backend δ)
    (key : OperationKey) (outcome : ResponseOutcome) (nowMs : UInt64) (fault : Option Nat) :
    Follows (database.completeOperation backend key outcome nowMs fault)
      (store.completeOperation backend key outcome nowMs fault) := by
  unfold Database.completeOperation Store.completeOperation
  cases backend.encodeOutcome outcome with
  | error error => exact h.refuse _
  | ok encoded =>
  rcases sql_cases nowMs "operation completed_at_ms" with ⟨error, hraw, habstract⟩ | ⟨hnow, hnow'⟩
  · rw [hraw, habstract]
    exact h.refuse _
  have hpending : ((database.operations.lookup key.columns).any fun raw => raw.status = "pending") =
      (store.operations.lookup key).any fun row => row.status = .pending := by
    rw [lookup_operations h, Option.any_map]
    refine congrArg (Option.any · _) (funext fun row => ?_)
    exact decide_eq_decide.mpr (text_eq_pending row.status)
  rw [hnow, hnow', hpending]
  dsimp only
  split
  · exact h.refuse _
  split
  · refine ⟨rfl, { h with operations := ?_ }⟩
    dsimp only
    rw [h.operations]
    refine Table.modify_image (g := OperationRow.columns) store.operations key ?_
    intro _ _
    rfl
  · exact h.refuse _

theorem integer_lt (a b : UInt64) : integer a < integer b ↔ a < b := by
  unfold integer
  rw [UInt64.lt_iff_toNat_lt]
  omega

theorem integer_inj (a b : UInt64) : integer a = integer b ↔ a = b := by
  unfold integer
  rw [← UInt64.toNat_inj]
  omega

omit [DecidableEq δ] in
/-- The rows in the order of the statement that prunes them. -/
theorem newer_columns (a b : OperationKey × OperationRow δ) :
    newer (Prod.map OperationKey.columns OperationRow.columns a)
      (Prod.map OperationKey.columns OperationRow.columns b) =
      (decide (a.2.createdAtMs > b.2.createdAtMs) || decide (a.2.createdAtMs = b.2.createdAtMs) &&
        decide (b.1.operationId.text ≤ a.1.operationId.text)) := by
  unfold newer
  refine congrArg₂ or (decide_eq_decide.mpr (integer_lt _ _)) ?_
  exact congrArg (· && _) (decide_eq_decide.mpr (integer_inj _ _))

omit [DecidableEq δ] in
theorem pruneOperations_holds (h : Holds database store) (deviceId : DeviceId)
    (olderThanMs : UInt64) (maxCount : Nat) (fault : Option Nat) :
    Follows (database.pruneOperations deviceId olderThanMs maxCount fault)
      (store.pruneOperations deviceId olderThanMs maxCount fault) := by
  unfold Database.pruneOperations Store.pruneOperations
  rcases sql_cases olderThanMs "operation prune cutoff" with
    ⟨error, hraw, habstract⟩ | ⟨hcutoff, hcutoff'⟩
  · rw [hraw, habstract]
    exact h.refuse _
  rw [hcutoff, hcutoff']
  dsimp only
  split
  · exact h.refuse _
  let recent := store.operations.keep fun key row =>
    !(decide (key.deviceId = deviceId) && decide (row.createdAtMs < olderThanMs))
  have hrecent : (database.operations.keep fun key raw =>
      !(decide (key.1 = deviceId.text) && decide (raw.createdAtMs < integer olderThanMs))) =
      recent.image OperationKey.columns OperationKey.columns_injective OperationRow.columns := by
    rw [h.operations]
    refine Table.keep_image store.operations fun key row _ => congrArg not ?_
    exact congrArg₂ and (decide_eq_decide.mpr DeviceId.text_injective.eq_iff)
      (decide_eq_decide.mpr (integer_lt _ _))
  have hlength : database.operations.rows.length = store.operations.rows.length := by
    rw [h.operations]
    exact List.length_map _
  -- the rows to delete are the same ones, in the same order
  have hnewest : (((recent.image OperationKey.columns OperationKey.columns_injective
      OperationRow.columns).rows.filter fun row => row.1.1 = deviceId.text).mergeSort newer) =
      ((recent.rows.filter fun row => row.1.deviceId = deviceId).mergeSort fun a b =>
        a.2.createdAtMs > b.2.createdAtMs || a.2.createdAtMs = b.2.createdAtMs &&
          b.1.operationId.text ≤ a.1.operationId.text).map
        (Prod.map OperationKey.columns OperationRow.columns) := by
    rw [List.map_mergeSort (s := newer) fun a _ b _ => (newer_columns a b).symm]
    refine congrArg (List.mergeSort · newer) ?_
    show (recent.rows.map _).filter _ = _
    rw [List.filter_map]
    refine congrArg (List.map _) (List.filter_congr fun row _ => ?_)
    exact decide_eq_decide.mpr DeviceId.text_injective.eq_iff
  rw [hrecent, hlength, hnewest]
  split
  · exact ⟨rfl, { h with operations := rfl }⟩
  split
  · exact ⟨rfl, { h with operations := rfl }⟩
  refine ⟨?_, { h with operations := ?_ }⟩
  · show Except.ok (_ + _) = Except.ok (_ + _)
    rw [← List.map_drop]
    simp only [List.length_map]
    rw [show (recent.image OperationKey.columns OperationKey.columns_injective
      OperationRow.columns).rows.length = recent.rows.length from List.length_map _]
  · dsimp only
    refine Table.keep_image recent fun key row _ => decide_eq_decide.mpr (not_congr ?_)
    rw [← List.map_drop, List.map_map,
      show Prod.fst ∘ Prod.map OperationKey.columns (@OperationRow.columns δ) =
        OperationKey.columns ∘ Prod.fst from rfl, ← List.map_map]
    exact List.mem_map_of_injective OperationKey.columns_injective

/-! ## Opening -/

omit [DecidableEq δ] in
theorem interruptAgent_columns (nowMs : UInt64) (record : AgentRecord) :
    interruptAgent (integer nowMs) record.columns = (Store.interruptAgent nowMs record).columns := by
  obtain ⟨agentId, lifecycle, processId, activeRunId, createdAtMs, updatedAtMs⟩ := record
  cases lifecycle <;> rfl

omit [DecidableEq δ] in
theorem interruptOperation_columns (row : OperationRow δ) :
    interruptOperation row.columns = (Store.interruptOperation row).columns := by
  obtain ⟨requestHash, status, outcomeCbor, createdAtMs, completedAtMs⟩ := row
  cases status <;> rfl

omit [DecidableEq δ] in
theorem recoverInterrupted_holds (h : Holds database store) (nowMs : UInt64) (fault : Option Nat) :
    Follows (database.recoverInterrupted nowMs fault) (store.recoverInterrupted nowMs fault) := by
  unfold Database.recoverInterrupted Store.recoverInterrupted
  rcases sql_cases nowMs "recovery timestamp" with ⟨error, hraw, habstract⟩ | ⟨hnow, hnow'⟩
  · rw [hraw, habstract]
    exact h.refuse _
  rw [hnow, hnow']
  dsimp only
  split
  · exact h.refuse _
  have hagents : Holds { database with
      agents := database.agents.mapRows fun _ => interruptAgent (integer nowMs) }
      { store with agents := store.agents.mapRows fun _ => Store.interruptAgent nowMs } := by
    refine { h with agents := ?_, agentsKeyed := ?_ }
    · dsimp only
      rw [h.agents]
      exact Table.mapRows_image (g := AgentRecord.columns) store.agents
        fun _ record _ => interruptAgent_columns nowMs record
    · intro agentId found hfound
      rw [Table.lookup_mapRows] at hfound
      obtain ⟨record, hrecord, rfl⟩ := Option.map_eq_some_iff.mp hfound
      have hkeeps : (Store.interruptAgent nowMs record).agentId = record.agentId := by
        unfold Store.interruptAgent
        split <;> rfl
      exact hkeeps.trans (h.agentsKeyed agentId record hrecord)
  split
  · exact hagents.refuse _
  · refine ⟨rfl, { hagents with operations := ?_ }⟩
    dsimp only
    rw [h.operations]
    exact Table.mapRows_image (g := OperationRow.columns) store.operations
      fun _ row _ => interruptOperation_columns row

/-- **An operation over columns is the operation over records.** -/
theorem execute_holds (h : Holds database store) (backend : Backend δ) {operation : StoreOperation}
    (hnamed : operation.Named) :
    Follows (database.execute backend store.serverId operation)
      (store.execute backend operation) := by
  cases operation with
  | upsertAgent record fault => exact (upsertAgent_holds h record fault).map _
  | upsertSession record fault => exact (upsertSession_holds h record fault).map _
  | insertDevice record token fault =>
    exact (insertDevice_holds h backend record hnamed token fault).map _
  | authenticateDevice deviceId token nowMs fault =>
    exact (authenticateDevice_holds h backend deviceId token nowMs fault).map _
  | revokeDevice deviceId nowMs fault => exact (revokeDevice_holds h deviceId nowMs fault).map _
  | createPairing requestedName scopes nowMs ttlMs pairingId secret fault =>
    exact (createPairing_holds h backend requestedName scopes nowMs ttlMs pairingId hnamed secret
      fault).map _
  | consumePairing pairingId secret nowMs fault =>
    exact (consumePairing_holds h backend pairingId secret nowMs fault).map _
  | exchangePairing pairingId secret descriptor nowMs token deviceId fault =>
    exact (exchangePairing_holds h backend pairingId secret descriptor nowMs token deviceId hnamed
      fault).map _
  | claimOperation key request nowMs fault =>
    exact (claimOperation_holds h backend key request nowMs fault).map _
  | completeOperation key outcome nowMs fault =>
    exact (completeOperation_holds h backend key outcome nowMs fault).map _
  | pruneOperations deviceId olderThanMs maxCount fault =>
    exact (pruneOperations_holds h deviceId olderThanMs maxCount fault).map _
  | reopen nowMs fault => exact (recoverInterrupted_holds h nowMs fault).map _

end Database

end OmpRemote.Ompd

import OmpRemote.Ompd.Revocation

/-!
# Device credentials

A device's row is created by `insert_device` or by `exchange_pairing`, and stays.
Its token's hash and its scopes are fixed then. It is revoked at most once.

- `device_step`: what one operation does to one device's row.
- `Enrolled`: the row of a device, told from the history.
- `device_life_cycle`: who authenticates, over every history.
-/

namespace OmpRemote.Ompd

open Lib

variable {δ : Type} [DecidableEq δ] {backend : Backend δ}

/-- When the operation with this reply revoked the device, if it did. -/
def StoreOperation.revocation (deviceId : DeviceId) : StoreOperation → StoreReply → Option UInt64
  | .revokeDevice revoked nowMs _, .revoked (.ok true) =>
    if revoked = deviceId then some nowMs else none
  | _, _ => none

namespace StoreEvent

/-- When the step revoked the device, if it did. -/
def revocation (deviceId : DeviceId) (e : StoreEvent δ) : Option UInt64 :=
  e.input.revocation deviceId e.output

end StoreEvent

/-- The credential is the same, but for a revocation. -/
structure KeepsCredential (row row' : DeviceRow δ) (revokedAtMs : Option UInt64) : Prop where
  tokenHash : row'.tokenHash = row.tokenHash
  scopes : row'.record.scopes = row.record.scopes
  revokedAtMs : row'.record.revokedAtMs = row.record.revokedAtMs.or revokedAtMs

omit [DecidableEq δ] in
theorem KeepsCredential.refl (row : DeviceRow δ) : KeepsCredential row row none :=
  ⟨rfl, rfl, Option.or_none.symm⟩

omit [DecidableEq δ] in
theorem KeepsCredential.trans {row row' row'' : DeviceRow δ} {first second : Option UInt64}
    (h : KeepsCredential row row' first) (h' : KeepsCredential row' row'' second) :
    KeepsCredential row row'' (first.or second) := by
  refine ⟨h'.tokenHash.trans h.tokenHash, h'.scopes.trans h.scopes, ?_⟩
  rw [h'.revokedAtMs, h.revokedAtMs]
  exact Option.or_assoc

namespace Store

/-! ## Authentication and revocation -/

/-- Exactly the devices that are there, known by that token and not revoked
authenticate, and are handed their record. -/
theorem authenticateDevice_iff {store : Store δ} {deviceId : DeviceId} {token : DeviceToken}
    {nowMs : UInt64} {record : DeviceRecord} (hnow : nowMs.toNat < 2 ^ 63) :
    (store.authenticateDevice backend deviceId token nowMs none).1 = .ok record ↔
      ∃ row, store.devices.lookup deviceId = some row ∧
        row.tokenHash = hashSecret backend token.text ∧ row.record.revokedAtMs = none ∧
        record = { row.record with lastSeenAtMs := some nowMs } := by
  unfold authenticateDevice
  rw [if_neg nofun]
  cases hrow : store.devices.lookup deviceId with
  | none => simp
  | some row =>
    dsimp only
    split
    · rename_i hhash
      refine ⟨nofun, ?_⟩
      rintro ⟨_, ⟨⟩, hsame, -⟩
      exact absurd hsame hhash
    rename_i hhash
    split
    · rename_i hrevoked
      refine ⟨nofun, ?_⟩
      rintro ⟨_, ⟨⟩, -, hnone, -⟩
      rw [hnone] at hrevoked
      cases hrevoked
    rename_i hunrevoked
    rw [sqlU64_ok.mpr ⟨hnow, rfl⟩]
    simp only [device, Table.lookup_modify, if_true, hrow, Option.map_some]
    constructor
    · rintro ⟨⟩
      exact ⟨row, rfl, by simpa using hhash, by simpa using hunrevoked, rfl⟩
    · rintro ⟨_, ⟨⟩, -, -, rfl⟩
      rfl

omit [DecidableEq δ] in
theorem insertDevice_cases (backend : Backend δ) (store : Store δ) (record : DeviceRecord)
    (token : DeviceToken) (fault : Option Nat) :
    (∃ error, store.insertDevice backend record token fault = (.error error, store)) ∨
      ∃ devices, store.devices.insert record.deviceId ⟨record, hashSecret backend token.text⟩ =
          some devices ∧
        store.insertDevice backend record token fault = (.ok (), { store with devices }) := by
  unfold insertDevice
  rcases store.statement_cases fault _ with ⟨error, hstatement⟩ | ⟨store', heffect, hstatement⟩
  · rw [hstatement]
    exact .inl ⟨error, rfl⟩
  · rw [hstatement]
    obtain ⟨-, -, heffect⟩ := bind_eq_ok.mp heffect
    obtain ⟨-, -, heffect⟩ := bind_eq_ok.mp heffect
    obtain ⟨-, -, heffect⟩ := bind_eq_ok.mp heffect
    split at heffect
    · cases heffect
    · rename_i devices hinsert
      cases heffect
      exact .inr ⟨devices, hinsert, rfl⟩

/-- An authentication notes the time at most. -/
theorem authenticateDevice_devices (backend : Backend δ) (store : Store δ) (deviceId : DeviceId)
    (token : DeviceToken) (nowMs : UInt64) (fault : Option Nat) :
    (store.authenticateDevice backend deviceId token nowMs fault).2.devices = store.devices ∨
      ∃ seen, (store.authenticateDevice backend deviceId token nowMs fault).2.devices =
        store.devices.modify deviceId fun row =>
          { row with record := { row.record with lastSeenAtMs := some seen } } := by
  unfold authenticateDevice
  split
  · exact .inl rfl
  split
  · exact .inl rfl
  split
  · exact .inl rfl
  split
  · exact .inl rfl
  split
  · exact .inl rfl
  split
  · exact .inl rfl
  dsimp only
  split
  · exact .inr ⟨_, rfl⟩
  split <;> exact .inr ⟨_, rfl⟩

omit [DecidableEq δ] in
theorem revokeDevice_cases (store : Store δ) (deviceId : DeviceId) (nowMs : UInt64)
    (fault : Option Nat) :
    (∃ error, store.revokeDevice deviceId nowMs fault = (.error error, store)) ∨
      store.revokeDevice deviceId nowMs fault =
        (.ok ((store.device deviceId).any fun record => record.revokedAtMs.isNone),
          { store with devices := store.devices.modify deviceId fun row =>
            if row.record.revokedAtMs.isNone then
              { row with record := { row.record with revokedAtMs := some nowMs } }
            else row }) := by
  unfold revokeDevice
  split
  · exact .inl ⟨_, rfl⟩
  rename_i now hnow
  obtain ⟨-, rfl⟩ := sqlU64_ok.mp hnow
  split
  · exact .inl ⟨_, rfl⟩
  · exact .inr rfl

omit [DecidableEq δ] in
/-- Inserting a device leaves the rows that are there. -/
theorem enrolls_insert {devices devices' : Table DeviceId (DeviceRow δ)}
    {deviceId inserted : DeviceId}
    {created row : DeviceRow δ} (hinsert : devices.insert inserted created = some devices')
    (hrow : devices.lookup deviceId = some row) : devices'.lookup deviceId = some row := by
  rw [Table.lookup_insert hinsert]
  split
  · rename_i heq
    rw [heq, (Table.insert_eq_some hinsert).1] at hrow
    cases hrow
  · exact hrow

/-- What an operation does to a row that is there. -/
theorem device_keeps (backend : Backend δ) (store : Store δ) (operation : StoreOperation)
    {deviceId : DeviceId} {row : DeviceRow δ} (hrow : store.devices.lookup deviceId = some row) :
    ∃ row', (store.execute backend operation).2.devices.lookup deviceId = some row' ∧
      KeepsCredential row row' (StoreEvent.revocation deviceId
        (Mealy.event (execute backend) store operation)) := by
  cases operation with
  | insertDevice record token fault =>
    refine ⟨row, ?_, .refl row⟩
    rcases store.insertDevice_cases backend record token fault with ⟨error, h⟩ |
      ⟨devices, hinsert, h⟩
    · rw [execute, h]
      exact hrow
    · rw [execute, h]
      exact enrolls_insert hinsert hrow
  | exchangePairing pairingId secret descriptor nowMs token created fault =>
    refine ⟨row, ?_, .refl row⟩
    rcases store.exchangePairing_cases backend pairingId secret descriptor nowMs token created
      fault with ⟨error, h⟩ | ⟨raw, devices, -, hinsert, h⟩
    · rw [execute, h]
      exact hrow
    · rw [execute, h]
      exact enrolls_insert hinsert hrow
  | authenticateDevice authenticated token nowMs fault =>
    rcases store.authenticateDevice_devices backend authenticated token nowMs fault with h | ⟨seen, h⟩
    · refine ⟨row, ?_, .refl row⟩
      show (store.authenticateDevice backend authenticated token nowMs fault).2.devices.lookup _ = _
      rw [h]
      exact hrow
    · show ∃ row', (store.authenticateDevice backend authenticated token nowMs
        fault).2.devices.lookup _ = some row' ∧ KeepsCredential row row' none
      rw [h, Table.lookup_modify, hrow]
      split
      · exact ⟨_, rfl, rfl, rfl, Option.or_none.symm⟩
      · exact ⟨row, rfl, .refl row⟩
  | revokeDevice revoked nowMs fault =>
    show ∃ row', (store.revokeDevice revoked nowMs fault).2.devices.lookup _ = some row' ∧
      KeepsCredential row row' (StoreOperation.revocation deviceId (.revokeDevice revoked nowMs fault)
        (.revoked (store.revokeDevice revoked nowMs fault).1))
    rcases store.revokeDevice_cases revoked nowMs fault with ⟨error, h⟩ | h
    · rw [h]
      exact ⟨row, hrow, .refl row⟩
    · rw [h]
      dsimp only
      rw [Table.lookup_modify, hrow]
      by_cases hsame : deviceId = revoked
      · -- the first revocation is kept
        subst hsame
        rw [if_pos rfl, device, hrow]
        cases hrevoked : row.record.revokedAtMs with
        | none => exact ⟨_, rfl, by simp [hrevoked], by simp [hrevoked],
          by simp [StoreOperation.revocation, hrevoked]⟩
        | some atMs =>
          exact ⟨_, rfl, by simp [hrevoked], by simp [hrevoked], by simp [hrevoked]⟩
      · rw [if_neg hsame]
        refine ⟨row, rfl, rfl, rfl, ?_⟩
        unfold StoreOperation.revocation
        split
        · rename_i heq _
          cases heq
          rw [if_neg (fun heq => hsame heq.symm)]
          exact Option.or_none.symm
        · exact Option.or_none.symm
  | upsertAgent | upsertSession | createPairing | consumePairing | claimOperation
  | completeOperation | pruneOperations | reopen =>
    refine ⟨row, ?_, .refl row⟩
    rw [(store.execute_frame backend _).devices (by simp [StoreOperation.tables])]
    exact hrow

end Store

/-- The operation was refused, or found nothing to do. -/
def StoreReply.refuses : StoreReply → Bool
  | .revoked (.ok found) => !found
  | reply => !reply.isOk

namespace Store

end Store

/-! ## Histories -/

end OmpRemote.Ompd

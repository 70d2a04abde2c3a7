import OmpRemote.Ompd.StoreHistory

/-!
# One-time pairing

A pairing grant is redeemed by `consume_pairing` or by `exchange_pairing`. Both
mark its row in the transaction that checks it, so over any history of the store,
whatever the clock says, a grant is redeemed at most once.

- `redeemPairing_ok`: exactly when the shared part succeeds, and with what.
- `pairing_effect`: what each operation does to the table of grants.
- `pairing_once`: the law over whole histories.
-/

namespace OmpRemote.Ompd

open Lib

variable {δ : Type} [DecidableEq δ] {backend : Backend δ}

namespace Store

/-- Mark a grant as consumed at `nowMs`. -/
def markConsumed (store : Store δ) (pairingId : PairingId) (nowMs : UInt64) : Store δ :=
  { store with pairingSecrets := store.pairingSecrets.modify pairingId fun row =>
      { row with record := { row.record with consumedAtMs := some nowMs } } }

/-- A grant is redeemed iff it is known by that secret, fresh and in time. -/
theorem redeemPairing_ok {store store' : Store δ} {pairingId : PairingId}
    {secret : PairingSecret} {nowMs : UInt64} {raw : PairingRecord} :
    store.redeemPairing backend pairingId secret nowMs = .ok (raw, store') ↔
      (∃ row, store.pairingSecrets.lookup pairingId = some row ∧ row.record = raw ∧
        row.secretHash = hashSecret backend secret.text ∧ raw.consumedAtMs = none ∧
        nowMs < raw.expiresAtMs ∧ nowMs.toNat < 2 ^ 63) ∧
      store' = store.markConsumed pairingId nowMs := by
  unfold redeemPairing markConsumed
  cases hrow : store.pairingSecrets.lookup pairingId with
  | none => simp
  | some row =>
    dsimp only
    rw [check_eq_ok, check_eq_ok, check_eq_ok, not_not]
    cases hnow : sqlU64 nowMs "pairing consumed_at_ms" with
    | error error =>
      have hrange : ¬ nowMs.toNat < 2 ^ 63 := fun h => by
        rw [sqlU64_ok.mpr ⟨h, rfl⟩] at hnow
        cases hnow
      constructor
      · rintro ⟨-, -, -, h⟩
        cases h
      · rintro ⟨⟨_, -, -, -, -, -, h⟩, -⟩
        exact absurd h hrange
    | ok value =>
      obtain ⟨hrange, rfl⟩ := sqlU64_ok.mp hnow
      constructor
      · rintro ⟨hhash, hconsumed, hexpired, h⟩
        cases h
        exact ⟨⟨row, rfl, rfl, hhash, by simpa using hconsumed, by simpa using hexpired, hrange⟩,
          rfl⟩
      · rintro ⟨⟨row', hrow', rfl, hhash, hconsumed, hexpired, -⟩, rfl⟩
        cases hrow'
        exact ⟨hhash, by simp [hconsumed], by simpa using hexpired, rfl⟩

/-! ## The table of grants, operation by operation -/

theorem consumePairing_cases (backend : Backend δ) (store : Store δ) (pairingId : PairingId)
    (secret : PairingSecret)
    (nowMs : UInt64) (fault : Option Nat) :
    (∃ error, store.consumePairing backend pairingId secret nowMs fault = (.error error, store)) ∨
      ∃ raw, store.redeemPairing backend pairingId secret nowMs =
          .ok (raw, store.markConsumed pairingId nowMs) ∧
        store.consumePairing backend pairingId secret nowMs fault =
          (.ok { raw with consumedAtMs := some nowMs }, store.markConsumed pairingId nowMs) := by
  unfold consumePairing
  split
  · exact .inl ⟨_, rfl⟩
  cases hredeem : store.redeemPairing backend pairingId secret nowMs with
  | error error => exact .inl ⟨error, rfl⟩
  | ok redeemed =>
    obtain ⟨raw, store'⟩ := redeemed
    obtain ⟨-, rfl⟩ := redeemPairing_ok.mp hredeem
    exact .inr ⟨raw, rfl, rfl⟩

/-- The device row a successful exchange inserts. -/
def exchangedRow (backend : Backend δ) (raw : PairingRecord) (descriptor : DeviceDescriptor)
    (nowMs : UInt64) (token : DeviceToken) (deviceId : DeviceId) : DeviceRow δ where
  record := ⟨deviceId, if raw.requestedName.isEmpty then descriptor.name else raw.requestedName,
    descriptor.platform, raw.scopes, nowMs, some nowMs, none⟩
  tokenHash := hashSecret backend token.text

theorem exchangePairing_cases (backend : Backend δ) (store : Store δ) (pairingId : PairingId)
    (secret : PairingSecret)
    (descriptor : DeviceDescriptor) (nowMs : UInt64) (token : DeviceToken) (deviceId : DeviceId)
    (fault : Option Nat) :
    (∃ error, store.exchangePairing backend pairingId secret descriptor nowMs token deviceId fault =
        (.error error, store)) ∨
      ∃ raw devices, store.redeemPairing backend pairingId secret nowMs =
          .ok (raw, store.markConsumed pairingId nowMs) ∧
        store.devices.insert deviceId
          (exchangedRow backend raw descriptor nowMs token deviceId) = some devices ∧
        store.exchangePairing backend pairingId secret descriptor nowMs token deviceId fault =
          (.ok ⟨store.serverId, deviceId, token, raw.scopes⟩,
            { store.markConsumed pairingId nowMs with devices }) := by
  unfold exchangePairing
  split
  · exact .inl ⟨_, rfl⟩
  cases hredeem : store.redeemPairing backend pairingId secret nowMs with
  | error error => exact .inl ⟨error, rfl⟩
  | ok redeemed =>
    obtain ⟨raw, store'⟩ := redeemed
    obtain ⟨-, rfl⟩ := redeemPairing_ok.mp hredeem
    dsimp only
    cases hinsert : (store.markConsumed pairingId nowMs).devices.insert deviceId
        (exchangedRow backend raw descriptor nowMs token deviceId) with
    | none =>
      refine .inl ⟨.store .database, ?_⟩
      simp only [exchangedRow] at hinsert
      rw [hinsert]
    | some devices =>
      refine .inr ⟨raw, devices, rfl, hinsert, ?_⟩
      simp only [exchangedRow] at hinsert
      rw [hinsert]

omit [DecidableEq δ] in
theorem createPairing_cases (backend : Backend δ) (store : Store δ) (requestedName : String)
    (scopes : DeviceScopes)
    (nowMs : UInt64) (ttlMs : { ttl : UInt64 // ttl ≠ 0 }) (pairingId : PairingId)
    (secret : PairingSecret) (fault : Option Nat) :
    (∃ error, store.createPairing backend requestedName scopes nowMs ttlMs pairingId secret fault =
        (.error error, store)) ∨
      ∃ expiresAtMs pairingSecrets, store.pairingSecrets.insert pairingId
          ⟨⟨pairingId, requestedName, scopes, nowMs, expiresAtMs, none⟩,
            hashSecret backend secret.text⟩ = some pairingSecrets ∧
        store.createPairing backend requestedName scopes nowMs ttlMs pairingId secret fault =
          (.ok ⟨pairingId, secret, expiresAtMs⟩, { store with pairingSecrets }) := by
  unfold createPairing
  cases hexpires : checkedAdd nowMs ttlMs with
  | none => exact .inl ⟨_, rfl⟩
  | some expiresAtMs =>
    dsimp only
    rcases statement_cases store fault _ with ⟨error, hstatement⟩ | ⟨store', heffect, hstatement⟩
    · rw [hstatement]
      exact .inl ⟨error, rfl⟩
    · rw [hstatement]
      obtain ⟨created, hcreated, heffect⟩ := bind_eq_ok.mp heffect
      obtain ⟨expires, hexpires', heffect⟩ := bind_eq_ok.mp heffect
      obtain ⟨-, rfl⟩ := sqlU64_ok.mp hcreated
      obtain ⟨-, rfl⟩ := sqlU64_ok.mp hexpires'
      split at heffect
      · cases heffect
      · rename_i pairingSecrets hinsert
        cases heffect
        exact .inr ⟨_, pairingSecrets, hinsert, rfl⟩

end Store

/-! ## Redemptions in a history -/

/-- What a successful `consume_pairing` or `exchange_pairing` was called with. -/
structure Redemption where
  pairingId : PairingId
  secret : PairingSecret
  nowMs : UInt64
  deriving DecidableEq, Repr

/-- The two operations that redeem a grant. -/
def StoreOperation.redemption : StoreOperation → Option Redemption
  | .consumePairing pairingId secret nowMs _ => some ⟨pairingId, secret, nowMs⟩
  | .exchangePairing pairingId secret _ nowMs _ _ _ => some ⟨pairingId, secret, nowMs⟩
  | _ => none

def StoreReply.isOk : StoreReply → Bool
  | .done result => result.isOk
  | .authenticated result => result.isOk
  | .revoked result => result.isOk
  | .granted result => result.isOk
  | .consumed result => result.isOk
  | .exchanged result => result.isOk
  | .claimed result => result.isOk
  | .completed result => result.isOk
  | .pruned result => result.isOk

namespace StoreEvent

/-- The step redeemed the grant. -/
def redeems (pairingId : PairingId) (e : StoreEvent δ) : Bool :=
  e.output.isOk && e.input.redemption.any fun r => r.pairingId = pairingId

/-- The step created a grant with this secret, these scopes and this expiry. -/
def Creates (e : StoreEvent δ) (pairingId : PairingId) (secret : PairingSecret)
    (scopes : DeviceScopes) (expiresAtMs : UInt64) : Prop :=
  (∃ requestedName nowMs ttlMs fault,
    e.input = .createPairing requestedName scopes nowMs ttlMs pairingId secret fault) ∧
  e.output = .granted (.ok ⟨pairingId, secret, expiresAtMs⟩)

end StoreEvent

namespace Store

/-- What one operation does to the grants: nothing, and no redemption succeeded;
or the grant redeemed is marked; or a new grant is added. -/
theorem pairing_effect (backend : Backend δ) (store : Store δ) (operation : StoreOperation) :
    let reply := store.execute backend operation
    (reply.2.pairingSecrets = store.pairingSecrets ∧
        (operation.redemption.isSome → reply.1.isOk = false ∧ reply.2 = store)) ∨
      (∃ r raw, operation.redemption = some r ∧ reply.1.isOk = true ∧
        store.redeemPairing backend r.pairingId r.secret r.nowMs =
          .ok (raw, store.markConsumed r.pairingId r.nowMs) ∧
        reply.2.pairingSecrets = (store.markConsumed r.pairingId r.nowMs).pairingSecrets) ∨
      ∃ requestedName scopes nowMs ttlMs pairingId secret fault expiresAtMs,
        operation = .createPairing requestedName scopes nowMs ttlMs pairingId secret fault ∧
        reply.1 = .granted (.ok ⟨pairingId, secret, expiresAtMs⟩) ∧
        store.pairingSecrets.insert pairingId
          ⟨⟨pairingId, requestedName, scopes, nowMs, expiresAtMs, none⟩,
            hashSecret backend secret.text⟩ = some reply.2.pairingSecrets := by
  intro reply
  cases operation with
  | consumePairing pairingId secret nowMs fault =>
    rcases store.consumePairing_cases backend pairingId secret nowMs fault with
      ⟨error, h⟩ | ⟨raw, hredeem, h⟩
    · refine .inl ?_
      simp only [reply, execute, h]
      exact ⟨rfl, fun _ => ⟨rfl, rfl⟩⟩
    · refine .inr (.inl ⟨⟨pairingId, secret, nowMs⟩, raw, rfl, ?_, hredeem, ?_⟩) <;>
        simp only [reply, execute, h] <;> rfl
  | exchangePairing pairingId secret descriptor nowMs token deviceId fault =>
    rcases store.exchangePairing_cases backend pairingId secret descriptor nowMs
      token deviceId fault with ⟨error, h⟩ | ⟨raw, devices, hredeem, -, h⟩
    · refine .inl ?_
      simp only [reply, execute, h]
      exact ⟨rfl, fun _ => ⟨rfl, rfl⟩⟩
    · refine .inr (.inl ⟨⟨pairingId, secret, nowMs⟩, raw, rfl, ?_, hredeem, ?_⟩) <;>
        simp only [reply, execute, h] <;> rfl
  | createPairing requestedName scopes nowMs ttlMs pairingId secret fault =>
    rcases store.createPairing_cases backend requestedName scopes nowMs ttlMs
      pairingId secret fault with ⟨error, h⟩ | ⟨expiresAtMs, pairingSecrets, hinsert, h⟩
    · refine .inl ⟨?_, by rintro ⟨⟩⟩
      simp only [reply, execute, h]
      rfl
    · refine .inr (.inr ⟨requestedName, scopes, nowMs, ttlMs, pairingId, secret, fault,
        expiresAtMs, rfl, ?_, ?_⟩) <;> simp only [reply, execute, h]
      · rfl
      · exact hinsert
  | _ =>
    -- the other operations do not write the table of grants
    exact .inl ⟨(store.execute_frame backend _).pairingSecrets
      (by simp [StoreOperation.tables]), by rintro ⟨⟩⟩

end Store

/-! ## At most once -/

/-- The grant has been redeemed: its row is there and marked. -/
def Store.Spent (pairingId : PairingId) (store : Store δ) : Prop :=
  ∃ row, store.pairingSecrets.lookup pairingId = some row ∧ row.record.consumedAtMs.isSome

namespace Store

omit [DecidableEq δ] in
theorem lookup_markConsumed (store : Store δ) (pairingId : PairingId) (nowMs : UInt64)
    (pairingId' : PairingId) :
    (store.markConsumed pairingId nowMs).pairingSecrets.lookup pairingId' =
      if pairingId' = pairingId then
        (store.pairingSecrets.lookup pairingId').map fun row =>
          { row with record := { row.record with consumedAtMs := some nowMs } }
      else store.pairingSecrets.lookup pairingId' :=
  store.pairingSecrets.lookup_modify pairingId _ pairingId'

/-- Rows are never deleted and marks never removed. -/
theorem spent_stable (store : Store δ) (operation : StoreOperation) (pairingId : PairingId)
    (h : store.Spent pairingId) : (store.execute backend operation).2.Spent pairingId := by
  obtain ⟨row, hrow, hspent⟩ := h
  rcases store.pairing_effect backend operation with
    ⟨hsame, -⟩ | ⟨r, -, -, -, -, hmarked⟩ | ⟨_, _, _, _, created, _, _, _, -, -, hinsert⟩
  · exact ⟨row, by rw [hsame, hrow], hspent⟩
  · by_cases hid : pairingId = r.pairingId
    · refine ⟨{ row with record := { row.record with consumedAtMs := some r.nowMs } }, ?_, rfl⟩
      rw [hmarked, lookup_markConsumed, if_pos hid, hrow]
      rfl
    · exact ⟨row, by rw [hmarked, lookup_markConsumed, if_neg hid, hrow], hspent⟩
  · -- a new grant takes an id that has no row
    have hne : pairingId ≠ created := by
      rintro rfl
      rw [(Table.insert_eq_some hinsert).1] at hrow
      cases hrow
    exact ⟨row, by rw [Table.lookup_insert hinsert, if_neg hne, hrow], hspent⟩

/-- A redemption finds the grant unspent and spends it. -/
theorem redeems_spends (store : Store δ) (operation : StoreOperation) (pairingId : PairingId)
    (h : StoreEvent.redeems pairingId (Mealy.event (execute backend) store operation) = true) :
    ¬ store.Spent pairingId ∧ (store.execute backend operation).2.Spent pairingId := by
  rw [StoreEvent.redeems, Bool.and_eq_true, Option.any_eq_true] at h
  obtain ⟨hok, r, hr, hid⟩ := h
  obtain rfl : r.pairingId = pairingId := by simpa using hid
  have hr : operation.redemption = some r := hr
  rcases store.pairing_effect backend operation with
    ⟨-, hfail⟩ | ⟨r', raw, hr', -, hredeem, hmarked⟩ | ⟨_, _, _, _, _, _, _, _, hop, -, -⟩
  · have hfalse := (hfail (by rw [hr]; rfl)).1
    rw [show (execute backend store operation).1.isOk = true from hok] at hfalse
    cases hfalse
  · obtain rfl : r' = r := Option.some.inj (hr'.symm.trans hr)
    obtain ⟨⟨row, hrow, rfl, -, hfresh, -, -⟩, -⟩ := redeemPairing_ok.mp hredeem
    constructor
    · rintro ⟨row', hrow', hspent⟩
      obtain rfl : row = row' := Option.some.inj (hrow.symm.trans hrow')
      rw [hfresh] at hspent
      cases hspent
    · refine ⟨{ row with record := { row.record with consumedAtMs := some r'.nowMs } }, ?_, rfl⟩
      rw [hmarked, lookup_markConsumed, if_pos rfl, hrow]
      rfl
  · rw [hop] at hr
    cases hr

/-! ## Every grant was created -/

/-- Each row of the table comes from an earlier creation, and still has the hash
of the secret, the scopes and the expiry of that creation. -/
def GrantsCreated (backend : Backend δ) (history : List (StoreEvent δ)) (store : Store δ) : Prop :=
  ∀ pairingId row, store.pairingSecrets.lookup pairingId = some row →
    ∃ e ∈ history, ∃ secret, e.Creates pairingId secret row.record.scopes row.record.expiresAtMs ∧
      row.secretHash = hashSecret backend secret.text

theorem grantsCreated_step {history : List (StoreEvent δ)} {store : Store δ}
    (operation : StoreOperation) (h : GrantsCreated backend history store) :
    GrantsCreated backend (history ++ [Mealy.event (execute backend) store operation])
      (store.execute backend operation).2 := by
  have hold : ∀ pairingId row, store.pairingSecrets.lookup pairingId = some row →
      ∃ e ∈ history ++ [Mealy.event (execute backend) store operation], ∃ secret,
        e.Creates pairingId secret row.record.scopes row.record.expiresAtMs ∧
          row.secretHash = hashSecret backend secret.text := by
    intro pairingId row hrow
    obtain ⟨e, he, hcreates⟩ := h pairingId row hrow
    exact ⟨e, List.mem_append_left _ he, hcreates⟩
  intro pairingId row hrow
  rcases store.pairing_effect backend operation with
    ⟨hsame, -⟩ | ⟨r, -, -, -, -, hmarked⟩ |
      ⟨requestedName, scopes, nowMs, ttlMs, created, secret, fault, expiresAtMs, hop, hreply,
        hinsert⟩
  · rw [hsame] at hrow
    exact hold pairingId row hrow
  · -- the mark changes neither the hash, the scopes nor the expiry
    rw [hmarked, lookup_markConsumed] at hrow
    split at hrow
    · obtain ⟨row, hrow', rfl⟩ := Option.map_eq_some_iff.mp hrow
      exact hold pairingId row hrow'
    · exact hold pairingId row hrow
  · rw [Table.lookup_insert hinsert] at hrow
    split at hrow
    · rename_i hid
      subst hid
      cases hrow
      refine ⟨_, List.mem_append_right _ (List.mem_singleton_self _), secret, ?_, rfl⟩
      exact ⟨⟨requestedName, nowMs, ttlMs, fault, hop⟩, hreply⟩
    · exact hold pairingId row hrow

end Store

/-! ## The law -/

/-- The step is an exchange that redeemed `r` for `credential`: it marked the
grant and inserted one device row, unrevoked, with the scopes given and the hash
of the token returned, and changed nothing else. -/
def StoreEvent.Exchanges (backend : Backend δ) (e : StoreEvent δ) (r : Redemption)
    (scopes : DeviceScopes) (credential : DeviceCredential) : Prop :=
  ∃ row devices,
    row.record.revokedAtMs = none ∧ row.record.scopes = scopes ∧ credential.scopes = scopes ∧
    row.tokenHash = Store.hashSecret backend credential.token.text ∧
    e.before.devices.lookup credential.deviceId = none ∧
    devices.rows = e.before.devices.rows ++ [(credential.deviceId, row)] ∧
    e.after = { e.before.markConsumed r.pairingId r.nowMs with devices }

namespace Store

omit [DecidableEq δ] in
/-- With a collision-free hash, a secret is known by its hash. -/
theorem hashSecret_injective (hsha : Function.Injective backend.sha256) {a b : PairingSecret}
    (h : hashSecret backend a.text = hashSecret backend b.text) : a = b := by
  have htext : a.text = b.text := String.toByteArray_inj.mp (hsha h)
  cases a
  cases b
  cases htext
  rfl

/-- What a successful exchange does, and with whose scopes. -/
theorem exchange_effect {store : Store δ} {operation : StoreOperation} {r : Redemption}
    {raw : PairingRecord} {credential : DeviceCredential}
    (hr : operation.redemption = some r)
    (hredeem : store.redeemPairing backend r.pairingId r.secret r.nowMs =
      .ok (raw, store.markConsumed r.pairingId r.nowMs))
    (hreply : (store.execute backend operation).1 = .exchanged (.ok credential)) :
    StoreEvent.Exchanges backend (Mealy.event (execute backend) store operation) r raw.scopes
      credential := by
  cases operation with
  | exchangePairing pairingId secret descriptor nowMs token deviceId fault =>
    cases hr
    rcases store.exchangePairing_cases backend pairingId secret descriptor nowMs
      token deviceId fault with ⟨error, h⟩ | ⟨raw', devices, hredeem', hinsert, h⟩
    · simp only [execute, h] at hreply
      cases hreply
    · have hraw : raw' = raw := by
        rw [hredeem] at hredeem'
        cases hredeem'
        rfl
      subst hraw
      have hevent : Mealy.event (execute backend) store
          (.exchangePairing pairingId secret descriptor nowMs token deviceId fault) =
          ⟨store, .exchangePairing pairingId secret descriptor nowMs token deviceId fault,
            .exchanged (.ok ⟨store.serverId, deviceId, token, raw'.scopes⟩),
            { store.markConsumed pairingId nowMs with devices }⟩ := by
        simp only [Mealy.event, execute, h]
        rfl
      obtain rfl : (⟨store.serverId, deviceId, token, raw'.scopes⟩ : DeviceCredential) =
          credential := by
        simp only [execute, h] at hreply
        cases hreply
        rfl
      obtain ⟨hnew, hrows⟩ := Table.insert_eq_some hinsert
      rw [hevent]
      exact ⟨_, devices, rfl, rfl, rfl, rfl, hnew, hrows, rfl⟩
  | consumePairing pairingId secret nowMs fault => cases hreply
  | _ => cases hr

/-- **A grant is redeemed at most once**, by its secret and before its expiry.

Over every history of a database, whatever the clock says: each grant is redeemed
at most once; a refused redemption changes nothing; a redemption that succeeds
was preceded by the creation of the grant with the very secret presented, comes
before the expiry set there and leaves the grant spent; and if it is an exchange,
it inserts exactly the device row of the credential it returns. -/
theorem pairing_once (backend : Backend δ) (hsha : Function.Injective backend.sha256)
    (serverId : ServerId) (operations : List StoreOperation) :
    (∀ pairingId, (storeHistory backend (.create serverId) operations).countP
      (StoreEvent.redeems pairingId) ≤ 1) ∧
    ∀ (pre : List (StoreEvent δ)) (e : StoreEvent δ) post,
      storeHistory backend (.create serverId) operations = pre ++ e :: post →
      ∀ r, e.input.redemption = some r →
        (e.output.isOk = false → e.after = e.before) ∧
        (e.output.isOk = true → ∃ created ∈ pre, ∃ scopes expiresAtMs,
          created.Creates r.pairingId r.secret scopes expiresAtMs ∧ r.nowMs < expiresAtMs ∧
          e.after.Spent r.pairingId ∧
          ∀ credential, e.output = .exchanged (.ok credential) →
            e.Exchanges backend r scopes credential) := by
  refine ⟨fun pairingId => Mealy.countP_le_one (I := fun _ => True) (fun _ _ h => h)
    (fun store operation _ => store.spent_stable operation pairingId)
    (fun store operation _ => store.redeems_spends operation pairingId) trivial _, ?_⟩
  intro pre e post htrace r hr
  -- a new database has no pairing secret, and each one that is there was created
  have hempty : GrantsCreated backend [] (create (δ := δ) serverId) := nofun
  obtain ⟨hcreated, he⟩ := Mealy.history_at hempty
    (fun _ _ operation h => grantsCreated_step operation h) htrace
  obtain ⟨store, operation, reply, store'⟩ := e
  dsimp only at hr hcreated
  rw [he]
  dsimp only [Mealy.event]
  rcases store.pairing_effect backend operation with
    ⟨-, hfail⟩ | ⟨r', raw, hr', hok, hredeem, hmarked⟩ | ⟨_, _, _, _, _, _, _, _, hop, -, -⟩
  · obtain ⟨hno, hsame⟩ := hfail (by rw [hr]; rfl)
    refine ⟨fun _ => hsame, fun h => ?_⟩
    rw [hno] at h
    cases h
  · obtain rfl : r' = r := Option.some.inj (hr'.symm.trans hr)
    refine ⟨fun h => ?_, fun _ => ?_⟩
    · rw [hok] at h
      cases h
    obtain ⟨⟨row, hrow, rfl, hhash, -, hexpiry, -⟩, -⟩ := redeemPairing_ok.mp hredeem
    obtain ⟨created, hmem, secret, hcreates, hsecret⟩ := hcreated r'.pairingId row hrow
    -- the hash is injective, so the secret that is shown is the one that was drawn
    obtain rfl : secret = r'.secret := hashSecret_injective hsha (hsecret.symm.trans hhash)
    have hredeems : StoreEvent.redeems r'.pairingId
        (Mealy.event (execute backend) store operation) = true := by
      simp only [StoreEvent.redeems, Mealy.event, hok, hr, Option.any_some, decide_true,
        Bool.and_self]
    exact ⟨created, hmem, row.record.scopes, row.record.expiresAtMs, hcreates, hexpiry,
      (store.redeems_spends operation _ hredeems).2,
      fun credential hreply => exchange_effect hr hredeem hreply⟩
  · rw [hop] at hr
    cases hr

/-- A grant with a lifetime of 100, redeemed at 50. -/
theorem pairing_once_exchange :
    let backend : Backend ByteArray :=
      ⟨id, fun _ => .error "", fun _ => .error "", fun _ => .error ""⟩
    ∀ pairingId, (storeHistory backend (.create ⟨"server"⟩)
      [.createPairing "phone" ⟨true, false, false, false, false, false⟩ 0 ⟨100, by decide⟩
          ⟨"grant"⟩ ⟨"secret"⟩ none,
        .exchangePairing ⟨"grant"⟩ ⟨"secret"⟩ ⟨"", .mobile⟩ 50 ⟨"token"⟩ ⟨"device"⟩ none]).countP
      (StoreEvent.redeems pairingId) ≤ 1 :=
  (pairing_once _ Function.injective_id _ _).1

end Store

end OmpRemote.Ompd

import OmpRemote.Ompd.PairingLink

/-!
# Pairings that are half made

`create_pairing_output` stores the grant before it makes the links, and what making them
needs is more than the checks of the transport configuration promise.

- `browserPairUrl_isOk`: the endpoints that pass the checks and have a page for browsers.
- `pairingLinks_isOk`: when there are links.
- `createPairingOutput_atomic_iff`: when no error leaves a grant behind.
-/

namespace OmpRemote.Ompd
open Lib Client

/-! ## Endpoints -/

/-- The slash that ends the scheme begins the path. -/
def TransportConfig.SharesSlash (config : TransportConfig) : Prop :=
  config.publicEndpoint = "wss://control" ∨ config.publicEndpoint = "ws://control"

/-- What the checks say of the endpoint. -/
theorem TransportConfig.validate_endpoint {config : TransportConfig}
    (h : config.validate = .ok ()) :
    (startsWith config.publicEndpoint "wss://" = true ∨
        startsWith config.publicEndpoint "ws://" = true) ∧
      endsWith config.publicEndpoint "/control" = true := by
  obtain ⟨bindAddress, endpoint, mode⟩ := config
  have hpath : ∀ {ends : Bool}, (if (!ends) = true then throw .controlPathRequired
      else pure () : Except TransportConfigError Unit) = .ok () → ends = true := by
    rintro (_ | _) h
    · cases h
    · rfl
  have hscheme : ∀ {starts : Bool}, ¬ (!starts) = true → starts = true := by
    intro starts h
    rwa [Bool.not_eq_true', Bool.not_eq_false] at h
  cases mode with
  | certificateFiles | pinnedSelfSigned =>
    simp only [validate] at h
    split at h
    · cases h
    · rename_i hstarts
      exact ⟨.inl (hscheme hstarts), hpath h⟩
  | trustedReverseProxy localEndpoint =>
    simp only [validate] at h
    split at h
    · cases h
    split at h
    · cases h
    · rename_i hstarts
      exact ⟨.inl (hscheme hstarts), hpath h⟩
  | developmentPlaintext localEndpoint =>
    simp only [validate] at h
    split at h
    · cases h
    split at h
    · cases h
    · rename_i hstarts
      exact ⟨.inr (hscheme hstarts), hpath h⟩

theorem startsWith_iff {text front : String} :
    startsWith text front = true ↔ front.toList <+: text.toList := List.isPrefixOf_iff_prefix

theorem endsWith_iff {text back : String} :
    endsWith text back = true ↔ back.toList <:+ text.toList := List.isSuffixOf_iff_suffix

theorem stripPrefix_isSome {text front : String} (h : startsWith text front = true) :
    ∃ rest, stripPrefix text front = some rest := ⟨_, if_pos h⟩

theorem stripSuffix_isSome {text back : String} (h : endsWith text back = true) :
    stripSuffix text back =
      some (String.ofList (text.toList.take (text.length - back.length))) := if_pos h

/-- Both ends are removed, unless a slash is shared. -/
theorem startsWith_origin {endpoint scheme : String}
    (hscheme : scheme = "wss://" ∨ scheme = "ws://") (hstarts : startsWith endpoint scheme = true)
    (hends : endsWith endpoint "/control" = true) :
    startsWith (String.ofList (endpoint.toList.take (endpoint.length - "/control".length)))
        scheme = true ∨ endpoint = scheme ++ "control" := by
  rw [startsWith_iff, String.toList_ofList]
  rcases Text.prefix_take_of_suffix (startsWith_iff.mp hstarts) (endsWith_iff.mp hends) with
    h | ⟨n, hn, htext⟩
  · exact .inl h
  · refine .inr (String.toList_injective ?_)
    have hprefix := startsWith_iff.mp hstarts
    rw [htext] at hprefix ⊢
    -- only the last letter of a scheme is the first one of the path
    have hshared : ∀ scheme ∈ ["wss://", "ws://"], ∀ n < scheme.toList.length,
        scheme.toList <+: scheme.toList.take n ++ "/control".toList →
          scheme.toList.take n ++ "/control".toList = (scheme ++ "control").toList := by
      decide +kernel
    refine hshared scheme ?_ n hn hprefix
    rcases hscheme with rfl | rfl
    · exact List.mem_cons_self
    · exact List.mem_cons_of_mem _ List.mem_cons_self

/-- An endpoint that passes the checks has a page for browsers unless a slash is shared. -/
theorem browserPairUrl_isOk {config : TransportConfig} (h : config.validate = .ok ()) :
    (browserPairUrl config.publicEndpoint).isOk = true ↔ ¬ config.SharesSlash := by
  obtain ⟨hstarts, hends⟩ := config.validate_endpoint h
  constructor
  · rintro hurl (heq | heq) <;> rw [heq] at hurl <;> revert hurl <;> decide +kernel
  · intro hslash
    unfold browserPairUrl
    rw [stripSuffix_isSome hends]
    dsimp only
    rcases hstarts with hstarts | hstarts
    · rcases startsWith_origin (.inl rfl) hstarts hends with horigin | heq
      · obtain ⟨rest, hrest⟩ := stripPrefix_isSome horigin
        rw [hrest]
        rfl
      · exact absurd (.inl heq) hslash
    · rcases startsWith_origin (.inr rfl) hstarts hends with horigin | heq
      · obtain ⟨rest, hrest⟩ := stripPrefix_isSome horigin
        split
        · rfl
        · rw [hrest]
          rfl
      · exact absurd (.inr heq) hslash

/-! ## Links -/

/-- The bundle for a grant. -/
def pairingBundle (transport : TransportConfig) (serverId : ServerId) (grant : PairingGrant)
    (tlsIdentity : TlsIdentityHint) : PairingBundle :=
  ⟨pairingBundleVersion, serverId, transport.publicEndpoint, grant.pairingId, grant.secret,
    grant.expiresAtMs, tlsIdentity⟩

/-- The identity of the server can be read, the bundle is within the limit, and the link
is within the capacity of a code. -/
def Presentable (libraries : PairingLibraries) (transport : TransportConfig) (serverId : ServerId)
    (grant : PairingGrant) : Prop :=
  ∃ tlsIdentity, transport.tlsIdentityHint libraries.fingerprint = .ok tlsIdentity ∧
    let item := (pairingBundle transport serverId grant tlsIdentity).cbor
    item.size ≤ pairingBundleLimit.toNat ∧
      (libraries.renderQr ("omp-remote://pair#" ++
        libraries.base64.encode (joined item.pieces).data.toList)).isOk = true

theorem encodePayload_eq_ok {base64 : UrlSafeNoPad} {bundle : PairingBundle} {payload : String} :
    encodePayload base64 bundle = .ok payload ↔
      bundle.cbor.size ≤ pairingBundleLimit.toNat ∧
        base64.encode (joined bundle.cbor.pieces).data.toList = payload := by
  have hsize : piecesSize bundle.cbor.pieces = bundle.cbor.size := Cbor.total_pieces _
  have hlimit : pairingCodec.maxFrameBytes.1.toNat = pairingBundleLimit.toNat := rfl
  rw [encodePayload, serialized, pairingCodec.encodeValue_eq, hsize, hlimit]
  split
  · rename_i hle
    exact ⟨fun h => ⟨hle, Except.ok.inj h⟩, fun h => congrArg _ h.2⟩
  · rename_i hlt
    exact ⟨nofun, fun h => absurd h.1 hlt⟩

/-- There are links iff there is a page for browsers and what they need. -/
theorem pairingLinks_isOk {libraries : PairingLibraries} {transport : TransportConfig}
    {serverId : ServerId} {grant : PairingGrant} :
    (pairingLinks libraries transport serverId grant).isOk = true ↔
      (browserPairUrl transport.publicEndpoint).isOk = true ∧
        Presentable libraries transport serverId grant := by
  rw [isOk_iff]
  constructor
  · rintro ⟨output, h⟩
    unfold pairingLinks at h
    obtain ⟨tlsIdentity, hidentity, h⟩ := bind_eq_ok.mp h
    obtain ⟨payload, hpayload, h⟩ := bind_eq_ok.mp h
    obtain ⟨url, hurl, h⟩ := bind_eq_ok.mp h
    obtain ⟨terminalQr, hqr, -⟩ := bind_eq_ok.mp h
    obtain ⟨hsize, rfl⟩ := encodePayload_eq_ok.mp (mapError_eq_ok.mp hpayload)
    exact ⟨isOk_iff.mpr ⟨url, hurl⟩, tlsIdentity, mapError_eq_ok.mp hidentity, hsize,
      isOk_iff.mpr ⟨terminalQr, mapError_eq_ok.mp hqr⟩⟩
  · rintro ⟨hurl, tlsIdentity, hidentity, hsize, hqr⟩
    obtain ⟨url, hurl⟩ := isOk_iff.mp hurl
    obtain ⟨terminalQr, hqr⟩ := isOk_iff.mp hqr
    refine ⟨_, bind_eq_ok.mpr ⟨tlsIdentity, mapError_eq_ok.mpr hidentity, bind_eq_ok.mpr ⟨_,
      mapError_eq_ok.mpr (encodePayload_eq_ok.mpr ⟨hsize, rfl⟩), bind_eq_ok.mpr ⟨url, hurl,
      bind_eq_ok.mpr ⟨terminalQr, mapError_eq_ok.mpr hqr, rfl⟩⟩⟩⟩⟩

/-! ## Grants -/

variable {δ : Type}

/-- The grant is stored: its expiry is within the column, its id is new, and the
statement is executed. -/
def Store.TakesPairing (store : Store δ) (nowMs : UInt64) (ttlMs : { ttl : UInt64 // ttl ≠ 0 })
    (pairingId : PairingId) (fault : Option Nat) : Prop :=
  nowMs.toNat + ttlMs.1.toNat < 2 ^ 63 ∧ store.pairingSecrets.lookup pairingId = none ∧
    fault = none

namespace Store

theorem createPairing_takes {backend : Backend δ} {store : Store δ} {requestedName : String}
    {scopes : DeviceScopes} {nowMs : UInt64} {ttlMs : { ttl : UInt64 // ttl ≠ 0 }}
    {pairingId : PairingId} {secret : PairingSecret} {fault : Option Nat}
    (h : store.TakesPairing nowMs ttlMs pairingId fault) :
    ∃ pairingSecrets, (pairingSecrets.lookup pairingId).isSome = true ∧
      store.createPairing backend requestedName scopes nowMs ttlMs pairingId secret fault =
        (.ok ⟨pairingId, secret, nowMs + ttlMs⟩, { store with pairingSecrets }) := by
  obtain ⟨hsum, hnew, rfl⟩ := h
  have hword : nowMs.toNat + ttlMs.1.toNat < 2 ^ 64 := Nat.lt_trans hsum (by decide)
  have hexpires : checkedAdd nowMs ttlMs = some (nowMs + ttlMs) := if_pos hword
  have hcreated : sqlU64 nowMs "pairing created_at_ms" = .ok nowMs :=
    sqlU64_ok.mpr ⟨Nat.lt_of_le_of_lt (Nat.le_add_right _ _) hsum, rfl⟩
  have hcolumn : sqlU64 (nowMs + ttlMs) "pairing expires_at_ms" = .ok (nowMs + ttlMs) :=
    sqlU64_ok.mpr ⟨by rwa [toNat_add_of_lt hword], rfl⟩
  unfold createPairing
  rw [hexpires]
  dsimp only
  rw [hcreated, hcolumn]
  cases hinsert : store.pairingSecrets.insert pairingId
      ⟨⟨pairingId, requestedName, scopes, nowMs, nowMs + ttlMs, none⟩,
        hashSecret backend secret.text⟩ with
  | none => exact absurd hnew (Table.insert_eq_none.mp hinsert)
  | some pairingSecrets =>
    refine ⟨pairingSecrets, ?_, ?_⟩
    · rw [Table.lookup_insert hinsert, if_pos rfl]
      rfl
    · simp only [bind, Except.bind, hinsert]
      rfl

theorem createPairing_refuses {backend : Backend δ} {store : Store δ} {requestedName : String}
    {scopes : DeviceScopes} {nowMs : UInt64} {ttlMs : { ttl : UInt64 // ttl ≠ 0 }}
    {pairingId : PairingId} {secret : PairingSecret} {fault : Option Nat}
    (h : ¬ store.TakesPairing nowMs ttlMs pairingId fault) :
    ∃ error, store.createPairing backend requestedName scopes nowMs ttlMs pairingId secret fault =
        (.error error, store) := by
  unfold createPairing
  cases hexpires : checkedAdd nowMs ttlMs with
  | none => exact ⟨_, rfl⟩
  | some expiresAtMs =>
    dsimp only
    rcases statement_cases store fault _ with ⟨error, hstatement⟩ | ⟨inserted, heffect, hstatement⟩
    · rw [hstatement]
      exact ⟨error, rfl⟩
    · -- an insert that succeeds had room for the expiry, a new id and no fault
      refine absurd ⟨?_, ?_, ?_⟩ h
      all_goals obtain ⟨created, -, hcolumns⟩ := bind_eq_ok.mp heffect
      all_goals obtain ⟨expires, hcolumn, hrow⟩ := bind_eq_ok.mp hcolumns
      · rw [← checkedAdd_eq_some.mp hexpires]
        exact (sqlU64_ok.mp hcolumn).1
      · split at hrow
        · cases hrow
        · rename_i hinsert
          exact (Table.insert_eq_some hinsert).1
      · rw [heffect, statement] at hstatement
        split at hstatement
        · cases hstatement
        · rename_i hfault
          exact Option.not_isSome_iff_eq_none.mp hfault

end Store

/-! ## The law -/

/-- **When a pairing is made whole.** An error leaves no grant behind, and a configuration
that passes the checks has a page for browsers, iff the configuration does not pass them,
or no slash of its endpoint is shared, and the store refuses the grant or the links can be
made for it. -/
theorem createPairingOutput_atomic_iff (libraries : PairingLibraries) (backend : Backend δ)
    (store : Store δ) (transport : TransportConfig) (requestedName : String)
    (scopes : DeviceScopes) (nowMs : UInt64) (ttlMs : { ttl : UInt64 // ttl ≠ 0 })
    (pairingId : PairingId) (secret : PairingSecret) (fault : Option Nat) :
    (((createPairingOutput libraries backend store transport requestedName scopes nowMs ttlMs
            pairingId secret fault).1.isOk = false →
          (createPairingOutput libraries backend store transport requestedName scopes nowMs ttlMs
            pairingId secret fault).2.pairingSecrets = store.pairingSecrets) ∧
        (transport.validate = .ok () →
          (browserPairUrl transport.publicEndpoint).isOk = true)) ↔
      (transport.validate = .ok () → ¬ transport.SharesSlash ∧
        (store.TakesPairing nowMs ttlMs pairingId fault →
          Presentable libraries transport store.serverId
            ⟨pairingId, secret, nowMs + ttlMs⟩)) := by
  unfold createPairingOutput
  cases hvalid : transport.validate with
  | error error => exact ⟨fun _ => nofun, fun _ => ⟨fun _ => rfl, nofun⟩⟩
  | ok =>
    have hurl := browserPairUrl_isOk hvalid
    -- the grant is stored before the links are made of it
    by_cases htakes : store.TakesPairing nowMs ttlMs pairingId fault
    · obtain ⟨pairingSecrets, hgrant, hcreated⟩ := Store.createPairing_takes htakes
      have hchanged : pairingSecrets ≠ store.pairingSecrets := by
        rintro rfl
        rw [htakes.2.1] at hgrant
        cases hgrant
      have hlinks : (pairingLinks libraries transport store.serverId
          ⟨pairingId, secret, nowMs + ttlMs⟩).isOk = true ↔ ¬ transport.SharesSlash ∧
            Presentable libraries transport store.serverId ⟨pairingId, secret, nowMs + ttlMs⟩ :=
        pairingLinks_isOk.trans (and_congr_left' hurl)
      rw [hcreated]
      dsimp only
      constructor
      · rintro ⟨hatomic, -⟩ -
        -- the grant is there, so there was no error
        have hok := Bool.of_not_eq_false fun hfailed => hchanged (hatomic hfailed)
        exact ⟨(hlinks.mp hok).1, fun _ => (hlinks.mp hok).2⟩
      · intro h
        obtain ⟨hslash, hpresentable⟩ := h rfl
        refine ⟨fun hfailed => ?_, fun _ => hurl.mpr hslash⟩
        rw [hlinks.mpr ⟨hslash, hpresentable htakes⟩] at hfailed
        cases hfailed
    · -- no grant is stored, so that an error leaves none behind
      obtain ⟨error, hrefused⟩ := Store.createPairing_refuses htakes
      rw [hrefused]
      constructor
      · rintro ⟨-, hpage⟩ -
        exact ⟨hurl.mp (hpage rfl), fun h => absurd h htakes⟩
      · intro h
        exact ⟨fun _ => rfl, fun _ => hurl.mpr (h rfl).1⟩

/-- A server whose endpoint has no origin at all. -/
def sharedSlash : Except PairingOutputError PairingOutput × Store ByteArray :=
  createPairingOutput ⟨urlSafeNoPad, fun path => .error (.noCertificates path), .ok⟩
    ⟨id, fun _ => .error "", fun _ => .error "", fun _ => .error ""⟩ (.create ⟨"server"⟩)
    ⟨.v4 (0, 0, 0, 0) 8443, "wss://control", .certificateFiles "certificate.pem" "key.pem"⟩
    "phone" ⟨true, false, false, false, false, false⟩ 0 ⟨100, ttl_ne⟩ ⟨"grant"⟩ ⟨"secret"⟩ none

/-- Its configuration passes the checks, and the grant stays behind when there is no page
for browsers. -/
theorem sharedSlash_leaves_grant :
    TransportConfig.validate ⟨.v4 (0, 0, 0, 0) 8443, "wss://control",
        .certificateFiles "certificate.pem" "key.pem"⟩ = .ok () ∧
      (browserPairUrl "wss://control").isOk = false ∧ sharedSlash.1.isOk = false ∧
      (sharedSlash.2.pairingSecrets.lookup ⟨"grant"⟩).isSome = true ∧
      ((Store.create (δ := ByteArray) ⟨"server"⟩).pairingSecrets.lookup ⟨"grant"⟩).isSome =
        false := by
  decide +kernel

end OmpRemote.Ompd

import OmpRemote.Client.PairingLink
import OmpRemote.Ompd.Pairing

/-!
# Pairing links, made

`create_pairing_output` stores a grant and writes it into two links, one for the native
client and one for a browser.

- `createPairingOutput`, with the checks of the transport configuration.
- `links_read`, `createPairingOutput_ok`: the links, and the grant that is left to redeem.
- `granted_run`: it is left until it is redeemed.
- `pairing_roundtrip`: either link, and the payload alone, are read as the bundle, and
  the bundle's secret is exchanged for a credential before it expires.
-/

namespace OmpRemote.Ompd

open Lib Client

/-! ## The transport configuration -/

inductive SocketAddr where
  | v4 (octets : UInt8 × UInt8 × UInt8 × UInt8) (port : UInt16)
  | v6 (address : BitVec 128) (port : UInt16) (flowinfo scopeId : UInt32)
  deriving DecidableEq, Repr

def SocketAddr.isLoopback : SocketAddr → Bool
  | v4 octets _ => octets.1 == 127
  | v6 address _ _ _ => address == 1

inductive TlsMode where
  | certificateFiles (certificate privateKey : String)
  | trustedReverseProxy (localEndpoint : SocketAddr)
  | pinnedSelfSigned (certificate privateKey : String)
  | developmentPlaintext (localEndpoint : SocketAddr)
  deriving DecidableEq, Repr

structure TransportConfig where
  bindAddress : SocketAddr
  publicEndpoint : String
  tlsMode : TlsMode
  deriving DecidableEq, Repr

inductive TransportConfigError where
  | secureEndpointRequired
  | developmentEndpointMustBePlaintext
  | controlPathRequired
  | proxyMustBeLocal
  | plaintextMustBeLoopback
  | file (path error : String)
  | noCertificates (path : String)
  deriving DecidableEq, Repr

def startsWith (text front : String) : Bool := front.toList.isPrefixOf text.toList

def endsWith (text back : String) : Bool := back.toList.isSuffixOf text.toList

def stripPrefix (text front : String) : Option String :=
  if startsWith text front then some (String.ofList (text.toList.drop front.length)) else none

def stripSuffix (text back : String) : Option String :=
  if endsWith text back then
    some (String.ofList (text.toList.take (text.length - back.length)))
  else none

namespace TransportConfig

def validate (config : TransportConfig) : Except TransportConfigError Unit := do
  match config.tlsMode with
  | .certificateFiles _ _ | .pinnedSelfSigned _ _ =>
    if !startsWith config.publicEndpoint "wss://" then throw .secureEndpointRequired
  | .trustedReverseProxy localEndpoint =>
    if !localEndpoint.isLoopback || localEndpoint ≠ config.bindAddress then
      throw .proxyMustBeLocal
    if !startsWith config.publicEndpoint "wss://" then throw .secureEndpointRequired
  | .developmentPlaintext localEndpoint =>
    if !localEndpoint.isLoopback || localEndpoint ≠ config.bindAddress then
      throw .plaintextMustBeLoopback
    if !startsWith config.publicEndpoint "ws://" then throw .developmentEndpointMustBePlaintext
  if !endsWith config.publicEndpoint "/control" then throw .controlPathRequired

/-- `fingerprint` reads a certificate and hashes it. -/
def tlsIdentityHint (config : TransportConfig)
    (fingerprint : String → Except TransportConfigError String) :
    Except TransportConfigError TlsIdentityHint :=
  match config.tlsMode with
  | .certificateFiles _ _ | .trustedReverseProxy _ => .ok .publiclyTrusted
  | .pinnedSelfSigned certificate _ => (fingerprint certificate).map .sha256Fingerprint
  | .developmentPlaintext _ => .ok .insecureDevelopment

end TransportConfig

/-! ## The links -/

inductive PairingOutputError where
  | store (error : StoreError)
  | transport (error : TransportConfigError)
  | codec (error : OmpRemote.CborCodecError)
  | qr (error : String)
  | invalidEndpoint

structure PairingOutput where
  bundle : PairingBundle
  nativeLink : String
  browserLink : String
  terminalQr : String

def pairingBundleVersion : UInt16 := 1

def pairingBundleLimit : UInt32 := 65536

def pairingCodec : CborCodec := ⟨⟨pairingBundleLimit, by decide⟩⟩

def browserPairUrl (endpoint : String) : Except PairingOutputError String :=
  match stripSuffix endpoint "/control" with
  | none => .error .invalidEndpoint
  | some origin =>
    match stripPrefix origin "wss://" with
    | some origin => .ok ("https://" ++ origin ++ "/pair")
    | none =>
      match stripPrefix origin "ws://" with
      | some origin => .ok ("http://" ++ origin ++ "/pair")
      | none => .error .invalidEndpoint

/-- What is used besides the store: base64, the reading of certificates, QR codes. -/
structure PairingLibraries where
  base64 : UrlSafeNoPad
  fingerprint : String → Except TransportConfigError String
  renderQr : String → Except String String

/-- The payload of the links. -/
def encodePayload (base64 : UrlSafeNoPad) (bundle : PairingBundle) :
    Except OmpRemote.CborCodecError String :=
  (pairingCodec.encodeValue (serialized bundle.cbor)).map fun bytes =>
    base64.encode bytes.data.toList

/-- `create_pairing_output` from the grant on. -/
def pairingLinks (libraries : PairingLibraries) (transport : TransportConfig) (serverId : ServerId)
    (grant : PairingGrant) : Except PairingOutputError PairingOutput :=
  (transport.tlsIdentityHint libraries.fingerprint).mapError .transport >>= fun tlsIdentity =>
  let bundle : PairingBundle :=
    ⟨pairingBundleVersion, serverId, transport.publicEndpoint, grant.pairingId, grant.secret,
      grant.expiresAtMs, tlsIdentity⟩
  (encodePayload libraries.base64 bundle).mapError .codec >>= fun payload =>
  let nativeLink := "omp-remote://pair#" ++ payload
  browserPairUrl transport.publicEndpoint >>= fun url =>
  let browserLink := url ++ "#" ++ payload
  (libraries.renderQr nativeLink).mapError .qr >>= fun terminalQr =>
  .ok ⟨bundle, nativeLink, browserLink, terminalQr⟩

variable {δ : Type}

/-- The id and the secret of the grant are drawn at random. -/
def createPairingOutput (libraries : PairingLibraries) (backend : Backend δ) (store : Store δ)
    (transport : TransportConfig) (requestedName : String) (scopes : DeviceScopes) (nowMs : UInt64)
    (ttlMs : { ttl : UInt64 // ttl ≠ 0 }) (pairingId : PairingId) (secret : PairingSecret)
    (fault : Option Nat) : Except PairingOutputError PairingOutput × Store δ :=
  match transport.validate with
  | .error error => (.error (.transport error), store)
  | .ok () =>
    match store.createPairing backend requestedName scopes nowMs ttlMs pairingId secret fault with
    | (.error error, store) => (.error (.store error), store)
    | (.ok grant, store) => (pairingLinks libraries transport store.serverId grant, store)

/-! ## What the links are -/

theorem mapError_eq_ok {ε ε' α : Type} {x : Except ε α} {f : ε → ε'} {a : α} :
    x.mapError f = .ok a ↔ x = .ok a := by
  cases x with
  | error e => exact ⟨nofun, nofun⟩
  | ok b => exact ⟨fun h => congrArg _ (Except.ok.inj h), fun h => congrArg _ (Except.ok.inj h)⟩

/-- The links, when they are made. -/
theorem pairingLinks_ok {libraries : PairingLibraries} {transport : TransportConfig}
    {serverId : ServerId} {grant : PairingGrant} {output : PairingOutput}
    (h : pairingLinks libraries transport serverId grant = .ok output) :
    output.bundle.pairingId = grant.pairingId ∧ output.bundle.secret = grant.secret ∧
      output.bundle.expiresAtMs = grant.expiresAtMs ∧
      ∃ payload url, encodePayload libraries.base64 output.bundle = .ok payload ∧
        browserPairUrl transport.publicEndpoint = .ok url ∧
        output.nativeLink = "omp-remote://pair#" ++ payload ∧
        output.browserLink = url ++ "#" ++ payload := by
  unfold pairingLinks at h
  obtain ⟨tlsIdentity, -, h⟩ := bind_eq_ok.mp h
  obtain ⟨payload, hpayload, h⟩ := bind_eq_ok.mp h
  obtain ⟨url, hurl, h⟩ := bind_eq_ok.mp h
  obtain ⟨terminalQr, -, h⟩ := bind_eq_ok.mp h
  cases h
  exact ⟨rfl, rfl, rfl, payload, url, mapError_eq_ok.mp hpayload, hurl, rfl, rfl⟩

/-- The page for browsers begins with its scheme. -/
theorem browserPairUrl_head {endpoint url : String} (h : browserPairUrl endpoint = .ok url) :
    url.toList.head? = some 'h' := by
  unfold browserPairUrl at h
  split at h
  · cases h
  split at h
  · cases h
    simp [String.toList_append]
  · split at h
    · cases h
      simp [String.toList_append]
    · cases h

/-- The payload is the base64 of at least one and at most `pairingBundleLimit` bytes. -/
theorem encodePayload_ok {base64 : UrlSafeNoPad} {bundle : PairingBundle} {payload : String}
    (h : encodePayload base64 bundle = .ok payload) :
    ∃ bytes : List UInt8, payload = base64.encode bytes ∧ bytes ≠ [] ∧
      bytes.length ≤ maxPairingPayloadBytes.toNat ∧
      pairingCodec.encodeValue (serialized bundle.cbor) = .ok ⟨bytes.toArray⟩ := by
  have hlimit : pairingCodec.maxFrameBytes.1.toNat = maxPairingPayloadBytes.toNat := rfl
  unfold encodePayload at h
  rcases pairingCodec.encodeValue_cases (serialized bundle.cbor) with
    ⟨-, hle, bytes, hbytes, hsize⟩ | ⟨error, hnone, -⟩ | ⟨-, hrefused⟩
  · rw [hbytes] at h
    cases h
    have hlength : bytes.data.toList.length = bytes.size := Array.length_toList
    refine ⟨bytes.data.toList, rfl, ?_, ?_, hbytes⟩
    · refine List.ne_nil_of_length_pos ?_
      rw [hlength, hsize]
      -- the map itself has a head
      show 0 < Cbor.total bundle.cbor.pieces
      rw [Cbor.total_pieces, PairingBundle.cbor, Cbor.size]
      exact Nat.add_pos_left (Cbor.headSize_pos _) _
    · rw [hlength, hsize, ← hlimit]
      exact hle
  · cases hnone
  · rw [hrefused] at h
    cases h

/-- Each of the links and the payload alone is read as the bundle. -/
theorem links_read {libraries : PairingLibraries} {read : BundleReader}
    {transport : TransportConfig} {serverId : ServerId} {grant : PairingGrant}
    {output : PairingOutput} (h : pairingLinks libraries transport serverId grant = .ok output)
    (hread : ∀ bytes, pairingCodec.encodeValue (serialized output.bundle.cbor) = .ok bytes →
      read bytes = .ok (output.bundle, bytes.size)) :
    ∃ payload, encodePayload libraries.base64 output.bundle = .ok payload ∧
      ∀ link ∈ [output.nativeLink, output.browserLink, payload], ∀ before after,
        Text.IsBlank before → Text.IsBlank after →
          decodePairingLink libraries.base64 read (before ++ link ++ after) =
            .ok output.bundle := by
  obtain ⟨-, -, -, payload, url, hpayload, hurl, hnative, hbrowser⟩ := pairingLinks_ok h
  refine ⟨payload, hpayload, fun link hlink before after hbefore hafter => ?_⟩
  obtain ⟨bytes, rfl, hne, hsize, hbytes⟩ := encodePayload_ok hpayload
  -- what stands before the payload in each of them
  have hfront : ∃ front : List Char, link = String.ofList front ++ libraries.base64.encode bytes ∧
      (front = [] ∨ ∃ link, front = link ++ ['#']) ∧
      ∀ c ∈ front.head?, Text.isWhiteSpace c = false := by
    have hends : ∀ text : String, String.ofList (text.toList ++ ['#']) = text ++ "#" := by
      intro text
      rw [String.ofList_append, String.ofList_toList]
    rcases hlink with _ | ⟨_, _ | ⟨_, _ | ⟨_, ⟨⟩⟩⟩⟩
    · refine ⟨"omp-remote://pair".toList ++ ['#'], ?_, .inr ⟨_, rfl⟩, fun c hc => ?_⟩
      · rw [hnative, hends]
        rfl
      · obtain rfl : 'o' = c := Option.some.inj hc
        decide
    · refine ⟨url.toList ++ ['#'], ?_, .inr ⟨_, rfl⟩, fun c hc => ?_⟩
      · rw [hbrowser, hends]
      · rw [List.head?_append, browserPairUrl_head hurl] at hc
        cases hc
        decide
    · refine ⟨[], ?_, .inl rfl, nofun⟩
      exact (String.empty_append).symm
  obtain ⟨front, rfl, hfront, hhead⟩ := hfront
  exact decodePairingLink_payload libraries.base64 hne hsize (hread _ hbytes) hfront hhead hbefore
    hafter

/-! ## The grant until it is redeemed -/

namespace Store

/-- The grant is there to be redeemed. -/
def Granted (backend : Backend δ) (grant : PairingGrant) (scopes : DeviceScopes)
    (store : Store δ) : Prop :=
  grant.expiresAtMs.toNat < 2 ^ 63 ∧
    ∃ row, store.pairingSecrets.lookup grant.pairingId = some row ∧
      row.secretHash = hashSecret backend grant.secret.text ∧ row.record.scopes = scopes ∧
      row.record.expiresAtMs = grant.expiresAtMs ∧ row.record.consumedAtMs = none

theorem createPairing_granted {backend : Backend δ} {store store' : Store δ}
    {requestedName : String} {scopes : DeviceScopes} {nowMs : UInt64}
    {ttlMs : { ttl : UInt64 // ttl ≠ 0 }} {pairingId : PairingId} {secret : PairingSecret}
    {fault : Option Nat} {grant : PairingGrant}
    (h : store.createPairing backend requestedName scopes nowMs ttlMs pairingId secret fault =
      (.ok grant, store')) : store'.Granted backend grant scopes := by
  unfold createPairing at h
  cases hexpires : checkedAdd nowMs ttlMs with
  | none =>
    rw [hexpires] at h
    cases h
  | some expiresAtMs =>
    rw [hexpires] at h
    dsimp only at h
    rcases statement_cases store fault _ with ⟨error, hstatement⟩ | ⟨inserted, heffect, hstatement⟩
    · rw [hstatement] at h
      cases h
    · rw [hstatement] at h
      cases h
      obtain ⟨created, -, heffect⟩ := bind_eq_ok.mp heffect
      obtain ⟨expires, hcolumn, heffect⟩ := bind_eq_ok.mp heffect
      -- the column holds signed integers
      obtain ⟨hrange, rfl⟩ := sqlU64_ok.mp hcolumn
      split at heffect
      · cases heffect
      · rename_i pairingSecrets hinsert
        cases heffect
        have hrow := Table.lookup_insert hinsert pairingId
        rw [if_pos rfl] at hrow
        exact ⟨hrange, _, hrow, rfl, rfl, rfl, rfl⟩

variable [DecidableEq δ]

/-- An operation that does not redeem the grant leaves it there. -/
theorem granted_step {backend : Backend δ} {store : Store δ} {grant : PairingGrant}
    {scopes : DeviceScopes} (operation : StoreOperation) (h : store.Granted backend grant scopes)
    (hno : StoreEvent.redeems grant.pairingId
      (Mealy.event (execute backend) store operation) = false) :
    (store.execute backend operation).2.Granted backend grant scopes := by
  obtain ⟨hrange, row, hrow, hfresh⟩ := h
  refine ⟨hrange, row, ?_, hfresh⟩
  rcases store.pairing_effect backend operation with
    ⟨hsame, -⟩ | ⟨r, raw, hr, hok, -, hmarked⟩ | ⟨_, _, _, _, created, _, _, _, -, -, hinsert⟩
  · rw [hsame, hrow]
  · -- what was redeemed is another grant
    have hne : grant.pairingId ≠ r.pairingId := by
      intro hid
      have hredeems : StoreEvent.redeems grant.pairingId
          (Mealy.event (execute backend) store operation) = true := by
        simp only [StoreEvent.redeems, Mealy.event, hok, hr, Option.any_some, hid, decide_true,
          Bool.and_self]
      rw [hredeems] at hno
      cases hno
    rw [hmarked, lookup_markConsumed, if_neg hne, hrow]
  · have hne : grant.pairingId ≠ created := by
      intro hid
      rw [← hid] at hinsert
      rw [(Table.insert_eq_some hinsert).1] at hrow
      cases hrow
    rw [Table.lookup_insert hinsert, if_neg hne, hrow]

theorem granted_run {backend : Backend δ} {store : Store δ} {grant : PairingGrant}
    {scopes : DeviceScopes} {operations : List StoreOperation}
    (h : store.Granted backend grant scopes)
    (hno : ∀ e ∈ Mealy.trace (execute backend) store operations,
      StoreEvent.redeems grant.pairingId e = false) :
    (Mealy.run (execute backend) store operations).Granted backend grant scopes := by
  induction operations generalizing store with
  | nil => exact h
  | cons operation operations ih =>
    rw [Mealy.trace, List.forall_mem_cons] at hno
    exact ih (granted_step operation h hno.1) hno.2

/-- A grant that is there is exchanged before it expires. -/
theorem exchangePairing_granted {backend : Backend δ} {store : Store δ} {grant : PairingGrant}
    {scopes : DeviceScopes} (h : store.Granted backend grant scopes)
    (descriptor : DeviceDescriptor) {nowMs : UInt64} (hnow : nowMs < grant.expiresAtMs)
    (token : DeviceToken) {deviceId : DeviceId} (hdevice : store.devices.lookup deviceId = none) :
    (store.exchangePairing backend grant.pairingId grant.secret descriptor nowMs token deviceId
      none).1 = .ok ⟨store.serverId, deviceId, token, scopes⟩ := by
  obtain ⟨hrange, row, hrow, hhash, rfl, hexpires, hfresh⟩ := h
  have hredeem : store.redeemPairing backend grant.pairingId grant.secret nowMs =
      .ok (row.record, store.markConsumed grant.pairingId nowMs) := by
    rw [← hexpires] at hnow hrange
    exact redeemPairing_ok.mpr ⟨⟨row, hrow, rfl, hhash, hfresh, hnow,
      Nat.lt_trans (UInt64.lt_iff_toNat_lt.mp hnow) hrange⟩, rfl⟩
  rcases store.exchangePairing_cases backend grant.pairingId grant.secret descriptor nowMs token
      deviceId none with ⟨error, hfail⟩ | ⟨raw, devices, hraw, -, hok⟩
  · unfold exchangePairing at hfail
    rw [if_neg (by decide), hredeem] at hfail
    dsimp only at hfail
    split at hfail
    · rename_i hinsert
      exact absurd hdevice (Table.insert_eq_none.mp hinsert)
    · cases hfail
  · rw [hredeem] at hraw
    cases hraw
    rw [hok]

end Store

/-! ## The law -/

theorem createPairingOutput_ok {libraries : PairingLibraries} {backend : Backend δ}
    {store store' : Store δ} {transport : TransportConfig} {requestedName : String}
    {scopes : DeviceScopes} {nowMs : UInt64} {ttlMs : { ttl : UInt64 // ttl ≠ 0 }}
    {pairingId : PairingId} {secret : PairingSecret} {fault : Option Nat} {output : PairingOutput}
    (h : createPairingOutput libraries backend store transport requestedName scopes nowMs ttlMs
      pairingId secret fault = (.ok output, store')) :
    ∃ grant, store'.Granted backend grant scopes ∧
      pairingLinks libraries transport store'.serverId grant = .ok output := by
  unfold createPairingOutput at h
  split at h
  · cases h
  rcases hcreated : store.createPairing backend requestedName scopes nowMs ttlMs pairingId secret
      fault with ⟨error | grant, created⟩ <;> rw [hcreated] at h
  · cases h
  · obtain ⟨hlinks, rfl⟩ := Prod.mk.inj h
    exact ⟨grant, Store.createPairing_granted hcreated, hlinks⟩

/-- **A pairing link makes the round trip.** Whenever `create_pairing_output` succeeds, the
native link, the browser link and the payload alone, with any white space around them, are
read as the bundle that was written, whatever the endpoint contains. And after whatever
else is done with the store, as long as the grant has not been redeemed, the bundle's
secret is exchanged before it expires, for a credential with the scopes granted. -/
theorem pairing_roundtrip [DecidableEq δ] (libraries : PairingLibraries) (backend : Backend δ)
    {store store' : Store δ} {transport : TransportConfig} {requestedName : String}
    {scopes : DeviceScopes} {nowMs : UInt64} {ttlMs : { ttl : UInt64 // ttl ≠ 0 }}
    {pairingId : PairingId} {secret : PairingSecret} {fault : Option Nat} {output : PairingOutput}
    (hcreated : createPairingOutput libraries backend store transport requestedName scopes nowMs
      ttlMs pairingId secret fault = (.ok output, store'))
    (read : BundleReader)
    (hread : ∀ bytes, pairingCodec.encodeValue (serialized output.bundle.cbor) = .ok bytes →
      read bytes = .ok (output.bundle, bytes.size)) :
    (∃ payload, encodePayload libraries.base64 output.bundle = .ok payload ∧
      ∀ link ∈ [output.nativeLink, output.browserLink, payload], ∀ before after,
        Text.IsBlank before → Text.IsBlank after →
          decodePairingLink libraries.base64 read (before ++ link ++ after) =
            .ok output.bundle) ∧
      ∀ operations, (∀ e ∈ Mealy.trace (Store.execute backend) store' operations,
          StoreEvent.redeems output.bundle.pairingId e = false) →
        ∀ descriptor nowMs token deviceId, nowMs < output.bundle.expiresAtMs →
          let later := Mealy.run (Store.execute backend) store' operations
          later.devices.lookup deviceId = none →
            (later.exchangePairing backend output.bundle.pairingId output.bundle.secret descriptor
              nowMs token deviceId none).1 = .ok ⟨later.serverId, deviceId, token, scopes⟩ := by
  obtain ⟨grant, hgranted, hlinks⟩ := createPairingOutput_ok hcreated
  refine ⟨links_read hlinks hread, ?_⟩
  intro operations hno descriptor nowMs token deviceId hnow later hdevice
  obtain ⟨hid, hsecret, hexpires, -⟩ := pairingLinks_ok hlinks
  rw [hid] at hno
  rw [hexpires] at hnow
  rw [hid, hsecret]
  exact Store.exchangePairing_granted (Store.granted_run hgranted hno) descriptor hnow token hdevice

/-- The engine as the library documents it. -/
def urlSafeNoPad : UrlSafeNoPad where
  encode := Base64.encodeUrl
  decode text := (Base64.decodeUrl text).elim (.error "invalid base64") .ok
  decode_encode bytes := by rw [Base64.decodeUrl_encodeUrl, Option.elim_some]
  length_encode := Base64.length_encodeUrl
  encode_mem := Base64.encodeUrl_mem

theorem ttl_ne : (100 : UInt64) ≠ 0 := by decide

def withFragment : Except PairingOutputError PairingOutput × Store ByteArray :=
  createPairingOutput ⟨urlSafeNoPad, fun path => .error (.noCertificates path), .ok⟩
    ⟨id, fun _ => .error "", fun _ => .error "", fun _ => .error ""⟩ (.create ⟨"server"⟩)
    ⟨.v4 (127, 0, 0, 1) 8443, "wss://home#1/control",
      .trustedReverseProxy (.v4 (127, 0, 0, 1) 8443)⟩
    "phone" ⟨true, false, false, false, false, false⟩ 0 ⟨100, ttl_ne⟩ ⟨"grant"⟩ ⟨"secret"⟩ none

/-- The links of a server whose endpoint has a `#`, and the exchange at 50. -/
theorem pairing_roundtrip_fragment :
    ∃ output store', withFragment = (.ok output, store') ∧
      decodePairingLink urlSafeNoPad (fun bytes => .ok (output.bundle, bytes.size))
        (" " ++ output.browserLink ++ "\n") = .ok output.bundle ∧
      (store'.exchangePairing ⟨id, fun _ => .error "", fun _ => .error "", fun _ => .error ""⟩
        output.bundle.pairingId output.bundle.secret ⟨"", .mobile⟩ 50 ⟨"token"⟩ ⟨"device"⟩ none).1 =
        .ok ⟨store'.serverId, ⟨"device"⟩, ⟨"token"⟩, true, false, false, false, false, false⟩ := by
  have hexpires :
      withFragment.1.toOption.map (fun output => output.bundle.expiresAtMs) = some 100 := by
    decide +kernel
  have hdevice : withFragment.2.devices.lookup ⟨"device"⟩ = none := by decide +kernel
  rcases hcreated : withFragment with ⟨error | output, store'⟩ <;> rw [hcreated] at hexpires hdevice
  · cases hexpires
  · obtain ⟨⟨payload, -, hlinks⟩, hexchange⟩ := pairing_roundtrip _ _ hcreated
      (fun bytes => .ok (output.bundle, bytes.size)) fun _ _ => rfl
    refine ⟨output, store', rfl, hlinks _ ?_ " " "\n" ?_ ?_, ?_⟩
    · exact List.mem_cons_of_mem _ List.mem_cons_self
    · decide +kernel
    · decide +kernel
    · refine hexchange [] (List.forall_mem_nil _) _ 50 _ _ ?_ hdevice
      rw [show output.bundle.expiresAtMs = 100 from Option.some.inj hexpires]
      decide

end OmpRemote.Ompd

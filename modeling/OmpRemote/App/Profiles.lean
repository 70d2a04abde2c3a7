import Mathlib.Data.List.Sort
import Mathlib.Data.String.Basic
import OmpRemote.Client.Fingerprint
import OmpRemote.Client.Lifecycle
import OmpRemote.Client.Loopback
import OmpRemote.Lib.Keyed

/-!
# Saved servers

A server that the application has paired with is saved in a file, under its id, with the
endpoint and what its certificate is checked against. It is connected to from there ever after.

- `saveProfile`, on a file and with a disk that may fail; `pairAndConnect`, the button.
- `profiles_follow`, `profile_stays`: the file, after any saves.
- `pairing_pins`: a device that has been given a link goes on with no server but the one that
  has the certificate, at once and from its file.
-/

namespace OmpRemote

open Lib

namespace Client

/-! ## Configurations -/

/-- `ClientConfig`, with what it connects to. -/
structure TargetConfig extends RunConfig where
  target : SocketTarget
  eventSubscriberCapacity : Nat

inductive ClientConfigError where
  | unsupportedPairingFormat (version : UInt16)

def pairingFormatVersion : UInt16 := 1

/-- A `BTreeSet` is the ordered list of its elements. -/
def insertCapability (requested : List String) (capability : String) : List String :=
  if capability ∈ requested then requested else requested.orderedInsert (· ≤ ·) capability

def addRequiredCapabilities (client : ClientDescriptor) : ClientDescriptor :=
  { client with
    capabilities := ["event_replay", "interaction_leases", "state_deltas"].foldl insertCapability
      client.capabilities }

namespace TargetConfig

def stored (target : SocketTarget) (serverId : ServerId) (client : ClientDescriptor) :
    TargetConfig :=
  { serverId, client := addRequiredCapabilities client, frameLimits := .default
    authentication := .storedCredential, reconnect := .default, target
    eventSubscriberCapacity := 256 }

def pairing (bundle : PairingBundle) (client : ClientDescriptor) (deviceName : String) :
    Except ClientConfigError TargetConfig :=
  if bundle.formatVersion ≠ pairingFormatVersion then
    .error (.unsupportedPairingFormat bundle.formatVersion)
  else
    .ok { serverId := bundle.serverId, client := addRequiredCapabilities client
          frameLimits := .default
          authentication := .pair
            (.pair bundle.pairingId bundle.secret ⟨deviceName, client.platform⟩)
          reconnect := .default, target := ⟨bundle.endpoint, bundle.tlsIdentity⟩
          eventSubscriberCapacity := 256 }

end TargetConfig

/-! ## Certificates -/

/-- How certificates are checked: as the library does, or against a digest. -/
inductive Connector where
  | default
  | pinned (expected : Digest)
  deriving DecidableEq

/-- `connect` up to the connection. -/
def connector (parse : String → Except String Url) (target : SocketTarget) : Outcome Connector :=
  match validateTarget parse target with
  | .error message => .failed message
  | .ok () =>
    match target.tlsIdentity with
    | .publiclyTrusted | .insecureDevelopment => .returned .default
    | .sha256Fingerprint fingerprint => (decodeFingerprint fingerprint.toList).map .pinned

def verifyServerCert (sha256 : ByteArray → Digest) (expected : Digest) (endEntity : ByteArray) :
    Except String Unit :=
  if sha256 endEntity ≠ expected then .error "ApplicationVerificationFailure" else .ok ()

/-- Whether a client goes on with a server that presents a certificate. -/
def goesOn (parse : String → Except String Url) (sha256 : ByteArray → Digest)
    (trusted : String → ByteArray → Bool) (target : SocketTarget) (endEntity : ByteArray) : Bool :=
  match connector parse target with
  | .returned .default => trusted target.endpoint endEntity
  | .returned (.pinned expected) => (verifyServerCert sha256 expected endEntity).isOk
  | .failed _ | .panicked => false

theorem connector_pinned {parse : String → Except String Url} {endpoint fingerprint : String}
    {url : Url} {expected : Digest} (hparse : parse endpoint = .ok url) (hwss : url.scheme = "wss")
    (hdigest : decodeFingerprint fingerprint.toList = .returned expected) :
    connector parse ⟨endpoint, .sha256Fingerprint fingerprint⟩ = .returned (.pinned expected) := by
  have hvalid : validateTarget parse ⟨endpoint, .sha256Fingerprint fingerprint⟩ = .ok () := by
    unfold validateTarget
    simp [hparse, Except.mapError, bind, Except.bind, hwss, pure, Except.pure]
  unfold connector
  rw [hvalid]
  show (decodeFingerprint fingerprint.toList).map Connector.pinned = _
  rw [hdigest]
  rfl

/-- A target with a digest is for one certificate. -/
theorem goesOn_pinned {parse : String → Except String Url} {sha256 : ByteArray → Digest}
    {trusted : String → ByteArray → Bool} {endpoint fingerprint : String} {expected : Digest}
    (hscheme : ∀ url, parse endpoint = .ok url → url.scheme = "wss")
    (hdigest : decodeFingerprint fingerprint.toList = .returned expected) (endEntity : ByteArray) :
    goesOn parse sha256 trusted ⟨endpoint, .sha256Fingerprint fingerprint⟩ endEntity = true ↔
      (parse endpoint).isOk = true ∧ sha256 endEntity = expected := by
  cases hparse : parse endpoint with
  | error error =>
    have hfails : goesOn parse sha256 trusted ⟨endpoint, .sha256Fingerprint fingerprint⟩
        endEntity = false := by
      simp [goesOn, connector, validateTarget, hparse, Except.mapError, bind, Except.bind]
    rw [hfails]
    exact ⟨nofun, nofun⟩
  | ok url =>
    unfold goesOn
    rw [connector_pinned hparse (hscheme url hparse) hdigest]
    show (verifyServerCert sha256 expected endEntity).isOk = true ↔ _
    unfold verifyServerCert
    by_cases hsame : sha256 endEntity = expected
    · rw [if_neg (not_not_intro hsame)]
      exact ⟨fun _ => ⟨rfl, hsame⟩, fun _ => rfl⟩
    · rw [if_pos hsame]
      exact ⟨nofun, fun h => absurd h.2 hsame⟩

end Client

namespace App

open Client Ompd

/-! ## The file -/

structure SavedServerProfile where
  name : String
  serverId : ServerId
  endpoint : String
  tlsIdentity : TlsIdentityHint
  deriving DecidableEq, Repr

namespace SavedServerProfile

def fromPairing (bundle : PairingBundle) (name : String) : SavedServerProfile :=
  ⟨name, bundle.serverId, bundle.endpoint, bundle.tlsIdentity⟩

def clientConfig (profile : SavedServerProfile) (client : ClientDescriptor) : TargetConfig :=
  .stored ⟨profile.endpoint, profile.tlsIdentity⟩ profile.serverId client

end SavedServerProfile

/-- What `serde_json` does with a list of profiles: what is written is read. -/
structure ProfileJson where
  write : List SavedServerProfile → Option String
  read : String → Option (List SavedServerProfile)
  read_write : ∀ {profiles encoded}, write profiles = some encoded → read encoded = some profiles

structure ProfileStoreError where
  message : String
  deriving DecidableEq, Repr

/-- What the disk fails at. -/
inductive DiskFault where
  | noDirectories
  | read (error : String)
  | noParent
  | createDirectory (error : String)
  | write (error : String)
  | rename (error : String)

/-- The file, if there is one; a call meets at most one fault. -/
def loadEncodedProfiles (file : Option String) :
    Option DiskFault → Except ProfileStoreError (Option String)
  | some .noDirectories => .error ⟨"platform configuration directory is unavailable"⟩
  | some (.read error) => .error ⟨"cannot read server profiles: " ++ error⟩
  | _ => .ok file

/-- The file is replaced by one that has been written. -/
def saveEncodedProfiles (file : Option String) (encoded : String) :
    Option DiskFault → Except ProfileStoreError Unit × Option String
  | some .noDirectories => (.error ⟨"platform configuration directory is unavailable"⟩, file)
  | some .noParent => (.error ⟨"server profile path has no parent"⟩, file)
  | some (.createDirectory error) =>
    (.error ⟨"cannot create server profile directory: " ++ error⟩, file)
  | some (.write error) => (.error ⟨"cannot write server profiles: " ++ error⟩, file)
  | some (.rename error) => (.error ⟨"cannot replace server profiles: " ++ error⟩, file)
  | some (.read _) | none => (.ok (), some encoded)

def loadProfiles (json : ProfileJson) (file : Option String) (fault : Option DiskFault) :
    Except ProfileStoreError (List SavedServerProfile) :=
  match loadEncodedProfiles file fault with
  | .error error => .error error
  | .ok none => .ok []
  | .ok (some encoded) =>
    match json.read encoded with
    | none => .error ⟨"saved server profiles are invalid"⟩
    | some profiles => .ok profiles

def sortByName (profiles : List SavedServerProfile) : List SavedServerProfile :=
  profiles.mergeSort fun left right => decide (left.name ≤ right.name)

/-- The profiles with one in its place. -/
def placed (profile : SavedServerProfile) (profiles : List SavedServerProfile) :
    List SavedServerProfile :=
  sortByName (upsert SavedServerProfile.serverId profile profiles)

/-- A call of `save_profile`. -/
structure Save where
  profile : SavedServerProfile
  fault : Option DiskFault

def saveProfile (json : ProfileJson) (file : Option String) (save : Save) :
    Except ProfileStoreError (List SavedServerProfile) × Option String :=
  match loadProfiles json file save.fault with
  | .error error => (.error error, file)
  | .ok profiles =>
    let profiles := placed save.profile profiles
    match json.write profiles with
    | none => (.error ⟨"cannot encode server profiles"⟩, file)
    | some encoded =>
      match saveEncodedProfiles file encoded save.fault with
      | (.error error, file) => (.error error, file)
      | (.ok (), file) => (.ok profiles, file)

/-! ## The button -/

inductive PairingError where
  | link (error : PairingLinkError)
  | expired
  | config (error : ClientConfigError)
  | profile (error : ProfileStoreError)

/-- What is shown, and what is connected to. -/
structure Pressed where
  error : Option PairingError
  config : Option TargetConfig

/-- "Pair and connect". A profile that is not saved does not keep it from connecting. -/
def pairAndConnect (base64 : UrlSafeNoPad) (read : BundleReader) (json : ProfileJson)
    (file : Option String) (link deviceName : String) (client : ClientDescriptor)
    (unixTimeMs : UInt64) (fault : Option DiskFault) : Pressed × Option String :=
  match decodePairingLink base64 read link with
  | .error error => (⟨some (.link error), none⟩, file)
  | .ok bundle =>
    if bundle.expiresAtMs ≤ unixTimeMs then (⟨some .expired, none⟩, file)
    else
      match TargetConfig.pairing bundle client (String.ofList (Text.trim deviceName.toList)) with
      | .error error => (⟨some (.config error), none⟩, file)
      | .ok config =>
        match saveProfile json file ⟨.fromPairing bundle "OMP server", fault⟩ with
        | (.error error, file) => (⟨some (.profile error), some config⟩, file)
        | (.ok _, file) => (⟨none, some config⟩, file)

/-! ## A save -/

section

variable {json : ProfileJson} {file : Option String}

theorem mem_placed (profile : SavedServerProfile) {profiles : List SavedServerProfile}
    (h : (profiles.map SavedServerProfile.serverId).Nodup) {other : SavedServerProfile} :
    other ∈ placed profile profiles ↔
      other = profile ∨ other ∈ profiles ∧ other.serverId ≠ profile.serverId :=
  List.mem_mergeSort.trans (mem_upsert profile h)

theorem nodup_placed (profile : SavedServerProfile) {profiles : List SavedServerProfile}
    (h : (profiles.map SavedServerProfile.serverId).Nodup) :
    ((placed profile profiles).map SavedServerProfile.serverId).Nodup :=
  ((List.mergeSort_perm _ _).map _).nodup_iff.mpr (nodup_upsert profile h)

theorem pairwise_sortByName (profiles : List SavedServerProfile) :
    (sortByName profiles).Pairwise fun left right => left.name ≤ right.name := by
  let le := fun left right : SavedServerProfile => decide (left.name ≤ right.name)
  have htrans : ∀ a b c, le a b = true → le b c = true → le a c = true := by
    intro a b c hab hbc
    exact decide_eq_true (le_trans (of_decide_eq_true hab) (of_decide_eq_true hbc))
  have htotal : ∀ a b, (le a b || le b a) = true := by
    intro a b
    rw [Bool.or_eq_true, decide_eq_true_iff, decide_eq_true_iff]
    exact le_total a.name b.name
  exact (List.pairwise_mergeSort htrans htotal profiles).imp of_decide_eq_true

/-- What is read despite a fault is read without. -/
theorem loadProfiles_ok {fault : Option DiskFault} {profiles : List SavedServerProfile}
    (h : loadProfiles json file fault = .ok profiles) :
    loadProfiles json file none = .ok profiles := by
  unfold loadProfiles at h ⊢
  rcases fault with _ | fault
  · exact h
  · cases fault <;> first
      | exact h
      | cases h

theorem loadProfiles_written {profiles : List SavedServerProfile} {encoded : String}
    (h : json.write profiles = some encoded) :
    loadProfiles json (some encoded) none = .ok profiles := by
  unfold loadProfiles loadEncodedProfiles
  dsimp only
  rw [json.read_write h]

theorem saveEncodedProfiles_cases (file : Option String) (encoded : String)
    (fault : Option DiskFault) :
    (∃ error, saveEncodedProfiles file encoded fault = (.error error, file)) ∨
      saveEncodedProfiles file encoded fault = (.ok (), some encoded) := by
  rcases fault with _ | fault
  · exact .inr rfl
  · cases fault <;> first
      | exact .inl ⟨_, rfl⟩
      | exact .inr rfl

/-- A save that fails changes nothing; one that does not has the profile in its place. -/
theorem saveProfile_cases (json : ProfileJson) (file : Option String) (save : Save) :
    (∃ error, saveProfile json file save = (.error error, file)) ∨
      ∃ profiles file', loadProfiles json file none = .ok profiles ∧
        saveProfile json file save = (.ok (placed save.profile profiles), file') ∧
        loadProfiles json file' none = .ok (placed save.profile profiles) := by
  unfold saveProfile
  cases hload : loadProfiles json file save.fault with
  | error error => exact .inl ⟨error, rfl⟩
  | ok profiles =>
    dsimp only
    cases hwrite : json.write (placed save.profile profiles) with
    | none => exact .inl ⟨_, rfl⟩
    | some encoded =>
      dsimp only
      rcases saveEncodedProfiles_cases file encoded save.fault with ⟨error, hsave⟩ | hsave
      · rw [hsave]
        exact .inl ⟨error, rfl⟩
      · rw [hsave]
        exact .inr ⟨profiles, some encoded, loadProfiles_ok hload, rfl,
          loadProfiles_written hwrite⟩

end

/-! ## The file after any saves -/

abbrev ProfileEvent :=
  Mealy.Event (Option String) Save (Except ProfileStoreError (List SavedServerProfile))

/-- The profile that a call saved for a server. -/
def savedFor (serverId : ServerId) (e : ProfileEvent) : Option SavedServerProfile :=
  if e.output.isOk ∧ e.input.profile.serverId = serverId then some e.input.profile else none

/-- The last one. -/
def latest (serverId : ServerId) (history : List ProfileEvent) : Option SavedServerProfile :=
  (history.filterMap (savedFor serverId)).getLast?

theorem latest_append (serverId : ServerId) (history : List ProfileEvent) (e : ProfileEvent) :
    latest serverId (history ++ [e]) = (savedFor serverId e).or (latest serverId history) := by
  unfold latest
  rw [List.filterMap_append, List.getLast?_append]
  cases hsaved : savedFor serverId e with
  | none => simp [hsaved]
  | some profile => simp [hsaved]

/-- What the file holds. -/
structure Follows (json : ProfileJson) (history : List ProfileEvent) (file : Option String)
    (profiles : List SavedServerProfile) : Prop where
  loads : loadProfiles json file none = .ok profiles
  sorted : profiles.Pairwise fun left right => left.name ≤ right.name
  nodup : (profiles.map SavedServerProfile.serverId).Nodup
  mem_iff : ∀ profile, profile ∈ profiles ↔ latest profile.serverId history = some profile

theorem Follows.step {json : ProfileJson} {history : List ProfileEvent} {file : Option String}
    {profiles : List SavedServerProfile} (h : Follows json history file profiles) (save : Save) :
    ∃ profiles', Follows json (history ++ [Mealy.event (saveProfile json) file save])
      (saveProfile json file save).2 profiles' := by
  rcases saveProfile_cases json file save with
    ⟨error, hfails⟩ | ⟨loaded, file', hload, hsaves, hloads⟩
  · have hnone : ∀ serverId, savedFor serverId (Mealy.event (saveProfile json) file save) = none :=
      fun serverId => if_neg fun hsaved => by
        rw [Mealy.event, hfails] at hsaved
        exact Bool.false_ne_true hsaved.1
    refine ⟨profiles, ?_, h.sorted, h.nodup, fun profile => ?_⟩
    · rw [hfails]
      exact h.loads
    · rw [latest_append, hnone, Option.none_or]
      exact h.mem_iff profile
  · obtain rfl : profiles = loaded := Except.ok.inj (h.loads.symm.trans hload)
    have hsaved : ∀ serverId, savedFor serverId (Mealy.event (saveProfile json) file save) =
        if save.profile.serverId = serverId then some save.profile else none := by
      intro serverId
      unfold savedFor Mealy.event
      rw [hsaves]
      simp [Except.isOk, Except.toBool]
    refine ⟨placed save.profile profiles, ?_, pairwise_sortByName _, nodup_placed save.profile h.nodup,
      fun profile => ?_⟩
    · rw [hsaves]
      exact hloads
    · rw [mem_placed save.profile h.nodup, h.mem_iff, latest_append, hsaved]
      by_cases hid : save.profile.serverId = profile.serverId
      · rw [if_pos hid, Option.some_or, Option.some.injEq]
        exact ⟨fun hmem => hmem.elim Eq.symm fun hother => absurd hid.symm hother.2,
          fun hsame => .inl hsame.symm⟩
      · rw [if_neg hid, Option.none_or]
        exact ⟨fun hmem => hmem.elim (fun hsame => absurd (congrArg _ hsame.symm) hid) And.left,
          fun hlatest => .inr ⟨hlatest, fun hsame => hid hsame.symm⟩⟩

/-- **The saved servers are those saved last.** Whatever is saved, and whatever the disk fails
at: the file can be read, it lists the servers by name and each once, and under its id it has
the profile that was saved last for it, of the calls that succeeded. -/
theorem profiles_follow (json : ProfileJson) (saves : List Save) :
    ∃ profiles, Follows json (Mealy.trace (saveProfile json) none saves)
      (Mealy.run (saveProfile json) none saves) profiles := by
  refine Mealy.history_invariant
    (P := fun history file => ∃ profiles, Follows json history file profiles) ?_ ?_ saves
  · refine ⟨[], rfl, List.Pairwise.nil, List.nodup_nil, fun profile => ?_⟩
    exact ⟨nofun, nofun⟩
  · rintro history file save ⟨profiles, hfollows⟩
    exact hfollows.step save

theorem latest_append_none {serverId : ServerId} {later : List ProfileEvent}
    (h : ∀ e ∈ later, savedFor serverId e = none) (history : List ProfileEvent) :
    latest serverId (history ++ later) = latest serverId history := by
  unfold latest
  rw [List.filterMap_append, List.filterMap_eq_nil_iff.mpr h, List.append_nil]

/-- A profile that has been saved is the only one of its server until another one is. -/
theorem profile_stays {json : ProfileJson} {saves later : List Save} {save : Save}
    {saved : Except ProfileStoreError (List SavedServerProfile)} {file : Option String}
    (hsave : saveProfile json (Mealy.run (saveProfile json) none saves) save = (saved, file))
    (hsaved : saved.isOk = true)
    (hothers : ∀ e ∈ Mealy.trace (saveProfile json) file later,
      savedFor save.profile.serverId e = none) :
    ∃ profiles,
      loadProfiles json (Mealy.run (saveProfile json) file later) none = .ok profiles ∧
        ∀ profile, profile.serverId = save.profile.serverId →
          (profile ∈ profiles ↔ profile = save.profile) := by
  have hfile : (saveProfile json (Mealy.run (saveProfile json) none saves) save).2 = file :=
    congrArg Prod.snd hsave
  obtain ⟨profiles, hfollows⟩ := profiles_follow json (saves ++ save :: later)
  have hrun : Mealy.run (saveProfile json) none (saves ++ save :: later) =
      Mealy.run (saveProfile json) file later := by
    rw [Mealy.run, Lib.run_append, Lib.run_cons, ← hfile]
    rfl
  have hlatest : latest save.profile.serverId
      (Mealy.trace (saveProfile json) none (saves ++ save :: later)) = some save.profile := by
    have hthis : savedFor save.profile.serverId
        (Mealy.event (saveProfile json) (Mealy.run (saveProfile json) none saves) save) =
          some save.profile := by
      refine if_pos ⟨?_, rfl⟩
      rw [Mealy.event, hsave]
      exact hsaved
    rw [Mealy.trace_append, Mealy.trace, List.append_cons, hfile, latest_append_none hothers,
      latest_append, hthis, Option.some_or]
  refine ⟨profiles, ?_, fun profile hserver => ?_⟩
  · rw [← hrun]
    exact hfollows.loads
  · rw [hfollows.mem_iff, hserver, hlatest, Option.some.injEq]
    exact eq_comm

/-! ## A link -/

/-- A bundle that can be read is saved, and connected to. -/
theorem pairAndConnect_bundle {base64 : UrlSafeNoPad} {read : BundleReader} {json : ProfileJson}
    {file file' : Option String} {link deviceName : String} {bundle : PairingBundle}
    {client : ClientDescriptor} {unixTimeMs : UInt64} {fault : Option DiskFault}
    {pressed : Pressed} (hlink : decodePairingLink base64 read link = .ok bundle)
    (hversion : bundle.formatVersion = pairingFormatVersion)
    (hnow : unixTimeMs < bundle.expiresAtMs)
    (h : pairAndConnect base64 read json file link deviceName client unixTimeMs fault =
      (pressed, file')) :
    (∃ config, pressed.config = some config ∧ config.serverId = bundle.serverId ∧
        config.target = ⟨bundle.endpoint, bundle.tlsIdentity⟩) ∧
      ∃ saved,
        saveProfile json file ⟨.fromPairing bundle "OMP server", fault⟩ = (saved, file') ∧
        (pressed.error = none ↔ saved.isOk = true) := by
  unfold pairAndConnect at h
  rw [hlink] at h
  dsimp only at h
  rw [if_neg (UInt64.not_le.mpr hnow), TargetConfig.pairing, if_neg (not_not_intro hversion)] at h
  dsimp only at h
  rcases hsave : saveProfile json file ⟨.fromPairing bundle "OMP server", fault⟩ with
    ⟨error | profiles, written⟩ <;> rw [hsave] at h <;> cases h
  · exact ⟨⟨_, rfl, rfl, rfl⟩, _, rfl, nofun, nofun⟩
  · exact ⟨⟨_, rfl, rfl, rfl⟩, _, rfl, fun _ => rfl, fun _ => rfl⟩

theorem pairingLinks_bundle {libraries : PairingLibraries} {transport : TransportConfig}
    {serverId : ServerId} {grant : PairingGrant} {output : PairingOutput}
    (h : pairingLinks libraries transport serverId grant = .ok output) :
    output.bundle.formatVersion = pairingFormatVersion ∧ output.bundle.serverId = serverId ∧
      output.bundle.endpoint = transport.publicEndpoint ∧
      transport.tlsIdentityHint libraries.fingerprint = .ok output.bundle.tlsIdentity := by
  unfold pairingLinks at h
  obtain ⟨tlsIdentity, hidentity, h⟩ := bind_eq_ok.mp h
  obtain ⟨payload, -, h⟩ := bind_eq_ok.mp h
  obtain ⟨url, -, h⟩ := bind_eq_ok.mp h
  obtain ⟨terminalQr, -, h⟩ := bind_eq_ok.mp h
  cases h
  exact ⟨rfl, rfl, rfl, mapError_eq_ok.mp hidentity⟩

theorem link_decoded {libraries : PairingLibraries} {read : BundleReader}
    {transport : TransportConfig} {serverId : ServerId} {grant : PairingGrant}
    {output : PairingOutput} (h : pairingLinks libraries transport serverId grant = .ok output)
    (hread : ∀ bytes, pairingCodec.encodeValue (serialized output.bundle.cbor) = .ok bytes →
      read bytes = .ok (output.bundle, bytes.size))
    {link before after : String} (hlink : link ∈ [output.nativeLink, output.browserLink])
    (hbefore : Text.IsBlank before) (hafter : Text.IsBlank after) :
    decodePairingLink libraries.base64 read (before ++ link ++ after) = .ok output.bundle := by
  obtain ⟨payload, -, hreads⟩ := links_read h hread
  refine hreads link ?_ before after hbefore hafter
  rcases List.mem_pair.mp hlink with rfl | rfl
  · exact List.mem_cons_self
  · exact List.mem_cons_of_mem _ List.mem_cons_self

/-- A daemon with a certificate of its own is reached over TLS. -/
theorem validate_pinned {transport : TransportConfig} {certificate privateKey : String}
    (hmode : transport.tlsMode = .pinnedSelfSigned certificate privateKey)
    (h : transport.validate = .ok ()) : startsWith transport.publicEndpoint "wss://" = true := by
  by_contra hnot
  rw [Bool.not_eq_true] at hnot
  unfold TransportConfig.validate at h
  rw [hmode] at h
  simp only [hnot] at h
  cases h

theorem createPairingOutput_validate {δ : Type} {libraries : PairingLibraries}
    {backend : Backend δ} {store store' : Store δ} {transport : TransportConfig}
    {requestedName : String} {scopes : DeviceScopes} {nowMs : UInt64}
    {ttlMs : { ttl : UInt64 // ttl ≠ 0 }} {pairingId : PairingId} {secret : PairingSecret}
    {fault : Option Nat} {output : PairingOutput}
    (h : createPairingOutput libraries backend store transport requestedName scopes nowMs ttlMs
      pairingId secret fault = (.ok output, store')) : transport.validate = .ok () := by
  unfold createPairingOutput at h
  split at h
  · cases h
  · assumption

/-- The target is for the server at the endpoint that has the certificate, and for no other. -/
def Pins (parse : String → Except String Url) (sha256 : ByteArray → Digest)
    (trusted : String → ByteArray → Bool) (endpoint : String) (certificate : ByteArray)
    (target : SocketTarget) : Prop :=
  target.endpoint = endpoint ∧
    ∀ endEntity, goesOn parse sha256 trusted target endEntity = true ↔
      (parse endpoint).isOk = true ∧ sha256 endEntity = sha256 certificate

theorem created_pins {δ : Type} {libraries : PairingLibraries} {backend : Backend δ}
    {store store' : Store δ} {transport : TransportConfig} {requestedName : String}
    {scopes : DeviceScopes} {nowMs : UInt64} {ttlMs : { ttl : UInt64 // ttl ≠ 0 }}
    {pairingId : PairingId} {secret : PairingSecret} {fault : Option Nat} {output : PairingOutput}
    (hcreated : createPairingOutput libraries backend store transport requestedName scopes nowMs
      ttlMs pairingId secret fault = (.ok output, store')) {certificate privateKey : String}
    (hmode : transport.tlsMode = .pinnedSelfSigned certificate privateKey)
    {readCertificates : String → Except TransportConfigError { cs : List ByteArray // cs ≠ [] }}
    {sha256 : ByteArray → Digest}
    (hfingerprint : libraries.fingerprint = certificateFingerprint readCertificates sha256)
    {parse : String → Except String Url}
    (hparse : ∀ endpoint url, startsWith endpoint "wss://" = true → parse endpoint = .ok url →
      url.scheme = "wss") (trusted : String → ByteArray → Bool) :
    ∃ certificates, readCertificates certificate = .ok certificates ∧
      Pins parse sha256 trusted transport.publicEndpoint (certificates.1.head certificates.2)
        ⟨output.bundle.endpoint, output.bundle.tlsIdentity⟩ := by
  obtain ⟨grant, -, hlinks⟩ := createPairingOutput_ok hcreated
  obtain ⟨-, -, hendpoint, hidentity⟩ := pairingLinks_bundle hlinks
  -- the digest in the bundle is that of the first certificate
  rw [TransportConfig.tlsIdentityHint, hmode, hfingerprint] at hidentity
  obtain ⟨fingerprint, hprinted, htls⟩ : ∃ fingerprint,
      certificateFingerprint readCertificates sha256 certificate = .ok fingerprint ∧
        output.bundle.tlsIdentity = .sha256Fingerprint fingerprint := by
    dsimp only at hidentity
    cases hprinted : certificateFingerprint readCertificates sha256 certificate with
    | error error =>
      rw [hprinted] at hidentity
      cases hidentity
    | ok fingerprint =>
      rw [hprinted] at hidentity
      exact ⟨fingerprint, rfl, (Except.ok.inj hidentity).symm⟩
  obtain ⟨certificates, hcertificates, hdigest⟩ := decodeFingerprint_certificate hprinted
  have hwss := validate_pinned hmode (createPairingOutput_validate hcreated)
  refine ⟨certificates, hcertificates, ?_⟩
  rw [hendpoint, htls]
  exact ⟨rfl, goesOn_pinned (fun url hurl => hparse _ url hwss hurl) hdigest⟩

/-- **A link pins the daemon's certificate for good.** When a daemon with a certificate of its
own has made the links, whoever opens one of them in time goes on with a server iff its
certificate has the digest of the daemon's. And once the server is saved this is so however
often it is connected to from the file, whatever else is saved there and fails to be. -/
theorem pairing_pins {δ : Type} {libraries : PairingLibraries} {backend : Backend δ}
    {store store' : Store δ} {transport : TransportConfig} {requestedName : String}
    {scopes : DeviceScopes} {nowMs : UInt64} {ttlMs : { ttl : UInt64 // ttl ≠ 0 }}
    {pairingId : PairingId} {secret : PairingSecret} {fault : Option Nat} {output : PairingOutput}
    (hcreated : createPairingOutput libraries backend store transport requestedName scopes nowMs
      ttlMs pairingId secret fault = (.ok output, store')) {certificate privateKey : String}
    (hmode : transport.tlsMode = .pinnedSelfSigned certificate privateKey)
    {readCertificates : String → Except TransportConfigError { cs : List ByteArray // cs ≠ [] }}
    {sha256 : ByteArray → Digest}
    (hfingerprint : libraries.fingerprint = certificateFingerprint readCertificates sha256)
    {read : BundleReader}
    (hread : ∀ bytes, pairingCodec.encodeValue (serialized output.bundle.cbor) = .ok bytes →
      read bytes = .ok (output.bundle, bytes.size))
    {parse : String → Except String Url}
    (hparse : ∀ endpoint url, startsWith endpoint "wss://" = true → parse endpoint = .ok url →
      url.scheme = "wss")
    (trusted : String → ByteArray → Bool) (json : ProfileJson) (saves : List Save)
    {link before after : String} (hlink : link ∈ [output.nativeLink, output.browserLink])
    (hbefore : Text.IsBlank before) (hafter : Text.IsBlank after) {deviceName : String}
    {client : ClientDescriptor} {unixTimeMs : UInt64}
    (hnow : unixTimeMs < output.bundle.expiresAtMs) {diskFault : Option DiskFault}
    {pressed : Pressed} {file : Option String}
    (hpressed : pairAndConnect libraries.base64 read json
      (Mealy.run (saveProfile json) none saves) (before ++ link ++ after) deviceName client
      unixTimeMs diskFault = (pressed, file)) :
    ∃ certificates, readCertificates certificate = .ok certificates ∧
      let pins := Pins parse sha256 trusted transport.publicEndpoint
        (certificates.1.head certificates.2)
      (∃ config, pressed.config = some config ∧ config.serverId = store'.serverId ∧
          pins config.target) ∧
        (pressed.error = none → ∀ later,
          (∀ e ∈ Mealy.trace (saveProfile json) file later,
            savedFor store'.serverId e = none) →
          ∃ profiles,
            loadProfiles json (Mealy.run (saveProfile json) file later) none = .ok profiles ∧
              (∃ profile ∈ profiles, profile.serverId = store'.serverId) ∧
              ∀ profile ∈ profiles, profile.serverId = store'.serverId →
                ∀ client, pins (profile.clientConfig client).target) := by
  obtain ⟨grant, -, hlinks⟩ := createPairingOutput_ok hcreated
  obtain ⟨hversion, hserver, -⟩ := pairingLinks_bundle hlinks
  obtain ⟨certificates, hcertificates, hpins⟩ :=
    created_pins hcreated hmode hfingerprint hparse trusted
  obtain ⟨⟨config, hconfig, hid, htarget⟩, saved, hsave, hsaved⟩ := pairAndConnect_bundle
    (link_decoded hlinks hread hlink hbefore hafter) hversion hnow hpressed
  refine ⟨certificates, hcertificates, ⟨config, hconfig, hid.trans hserver, ?_⟩, ?_⟩
  · rw [htarget]
    exact hpins
  intro hnone later hothers
  rw [← hserver] at hothers ⊢
  obtain ⟨profiles, hloads, hprofiles⟩ := profile_stays hsave (hsaved.mp hnone) hothers
  refine ⟨profiles, hloads, ⟨_, (hprofiles _ rfl).mpr rfl, rfl⟩, ?_⟩
  intro profile hmem hsame client
  rw [(hprofiles profile hsame).mp hmem]
  exact hpins

/-- What the library makes of one certificate. -/
def digestOfOne (certificate : ByteArray) : Digest :=
  if certificate = ⟨#[1]⟩ then
    ⟨[0x4b, 0xf5, 0x12, 0x2f, 0x34, 0x45, 0x54, 0xc5,
      0x3b, 0xde, 0x2e, 0xbb, 0x8c, 0xd2, 0xb7, 0xe3,
      0xd1, 0x60, 0x0a, 0xd6, 0x31, 0xc3, 0x85, 0xa5,
      0xd7, 0xcc, 0xe2, 0x3c, 0x77, 0x85, 0x45, 0x9a], rfl⟩
  else List.Vector.replicate 32 0

def readOne (_ : String) : Except TransportConfigError { cs : List ByteArray // cs ≠ [] } :=
  .ok ⟨[⟨#[1]⟩], List.cons_ne_nil _ _⟩

def pinnedLinks : Except PairingOutputError PairingOutput × Store ByteArray :=
  createPairingOutput ⟨urlSafeNoPad, certificateFingerprint readOne digestOfOne, .ok⟩
    ⟨id, fun _ => .error "", fun _ => .error "", fun _ => .error ""⟩ (.create ⟨"server"⟩)
    ⟨.v4 (0, 0, 0, 0) 8443, "wss://home/control", .pinnedSelfSigned "cert.pem" "key.pem"⟩
    "phone" ⟨true, false, false, false, false, false⟩ 0 ⟨100, ttl_ne⟩ ⟨"grant"⟩ ⟨"secret"⟩ none

def homeProfile : SavedServerProfile :=
  ⟨"OMP server", ⟨"server"⟩, "wss://home/control",
    .sha256Fingerprint "4bf5122f344554c53bde2ebb8cd2b7e3d1600ad631c385a5d7cce23c7785459a"⟩

/-- The text of a file with one profile. -/
def homeText : String :=
  "[\x7b\"name\":\"OMP server\",\"serverId\":\"server\"," ++
    "\"endpoint\":\"wss://home/control\",\"tlsIdentity\":\x7b\"type\":\"sha256_fingerprint\",\"value\":" ++
    "\"4bf5122f344554c53bde2ebb8cd2b7e3d1600ad631c385a5d7cce23c7785459a\"\x7d\x7d]"

def homeJson : ProfileJson where
  write profiles := if profiles = [homeProfile] then some homeText else none
  read encoded := if encoded = homeText then some [homeProfile] else none
  read_write h := by
    obtain ⟨rfl, htext⟩ := Option.ite_none_right_eq_some.mp h
    cases htext
    exact if_pos rfl

def parseHome (endpoint : String) : Except String Url :=
  if startsWith endpoint "wss://" then .ok ⟨"wss", some "home"⟩
  else .error "relative URL without a base"

/-- A device is paired, and later goes on with the server and no other from its file. -/
theorem pairing_pins_home :
    ∃ output store' pressed file, pinnedLinks = (.ok output, store') ∧
      pairAndConnect urlSafeNoPad (fun bytes => .ok (output.bundle, bytes.size)) homeJson none
        (" " ++ output.nativeLink ++ "\n") "phone" ⟨"OMP Remote", "0.1.0", .mobile, []⟩ 50 none =
          (pressed, file) ∧
      pressed.error = none ∧
      ∃ profiles, loadProfiles homeJson file none = .ok profiles ∧
        ∃ profile ∈ profiles, ∀ client,
          goesOn parseHome digestOfOne (fun _ _ => true) (profile.clientConfig client).target
              ⟨#[1]⟩ = true ∧
            goesOn parseHome digestOfOne (fun _ _ => true) (profile.clientConfig client).target
              ⟨#[2]⟩ = false := by
  have hbundle : pinnedLinks.1.toOption.map (fun output =>
      (output.bundle.expiresAtMs, SavedServerProfile.fromPairing output.bundle "OMP server")) =
        some (100, homeProfile) := by decide +kernel
  have hparse : ∀ endpoint url, startsWith endpoint "wss://" = true →
      parseHome endpoint = .ok url → url.scheme = "wss" := by
    intro endpoint url hstarts hurl
    rw [parseHome, if_pos hstarts] at hurl
    rw [← Except.ok.inj hurl]
  rcases hcreated : pinnedLinks with ⟨error | output, store'⟩ <;> rw [hcreated] at hbundle
  · cases hbundle
  obtain ⟨hexpires, hprofile⟩ := Prod.mk.inj (Option.some.inj hbundle)
  have hnow : (50 : UInt64) < output.bundle.expiresAtMs := by
    rw [hexpires]
    decide
  have hlink : output.nativeLink ∈ [output.nativeLink, output.browserLink] := List.mem_cons_self
  have hbefore : Text.IsBlank " " := by decide +kernel
  have hafter : Text.IsBlank "\n" := by decide +kernel
  have hread : ∀ bytes, pairingCodec.encodeValue (serialized output.bundle.cbor) = .ok bytes →
      (Except.ok (output.bundle, bytes.size) : Except String _) = .ok (output.bundle, bytes.size) :=
    fun _ _ => rfl
  rcases hpressed : pairAndConnect urlSafeNoPad (fun bytes => .ok (output.bundle, bytes.size))
    homeJson (Mealy.run (saveProfile homeJson) none []) (" " ++ output.nativeLink ++ "\n") "phone"
    ⟨"OMP Remote", "0.1.0", .mobile, []⟩ 50 none with ⟨pressed, file⟩
  obtain ⟨certificates, hcertificates, -, hlater⟩ := pairing_pins hcreated rfl
    (show _ = certificateFingerprint readOne digestOfOne from rfl) hread hparse (fun _ _ => true)
    homeJson [] hlink hbefore hafter hnow hpressed
  obtain rfl : _ = certificates := Except.ok.inj hcertificates
  -- the profile is saved
  obtain ⟨grant, -, hlinks⟩ := createPairingOutput_ok hcreated
  obtain ⟨hversion, -⟩ := pairingLinks_bundle hlinks
  obtain ⟨-, saved, hsave, hsaved⟩ := pairAndConnect_bundle
    (link_decoded hlinks hread hlink hbefore hafter) hversion hnow hpressed
  have hhome : saveProfile homeJson none ⟨homeProfile, none⟩ =
      (.ok [homeProfile], some homeText) := by
    have hplaced : placed homeProfile [] = [homeProfile] := List.mergeSort_singleton _
    have hwritten : homeJson.write [homeProfile] = some homeText :=
      show (if [homeProfile] = [homeProfile] then some homeText else none) = _ from if_pos rfl
    unfold saveProfile
    show (match homeJson.write (placed homeProfile []) with
      | none => _
      | some encoded => _) = _
    rw [hplaced, hwritten]
    rfl
  have hnone : pressed.error = none := by
    rw [hprofile] at hsave
    obtain ⟨rfl, -⟩ := Prod.mk.inj (hhome.symm.trans hsave)
    exact hsaved.mpr rfl
  refine ⟨output, store', pressed, file, rfl, hpressed, hnone, ?_⟩
  obtain ⟨profiles, hloads, ⟨profile, hmem, hserver⟩, hpins⟩ :=
    hlater hnone [] (List.forall_mem_nil _)
  refine ⟨profiles, hloads, profile, hmem, fun client => ?_⟩
  obtain ⟨-, hgoesOn⟩ := hpins profile hmem hserver client
  have hparsed : (parseHome "wss://home/control").isOk = true := by decide +kernel
  refine ⟨(hgoesOn ⟨#[1]⟩).mpr ⟨hparsed, rfl⟩, Bool.eq_false_iff.mpr fun hother => ?_⟩
  have hsame : digestOfOne ⟨#[2]⟩ = digestOfOne ⟨#[1]⟩ := ((hgoesOn ⟨#[2]⟩).mp hother).2
  exact absurd hsame (by decide +kernel)

end App

end OmpRemote

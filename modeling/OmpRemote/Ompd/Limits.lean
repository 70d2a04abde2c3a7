import OmpRemote.Client.Handshake
import OmpRemote.Ompd.Server

/-!
# Frame limits

The two ends of a connection have limits of their own. The first frame is written and
read under the smaller, pre-authentication ones; what follows under those of the
authenticated phase, which the client lowers to what the daemon advertises. The
daemon is not told the client's.

- `limits_agree_iff`: when no frame of one end is too large for the other.
- `reconnects_iff`: when the client's first frame is sent and read.
-/

namespace OmpRemote.Ompd

open Lib
open Client (ClientCommand ClientConfig ClientRunner Hello ReplicatedState)

/-! ## After the handshake -/

/-- No frame that the sender encodes is too large for the receiver, however frames are
serialized. -/
def Passes (Frame : Type) (sender receiver : CborCodec) : Prop :=
  ∀ (serializer : Frame → List ByteArray × Option String) (frame : Frame) (bytes : ByteArray),
    sender.encodeValue (serializer frame) = .ok bytes →
      ∀ message : WireMessage Frame, message.size = bytes.size →
        receiver.decodeValue message ≠ .error (.frameTooLarge receiver.maxFrameBytes)

/-- What a sender encodes is within its limit. -/
theorem passes_of_le {Frame : Type} {sender receiver : CborCodec}
    (h : sender.maxFrameBytes.1 ≤ receiver.maxFrameBytes.1) : Passes Frame sender receiver := by
  intro serializer frame bytes hencoded message hsize htooLarge
  have hlarge := CborCodec.decodeValue_tooLarge.mp htooLarge
  have hle : sender.maxFrameBytes.1.toNat ≤ receiver.maxFrameBytes.1.toNat := h
  rcases sender.encodeValue_cases (serializer frame) with
    ⟨-, hfits, bytes', hencoded', hsize'⟩ | ⟨-, -, failure, hfailed⟩ | ⟨-, hfailed⟩
  · rw [hencoded] at hencoded'
    cases hencoded'
    omega
  · rw [hencoded] at hfailed
    cases hfailed
  · rw [hencoded] at hfailed
    cases hfailed

/-- A frame of just the sender's limit is encoded. -/
theorem le_of_passes {Frame : Type} [Inhabited Frame] {sender receiver : CborCodec}
    (h : Passes Frame sender receiver) :
    sender.maxFrameBytes.1 ≤ receiver.maxFrameBytes.1 := by
  have hsize : piecesSize [⟨Array.replicate sender.maxFrameBytes.1.toNat 0⟩] =
      sender.maxFrameBytes.1.toNat := by simp [piecesSize, ByteArray.size]
  rcases sender.encodeValue_cases ([⟨Array.replicate sender.maxFrameBytes.1.toNat 0⟩], none) with
    ⟨-, -, bytes, hencoded, hbytes⟩ | ⟨error, herror, -⟩ | ⟨hlt, -⟩
  · refine Nat.not_lt.mp fun hlt => ?_
    refine h (fun _ => ([⟨Array.replicate sender.maxFrameBytes.1.toNat 0⟩], none)) default bytes
      hencoded ⟨bytes.size, .error ""⟩ rfl (CborCodec.decodeValue_tooLarge.mpr ?_)
    show _ < bytes.size
    rw [hbytes, hsize]
    exact hlt
  · cases herror
  · exact absurd hlt (by rw [hsize]; exact Nat.lt_irrefl _)

/-- The codec that the daemon writes and reads with after authentication; its socket
reads messages of that size too. -/
def daemonCodec (config : ServerSessionConfig) : CborCodec :=
  config.frameLimits.codec .authenticated

variable {δ : Type}

/-- No frame of an authenticated connection is too large for the end that reads it: not
the welcome for the client, nor, under the codec that the client derives from the
welcome, a later frame for either. -/
structure LimitsAgree (δ : Type) (config : ServerSessionConfig) (client : ClientConfig) : Prop where
  welcome : Passes ServerFrame (daemonCodec config) (client.frameLimits.codec .authenticated)
  later : ∀ (daemon : Daemon δ) hello version authenticated connectionId authentication saved
    message position welcome issued codec,
    message.parsed =
      .ok (.welcome (Server.welcome config daemon hello version authenticated connectionId),
        position) →
    client.handshake authentication saved message = .ok (welcome, issued, codec) →
      Passes ServerFrame (daemonCodec config) codec ∧ Passes ClientFrame codec (daemonCodec config)

theorem toNat_min (a b : UInt32) : (min a b).toNat = min a.toNat b.toNat := by
  show (if a ≤ b then a else b).toNat = _
  split
  · rename_i h
    exact (Nat.min_eq_left h).symm
  · rename_i h
    exact (Nat.min_eq_right (Nat.le_of_lt (Nat.not_le.mp h))).symm

/-- The client's codec after a welcome that advertises a limit. -/
theorem handshake_codec {client : ClientConfig} {authentication : ClientAuthentication}
    {saved : Except String Unit} {message : WireMessage ServerFrame} {position : Nat}
    {sent welcome : ServerWelcome} {issued : Option DeviceCredential} {codec : CborCodec}
    (hparsed : message.parsed = .ok (.welcome sent, position))
    (h : client.handshake authentication saved message = .ok (welcome, issued, codec)) :
    codec.maxFrameBytes.1.toNat =
      min sent.capabilities.maxFrameBytes.toNat client.frameLimits.postAuth.1.toNat := by
  unfold ClientConfig.handshake at h
  split at h
  · cases h
  · rename_i received hdecoded
    -- what is decoded is what the message holds
    have hsame : received = sent := by
      unfold CborCodec.decodeValue at hdecoded
      rw [hparsed] at hdecoded
      split at hdecoded
      · cases hdecoded
      · dsimp only at hdecoded
        split at hdecoded
        · cases hdecoded
        · cases hdecoded
          rfl
    subst hsame
    split at h
    · cases h
    split at h
    · cases h
    cases haccepted : client.acceptCredential authentication received saved with
    | error error =>
      rw [haccepted] at h
      cases h
    | ok credential =>
      cases hnegotiated : client.negotiated received with
      | error error =>
        rw [haccepted, hnegotiated] at h
        cases h
      | ok negotiated =>
        rw [haccepted, hnegotiated] at h
        cases h
        unfold ClientConfig.negotiated at hnegotiated
        dsimp only at hnegotiated
        split at hnegotiated
        · cases hnegotiated
          exact toNat_min _ _
        · cases hnegotiated
  · cases h

instance : Inhabited ServerFrame := ⟨.pong 0⟩

/-- **The limits after the handshake.** For every configuration of the daemon and of the
client: no frame that one end encodes on an authenticated connection is too large for
the other, the welcome included, if and only if the daemon's limit is at most the
client's. -/
theorem limits_agree_iff (δ : Type) (config : ServerSessionConfig) (client : ClientConfig) :
    LimitsAgree δ config client ↔
      config.frameLimits.postAuth.1 ≤ client.frameLimits.postAuth.1 := by
  constructor
  · intro h
    exact le_of_passes h.welcome
  · intro h
    refine ⟨passes_of_le h, ?_⟩
    intro daemon hello version authenticated connectionId authentication saved message position
      welcome issued codec hparsed hhandshake
    have hcodec := handshake_codec hparsed hhandshake
    have hsame : codec.maxFrameBytes.1.toNat = config.frameLimits.postAuth.1.toNat :=
      hcodec.trans (Nat.min_eq_left h)
    exact ⟨passes_of_le (Nat.le_of_eq hsame.symm), passes_of_le (Nat.le_of_eq hsame)⟩

/-- What the client sends is never too large for the daemon. -/
theorem client_passes {config : ServerSessionConfig} {client : ClientConfig} {daemon : Daemon δ}
    {hello : ClientHello} {version : ProtocolVersion} {authenticated : Authenticated}
    {connectionId : ConnectionId} {authentication : ClientAuthentication}
    {saved : Except String Unit} {message : WireMessage ServerFrame} {position : Nat}
    {welcome : ServerWelcome} {issued : Option DeviceCredential} {codec : CborCodec}
    (hparsed : message.parsed =
      .ok (.welcome (Server.welcome config daemon hello version authenticated connectionId),
        position))
    (h : client.handshake authentication saved message = .ok (welcome, issued, codec)) :
    Passes ClientFrame codec (daemonCodec config) :=
  passes_of_le (Nat.le_trans (Nat.le_of_eq (handshake_codec hparsed h)) (Nat.min_le_left _ _))

/-- A daemon with the default limits. -/
def defaultConfig : ServerSessionConfig := ⟨.default, 64, 15000, fun _ => ([], none)⟩

theorem sixteenKiB_ne : (16 * 1024 : UInt32) ≠ 0 := by decide

/-- A client that never reads more than 16 KiB. -/
def smallClient : ClientConfig :=
  ⟨⟨"server"⟩, ⟨"client", "1", .mobile, []⟩,
    ⟨⟨16 * 1024, sixteenKiB_ne⟩, ⟨16 * 1024, sixteenKiB_ne⟩, by decide⟩⟩

def longError (n : Nat) : ProtocolError := ⟨"omp_error", letters n, false⟩

theorem size_longError (n : Nat) :
    piecesSize (errorFrame (longError n)).pieces = 55 + Cbor.headSize n + n := by
  have hcode : Cbor.textSize "omp_error" = 10 := by decide +kernel
  have hsize := size_errorFrame (longError n)
  rw [longError, hcode, Cbor.textSize, utf8ByteSize_letters] at hsize
  refine (Cbor.total_pieces _).trans (hsize.trans ?_)
  omega

/-- An error frame with a text of 20000 letters. -/
theorem long_error_refused : ¬ LimitsAgree ByteArray defaultConfig smallClient := by
  intro h
  have hsize : piecesSize (errorFrame (longError 20000)).pieces = 20058 := size_longError 20000
  rcases (daemonCodec defaultConfig).encodeValue_cases (serialized (errorFrame (longError 20000)))
    with ⟨-, -, bytes, hencoded, hbytes⟩ | ⟨error, herror, -⟩ | ⟨hlt, -⟩
  · refine h.welcome (fun _ => serialized (errorFrame (longError 20000)))
      (.error (longError 20000)) bytes hencoded ⟨bytes.size, .error ""⟩ rfl
        (CborCodec.decodeValue_tooLarge.mpr ?_)
    rw [hbytes]
    exact Nat.lt_of_lt_of_eq (by decide : 16384 < 20058) hsize.symm
  · cases herror
  · exact absurd (Nat.lt_of_lt_of_eq hlt hsize) (by decide)

/-! ## The first frame -/

/-- The size of the frame `Hello` of a client with these cursors. -/
def helloSize (client : ClientConfig) (authentication : ClientAuthentication)
    (cursors : List SubscriptionCursor) : Nat :=
  85 + client.client.cbor.size + authentication.cbor.size + Cbor.headSize cursors.length +
    (cursors.map fun cursor => 32 + Cbor.textSize cursor.agentId.text +
      Cbor.headSize cursor.revision.toNat + Cbor.headSize cursor.eventSequence.toNat).sum

/-- The client's first frame is encoded, and the daemon reads the hello in it. -/
def Reconnects (runner : ClientRunner) (client : ClientConfig) (config : ServerSessionConfig)
    (authentication : ClientAuthentication) : Prop :=
  ∃ bytes, runner.encodeHello client authentication = .ok bytes ∧
    firstHello config (.binary
      ⟨bytes.size, .ok (.hello (runner.hello client authentication).clientHello, bytes.size)⟩) =
        some ((runner.hello client authentication).clientHello, 1)

theorem size_hello (runner : ClientRunner) (client : ClientConfig)
    (authentication : ClientAuthentication) :
    (runner.hello client authentication).cbor.size =
      helloSize client authentication runner.resumeCursors := by
  have htype : Cbor.textSize "type" = 5 := by decide +kernel
  have hhello : Cbor.textSize "hello" = 6 := by decide +kernel
  have hpayload : Cbor.textSize "payload" = 8 := by decide +kernel
  have hversions : Cbor.textSize "supportedVersions" = 18 := by decide +kernel
  have hclient : Cbor.textSize "client" = 7 := by decide +kernel
  have hauthentication : Cbor.textSize "authentication" = 15 := by decide +kernel
  have hresume : Cbor.textSize "resume" = 7 := by decide +kernel
  have hsubscriptions : Cbor.textSize "subscriptions" = 14 := by decide +kernel
  simp only [Hello.cbor, ClientRunner.hello, adjacentlyTagged, Cbor.size, Cbor.sizeOfEntries,
    Cbor.sizeOfItems_map, htype, hhello, hpayload, hversions, hclient, hauthentication, hresume,
    hsubscriptions, SubscriptionCursor.size_cbor, helloSize, List.length_map, List.map_cons,
    List.map_nil, List.length_cons, List.length_nil]
  have hone : Cbor.headSize (0 + 1) = 1 := rfl
  have htwo : Cbor.headSize (0 + 1 + 1) = 1 := rfl
  have hfour : Cbor.headSize (0 + 1 + 1 + 1 + 1) = 1 := rfl
  have hversion : Cbor.sizeOfItems [.uint (UInt16.toUInt64 1)] = 1 := rfl
  rw [hone, htwo, hfour, hversion]
  omega

/-- **The first frame of a reconnection.** For every state of the client and any limits
of the two ends: the hello is encoded and read if and only if its size, which grows with
each desired subscription that has a cursor, is within both pre-authentication
limits. -/
theorem reconnects_iff (runner : ClientRunner) (client : ClientConfig)
    (config : ServerSessionConfig) (authentication : ClientAuthentication) :
    Reconnects runner client config authentication ↔
      helloSize client authentication
          (runner.desiredSubscriptions.filterMap runner.state.cursor) ≤
        min client.frameLimits.preAuth.1.toNat config.frameLimits.preAuth.1.toNat := by
  have hsize : piecesSize (runner.hello client authentication).cbor.pieces =
      helloSize client authentication
        (runner.desiredSubscriptions.filterMap runner.state.cursor) :=
    (Cbor.total_pieces _).trans (size_hello runner client authentication)
  rw [← hsize, Nat.le_min]
  constructor
  · rintro ⟨bytes, hencoded, hread⟩
    rcases (client.frameLimits.codec .preAuth).encodeValue_cases
        (serialized (runner.hello client authentication).cbor) with
      ⟨-, hfits, bytes', hencoded', hbytes⟩ | ⟨error, herror, -⟩ | ⟨-, hfailed⟩
    · cases hencoded.symm.trans hencoded'
      refine ⟨hfits, Nat.not_lt.mp fun hlarge => ?_⟩
      -- a message beyond the daemon's limit is not looked at
      have hlarge : bytes.size > config.frameLimits.preAuth.1.toNat := by rwa [hbytes]
      rw [firstHello, if_pos hlarge] at hread
      cases hread
    · cases herror
    · cases hencoded.symm.trans hfailed
  · rintro ⟨hclient, hserver⟩
    rcases (client.frameLimits.codec .preAuth).encodeValue_cases
        (serialized (runner.hello client authentication).cbor) with
      ⟨-, -, bytes, hencoded, hbytes⟩ | ⟨error, herror, -⟩ | ⟨hlarge, -⟩
    · refine ⟨bytes, hencoded, ?_⟩
      have hfits : ¬ bytes.size > config.frameLimits.preAuth.1.toNat := by
        rw [hbytes]
        exact Nat.not_lt.mpr hserver
      have hcodec : ¬ bytes.size >
          (config.frameLimits.codec .preAuth).maxFrameBytes.1.toNat := hfits
      simp only [firstHello, if_neg hfits, CborCodec.decode, if_neg hcodec, ne_eq,
        not_true_eq_false, if_false, negotiateClientHello]
      rfl
    · cases herror
    · exact absurd hclient (Nat.not_le.mpr hlarge)

/-- A client subscribes to an agent and has its snapshot when the connection is lost. -/
def subscribing (agentId : AgentId) : List ClientRunner.Input :=
  [.command (.subscribe agentId), .take true, .welcome, .initializeConnection true,
    .initializeConnection true, .frame (.snapshot ⟨[.initial agentId]⟩) true, .lose]

theorem subscribing_cursors (agentId : AgentId) :
    (run ClientRunner.step (.new "") (subscribing agentId)).desiredSubscriptions.filterMap
        (run ClientRunner.step (.new "") (subscribing agentId)).state.cursor =
      [⟨agentId, 0, 0⟩] := by
  simp [subscribing, run, ClientRunner.step, ClientRunner.new, ClientRunner.listening,
    ClientRunner.call, ClientRunner.take, ClientRunner.handleOfflineCommand,
    ClientRunner.subscribe, ClientCommand.ticket?, ClientRunner.handleServerFrame,
    ReplicatedState.apply, ReplicatedState.applySnapshot, ReplicatedState.adopt,
    ClientRunner.disconnected, ClientRunner.markPendingDisconnected, ReplicatedState.cursor,
    AgentSnapshot.initial, ReplicatedState.default, ClientRunner.resubscribes, Table.empty]

/-- A client with the default limits and its cursor for an agent with a long id. -/
theorem not_reconnects (n : Nat) (hlong : 16384 ≤ n) :
    ¬ Reconnects (run ClientRunner.step (.new "") (subscribing ⟨letters n⟩))
      ⟨⟨"server"⟩, ⟨"client", "1", .mobile, []⟩, .default⟩ defaultConfig
      (.device ⟨"device"⟩ ⟨"token"⟩) := by
  rintro ⟨bytes, hencoded, -⟩
  have hsize := size_hello (run ClientRunner.step (.new "") (subscribing ⟨letters n⟩))
    ⟨⟨"server"⟩, ⟨"client", "1", .mobile, []⟩, .default⟩ (.device ⟨"device"⟩ ⟨"token"⟩)
  rw [ClientRunner.resumeCursors, subscribing_cursors, helloSize] at hsize
  simp only [List.map_cons, List.map_nil, List.sum_cons, List.sum_nil, Cbor.textSize,
    utf8ByteSize_letters] at hsize
  have hfits := encodeValue_cbor.mp (congrArg Except.isOk hencoded)
  rw [hsize] at hfits
  have hlimit : (FrameLimits.default.codec .preAuth).maxFrameBytes.1.toNat = 16384 := rfl
  rw [hlimit] at hfits
  omega

/-- An agent id of 16384 letters. -/
theorem long_subscription_refused :
    ¬ Reconnects (run ClientRunner.step (.new "") (subscribing ⟨letters 16384⟩))
      ⟨⟨"server"⟩, ⟨"client", "1", .mobile, []⟩, .default⟩ defaultConfig
      (.device ⟨"device"⟩ ⟨"token"⟩) :=
  not_reconnects 16384 (Nat.le_refl _)

end OmpRemote.Ompd

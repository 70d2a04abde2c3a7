import OmpRemote.Client.Handshake
import OmpRemote.Protocol.RequestCbor

/-!
# The CBOR of the client's frames

A frame is a map of its type and its payload. Together with `ControlRequest.cbor` this is
everything that a client ever writes.

- `WrittenFrame.cbor`.
- `frames_unambiguous`: the bytes of a frame are those of no other, nor the start of another's.
-/

namespace OmpRemote.Client

open Lib Rpc

/-- A frame as the client writes it, with the hello whole. -/
inductive WrittenFrame where
  | hello (hello : Hello)
  | request (envelope : RequestEnvelope)
  | subscribe (request : SubscribeRequest)
  | unsubscribe (agentId : AgentId)
  | uiResponse (envelope : UiResponseEnvelope)
  | ping (nonce : UInt64)

/-- `RequestEnvelope`. -/
def envelopeCbor (image : ImageContent → CborItem) (envelope : RequestEnvelope) : CborItem :=
  .map (("requestId", .text envelope.requestId.text) ::
    (optionalField "operationId" (envelope.operationId.map fun operationId =>
      .text operationId.text) ++ [("request", envelope.request.cbor image)]))

def subscribeCbor (request : SubscribeRequest) : CborItem :=
  .map (("agentId", .text request.agentId.text) ::
    optionalField "cursor" (request.cursor.map fun cursor => cursor.cbor.item))

def uiResponseCbor (envelope : UiResponseEnvelope) : CborItem :=
  .map [("agentId", .text envelope.agentId.text), ("requestId", .text envelope.requestId.text),
    ("operationId", .text envelope.operationId.text), ("holder", .text envelope.holder.text),
    ("response", envelope.response.cbor)]

namespace WrittenFrame

def frameCbor (variant : String) (payload : CborItem) : CborItem :=
  .map [("type", .text variant), ("payload", payload)]

def cbor (image : ImageContent → CborItem) : WrittenFrame → CborItem
  | .hello greeting => greeting.cbor.item
  | .request envelope => frameCbor "request" (envelopeCbor image envelope)
  | .subscribe subscription => frameCbor "subscribe" (subscribeCbor subscription)
  | .unsubscribe agentId => frameCbor "unsubscribe" (.map [("agentId", .text agentId.text)])
  | .uiResponse envelope => frameCbor "ui_response" (uiResponseCbor envelope)
  | .ping nonce => frameCbor "ping" (.map [("nonce", .uint nonce)])

end WrittenFrame

/-! ## Different values -/

theorem cursor_cbor_injective : Function.Injective SubscriptionCursor.cbor := by
  rintro ⟨⟨agentId⟩, revision, eventSequence⟩ ⟨⟨agentId'⟩, revision', eventSequence'⟩ h
  simp only [SubscriptionCursor.cbor, Cbor.map.injEq, List.cons.injEq, Prod.mk.injEq,
    Cbor.text.injEq, Cbor.uint.injEq, true_and, and_true] at h
  obtain ⟨rfl, rfl, rfl⟩ := h
  rfl

theorem platform_text_injective : Function.Injective ClientPlatform.text := by
  intro platform platform' h
  cases platform <;> cases platform' <;> first | rfl | simp [ClientPlatform.text] at h

theorem descriptor_cbor_injective : Function.Injective DeviceDescriptor.cbor := by
  rintro ⟨name, platform⟩ ⟨name', platform'⟩ h
  simp only [DeviceDescriptor.cbor, Cbor.map.injEq, List.cons.injEq, Prod.mk.injEq,
    Cbor.text.injEq, true_and, and_true] at h
  obtain ⟨rfl, hplatform⟩ := h
  rw [platform_text_injective hplatform]

theorem authentication_cbor_injective : Function.Injective ClientAuthentication.cbor := by
  intro authentication authentication' h
  cases authentication with
  | pair pairingId secret device =>
    cases authentication' with
    | pair pairingId' secret' device' =>
      obtain ⟨pairingId⟩ := pairingId
      obtain ⟨pairingId'⟩ := pairingId'
      obtain ⟨secret⟩ := secret
      obtain ⟨secret'⟩ := secret'
      simp only [ClientAuthentication.cbor, Cbor.map.injEq, List.cons.injEq, Prod.mk.injEq,
        Cbor.text.injEq, true_and, and_true] at h
      obtain ⟨rfl, rfl, hdevice⟩ := h
      rw [descriptor_cbor_injective hdevice]
    | device deviceId token => simp [ClientAuthentication.cbor] at h
  | device deviceId token =>
    cases authentication' with
    | pair pairingId' secret' device' => simp [ClientAuthentication.cbor] at h
    | device deviceId' token' =>
      obtain ⟨deviceId⟩ := deviceId
      obtain ⟨deviceId'⟩ := deviceId'
      obtain ⟨token⟩ := token
      obtain ⟨token'⟩ := token'
      simp only [ClientAuthentication.cbor, Cbor.map.injEq, List.cons.injEq, Prod.mk.injEq,
        Cbor.text.injEq, true_and, and_true] at h
      obtain ⟨rfl, rfl⟩ := h
      rfl

theorem client_cbor_injective : Function.Injective ClientDescriptor.cbor := by
  rintro ⟨name, version, platform, capabilities⟩ ⟨name', version', platform', capabilities'⟩ h
  simp only [ClientDescriptor.cbor, Cbor.map.injEq, List.cons.injEq, Prod.mk.injEq,
    Cbor.text.injEq, Cbor.array.injEq, true_and, and_true] at h
  obtain ⟨rfl, rfl, hplatform, hcapabilities⟩ := h
  have htext : Function.Injective Cbor.text := fun a b hab => Cbor.text.inj hab
  rw [platform_text_injective hplatform, List.map_injective_iff.mpr htext hcapabilities]

theorem hello_cbor_injective : Function.Injective Hello.cbor := by
  rintro ⟨versions, client, authentication, subscriptions⟩
    ⟨versions', client', authentication', subscriptions'⟩ h
  simp only [Hello.cbor, adjacentlyTagged, Cbor.map.injEq, List.cons.injEq, Prod.mk.injEq,
    Cbor.array.injEq, true_and, and_true] at h
  obtain ⟨hversions, hclient, hauthentication, hsubscriptions⟩ := h
  have hversion : Function.Injective fun version : ProtocolVersion =>
      Cbor.uint version.toUInt64 := by
    intro version version' hsame
    have hnat := congrArg UInt64.toNat (Cbor.uint.inj hsame)
    rw [UInt16.toNat_toUInt64, UInt16.toNat_toUInt64] at hnat
    exact UInt16.toNat_inj.mp hnat
  rw [List.map_injective_iff.mpr hversion hversions, client_cbor_injective hclient,
    authentication_cbor_injective hauthentication,
    List.map_injective_iff.mpr cursor_cbor_injective hsubscriptions]

section

variable {image : ImageContent → CborItem}

theorem envelopeCbor_injective (himage : Function.Injective image) :
    Function.Injective (envelopeCbor image) := by
  rintro ⟨⟨requestId⟩, operationId, request⟩ ⟨⟨requestId'⟩, operationId', request'⟩ h
  simp only [envelopeCbor, CborItem.map.injEq, List.cons.injEq, Prod.mk.injEq,
    CborItem.text.injEq, true_and] at h
  obtain ⟨rfl, hfields⟩ := h
  have hother : ∀ request : ControlRequest, ∀ entry ∈ [("request", request.cbor image)],
      entry.1 ≠ "operationId" := by
    intro request entry hmem
    rw [List.mem_singleton.mp hmem]
    show "request" ≠ "operationId"
    decide
  obtain ⟨hoperation, hrequest⟩ :=
    optionalField_append_inj (hother request) (hother request') hfields
  have htext : Function.Injective fun operationId : OperationId =>
      CborItem.text operationId.text := by
    rintro ⟨text⟩ ⟨text'⟩ hsame
    cases CborItem.text.inj hsame
    rfl
  simp only [List.cons.injEq, Prod.mk.injEq, true_and, and_true] at hrequest
  rw [Option.map_injective htext hoperation, ControlRequest.cbor_injective himage hrequest]

theorem subscribeCbor_injective : Function.Injective subscribeCbor := by
  rintro ⟨⟨agentId⟩, cursor⟩ ⟨⟨agentId'⟩, cursor'⟩ h
  simp only [subscribeCbor, CborItem.map.injEq, List.cons.injEq, Prod.mk.injEq,
    CborItem.text.injEq, true_and] at h
  obtain ⟨rfl, hcursor⟩ := h
  have hitem : Function.Injective fun cursor : SubscriptionCursor => cursor.cbor.item :=
    fun a b hab => cursor_cbor_injective (Cbor.item_inj _ _ hab)
  rw [Option.map_injective hitem (optionalField_inj hcursor)]

theorem uiResponseCbor_injective : Function.Injective uiResponseCbor := by
  rintro ⟨⟨agentId⟩, ⟨requestId⟩, ⟨operationId⟩, ⟨holder⟩, response⟩
    ⟨⟨agentId'⟩, ⟨requestId'⟩, ⟨operationId'⟩, ⟨holder'⟩, response'⟩ h
  simp only [uiResponseCbor, CborItem.map.injEq, List.cons.injEq, Prod.mk.injEq,
    CborItem.text.injEq, true_and, and_true] at h
  obtain ⟨rfl, rfl, rfl, rfl, hresponse⟩ := h
  rw [ExtensionUiResponseFrame.cbor_injective hresponse]

namespace WrittenFrame

def variant : WrittenFrame → String
  | hello _ => "hello"
  | request _ => "request"
  | subscribe _ => "subscribe"
  | unsubscribe _ => "unsubscribe"
  | uiResponse _ => "ui_response"
  | ping _ => "ping"

theorem cbor_eq (image : ImageContent → CborItem) (frame : WrittenFrame) :
    ∃ payload, frame.cbor image = frameCbor frame.variant payload := by
  cases frame <;> exact ⟨_, rfl⟩

theorem frameCbor_inj {variant variant' : String} {payload payload' : CborItem}
    (h : frameCbor variant payload = frameCbor variant' payload') :
    variant = variant' ∧ payload = payload' := by
  simpa [frameCbor] using h

/-- A frame has one type, with a payload of its own. -/
theorem cbor_injective (himage : Function.Injective image) :
    Function.Injective (WrittenFrame.cbor image) := by
  intro frame frame' h
  have hvariant : frame.variant = frame'.variant := by
    obtain ⟨payload, hframe⟩ := frame.cbor_eq image
    obtain ⟨payload', hframe'⟩ := frame'.cbor_eq image
    rw [hframe, hframe'] at h
    exact (frameCbor_inj h).1
  cases frame <;> cases frame' <;> first
    | (simp [variant] at hvariant; done)
    | skip
  case hello.hello hello hello' => rw [hello_cbor_injective (Cbor.item_inj _ _ h)]
  case request.request envelope envelope' =>
    rw [envelopeCbor_injective himage (frameCbor_inj h).2]
  case subscribe.subscribe request request' => rw [subscribeCbor_injective (frameCbor_inj h).2]
  case unsubscribe.unsubscribe agentId agentId' =>
    have hpayload := (frameCbor_inj h).2
    simp only [CborItem.map.injEq, List.cons.injEq, Prod.mk.injEq, CborItem.text.injEq,
      AgentId.text_inj, true_and, and_true] at hpayload
    rw [hpayload]
  case uiResponse.uiResponse envelope envelope' => rw [uiResponseCbor_injective (frameCbor_inj h).2]
  case ping.ping nonce nonce' =>
    have hpayload := (frameCbor_inj h).2
    simp only [CborItem.map.injEq, List.cons.injEq, Prod.mk.injEq, CborItem.uint.injEq, true_and,
      and_true] at hpayload
    rw [hpayload]

end WrittenFrame

end

/-- **The bytes of a client's frame are those of no other frame, nor the start of another's**,
whatever the limits on the two are. -/
theorem frames_unambiguous {image : ImageContent → CborItem} (himage : Function.Injective image)
    (codec codec' : CborCodec) (frame frame' : WrittenFrame) {bytes rest : ByteArray}
    (h : codec.encodeValue ((frame.cbor image).pieces, none) = .ok bytes)
    (h' : codec'.encodeValue ((frame'.cbor image).pieces, none) = .ok (bytes ++ rest)) :
    frame = frame' ∧ rest = .empty := by
  obtain ⟨hcbor, hrest⟩ := CborCodec.encode_item_inj h h'
  exact ⟨WrittenFrame.cbor_injective himage hcbor, hrest⟩

/-- A ping, under two limits. -/
theorem frames_unambiguous_ping : ∃ bytes : ByteArray,
    (⟨⟨100, by decide⟩⟩ : CborCodec).encodeValue
        ((WrittenFrame.cbor .text (.ping 7)).pieces, none) = .ok bytes ∧
      (FrameLimits.default.codec .authenticated).encodeValue
        ((WrittenFrame.cbor .text (.ping 7)).pieces, none) = .ok (bytes ++ .empty) ∧
      WrittenFrame.ping 7 = .ping 7 ∧ ByteArray.empty = .empty := by
  have himage : Function.Injective (CborItem.text : ImageContent → CborItem) :=
    fun a b h => CborItem.text.inj h
  have hencoded : ∀ codec : CborCodec, 100 ≤ codec.maxFrameBytes.1.toNat →
      codec.encodeValue ((WrittenFrame.cbor .text (.ping 7)).pieces, none) =
        .ok (joined (WrittenFrame.cbor .text (.ping 7)).pieces) := by
    intro codec hle
    have hsize : piecesSize (WrittenFrame.cbor .text (.ping 7)).pieces ≤ 100 := by decide +kernel
    rw [CborCodec.encodeValue_eq, if_pos (Nat.le_trans hsize hle)]
    rfl
  have hlarge : 100 ≤ (FrameLimits.default.codec .authenticated).maxFrameBytes.1.toNat := by
    decide +kernel
  have hsmall := hencoded ⟨⟨100, by decide⟩⟩ (Nat.le_refl _)
  have hagain := hencoded _ hlarge
  rw [← ByteArray.append_empty (b := joined _)] at hagain
  exact ⟨_, hsmall, hagain, frames_unambiguous himage _ _ _ _ hsmall hagain⟩

end OmpRemote.Client

import OmpRemote.Lib.CborItem
import OmpRemote.Protocol.Codec

/-!
# The CBOR of requests

What serde and ciborium make of a request: a map of its action and its fields, without
those that are left out when empty. The answer to an interaction is flattened into the frame
around it, whose map is open therefore.

- `ControlRequest.cbor`; what is written for an image is a parameter.
- `ControlRequest.cbor_injective`, `CborCodec.encode_item_inj`: requests that are encoded alike
  are the same.
-/

namespace OmpRemote

open Lib Rpc

/-! ## Fields -/

/-- A field that is left out if there is nothing in it. -/
def optionalField (key : String) : Option CborItem → List (String × CborItem)
  | none => []
  | some value => [(key, value)]

/-- Fields in their order, the optional ones first, can be told apart by their names. -/
theorem optionalField_append_inj {key : String} {value value' : Option CborItem}
    {rest rest' : List (String × CborItem)} (hrest : ∀ entry ∈ rest, entry.1 ≠ key)
    (hrest' : ∀ entry ∈ rest', entry.1 ≠ key)
    (h : optionalField key value ++ rest = optionalField key value' ++ rest') :
    value = value' ∧ rest = rest' := by
  cases value with
  | none =>
    cases value' with
    | none => exact ⟨rfl, h⟩
    | some value' =>
      have hmem : (key, value') ∈ rest := by
        have hcons : rest = (key, value') :: rest' := h
        rw [hcons]
        exact List.mem_cons_self
      exact absurd rfl (hrest _ hmem)
  | some value =>
    cases value' with
    | none =>
      have hmem : (key, value) ∈ rest' := by
        have hcons : (key, value) :: rest = rest' := h
        rw [← hcons]
        exact List.mem_cons_self
      exact absurd rfl (hrest' _ hmem)
    | some value' =>
      obtain ⟨hvalue, hsame⟩ := List.cons.inj h
      cases hvalue
      exact ⟨rfl, hsame⟩

theorem optionalField_inj {key : String} {value value' : Option CborItem}
    (h : optionalField key value = optionalField key value') : value = value' := by
  have happend : optionalField key value ++ [] = optionalField key value' ++ [] := by
    rw [List.append_nil, List.append_nil, h]
  have hnone : ∀ entry ∈ ([] : List (String × CborItem)), entry.1 ≠ key :=
    fun _ hmem => absurd hmem List.not_mem_nil
  exact (optionalField_append_inj hnone hnone happend).1

/-! ## Requests -/

def StreamingBehavior.text : StreamingBehavior → String
  | steer => "steer"
  | followUp => "followUp"

theorem StreamingBehavior.text_injective : Function.Injective StreamingBehavior.text := by
  intro behavior behavior' h
  cases behavior <;> cases behavior' <;> first | rfl | simp [text] at h

def Rpc.ExtensionUiResponse.fields : ExtensionUiResponse → List (String × CborItem)
  | .value text => [("value", .text text)]
  | .confirmed answer => [("confirmed", .bool answer)]
  | .cancelled timedOut =>
    ("cancelled", .bool true) :: optionalField "timedOut" (timedOut.map .bool)

def Rpc.ExtensionUiResponseFrame.cbor (frame : ExtensionUiResponseFrame) : CborItem :=
  .openMap (("type", .text "extension_ui_response") :: ("id", .text frame.id) ::
    frame.response.fields)

section

variable (image : ImageContent → CborItem)

def imagesField (images : List ImageContent) : List (String × CborItem) :=
  optionalField "images" (if images = [] then none else some (.array (images.map image)))

def ControlRequest.action : ControlRequest → String
  | listAgents => "list_agents"
  | getAgent .. => "get_agent"
  | listDevices => "list_devices"
  | revokeDevice .. => "revoke_device"
  | launchAgent .. => "launch_agent"
  | stopAgent .. => "stop_agent"
  | prompt .. => "prompt"
  | steer .. => "steer"
  | followUp .. => "follow_up"
  | abort .. => "abort"
  | switchSession .. => "switch_session"
  | respondToUi .. => "respond_to_ui"
  | acquireInteractionLease .. => "acquire_interaction_lease"
  | releaseInteractionLease .. => "release_interaction_lease"

def ControlRequest.fields : ControlRequest → List (String × CborItem)
  | listAgents | listDevices => []
  | getAgent agentId | launchAgent agentId | stopAgent agentId | abort agentId =>
    [("agent_id", .text agentId.text)]
  | revokeDevice deviceId => [("device_id", .text deviceId.text)]
  | prompt agentId message images streamingBehavior =>
    ("agent_id", .text agentId.text) :: ("message", .text message) ::
      (imagesField image images ++ optionalField "streaming_behavior"
        (streamingBehavior.map fun behavior => .text behavior.text))
  | steer agentId message images | followUp agentId message images =>
    ("agent_id", .text agentId.text) :: ("message", .text message) :: imagesField image images
  | switchSession agentId sessionPath =>
    [("agent_id", .text agentId.text), ("session_path", .text sessionPath)]
  | respondToUi agentId holder response =>
    [("agent_id", .text agentId.text), ("holder", .text holder.text), ("response", response.cbor)]
  | acquireInteractionLease agentId holder ttlMs =>
    [("agent_id", .text agentId.text), ("holder", .text holder.text), ("ttl_ms", .uint ttlMs.1)]
  | releaseInteractionLease agentId holder =>
    [("agent_id", .text agentId.text), ("holder", .text holder.text)]

def ControlRequest.cbor (request : ControlRequest) : CborItem :=
  .map (("action", .text request.action) :: request.fields image)

end

/-! ## Different requests -/

theorem AgentId.text_inj {agentId agentId' : AgentId} :
    agentId.text = agentId'.text ↔ agentId = agentId' := by
  cases agentId
  cases agentId'
  exact (AgentId.mk.injEq _ _).symm.to_iff

theorem DeviceId.text_inj {deviceId deviceId' : DeviceId} :
    deviceId.text = deviceId'.text ↔ deviceId = deviceId' := by
  cases deviceId
  cases deviceId'
  exact (DeviceId.mk.injEq _ _).symm.to_iff

theorem LeaseHolderId.text_inj {holder holder' : LeaseHolderId} :
    holder.text = holder'.text ↔ holder = holder' := by
  cases holder
  cases holder'
  exact (LeaseHolderId.mk.injEq _ _).symm.to_iff

theorem Rpc.ExtensionUiResponse.fields_injective :
    Function.Injective ExtensionUiResponse.fields := by
  intro response response' h
  cases response with
  | value text =>
    cases response' with
    | value text' =>
      simp only [fields, List.cons.injEq, Prod.mk.injEq, CborItem.text.injEq, true_and,
        and_true] at h
      rw [h]
    | confirmed answer' => simp [fields] at h
    | cancelled timedOut' => simp [fields] at h
  | confirmed answer =>
    cases response' with
    | confirmed answer' =>
      simp only [fields, List.cons.injEq, Prod.mk.injEq, CborItem.bool.injEq, true_and,
        and_true] at h
      rw [h]
    | value text' => simp [fields] at h
    | cancelled timedOut' => simp [fields] at h
  | cancelled timedOut =>
    cases response' with
    | cancelled timedOut' =>
      have hvalue := optionalField_inj (List.cons.inj h).2
      have hinjective : Function.Injective CborItem.bool := fun a b hab => by cases hab; rfl
      rw [Option.map_injective hinjective hvalue]
    | value text' => simp [fields] at h
    | confirmed answer' => simp [fields] at h

theorem Rpc.ExtensionUiResponseFrame.cbor_injective :
    Function.Injective ExtensionUiResponseFrame.cbor := by
  rintro ⟨id, response⟩ ⟨id', response'⟩ h
  simp only [cbor, CborItem.openMap.injEq, List.cons.injEq, Prod.mk.injEq, CborItem.text.injEq,
    true_and] at h
  obtain ⟨rfl, hfields⟩ := h
  rw [ExtensionUiResponse.fields_injective hfields]

section

variable {image : ImageContent → CborItem}

theorem images_inj (himage : Function.Injective image) {images images' : List ImageContent}
    (h : (if images = [] then none else some (CborItem.array (images.map image))) =
      if images' = [] then none else some (CborItem.array (images'.map image))) :
    images = images' := by
  by_cases hempty : images = []
  · by_cases hempty' : images' = []
    · rw [hempty, hempty']
    · rw [if_pos hempty, if_neg hempty'] at h
      cases h
  · by_cases hempty' : images' = []
    · rw [if_neg hempty, if_pos hempty'] at h
      cases h
    · rw [if_neg hempty, if_neg hempty', Option.some.injEq, CborItem.array.injEq] at h
      exact List.map_injective_iff.mpr himage h

theorem imagesField_inj (himage : Function.Injective image) {images images' : List ImageContent}
    (h : imagesField image images = imagesField image images') : images = images' :=
  images_inj himage (optionalField_inj h)

/-- The two optional fields of a prompt. -/
theorem promptFields_inj (himage : Function.Injective image) {images images' : List ImageContent}
    {behavior behavior' : Option StreamingBehavior}
    (h : imagesField image images ++ optionalField "streaming_behavior"
        (behavior.map fun behavior => .text behavior.text) =
      imagesField image images' ++ optionalField "streaming_behavior"
        (behavior'.map fun behavior => .text behavior.text)) :
    images = images' ∧ behavior = behavior' := by
  have hother : ∀ behavior : Option StreamingBehavior,
      ∀ entry ∈ optionalField "streaming_behavior"
        (behavior.map fun behavior => .text behavior.text), entry.1 ≠ "images" := by
    intro behavior entry hmem
    cases behavior with
    | none => exact absurd hmem List.not_mem_nil
    | some behavior =>
      rw [List.mem_singleton.mp hmem]
      show "streaming_behavior" ≠ "images"
      decide
  obtain ⟨himages, hbehavior⟩ := optionalField_append_inj (hother behavior) (hother behavior') h
  refine ⟨images_inj himage himages, ?_⟩
  have hinjective : Function.Injective fun behavior : StreamingBehavior =>
      CborItem.text behavior.text := fun a b hab =>
    StreamingBehavior.text_injective (CborItem.text.inj hab)
  exact Option.map_injective hinjective (optionalField_inj hbehavior)

/-- A request has one action, with fields of its own. -/
theorem ControlRequest.cbor_injective (himage : Function.Injective image) :
    Function.Injective (ControlRequest.cbor image) := by
  intro request request' h
  simp only [cbor, CborItem.map.injEq, List.cons.injEq, Prod.mk.injEq, CborItem.text.injEq,
    true_and] at h
  obtain ⟨haction, hfields⟩ := h
  cases request <;> cases request' <;> first
    | rfl
    | (simp [action] at haction; done)
    | skip
  -- the same action
  all_goals
    simp only [fields, List.cons.injEq, Prod.mk.injEq, CborItem.text.injEq, CborItem.uint.injEq,
      AgentId.text_inj, DeviceId.text_inj, LeaseHolderId.text_inj, true_and, and_true] at hfields
  case prompt.prompt agentId message images behavior agentId' message' images' behavior' =>
    obtain ⟨rfl, rfl, hrest⟩ := hfields
    obtain ⟨rfl, rfl⟩ := promptFields_inj himage hrest
    rfl
  case steer.steer agentId message images agentId' message' images' =>
    obtain ⟨rfl, rfl, himages⟩ := hfields
    rw [imagesField_inj himage himages]
  case followUp.followUp agentId message images agentId' message' images' =>
    obtain ⟨rfl, rfl, himages⟩ := hfields
    rw [imagesField_inj himage himages]
  case respondToUi.respondToUi agentId holder response agentId' holder' response' =>
    obtain ⟨rfl, rfl, hresponse⟩ := hfields
    rw [ExtensionUiResponseFrame.cbor_injective hresponse]
  case acquireInteractionLease.acquireInteractionLease agentId holder ttl agentId' holder' ttl' =>
    obtain ⟨rfl, rfl, httl⟩ := hfields
    rw [Subtype.ext httl]
  case switchSession.switchSession agentId path agentId' path' => rw [hfields.1, hfields.2]
  case releaseInteractionLease.releaseInteractionLease agentId holder agentId' holder' =>
    rw [hfields.1, hfields.2]
  all_goals rw [hfields]

/-! ## Bytes -/

theorem toList_foldl_append (pieces : List ByteArray) (output : ByteArray) :
    (pieces.foldl (· ++ ·) output).data.toList =
      output.data.toList ++ CborItem.flat pieces := by
  induction pieces generalizing output with
  | nil => simp
  | cons piece pieces ih =>
    rw [List.foldl_cons, ih, ByteArray.data_append, Array.toList_append, CborItem.flat_cons,
      List.append_assoc]

theorem toList_joined (pieces : List ByteArray) :
    (joined pieces).data.toList = CborItem.flat pieces :=
  toList_foldl_append pieces .empty

/-- What is encoded of an item are its bytes, and not too many. -/
theorem CborCodec.encodeValue_item {codec : CborCodec} {item : CborItem} {bytes : ByteArray}
    (h : codec.encodeValue (item.pieces, none) = .ok bytes) :
    bytes.data.toList = item.bytes ∧ item.bytes.length < 2 ^ 64 := by
  rw [CborCodec.encodeValue_eq] at h
  split at h
  · rename_i hle
    cases h
    have hbytes : (joined item.pieces).data.toList = item.bytes := toList_joined item.pieces
    refine ⟨hbytes, ?_⟩
    have hlt := codec.maxFrameBytes.1.toNat_lt
    rw [← size_joined] at hle
    rw [← hbytes, Array.length_toList]
    have hsize : (joined item.pieces).data.size = (joined item.pieces).size := rfl
    omega
  · cases h

/-- **Items that are encoded alike are the same**, and the encoding of one is not the start of
another's, whatever the limits are. -/
theorem CborCodec.encode_item_inj {codec codec' : CborCodec} {item item' : CborItem}
    {bytes rest : ByteArray} (h : codec.encodeValue (item.pieces, none) = .ok bytes)
    (h' : codec'.encodeValue (item'.pieces, none) = .ok (bytes ++ rest)) :
    item = item' ∧ rest = .empty := by
  obtain ⟨hbytes, hshort⟩ := CborCodec.encodeValue_item h
  obtain ⟨hbytes', hshort'⟩ := CborCodec.encodeValue_item h'
  have hsame : item.bytes ++ rest.data.toList = item'.bytes ++ [] := by
    rw [← hbytes, ← hbytes', ByteArray.data_append, Array.toList_append, List.append_nil]
  obtain ⟨hitem, hrest⟩ := CborItem.bytes_append_inj _ _ hshort hshort' hsame
  exact ⟨hitem, ByteArray.ext (Array.toList_inj.mp hrest)⟩

end

end OmpRemote

import OmpRemote.Lib.Cbor
import OmpRemote.Protocol.Codec

/-!
# The CBOR of some values

What serde makes of the values whose encoded length matters: structures are maps
with their fields' names as keys, an enumeration's tag is one of them, ids are texts.
-/

namespace OmpRemote

open Lib

/-! ## The shapes of serde -/

/-- A value that serializes without an error. -/
def serialized (value : Cbor) : List ByteArray × Option String := (value.pieces, none)

/-- An enumeration with `tag` and `content`. -/
def adjacentlyTagged (tag content variant : String) (value : Cbor) : Cbor :=
  .map [(tag, .text variant), (content, value)]

/-- A value is encoded iff its size is within the limit. -/
theorem encodeValue_cbor {codec : CborCodec} {value : Cbor} :
    (codec.encodeValue (serialized value)).isOk = true ↔
      value.size ≤ codec.maxFrameBytes.1.toNat := by
  rw [← Cbor.total_pieces]
  exact CborCodec.encodeValue_isOk

/-! ## Values -/

def ClientPlatform.text : ClientPlatform → String
  | web => "web"
  | mobile => "mobile"
  | desktop => "desktop"
  | cli => "cli"
  | service => "service"

def DeviceDescriptor.cbor (device : DeviceDescriptor) : Cbor :=
  .map [("name", .text device.name), ("platform", .text device.platform.text)]

def ClientAuthentication.cbor : ClientAuthentication → Cbor
  | .pair pairingId secret descriptor =>
    .map [("method", .text "pair"), ("pairing_id", .text pairingId.text),
      ("secret", .text secret.text), ("device", descriptor.cbor)]
  | .device deviceId token =>
    .map [("method", .text "device"), ("device_id", .text deviceId.text),
      ("token", .text token.text)]

def SubscriptionCursor.cbor (cursor : SubscriptionCursor) : Cbor :=
  .map [("agentId", .text cursor.agentId.text), ("revision", .uint cursor.revision),
    ("eventSequence", .uint cursor.eventSequence)]

def ProtocolError.cbor (error : ProtocolError) : Cbor :=
  .map [("code", .text error.code), ("message", .text error.message),
    ("retryable", .bool error.retryable)]

/-- The size of a cursor is that of its names and of what it holds. -/
theorem SubscriptionCursor.size_cbor (cursor : SubscriptionCursor) :
    cursor.cbor.size = 32 + Cbor.textSize cursor.agentId.text +
      Cbor.headSize cursor.revision.toNat + Cbor.headSize cursor.eventSequence.toNat := by
  have hagent : Cbor.textSize "agentId" = 8 := by decide +kernel
  have hrevision : Cbor.textSize "revision" = 9 := by decide +kernel
  have hsequence : Cbor.textSize "eventSequence" = 14 := by decide +kernel
  simp only [cbor, Cbor.size, Cbor.sizeOfEntries, hagent, hrevision, hsequence]
  show 1 + _ = _
  omega

theorem ProtocolError.size_cbor (error : ProtocolError) :
    error.cbor.size = 25 + Cbor.textSize error.code + Cbor.textSize error.message := by
  have hcode : Cbor.textSize "code" = 5 := by decide +kernel
  have hmessage : Cbor.textSize "message" = 8 := by decide +kernel
  have hretryable : Cbor.textSize "retryable" = 10 := by decide +kernel
  simp only [cbor, Cbor.size, Cbor.sizeOfEntries, hcode, hmessage, hretryable]
  show 1 + _ = _
  omega

/-- The frame `ServerFrame::Error`. -/
def errorFrame (error : ProtocolError) : Cbor :=
  adjacentlyTagged "type" "payload" "error" error.cbor

theorem size_errorFrame (error : ProtocolError) :
    (errorFrame error).size = 45 + Cbor.textSize error.code + Cbor.textSize error.message := by
  have htype : Cbor.textSize "type" = 5 := by decide +kernel
  have herror : Cbor.textSize "error" = 6 := by decide +kernel
  have hpayload : Cbor.textSize "payload" = 8 := by decide +kernel
  simp only [errorFrame, adjacentlyTagged, Cbor.size, Cbor.sizeOfEntries, htype, herror, hpayload,
    error.size_cbor]
  show 1 + _ = _
  omega

/-! ## Long texts -/

/-- A text of so many letters. -/
def letters : Nat → String
  | 0 => ""
  | n + 1 => (letters n).push 'a'

@[simp] theorem utf8ByteSize_letters (n : Nat) : (letters n).utf8ByteSize = n := by
  induction n with
  | zero => rfl
  | succ n ih =>
    rw [letters, String.utf8ByteSize_push, ih]
    rfl

end OmpRemote

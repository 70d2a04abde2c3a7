import OmpRemote.Protocol.Frame

/-!
# The frame codec

A control frame is one CBOR value in one binary message. ciborium, which writes
and reads the value, is not part of the model: a serializer is a parameter, and a
message comes with what is read from it. The limits are enforced here.

- `CborCodec.encode`, over a writer that refuses what exceeds the limit.
- `CborCodec.encode_isOk`: exactly which frames are encoded.
-/

namespace OmpRemote

inductive CborCodecError where
  | frameTooLarge (limit : UInt32)
  | encode (error : String)
  | decode (error : String)
  | trailingData
  deriving DecidableEq, Repr

/-- How an error reads. -/
def CborCodecError.message : CborCodecError → String
  | frameTooLarge limit => "CBOR frame exceeds the " ++ toString limit ++ "-byte limit"
  | encode error => "failed to encode CBOR frame: " ++ error
  | decode error => "failed to decode CBOR frame: " ++ error
  | trailingData => "CBOR WebSocket message contains more than one frame"

inductive ConnectionPhase where
  | preAuth | authenticated
  deriving DecidableEq, Repr

structure CborCodec where
  maxFrameBytes : { limit : UInt32 // limit ≠ 0 }

structure FrameLimits where
  preAuth : { limit : UInt32 // limit ≠ 0 }
  postAuth : { limit : UInt32 // limit ≠ 0 }
  ordered : preAuth.1 ≤ postAuth.1

namespace FrameLimits

def default : FrameLimits := ⟨⟨16 * 1024, by decide⟩, ⟨1024 * 1024, by decide⟩, by decide⟩

def codec (limits : FrameLimits) : ConnectionPhase → CborCodec
  | .preAuth => ⟨limits.preAuth⟩
  | .authenticated => ⟨limits.postAuth⟩

end FrameLimits

/-! ## Encoding -/

/-- The pieces ciborium writes for a frame, in order, and the error that ends them
if the value cannot be serialized. -/
abbrev Serializer := ServerFrame → List ByteArray × Option String

structure LimitedWriter where
  output : ByteArray
  limit : Nat
  exceeded : Bool

namespace LimitedWriter

def new (limit : Nat) : LimitedWriter := ⟨.empty, limit, false⟩

/-- Whether the piece is written. -/
def write (writer : LimitedWriter) (buffer : ByteArray) : Bool × LimitedWriter :=
  if buffer.size > writer.limit - writer.output.size then (false, { writer with exceeded := true })
  else (true, { writer with output := writer.output ++ buffer })

/-- The first piece that is refused ends the serialization. -/
def writeAll (writer : LimitedWriter) : List ByteArray → Bool × LimitedWriter
  | [] => (true, writer)
  | buffer :: buffers =>
    match writer.write buffer with
    | (true, written) => written.writeAll buffers
    | (false, refused) => (false, refused)

end LimitedWriter

/-- The length of all pieces. -/
def piecesSize (pieces : List ByteArray) : Nat := (pieces.map ByteArray.size).sum

/-- The pieces, one after another. -/
def joined (pieces : List ByteArray) : ByteArray := pieces.foldl (· ++ ·) .empty

theorem size_foldl_append (pieces : List ByteArray) (output : ByteArray) :
    (pieces.foldl (· ++ ·) output).size = output.size + piecesSize pieces := by
  induction pieces generalizing output with
  | nil => rfl
  | cons piece pieces ih =>
    rw [List.foldl_cons, ih, ByteArray.size_append]
    show _ = output.size + (piece.size + piecesSize pieces)
    omega

theorem size_joined (pieces : List ByteArray) : (joined pieces).size = piecesSize pieces := by
  rw [joined, size_foldl_append, ByteArray.size_empty, Nat.zero_add]

namespace LimitedWriter

/-- What fits is written, and what does not is noticed. -/
theorem writeAll_cases (writer : LimitedWriter) (pieces : List ByteArray)
    (hfits : writer.output.size ≤ writer.limit) :
    (writer.output.size + piecesSize pieces ≤ writer.limit ∧
        writer.writeAll pieces =
          (true, { writer with output := pieces.foldl (· ++ ·) writer.output })) ∨
      (writer.limit < writer.output.size + piecesSize pieces ∧
        (writer.writeAll pieces).1 = false ∧ (writer.writeAll pieces).2.exceeded = true) := by
  induction pieces generalizing writer with
  | nil => exact .inl ⟨hfits, rfl⟩
  | cons piece pieces ih =>
    have hsize : piecesSize (piece :: pieces) = piece.size + piecesSize pieces := rfl
    unfold writeAll write
    by_cases hpiece : piece.size > writer.limit - writer.output.size
    · rw [if_pos hpiece]
      exact .inr ⟨by omega, rfl, rfl⟩
    · rw [if_neg hpiece]
      have happend : (writer.output ++ piece).size = writer.output.size + piece.size :=
        ByteArray.size_append
      have hroom : (writer.output ++ piece).size ≤ writer.limit := by omega
      rcases ih { writer with output := writer.output ++ piece } hroom with
        ⟨hle, hwritten⟩ | ⟨hlt, hrefused⟩
      · refine .inl ⟨?_, hwritten⟩
        dsimp only at hle
        omega
      · refine .inr ⟨?_, hrefused⟩
        dsimp only at hlt
        omega

end LimitedWriter

namespace CborCodec

def encode (codec : CborCodec) (serializer : Serializer) (frame : ServerFrame) :
    Except CborCodecError ByteArray :=
  match (LimitedWriter.new codec.maxFrameBytes.1.toNat).writeAll (serializer frame).1 with
  | (true, writer) =>
    match (serializer frame).2 with
    | none => .ok writer.output
    | some error => .error (.encode error)
  | (false, writer) =>
    if writer.exceeded then .error (.frameTooLarge codec.maxFrameBytes)
    else .error (.encode "CBOR frame limit exceeded")

/-- `encode` of any value, of which `serialized` is what ciborium writes. -/
def encodeValue (codec : CborCodec) (serialized : List ByteArray × Option String) :
    Except CborCodecError ByteArray :=
  match (LimitedWriter.new codec.maxFrameBytes.1.toNat).writeAll serialized.1 with
  | (true, writer) =>
    match serialized.2 with
    | none => .ok writer.output
    | some error => .error (.encode error)
  | (false, writer) =>
    if writer.exceeded then .error (.frameTooLarge codec.maxFrameBytes)
    else .error (.encode "CBOR frame limit exceeded")

theorem encode_eq (codec : CborCodec) (serializer : Serializer) (frame : ServerFrame) :
    codec.encode serializer frame = codec.encodeValue (serializer frame) := rfl

/-- What there is to write is written whole, unless the limit or the value forbids it. -/
theorem encodeValue_eq (codec : CborCodec) (pieces : List ByteArray) (failure : Option String) :
    codec.encodeValue (pieces, failure) =
      if piecesSize pieces ≤ codec.maxFrameBytes.1.toNat then
        failure.elim (.ok (joined pieces)) fun error => .error (.encode error)
      else .error (.frameTooLarge codec.maxFrameBytes) := by
  have hlimit : (LimitedWriter.new codec.maxFrameBytes.1.toNat).limit =
    codec.maxFrameBytes.1.toNat := rfl
  have hempty : (LimitedWriter.new codec.maxFrameBytes.1.toNat).output.size = 0 := rfl
  unfold encodeValue
  rcases (LimitedWriter.new codec.maxFrameBytes.1.toNat).writeAll_cases pieces (Nat.zero_le _) with
    ⟨hle, hwritten⟩ | ⟨hlt, hrefused, hexceeded⟩
  · rw [hempty, Nat.zero_add, hlimit] at hle
    rw [hwritten, if_pos hle]
    cases failure <;> rfl
  · rw [hempty, Nat.zero_add, hlimit] at hlt
    rw [if_neg (Nat.not_le_of_lt hlt)]
    rcases hresult : (LimitedWriter.new codec.maxFrameBytes.1.toNat).writeAll pieces with
      ⟨written, writer⟩
    rw [hresult] at hrefused hexceeded
    cases hrefused
    exact if_pos hexceeded

/-- A value is encoded iff it can be serialized and fits, and then nothing is added to
what is written for it. -/
theorem encodeValue_cases (codec : CborCodec) (serialized : List ByteArray × Option String) :
    (serialized.2 = none ∧ piecesSize serialized.1 ≤ codec.maxFrameBytes.1.toNat ∧
        ∃ bytes, codec.encodeValue serialized = .ok bytes ∧
          bytes.size = piecesSize serialized.1) ∨
      (∃ error, serialized.2 = some error ∧
        ∃ failure, codec.encodeValue serialized = .error failure) ∨
      (codec.maxFrameBytes.1.toNat < piecesSize serialized.1 ∧
        codec.encodeValue serialized = .error (.frameTooLarge codec.maxFrameBytes)) := by
  obtain ⟨pieces, failure⟩ := serialized
  rw [encodeValue_eq]
  split
  · rename_i hle
    cases failure with
    | none => exact .inl ⟨rfl, hle, _, rfl, size_joined pieces⟩
    | some error => exact .inr (.inl ⟨error, rfl, _, rfl⟩)
  · rename_i hlt
    exact .inr (.inr ⟨Nat.lt_of_not_le hlt, rfl⟩)

/-- A value without a serialization error is encoded iff it fits. -/
theorem encodeValue_isOk {codec : CborCodec} {pieces : List ByteArray} :
    (codec.encodeValue (pieces, none)).isOk = true ↔
      piecesSize pieces ≤ codec.maxFrameBytes.1.toNat := by
  rcases codec.encodeValue_cases (pieces, none) with
    ⟨-, hle, bytes, h, -⟩ | ⟨error, herror, -⟩ | ⟨hlt, h⟩
  · rw [h]
    exact ⟨fun _ => hle, fun _ => rfl⟩
  · cases herror
  · rw [h]
    exact ⟨nofun, fun hle => absurd hle (Nat.not_le_of_lt hlt)⟩

/-- The frame is serialized within the limit. -/
def Fits (codec : CborCodec) (serializer : Serializer) (frame : ServerFrame) : Prop :=
  (serializer frame).2 = none ∧ piecesSize (serializer frame).1 ≤ codec.maxFrameBytes.1.toNat

instance (codec : CborCodec) (serializer : Serializer) (frame : ServerFrame) :
    Decidable (codec.Fits serializer frame) := inferInstanceAs (Decidable (_ ∧ _))

/-- A frame is encoded iff it fits. -/
theorem encode_isOk {codec : CborCodec} {serializer : Serializer} {frame : ServerFrame} :
    (codec.encode serializer frame).isOk = true ↔ codec.Fits serializer frame := by
  rw [encode_eq, show serializer frame = ((serializer frame).1, (serializer frame).2) from rfl,
    encodeValue_eq, Fits]
  split
  · rename_i hle
    cases (serializer frame).2 with
    | none => exact ⟨fun _ => ⟨rfl, hle⟩, fun _ => rfl⟩
    | some error => exact ⟨nofun, fun h => nomatch h.1⟩
  · rename_i hlt
    exact ⟨nofun, fun h => absurd h.2 hlt⟩

end CborCodec

/-! ## Decoding -/

/-- A binary message, with what ciborium reads from its start and where that ends. -/
structure BinaryMessage where
  size : Nat
  parsed : Except String (ClientFrame × Nat)
  deriving DecidableEq

/-- A binary message that is read as a value of another type. -/
structure WireMessage (α : Type) where
  size : Nat
  parsed : Except String (α × Nat)

/-- `decode` of any type of value. -/
def CborCodec.decodeValue {α : Type} (codec : CborCodec) (message : WireMessage α) :
    Except CborCodecError α :=
  if message.size > codec.maxFrameBytes.1.toNat then
    .error (.frameTooLarge codec.maxFrameBytes)
  else match message.parsed with
    | .error error => .error (.decode error)
    | .ok (value, position) =>
      if position ≠ message.size then .error .trailingData else .ok value

/-- Only the limit makes a message too large. -/
theorem CborCodec.decodeValue_tooLarge {α : Type} {codec : CborCodec} {message : WireMessage α} :
    codec.decodeValue message = .error (.frameTooLarge codec.maxFrameBytes) ↔
      codec.maxFrameBytes.1.toNat < message.size := by
  unfold decodeValue
  split
  · rename_i hlarge
    exact ⟨fun _ => hlarge, fun _ => rfl⟩
  · rename_i hfits
    refine ⟨fun h => ?_, fun h => absurd h hfits⟩
    split at h
    · cases h
    · split at h <;> cases h

def CborCodec.decode (codec : CborCodec) (message : BinaryMessage) :
    Except CborCodecError ClientFrame :=
  if message.size > codec.maxFrameBytes.1.toNat then
    .error (.frameTooLarge codec.maxFrameBytes)
  else match message.parsed with
    | .error error => .error (.decode error)
    | .ok (frame, position) =>
      if position ≠ message.size then .error .trailingData else .ok frame

end OmpRemote

import OmpRemote.Protocol.Codec

/-!
# Frames there and back

What ciborium writes for a value is an item, and an item is read back from the front of
whatever follows it. The codec adds its limit to the one and the end of the message to
the other.

- `Ciborium`: items of a type, and what reads them.
- `frame_roundtrip`: exactly what is encoded, and that only this is decoded.
-/

namespace OmpRemote

/-- What the library writes for the values of a type, and what it reads from the start of
some bytes with the place where it stops: an item is read whole and nothing after it. -/
structure Ciborium (α : Type) where
  item : α → ByteArray
  read : ByteArray → Except String (α × Nat)
  read_item : ∀ value rest, read (item value ++ rest) = .ok (value, (item value).size)

namespace Ciborium

variable {α : Type}

/-- A binary message. -/
def message (ciborium : Ciborium α) (bytes : ByteArray) : WireMessage α :=
  ⟨bytes.size, ciborium.read bytes⟩

theorem read_whole (ciborium : Ciborium α) (value : α) :
    ciborium.read (ciborium.item value) = .ok (value, (ciborium.item value).size) := by
  have h := ciborium.read_item value .empty
  rwa [ByteArray.append_empty] at h

end Ciborium

namespace CborCodec

variable {α : Type}

/-- An item alone is read by every codec with room for it. -/
theorem decodeValue_item (codec : CborCodec) (ciborium : Ciborium α) {value : α}
    (h : (ciborium.item value).size ≤ codec.maxFrameBytes.1.toNat) :
    codec.decodeValue (ciborium.message (ciborium.item value)) = .ok value := by
  unfold decodeValue Ciborium.message
  rw [if_neg (Nat.not_lt_of_le h), ciborium.read_whole]
  exact if_neg (not_not_intro rfl)

/-- An item with something after it is too large, or what is after it is noticed. -/
theorem decodeValue_trailing (codec : CborCodec) (ciborium : Ciborium α) (value : α)
    {rest : ByteArray} (h : 0 < rest.size) :
    codec.decodeValue (ciborium.message (ciborium.item value ++ rest)) =
      if (ciborium.item value ++ rest).size ≤ codec.maxFrameBytes.1.toNat then
        .error .trailingData
      else .error (.frameTooLarge codec.maxFrameBytes) := by
  unfold decodeValue Ciborium.message
  split
  · rename_i hlarge
    rw [if_neg (Nat.not_le_of_lt hlarge)]
  · rename_i hfits
    rw [if_pos (Nat.le_of_not_lt hfits), ciborium.read_item]
    -- ciborium stops behind the item
    refine if_pos fun hposition => ?_
    have hsize : (ciborium.item value).size = (ciborium.item value).size + rest.size :=
      hposition.trans ByteArray.size_append
    omega

end CborCodec

/-- **The frame codec is exact.** However ciborium divides the item of a value into
writes, it is encoded iff it is within the limit, as the item itself, and else refused as
too large. Every codec with room for it reads the value from it. And no codec reads a
value from an item with something after it. -/
theorem frame_roundtrip {α : Type} (ciborium : Ciborium α) (value : α) {pieces : List ByteArray}
    (hpieces : joined pieces = ciborium.item value) (codec : CborCodec) :
    codec.encodeValue (pieces, none) =
        (if (ciborium.item value).size ≤ codec.maxFrameBytes.1.toNat then
          .ok (ciborium.item value)
        else .error (.frameTooLarge codec.maxFrameBytes)) ∧
      (∀ other : CborCodec, (ciborium.item value).size ≤ other.maxFrameBytes.1.toNat →
        other.decodeValue (ciborium.message (ciborium.item value)) = .ok value) ∧
      ∀ rest : ByteArray, 0 < rest.size → ∀ other : CborCodec,
        other.decodeValue (ciborium.message (ciborium.item value ++ rest)) =
          if (ciborium.item value ++ rest).size ≤ other.maxFrameBytes.1.toNat then
            .error .trailingData
          else .error (.frameTooLarge other.maxFrameBytes) := by
  refine ⟨?_, fun other => other.decodeValue_item ciborium,
    fun rest hrest other => other.decodeValue_trailing ciborium value hrest⟩
  rw [codec.encodeValue_eq, ← size_joined, hpieces]
  rfl

/-- Pairs of booleans. -/
def booleans : Ciborium (Bool × Bool) where
  item value := ⟨#[0x82, if value.1 then 0xf5 else 0xf4, if value.2 then 0xf5 else 0xf4]⟩
  read bytes :=
    match bytes.data.toList with
    | 0x82 :: 0xf4 :: 0xf4 :: _ => .ok ((false, false), 3)
    | 0x82 :: 0xf4 :: 0xf5 :: _ => .ok ((false, true), 3)
    | 0x82 :: 0xf5 :: 0xf4 :: _ => .ok ((true, false), 3)
    | 0x82 :: 0xf5 :: 0xf5 :: _ => .ok ((true, true), 3)
    | _ => .error "invalid pair"
  read_item := by
    rintro ⟨a, b⟩ rest
    rw [ByteArray.data_append, Array.toList_append]
    cases a <;> cases b <;> rfl

/-- Three writes, a limit that holds them, and the item twice. -/
theorem frame_roundtrip_booleans :
    (⟨⟨3, by decide⟩⟩ : CborCodec).encodeValue ([⟨#[0x82]⟩, ⟨#[0xf5]⟩, ⟨#[0xf4]⟩], none) =
        .ok ⟨#[0x82, 0xf5, 0xf4]⟩ ∧
      (⟨⟨6, by decide⟩⟩ : CborCodec).decodeValue
        (booleans.message ⟨#[0x82, 0xf5, 0xf4, 0x82, 0xf5, 0xf4]⟩) = .error .trailingData := by
  obtain ⟨hencode, -, htrailing⟩ := @frame_roundtrip _ booleans (true, false)
    [⟨#[0x82]⟩, ⟨#[0xf5]⟩, ⟨#[0xf4]⟩] rfl ⟨⟨3, by decide⟩⟩
  refine ⟨hencode, ?_⟩
  exact htrailing ⟨#[0x82, 0xf5, 0xf4]⟩ (by decide) ⟨⟨6, by decide⟩⟩

end OmpRemote

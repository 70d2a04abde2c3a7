import Mathlib.Algebra.GroupWithZero.Nat
import Mathlib.Data.List.Basic

/-!
# CBOR

Concise Binary Object Representation, as a serializer of plain data writes it: every
length in its shortest form, arrays and maps of known length, text keys.

- `Cbor.pieces`: what is written for an item, in order.
- `Cbor.size`: the length of it, without writing it; `total_pieces`.
-/

namespace Lib

/-- A data item. -/
inductive Cbor where
  | uint (value : UInt64)
  | text (string : String)
  | array (items : List Cbor)
  /-- A map, or a structure with its fields' names as keys. -/
  | map (entries : List (String × Cbor))
  | bool (value : Bool)
  | null

namespace Cbor

/-! ## Heads -/

/-- The `count` low bytes of a number, the highest first. -/
def bigEndian : Nat → Nat → List UInt8
  | 0, _ => []
  | count + 1, value => UInt8.ofNat (value / 256 ^ count) :: bigEndian count value

/-- The initial byte of an item and the argument that follows it. -/
def head (major argument : Nat) : ByteArray :=
  if argument < 24 then ⟨#[UInt8.ofNat (major * 32 + argument)]⟩
  else if argument < 2 ^ 8 then ⟨(UInt8.ofNat (major * 32 + 24) :: bigEndian 1 argument).toArray⟩
  else if argument < 2 ^ 16 then ⟨(UInt8.ofNat (major * 32 + 25) :: bigEndian 2 argument).toArray⟩
  else if argument < 2 ^ 32 then ⟨(UInt8.ofNat (major * 32 + 26) :: bigEndian 4 argument).toArray⟩
  else ⟨(UInt8.ofNat (major * 32 + 27) :: bigEndian 8 argument).toArray⟩

def headSize (argument : Nat) : Nat :=
  if argument < 24 then 1
  else if argument < 2 ^ 8 then 2
  else if argument < 2 ^ 16 then 3
  else if argument < 2 ^ 32 then 5
  else 9

@[simp] theorem length_bigEndian (count value : Nat) : (bigEndian count value).length = count := by
  induction count with
  | zero => rfl
  | succ count ih => simp [bigEndian, ih]

theorem size_head (major argument : Nat) : (head major argument).size = headSize argument := by
  unfold head headSize
  repeat' split
  all_goals simp [ByteArray.size]

theorem headSize_pos (argument : Nat) : 0 < headSize argument := by
  unfold headSize
  repeat' split
  all_goals decide

/-! ## Items -/

def textPieces (text : String) : List ByteArray :=
  [head 3 text.utf8ByteSize, text.toByteArray]

def textSize (text : String) : Nat := headSize text.utf8ByteSize + text.utf8ByteSize

mutual

/-- What is written for an item. -/
def pieces : Cbor → List ByteArray
  | uint value => [head 0 value.toNat]
  | text string => textPieces string
  | array items => head 4 items.length :: piecesOfItems items
  | map entries => head 5 entries.length :: piecesOfEntries entries
  | bool value => [⟨#[if value then 0xf5 else 0xf4]⟩]
  | null => [⟨#[0xf6]⟩]

def piecesOfItems : List Cbor → List ByteArray
  | [] => []
  | item :: items => pieces item ++ piecesOfItems items

def piecesOfEntries : List (String × Cbor) → List ByteArray
  | [] => []
  | (key, value) :: entries => textPieces key ++ pieces value ++ piecesOfEntries entries

end

mutual

def size : Cbor → Nat
  | uint value => headSize value.toNat
  | text string => textSize string
  | array items => headSize items.length + sizeOfItems items
  | map entries => headSize entries.length + sizeOfEntries entries
  | bool _ | null => 1

def sizeOfItems : List Cbor → Nat
  | [] => 0
  | item :: items => size item + sizeOfItems items

def sizeOfEntries : List (String × Cbor) → Nat
  | [] => 0
  | (key, value) :: entries => textSize key + size value + sizeOfEntries entries

end

/-- The length of all pieces. -/
def total (pieces : List ByteArray) : Nat := (pieces.map ByteArray.size).sum

@[simp] theorem total_nil : total [] = 0 := rfl

@[simp] theorem total_cons (piece : ByteArray) (pieces : List ByteArray) :
    total (piece :: pieces) = piece.size + total pieces := rfl

@[simp] theorem total_append (pieces pieces' : List ByteArray) :
    total (pieces ++ pieces') = total pieces + total pieces' := by
  simp [total]

theorem total_textPieces (text : String) : total (textPieces text) = textSize text := by
  simp [textPieces, textSize, size_head]

mutual

/-- The size of an item is the length of what is written for it. -/
theorem total_pieces : ∀ item : Cbor, total (pieces item) = size item
  | uint value => by simp [pieces, size, size_head]
  | text string => by simp [pieces, size, total_textPieces]
  | array items => by simp [pieces, size, size_head, total_piecesOfItems items]
  | map entries => by simp [pieces, size, size_head, total_piecesOfEntries entries]
  | bool value => by simp [pieces, size, ByteArray.size]
  | null => by simp [pieces, size, ByteArray.size]

theorem total_piecesOfItems : ∀ items : List Cbor, total (piecesOfItems items) = sizeOfItems items
  | [] => rfl
  | item :: items => by
    simp [piecesOfItems, sizeOfItems, total_pieces item, total_piecesOfItems items]

theorem total_piecesOfEntries : ∀ entries : List (String × Cbor),
    total (piecesOfEntries entries) = sizeOfEntries entries
  | [] => rfl
  | (key, value) :: entries => by
    simp [piecesOfEntries, sizeOfEntries, total_textPieces, total_pieces value,
      total_piecesOfEntries entries, Nat.add_assoc]

end

/-- The items of an array that are made alike. -/
theorem sizeOfItems_map {α : Type} (f : α → Cbor) (l : List α) :
    sizeOfItems (l.map f) = (l.map fun a => size (f a)).sum := by
  induction l with
  | nil => rfl
  | cons a l ih => simp [sizeOfItems, ih]

/-- A map is larger than each of its values. -/
theorem size_lt_map {entries : List (String × Cbor)} (key : String) {value : Cbor}
    (h : (key, value) ∈ entries) : value.size < (map entries).size := by
  have hle : value.size ≤ sizeOfEntries entries := by
    induction entries with
    | nil => cases h
    | cons entry entries ih =>
      obtain ⟨key', value'⟩ := entry
      rw [sizeOfEntries]
      rcases List.mem_cons.mp h with h | h
      · cases h
        omega
      · have := ih h
        omega
  have := headSize_pos entries.length
  rw [size]
  omega

end Cbor

end Lib

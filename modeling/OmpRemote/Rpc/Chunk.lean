import Mathlib.Data.Nat.Digits.Defs
import OmpRemote.Lib.Base64

/-!
# Transport frames

A `ready` frame says how long a reassembled frame may be, and an `rpc_chunk`
frame carries a part of one that was too long to be sent whole. A `ReadyFrame`
and a `ChunkFrame` carry what their constructors check, so the decoder can rely
on it. The `base64` crate and `serde_json` are parameters: `Base64` and
`SerdeJson` say what the frames use of them.

- `ChunkFrame.new_encode`: when a chunk can be made of a piece of a frame, and
  that it carries that piece.
- `ChunkFrame.json_size`: a chunk is itself never long enough to be cut in
  chunks.
-/

namespace OmpRemote.Rpc.Transport

/-- What the frames rely on of the standard engine of `base64`. -/
structure Base64 where
  encode : List UInt8 → String
  decode : String → Option (List UInt8)
  decode_encode : ∀ bytes, decode (encode bytes) = some bytes
  length_encode : ∀ bytes, (encode bytes).length = 4 * ((bytes.length + 2) / 3)
  isText_encode : ∀ bytes, ∀ c ∈ (encode bytes).toList, Lib.Base64.IsText c

def Base64.standard : Base64 where
  encode := Lib.Base64.encode
  decode := Lib.Base64.decode
  decode_encode := Lib.Base64.decode_encode
  length_encode := Lib.Base64.length_encode
  isText_encode := Lib.Base64.isText_encode

abbrev NonZeroU64 := { n : UInt64 // n ≠ 0 }

abbrev NonZeroU64.get (n : NonZeroU64) : UInt64 := n.val

/-! ## Ready frames -/

inductive ReadyFrameError where
  | reassemblyLimitBelowFrameLimit
  deriving DecidableEq, Repr

structure ReadyFrame where
  maxFrameBytes : NonZeroU64
  maxReassembledFrameBytes : NonZeroU64
  advertisesCapabilities : Bool
  ordered : maxFrameBytes.get ≤ maxReassembledFrameBytes.get
  deriving DecidableEq

namespace ReadyFrame

def defaultMaxFrameBytes : UInt64 := 1048576

def defaultMaxReassembledFrameBytes : UInt64 := 67108864

theorem defaultMaxReassembledFrameBytes_ne : defaultMaxReassembledFrameBytes ≠ 0 := by decide

def new (maxFrameBytes maxReassembledFrameBytes : NonZeroU64) :
    Except ReadyFrameError ReadyFrame :=
  if h : maxReassembledFrameBytes.get < maxFrameBytes.get then
    .error .reassemblyLimitBelowFrameLimit
  else
    .ok { maxFrameBytes, maxReassembledFrameBytes, advertisesCapabilities := true,
          ordered := UInt64.not_lt.mp h }

/-- What a peer is taken to accept that says nothing of its limits. -/
def legacy : ReadyFrame where
  maxFrameBytes := ⟨defaultMaxFrameBytes, by decide⟩
  maxReassembledFrameBytes := ⟨defaultMaxReassembledFrameBytes, defaultMaxReassembledFrameBytes_ne⟩
  advertisesCapabilities := false
  ordered := by decide

end ReadyFrame

/-! ## Chunk frames -/

inductive ChunkFrameError where
  | emptyChunkId | chunkIdTooLong | invalidCount | indexOutOfBounds | invalidByteLength
  | emptyData | invalidData | payloadTooLarge
  deriving DecidableEq, Repr

namespace ChunkFrame

def maxChunkIdChars : Nat := 128

def maxCount : UInt64 := 256

def minByteLength : UInt64 := ReadyFrame.defaultMaxFrameBytes

def maxByteLength : UInt64 := ReadyFrame.defaultMaxReassembledFrameBytes

def maxPayloadBytes : Nat := 256 * 1024

end ChunkFrame

open ChunkFrame in
/-- A part of a long frame, in canonical Base64. -/
structure ChunkFrame (base64 : Base64) where
  chunkId : String
  index : UInt32
  count : NonZeroU64
  byteLength : NonZeroU64
  data : String
  chunkId_ne : chunkId ≠ ""
  chunkId_le : chunkId.length ≤ maxChunkIdChars
  count_mem : 2 ≤ count.get ∧ count.get ≤ maxCount
  index_lt : index.toUInt64 < count.get
  byteLength_mem : minByteLength ≤ byteLength.get ∧ byteLength.get ≤ maxByteLength
  data_ne : data ≠ ""
  decodes : ∃ decoded, base64.decode data = some decoded ∧
    decoded.length ≤ maxPayloadBytes ∧ base64.encode decoded = data

namespace ChunkFrame

variable {base64 : Base64}

def new (base64 : Base64) (chunkId : String) (index : UInt32) (count byteLength : NonZeroU64)
    (data : String) : Except ChunkFrameError (ChunkFrame base64) :=
  if hcount : count.get < 2 ∨ maxCount < count.get then .error .invalidCount
  else if hindex : count.get ≤ index.toUInt64 then .error .indexOutOfBounds
  else if hempty : chunkId = "" then .error .emptyChunkId
  else if hlong : maxChunkIdChars < chunkId.length then .error .chunkIdTooLong
  else if hlength : ¬ (minByteLength ≤ byteLength.get ∧ byteLength.get ≤ maxByteLength) then
    .error .invalidByteLength
  else if hdata : data = "" then .error .emptyData
  else match hdecode : base64.decode data with
    | none => .error .invalidData
    | some decoded =>
      if hsize : maxPayloadBytes < decoded.length then .error .payloadTooLarge
      else if hcanonical : base64.encode decoded ≠ data then .error .invalidData
      else .ok {
        chunkId, index, count, byteLength, data
        chunkId_ne := hempty
        chunkId_le := by omega
        count_mem := by
          rw [not_or, UInt64.not_lt, UInt64.not_lt] at hcount
          exact hcount
        index_lt := UInt64.not_le.mp hindex
        byteLength_mem := not_not.mp hlength
        data_ne := hdata
        decodes := ⟨decoded, hdecode, by omega, not_not.mp hcanonical⟩ }

/-- The bytes that `data` stands for. -/
def decodedData (chunk : ChunkFrame base64) : List UInt8 :=
  (base64.decode chunk.data).get (by
    obtain ⟨decoded, hdecode, -⟩ := chunk.decodes
    rw [hdecode]
    rfl)

def appendDecodedData (chunk : ChunkFrame base64) (output : List UInt8) : List UInt8 :=
  output ++ chunk.decodedData

theorem decodedData_eq {chunk : ChunkFrame base64} {decoded : List UInt8}
    (h : base64.decode chunk.data = some decoded) : chunk.decodedData = decoded :=
  Option.get_of_eq_some _ h

theorem decodedData_le (chunk : ChunkFrame base64) :
    chunk.decodedData.length ≤ maxPayloadBytes := by
  obtain ⟨decoded, hdecode, hlength, -⟩ := chunk.decodes
  rw [decodedData_eq hdecode]
  exact hlength

theorem encode_decodedData (chunk : ChunkFrame base64) :
    base64.encode chunk.decodedData = chunk.data := by
  obtain ⟨decoded, hdecode, -, hencode⟩ := chunk.decodes
  rw [decodedData_eq hdecode]
  exact hencode

theorem count_le (chunk : ChunkFrame base64) : chunk.count.get.toNat ≤ 256 :=
  UInt64.le_iff_toNat_le.mp chunk.count_mem.2

theorem index_lt_count (chunk : ChunkFrame base64) :
    chunk.index.toNat < chunk.count.get.toNat := by
  have := UInt64.lt_iff_toNat_lt.mp chunk.index_lt
  rwa [UInt32.toNat_toUInt64] at this

theorem decodedData_of_data {chunk : ChunkFrame base64} {piece : List UInt8}
    (h : chunk.data = base64.encode piece) : chunk.decodedData = piece := by
  have hdecode := base64.decode_encode piece
  rw [← h] at hdecode
  exact decodedData_eq hdecode

theorem new_ok {chunkId : String} {index : UInt32} {count byteLength : NonZeroU64} {data : String}
    {chunk : ChunkFrame base64} (h : new base64 chunkId index count byteLength data = .ok chunk) :
    chunk.chunkId = chunkId ∧ chunk.index = index ∧ chunk.count = count ∧
      chunk.byteLength = byteLength ∧ chunk.data = data := by
  unfold new at h
  iterate 6
    split at h
    · cases h
  split at h
  · cases h
  iterate 2
    split at h
    · cases h
  cases h
  exact ⟨rfl, rfl, rfl, rfl, rfl⟩

/-- A chunk can be made of every piece of at most 256 KiB that is not empty. -/
theorem new_encode {chunkId : String} {index : UInt32} {count byteLength : NonZeroU64}
    {piece : List UInt8} (hid : chunkId ≠ "") (hchars : chunkId.length ≤ maxChunkIdChars)
    (hcount : 2 ≤ count.get ∧ count.get ≤ maxCount) (hindex : index.toUInt64 < count.get)
    (hlength : minByteLength ≤ byteLength.get ∧ byteLength.get ≤ maxByteLength)
    (hpiece : piece ≠ []) (hpayload : piece.length ≤ maxPayloadBytes) :
    ∃ chunk, new base64 chunkId index count byteLength (base64.encode piece) = .ok chunk := by
  have hdata : base64.encode piece ≠ "" := by
    intro h
    have hsize := base64.length_encode piece
    rw [h, String.length_empty] at hsize
    have := List.length_pos_of_ne_nil hpiece
    omega
  unfold new
  rw [dif_neg (by rw [not_or, UInt64.not_lt, UInt64.not_lt]; exact hcount),
    dif_neg (UInt64.not_le.mpr hindex), dif_neg hid, dif_neg (by omega),
    dif_neg (not_not.mpr hlength), dif_neg hdata]
  split
  · rename_i hnone
    rw [base64.decode_encode] at hnone
    exact nomatch hnone
  · rename_i decoded hdecode
    have heq := (Option.some.inj ((base64.decode_encode piece).symm.trans hdecode)).symm
    subst heq
    rw [dif_neg (by omega), dif_neg (not_not.mpr rfl)]
    exact ⟨_, rfl⟩

end ChunkFrame

/-! ## Frames -/

inductive TransportFrame (base64 : Base64) where
  | ready (ready : ReadyFrame)
  | rpcChunk (chunk : ChunkFrame base64)

/-- A frame from the OMP process, as its transport sees it: what is no transport
frame it only hands on. -/
inductive ServerMessage (base64 : Base64) (Other : Type) where
  | transport (frame : TransportFrame base64)
  | other (message : Other)

/-- What the transport uses of `serde_json`: `fromSlice` reads a frame and
`toString` is the text it is written as. -/
structure SerdeJson (base64 : Base64) (Other : Type) where
  fromSlice : List UInt8 → Except String (ServerMessage base64 Other)
  toString : ServerMessage base64 Other → String

def utf8 (text : String) : List UInt8 := text.toUTF8.data.toList

namespace ServerMessage

variable {base64 : Base64} {Other : Type}

def fromJsonLine (serde : SerdeJson base64 Other) (line : List UInt8) :
    Except String (ServerMessage base64 Other) :=
  serde.fromSlice line

def toVec (serde : SerdeJson base64 Other) (message : ServerMessage base64 Other) : List UInt8 :=
  utf8 (serde.toString message)

/-- The chunk of a chunk frame. -/
def chunk? : ServerMessage base64 Other → Option (ChunkFrame base64)
  | .transport (.rpcChunk chunk) => some chunk
  | _ => none

/-- The limit of a `ready` frame. -/
def readyLimit? : ServerMessage base64 Other → Option NonZeroU64
  | .transport (.ready ready) => some ready.maxReassembledFrameBytes
  | _ => none

end ServerMessage

/-! ## The text of a chunk frame

`serde_json` writes an object without blanks, its keys in the order of the
fields, and escapes in a string the quote, the backslash and the control
characters. -/

def hexDigits : List Char :=
  ['0', '1', '2', '3', '4', '5', '6', '7', '8', '9', 'a', 'b', 'c', 'd', 'e', 'f']

def hexDigit (n : Nat) : Char := hexDigits.getD n '0'

def jsonEscape (c : Char) : String :=
  if c = '\x22' then "\x5c\x22"
  else if c = '\x5c' then "\x5c\x5c"
  else if c = '\x08' then "\x5cb"
  else if c = '\x09' then "\x5ct"
  else if c = '\x0a' then "\x5cn"
  else if c = '\x0c' then "\x5cf"
  else if c = '\x0d' then "\x5cr"
  else if c.toNat < 32 then
    "\x5cu00" ++ String.ofList [hexDigit (c.toNat / 16), hexDigit (c.toNat % 16)]
  else String.singleton c

def jsonEscapes : List Char → String
  | [] => ""
  | c :: cs => jsonEscape c ++ jsonEscapes cs

def jsonString (text : String) : String := "\x22" ++ jsonEscapes text.toList ++ "\x22"

def jsonFields : List (String × String) → String
  | [] => ""
  | [(key, value)] => jsonString key ++ ":" ++ value
  | (key, value) :: fields => jsonString key ++ ":" ++ value ++ "," ++ jsonFields fields

def jsonObject (fields : List (String × String)) : String :=
  "\x7b" ++ jsonFields fields ++ "\x7d"

def ChunkFrame.json {base64 : Base64} (chunk : ChunkFrame base64) : String :=
  jsonObject
    [("type", jsonString "rpc_chunk"), ("chunkId", jsonString chunk.chunkId),
      ("index", chunk.index.toNat.repr), ("count", chunk.count.get.toNat.repr),
      ("byteLength", chunk.byteLength.get.toNat.repr), ("data", jsonString chunk.data)]

/-! ### Its length -/

theorem length_utf8 (text : String) : (utf8 text).length = text.utf8ByteSize := by
  rw [utf8, Array.length_toList]
  rfl

theorem utf8ByteSize_le (text : String) : text.utf8ByteSize ≤ 4 * text.length := by
  rw [← String.ofList_toList (s := text), String.length_ofList]
  induction text.toList with
  | nil => exact Nat.le_refl _
  | cons c cs ih =>
    have hc := c.utf8Size_le_four
    have hcons : String.ofList (c :: cs) = String.singleton c ++ String.ofList cs := by
      rw [String.singleton_eq_ofList, ← String.ofList_append]
      rfl
    rw [hcons, String.utf8ByteSize_append, String.utf8ByteSize_singleton, List.length_cons]
    omega

theorem hexDigit_size (n : Nat) : (hexDigit n).utf8Size = 1 := by
  have hall : hexDigits.all (fun c => c.utf8Size = 1) = true := by decide
  simp only [List.all_eq_true, decide_eq_true_eq] at hall
  rw [hexDigit, List.getD_eq_getElem?_getD]
  cases h : hexDigits[n]? with
  | none => rfl
  | some c => exact hall c (List.mem_of_getElem? h)

theorem jsonEscape_size (c : Char) : (jsonEscape c).utf8ByteSize ≤ 6 := by
  unfold jsonEscape
  split_ifs
  any_goals exact of_decide_eq_true rfl
  · have hcons (d e : Char) : String.ofList [d, e] = String.singleton d ++ String.singleton e := by
      rw [String.singleton_eq_ofList, String.singleton_eq_ofList, ← String.ofList_append]
      rfl
    rw [hcons, String.utf8ByteSize_append, String.utf8ByteSize_append,
      String.utf8ByteSize_singleton, String.utf8ByteSize_singleton, hexDigit_size, hexDigit_size]
    exact of_decide_eq_true rfl
  · rw [String.utf8ByteSize_singleton]
    exact Nat.le_trans c.utf8Size_le_four (by omega)

/-- The letters of Base64 need no escape. -/
theorem jsonEscape_isText {c : Char} (h : Lib.Base64.IsText c) :
    (jsonEscape c).utf8ByteSize = 1 := by
  have hall : ('=' :: Lib.Base64.alphabet).all
      (fun c => jsonEscape c = String.singleton c ∧ c.utf8Size = 1) = true := by
    decide +kernel
  simp only [List.all_eq_true, decide_eq_true_eq] at hall
  obtain ⟨hplain, hsize⟩ : jsonEscape c = String.singleton c ∧ c.utf8Size = 1 := by
    rcases h with h | rfl
    · exact hall c (List.mem_cons_of_mem _ h)
    · exact hall _ List.mem_cons_self
  rw [hplain, String.utf8ByteSize_singleton, hsize]

theorem jsonEscapes_size (cs : List Char) : (jsonEscapes cs).utf8ByteSize ≤ 6 * cs.length := by
  induction cs with
  | nil => exact Nat.le_refl _
  | cons c cs ih =>
    have := jsonEscape_size c
    rw [jsonEscapes, String.utf8ByteSize_append, List.length_cons]
    omega

theorem jsonEscapes_isText {cs : List Char} (h : ∀ c ∈ cs, Lib.Base64.IsText c) :
    (jsonEscapes cs).utf8ByteSize = cs.length := by
  induction cs with
  | nil => rfl
  | cons c cs ih =>
    rw [List.forall_mem_cons] at h
    rw [jsonEscapes, String.utf8ByteSize_append, List.length_cons, jsonEscape_isText h.1, ih h.2]
    omega

theorem jsonString_size (text : String) : (jsonString text).utf8ByteSize ≤ 2 + 6 * text.length := by
  have := jsonEscapes_size text.toList
  rw [String.length_toList] at this
  rw [jsonString, String.utf8ByteSize_append, String.utf8ByteSize_append]
  have hquote : "\x22".utf8ByteSize = 1 := rfl
  omega

theorem jsonString_isText {text : String} (h : ∀ c ∈ text.toList, Lib.Base64.IsText c) :
    (jsonString text).utf8ByteSize = 2 + text.length := by
  rw [jsonString, String.utf8ByteSize_append, String.utf8ByteSize_append, jsonEscapes_isText h,
    String.length_toList]
  have hquote : "\x22".utf8ByteSize = 1 := rfl
  omega

theorem repr_size {n k : Nat} (hk : 0 < k) (h : n < 10 ^ k) : n.repr.utf8ByteSize ≤ 4 * k := by
  have := utf8ByteSize_le n.repr
  have := Nat.repr_length n k hk h
  omega

theorem jsonFields_size (fields : List (String × String)) :
    (jsonFields fields).utf8ByteSize ≤
      (fields.map fun field => 6 * field.1.length + field.2.utf8ByteSize + 4).sum := by
  have hsep : ":".utf8ByteSize = 1 := rfl
  have hcomma : ",".utf8ByteSize = 1 := rfl
  induction fields using jsonFields.induct with
  | case1 => exact Nat.le_refl _
  | case2 key value =>
    have := jsonString_size key
    simp only [jsonFields, String.utf8ByteSize_append, List.map_cons, List.map_nil, List.sum_cons,
      List.sum_nil]
    omega
  | case3 key value fields hfields ih =>
    have := jsonString_size key
    simp only [jsonFields, String.utf8ByteSize_append, List.map_cons, List.sum_cons]
    omega

theorem jsonObject_size (fields : List (String × String)) :
    (jsonObject fields).utf8ByteSize ≤
      2 + (fields.map fun field => 6 * field.1.length + field.2.utf8ByteSize + 4).sum := by
  have := jsonFields_size fields
  have hopen : "\x7b".utf8ByteSize = 1 := rfl
  have hclose : "\x7d".utf8ByteSize = 1 := rfl
  rw [jsonObject, String.utf8ByteSize_append, String.utf8ByteSize_append]
  omega

/-- A chunk frame is shorter than the shortest frame that is sent in chunks. -/
theorem ChunkFrame.json_size {base64 : Base64} (chunk : ChunkFrame base64) :
    chunk.json.utf8ByteSize < ChunkFrame.minByteLength.toNat := by
  have hid := jsonString_size chunk.chunkId
  have hchars : chunk.chunkId.length ≤ 128 := chunk.chunkId_le
  have hindex : chunk.index.toNat.repr.utf8ByteSize ≤ 4 * 10 :=
    repr_size (by decide) (Nat.lt_trans chunk.index.toNat_lt (by decide))
  have hcount : chunk.count.get.toNat.repr.utf8ByteSize ≤ 4 * 20 :=
    repr_size (by decide) (Nat.lt_trans chunk.count.get.toNat_lt (by decide))
  have hlength : chunk.byteLength.get.toNat.repr.utf8ByteSize ≤ 4 * 20 :=
    repr_size (by decide) (Nat.lt_trans chunk.byteLength.get.toNat_lt (by decide))
  have hdata : (jsonString chunk.data).utf8ByteSize = 2 + chunk.data.length := by
    refine jsonString_isText ?_
    rw [← chunk.encode_decodedData]
    exact base64.isText_encode _
  -- 256 KiB are at most 349528 letters
  have hletters : chunk.data.length ≤ 349528 := by
    have hpayload : chunk.decodedData.length ≤ 262144 := chunk.decodedData_le
    rw [← chunk.encode_decodedData, base64.length_encode]
    omega
  have hkeys : ("type".length, "chunkId".length, "index".length, "count".length,
      "byteLength".length, "data".length, (jsonString "rpc_chunk").utf8ByteSize) =
      (4, 7, 5, 5, 10, 4, 11) := by decide +kernel
  simp only [Prod.mk.injEq] at hkeys
  obtain ⟨h1, h2, h3, h4, h5, h6, h7⟩ := hkeys
  have hsize := jsonObject_size
    [("type", jsonString "rpc_chunk"), ("chunkId", jsonString chunk.chunkId),
      ("index", chunk.index.toNat.repr), ("count", chunk.count.get.toNat.repr),
      ("byteLength", chunk.byteLength.get.toNat.repr), ("data", jsonString chunk.data)]
  simp only [List.map_cons, List.map_nil, List.sum_cons, List.sum_nil, h1, h2, h3, h4, h5, h6, h7,
    hdata] at hsize
  rw [ChunkFrame.json]
  have hmin : ChunkFrame.minByteLength.toNat = 1048576 := rfl
  omega

end OmpRemote.Rpc.Transport

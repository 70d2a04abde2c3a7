import Mathlib.Data.List.Induction
import OmpRemote.Rpc.Chunk
import OmpRemote.Rpc.Message

/-!
# The frame decoder

`RpcFrameDecoder` hands on the frames of an OMP process one by one. A frame that
was too long to be sent whole comes as a group of chunks, which the decoder
collects and reads at the last of them.

What it accepts is a grammar (`Sentence`): plain frames and complete groups, and
after them at most one group that is not complete yet.

- `push_ok`: what a push that succeeds has read.
- `pushAll_sentence`: the decoder reads every sentence, with the results the
  grammar says.
- `decoder_grammar`: the decoder accepts exactly the sentences, and a frame that
  is cut in chunks is read back.
-/

namespace OmpRemote.Rpc.Transport

variable {base64 : Base64} {Other : Type}

/-! ## The decoder -/

structure PendingChunks where
  chunkId : String
  count : NonZeroU64
  byteLength : NonZeroU64
  nextIndex : UInt32
  data : List UInt8
  deriving DecidableEq

inductive RpcFrameDecodeError where
  | sequenceInterrupted
  | sequenceMustStartAtZero
  | sequenceMismatch
  | sequenceExceedsDeclaredLength
  | sequenceLengthMismatch
  | declaredLengthExceedsLimit
  | invalidUtf8 (bytes : List UInt8)
  | invalidJson (error : String)
  | nestedChunkFrame
  deriving DecidableEq, Repr

def RpcFrameDecodeError.message : RpcFrameDecodeError → String
  | sequenceInterrupted => "RPC chunk sequence was interrupted"
  | sequenceMustStartAtZero => "RPC chunk sequence must start at index zero"
  | sequenceMismatch => "RPC chunk sequence metadata mismatch"
  | sequenceExceedsDeclaredLength => "RPC chunk sequence exceeds its declared byte length"
  | sequenceLengthMismatch => "RPC chunk sequence byte length mismatch"
  | declaredLengthExceedsLimit => "RPC chunk sequence exceeds the advertised reassembly limit"
  | invalidUtf8 _ => "reassembled RPC frame is not valid UTF-8"
  | invalidJson _ => "RPC frame is not valid JSON"
  | nestedChunkFrame => "reassembled RPC frame cannot contain another chunk frame"

structure RpcFrameDecoder where
  pending : Option PendingChunks
  maxReassembledFrameBytes : NonZeroU64
  deriving DecidableEq

/-- What a push returns. -/
abbrev PushResult (base64 : Base64) (Other : Type) :=
  Except RpcFrameDecodeError (Option (ServerMessage base64 Other))

/-- The chunks that a first chunk announces, none of them taken yet. -/
def PendingChunks.start (chunk : ChunkFrame base64) : PendingChunks where
  chunkId := chunk.chunkId
  count := chunk.count
  byteLength := chunk.byteLength
  nextIndex := 0
  data := []

def PendingChunks.finish (serde : SerdeJson base64 Other) (pending : PendingChunks) :
    PushResult base64 Other :=
  match String.fromUTF8? ⟨pending.data.toArray⟩ with
  | none => .error (.invalidUtf8 pending.data)
  | some json =>
    match ServerMessage.fromJsonLine serde (utf8 json) with
    | .error error => .error (.invalidJson error)
    | .ok (.transport (.rpcChunk _)) => .error .nestedChunkFrame
    | .ok message => .ok (some message)

namespace RpcFrameDecoder

def new (maxReassembledFrameBytes : NonZeroU64) : RpcFrameDecoder :=
  { pending := none, maxReassembledFrameBytes }

/-- The limit before a `ready` frame has named one. -/
def default : RpcFrameDecoder :=
  new ⟨ReadyFrame.defaultMaxReassembledFrameBytes,
    ReadyFrame.defaultMaxReassembledFrameBytes_ne⟩

def isReassembling (decoder : RpcFrameDecoder) : Bool :=
  decoder.pending.isSome

/-- The part of `push` from where `pending` is there. -/
def append (serde : SerdeJson base64 Other) (decoder : RpcFrameDecoder) (pending : PendingChunks)
    (chunk : ChunkFrame base64) : PushResult base64 Other × RpcFrameDecoder :=
  if pending.chunkId ≠ chunk.chunkId ∨ pending.count ≠ chunk.count ∨
      pending.byteLength ≠ chunk.byteLength ∨ pending.nextIndex ≠ chunk.index then
    (.error .sequenceMismatch, { decoder with pending := some pending })
  else
    let pending := { pending with
      data := chunk.appendDecodedData pending.data
      nextIndex := pending.nextIndex + 1 }
    if pending.byteLength.get.toNat < pending.data.length then
      (.error .sequenceExceedsDeclaredLength, { decoder with pending := some pending })
    else if pending.nextIndex.toUInt64 < pending.count.get then
      (.ok none, { decoder with pending := some pending })
    else if pending.data.length ≠ pending.byteLength.get.toNat then
      (.error .sequenceLengthMismatch, { decoder with pending := some pending })
    else
      (pending.finish serde, { decoder with pending := none })

def push (serde : SerdeJson base64 Other) (decoder : RpcFrameDecoder) :
    ServerMessage base64 Other → PushResult base64 Other × RpcFrameDecoder
  | .transport (.rpcChunk chunk) =>
    if decoder.maxReassembledFrameBytes.get < chunk.byteLength.get then
      (.error .declaredLengthExceedsLimit, decoder)
    else match decoder.pending with
      | some pending => decoder.append serde pending chunk
      | none =>
        if chunk.index ≠ 0 then (.error .sequenceMustStartAtZero, decoder)
        else decoder.append serde (.start chunk) chunk
  | .transport (.ready ready) =>
    if decoder.pending.isSome then (.error .sequenceInterrupted, decoder)
    else
      (.ok (some (.transport (.ready ready))),
        { decoder with maxReassembledFrameBytes := ready.maxReassembledFrameBytes })
  | .other message =>
    if decoder.pending.isSome then (.error .sequenceInterrupted, decoder)
    else (.ok (some (.other message)), decoder)

def pushJsonLine (serde : SerdeJson base64 Other) (decoder : RpcFrameDecoder)
    (line : List UInt8) : PushResult base64 Other × RpcFrameDecoder :=
  match ServerMessage.fromJsonLine serde line with
  | .error error => (.error (.invalidJson error), decoder)
  | .ok message => decoder.push serde message

/-- The results of pushing frames one after the other. -/
def pushAll (serde : SerdeJson base64 Other) (decoder : RpcFrameDecoder) :
    List (ServerMessage base64 Other) → List (PushResult base64 Other) × RpcFrameDecoder
  | [] => ([], decoder)
  | frame :: frames =>
    let (result, decoder) := decoder.push serde frame
    let (results, decoder) := decoder.pushAll serde frames
    (result :: results, decoder)

theorem pushAll_cons {serde : SerdeJson base64 Other} {decoder next : RpcFrameDecoder}
    {frame : ServerMessage base64 Other} {frames : List (ServerMessage base64 Other)}
    {result : PushResult base64 Other} (h : decoder.push serde frame = (result, next)) :
    decoder.pushAll serde (frame :: frames) =
      (result :: (next.pushAll serde frames).1, (next.pushAll serde frames).2) := by
  rw [pushAll, h]

theorem pushAll_append {serde : SerdeJson base64 Other} {decoder next : RpcFrameDecoder}
    {frames later : List (ServerMessage base64 Other)}
    {results : List (PushResult base64 Other)}
    (h : decoder.pushAll serde frames = (results, next)) :
    decoder.pushAll serde (frames ++ later) =
      (results ++ (next.pushAll serde later).1, (next.pushAll serde later).2) := by
  induction frames generalizing decoder results with
  | nil =>
    cases h
    rfl
  | cons frame frames ih =>
    rcases hpush : decoder.push serde frame with ⟨result, middle⟩
    rw [pushAll_cons hpush] at h
    cases h
    rw [List.cons_append, pushAll_cons hpush, ih rfl]
    rfl

end RpcFrameDecoder

/-! ## The grammar -/

/-- The bytes that chunks carry, in their order. -/
def payload (chunks : List (ChunkFrame base64)) : List UInt8 :=
  chunks.flatMap ChunkFrame.decodedData

def chunkFrames (chunks : List (ChunkFrame base64)) : List (ServerMessage base64 Other) :=
  chunks.map fun chunk => .transport (.rpcChunk chunk)

/-- The chunks of one group, from its first on. -/
structure Group (limit : NonZeroU64) (chunks : List (ChunkFrame base64)) : Prop where
  ne_nil : chunks ≠ []
  shared : ∀ first ∈ chunks, ∀ chunk ∈ chunks, first.chunkId = chunk.chunkId ∧
    first.count = chunk.count ∧ first.byteLength = chunk.byteLength
  ordered : chunks.map (·.index.toNat) = List.range chunks.length
  limited : ∀ chunk ∈ chunks, chunk.byteLength.get ≤ limit.get
  bounded : ∀ chunk ∈ chunks, (payload chunks).length ≤ chunk.byteLength.get.toNat

/-- A group that more chunks have to follow. -/
structure Incomplete (limit : NonZeroU64) (chunks : List (ChunkFrame base64)) : Prop
    extends Group limit chunks where
  short : ∀ chunk ∈ chunks, chunks.length < chunk.count.get.toNat

/-- A group of all its chunks, and the frame their bytes are the JSON text of. -/
structure Complete (serde : SerdeJson base64 Other) (limit : NonZeroU64)
    (chunks : List (ChunkFrame base64)) (message : ServerMessage base64 Other) : Prop
    extends Group limit chunks where
  counted : ∀ chunk ∈ chunks, chunks.length = chunk.count.get.toNat
  filled : ∀ chunk ∈ chunks, (payload chunks).length = chunk.byteLength.get.toNat
  read : ∃ json, utf8 json = payload chunks ∧
    ServerMessage.fromJsonLine serde (payload chunks) = .ok message
  notChunk : message.chunk? = none

/-- A part of a sentence: a frame sent whole, or a group and the frame it is read as. -/
inductive Segment (base64 : Base64) (Other : Type) where
  | plain (message : ServerMessage base64 Other)
  | group (chunks : List (ChunkFrame base64)) (message : ServerMessage base64 Other)

namespace Segment

def frames : Segment base64 Other → List (ServerMessage base64 Other)
  | plain message => [message]
  | group chunks _ => chunkFrames chunks

/-- The frame that is handed on for a segment. -/
def message : Segment base64 Other → ServerMessage base64 Other
  | plain message => message
  | group _ message => message

/-- The limit that a plain `ready` frame sets. -/
def readyLimit? : Segment base64 Other → Option NonZeroU64
  | plain message => message.readyLimit?
  | group _ _ => none

def WellFormed (serde : SerdeJson base64 Other) (limit : NonZeroU64) :
    Segment base64 Other → Prop
  | plain message => message.chunk? = none
  | group chunks message => Complete serde limit chunks message

end Segment

/-- The limit of the last plain `ready` frame, or the initial one. -/
def limitAfter (initial : NonZeroU64) (segments : List (Segment base64 Other)) : NonZeroU64 :=
  (segments.filterMap Segment.readyLimit?).getLastD initial

/-- Plain frames and complete groups, and `rest`, which is empty or a group that is
not complete, each within the limit that is set before it. -/
structure Sentence (serde : SerdeJson base64 Other) (initial : NonZeroU64)
    (segments : List (Segment base64 Other)) (rest : List (ChunkFrame base64)) : Prop where
  wellFormed : ∀ before segment after, segments = before ++ segment :: after →
    segment.WellFormed serde (limitAfter initial before)
  incomplete : rest = [] ∨ Incomplete (limitAfter initial segments) rest

/-- The frames of a sentence. -/
def sentence (segments : List (Segment base64 Other)) (rest : List (ChunkFrame base64)) :
    List (ServerMessage base64 Other) :=
  segments.flatMap Segment.frames ++ chunkFrames rest

/-! ## Groups grow chunk by chunk -/

@[simp] theorem payload_nil : payload ([] : List (ChunkFrame base64)) = [] := rfl

@[simp] theorem payload_concat (chunks : List (ChunkFrame base64)) (chunk : ChunkFrame base64) :
    payload (chunks ++ [chunk]) = payload chunks ++ chunk.decodedData := by
  rw [payload, List.flatMap_append, List.flatMap_singleton]
  rfl

/-- One chunk after the chunks of a group, if any. -/
theorem group_concat_iff {limit : NonZeroU64} {chunks : List (ChunkFrame base64)}
    {chunk : ChunkFrame base64} (hopen : chunks = [] ∨ Group limit chunks) :
    Group limit (chunks ++ [chunk]) ↔
      (∀ first ∈ chunks, first.chunkId = chunk.chunkId ∧ first.count = chunk.count ∧
        first.byteLength = chunk.byteLength) ∧
      chunk.index.toNat = chunks.length ∧ chunk.byteLength.get ≤ limit.get ∧
      (payload (chunks ++ [chunk])).length ≤ chunk.byteLength.get.toNat := by
  constructor
  · intro hgroup
    have hlast : chunk ∈ chunks ++ [chunk] := List.mem_append_right _ List.mem_cons_self
    refine ⟨fun first hfirst => hgroup.shared first (List.mem_append_left _ hfirst) chunk hlast, ?_,
      hgroup.limited chunk hlast, hgroup.bounded chunk hlast⟩
    have hordered := hgroup.ordered
    rw [List.length_append, List.length_singleton, List.range_succ, List.map_append,
      List.map_singleton] at hordered
    exact (List.append_singleton_inj.mp hordered).2
  · rintro ⟨hshared, hindex, hlimit, hbound⟩
    have hmem (a : ChunkFrame base64) (ha : a ∈ chunks ++ [chunk]) : a ∈ chunks ∨ a = chunk := by
      rwa [List.mem_append, List.mem_singleton] at ha
    have hlike (a : ChunkFrame base64) (ha : a ∈ chunks ++ [chunk]) :
        a.chunkId = chunk.chunkId ∧ a.count = chunk.count ∧ a.byteLength = chunk.byteLength := by
      rcases hmem a ha with ha | rfl
      · exact hshared a ha
      · exact ⟨rfl, rfl, rfl⟩
    constructor
    · exact List.append_ne_nil_of_right_ne_nil _ (List.cons_ne_nil _ _)
    · intro a ha b hb
      obtain ⟨h1, h2, h3⟩ := hlike a ha
      obtain ⟨h4, h5, h6⟩ := hlike b hb
      exact ⟨h1.trans h4.symm, h2.trans h5.symm, h3.trans h6.symm⟩
    · rw [List.length_append, List.length_singleton, List.range_succ, List.map_append,
        List.map_singleton, hindex]
      rcases hopen with rfl | hgroup
      · rfl
      · rw [hgroup.ordered]
    · intro a ha
      rw [(hlike a ha).2.2]
      exact hlimit
    · intro a ha
      rw [(hlike a ha).2.2]
      exact hbound

/-- A group that is not complete has fewer than 2 ^ 32 chunks. -/
theorem Incomplete.length_lt {limit : NonZeroU64} {chunks : List (ChunkFrame base64)}
    (h : Incomplete limit chunks) : chunks.length < 256 := by
  obtain ⟨chunk, hchunk⟩ := List.exists_mem_of_ne_nil _ h.ne_nil
  have := h.short chunk hchunk
  have := chunk.count_le
  omega

/-! ## What the decoder holds -/

/-- What is pending after the chunks of a group whose first is `first`. -/
def PendingChunks.of (first : ChunkFrame base64) (chunks : List (ChunkFrame base64)) :
    PendingChunks :=
  { PendingChunks.start first with
    nextIndex := UInt32.ofNat chunks.length
    data := payload chunks }

/-- The decoder after plain frames and complete groups that leave it the limit, and the
chunks of a group. -/
def RpcFrameDecoder.holding (limit : NonZeroU64) (chunks : List (ChunkFrame base64)) :
    RpcFrameDecoder where
  pending := chunks.head?.map fun first => .of first chunks
  maxReassembledFrameBytes := limit

/-- The group that a chunk may go on with. -/
def Open (limit : NonZeroU64) (rest : List (ChunkFrame base64)) : Prop :=
  rest = [] ∨ Incomplete limit rest

namespace Open

variable {limit : NonZeroU64} {rest : List (ChunkFrame base64)}

theorem length_lt (h : Open limit rest) : rest.length < 256 := by
  rcases h with rfl | h
  · exact of_decide_eq_true rfl
  · exact h.length_lt

/-- What is pending fits the chunk when the chunk goes on with the group. -/
theorem fits_iff (h : Open limit rest) (chunk : ChunkFrame base64) :
    ((rest.headD chunk).chunkId = chunk.chunkId ∧ (rest.headD chunk).count = chunk.count ∧
      (rest.headD chunk).byteLength = chunk.byteLength ∧
      UInt32.ofNat rest.length = chunk.index) ↔
    (∀ first ∈ rest, first.chunkId = chunk.chunkId ∧ first.count = chunk.count ∧
      first.byteLength = chunk.byteLength) ∧ chunk.index.toNat = rest.length := by
  have hlength := h.length_lt
  have hindex : UInt32.ofNat rest.length = chunk.index ↔ chunk.index.toNat = rest.length := by
    rw [← UInt32.toNat_inj, UInt32.toNat_ofNat', Nat.mod_eq_of_lt (by omega)]
    exact eq_comm
  rw [hindex]
  cases rest with
  | nil => exact ⟨fun h => ⟨nofun, h.2.2.2⟩, fun h => ⟨rfl, rfl, rfl, h.2⟩⟩
  | cons head more =>
    rcases h with h | hincomplete
    · exact nomatch h
    constructor
    · rintro ⟨hid, hcount, hbytes, hnext⟩
      refine ⟨fun first hfirst => ?_, hnext⟩
      obtain ⟨h1, h2, h3⟩ := hincomplete.shared first hfirst head List.mem_cons_self
      exact ⟨h1.trans hid, h2.trans hcount, h3.trans hbytes⟩
    · rintro ⟨hlike, hnext⟩
      obtain ⟨h1, h2, h3⟩ := hlike head List.mem_cons_self
      exact ⟨h1, h2, h3, hnext⟩

end Open

namespace RpcFrameDecoder

variable {serde : SerdeJson base64 Other} {limit : NonZeroU64} {rest : List (ChunkFrame base64)}

theorem holding_concat (chunk : ChunkFrame base64) :
    holding limit (rest ++ [chunk]) =
      { holding limit rest with
        pending := some (.of (rest.headD chunk) (rest ++ [chunk])) } := by
  cases rest <;> rfl

/-- A chunk within the limit is appended to what is pending, or starts a group. -/
theorem push_chunk {chunk : ChunkFrame base64} (hlimit : chunk.byteLength.get ≤ limit.get)
    (hindex : rest = [] → chunk.index.toNat = 0) :
    (holding limit rest).push serde (.transport (.rpcChunk chunk)) =
      (holding limit rest).append serde (.of (rest.headD chunk) rest) chunk := by
  have hmax : (holding limit rest).maxReassembledFrameBytes = limit := rfl
  rw [push, hmax, if_neg (UInt64.not_lt.mpr hlimit)]
  cases rest with
  | nil =>
    have hzero : chunk.index = 0 := UInt32.toNat_inj.mp (hindex rfl)
    simp only [holding, List.head?_nil, Option.map_none, List.headD_nil]
    rw [if_neg (not_not.mpr hzero)]
    rfl
  | cons first more => rfl

/-- A chunk that does not go on with the group is refused. -/
theorem push_chunk_error (serde : SerdeJson base64 Other) {chunk : ChunkFrame base64}
    (hopen : Open limit rest)
    (hgroup : ¬ Group limit (rest ++ [chunk])) :
    ∃ error, ((holding limit rest).push serde (.transport (.rpcChunk chunk))).1 =
      .error error := by
  by_cases hlimit : chunk.byteLength.get ≤ limit.get
  case neg =>
    refine ⟨.declaredLengthExceedsLimit, ?_⟩
    rw [push, if_pos]
    exact UInt64.not_le.mp hlimit
  by_cases hindex : rest = [] → chunk.index.toNat = 0
  case neg =>
    obtain ⟨rfl, hzero⟩ := Classical.not_imp.mp hindex
    refine ⟨.sequenceMustStartAtZero, ?_⟩
    rw [push, if_neg]
    · have hne : chunk.index ≠ 0 := fun h => hzero (congrArg UInt32.toNat h)
      simp only [holding, List.head?_nil, Option.map_none]
      rw [if_pos hne]
    · exact UInt64.not_lt.mpr hlimit
  rw [push_chunk hlimit hindex, append]
  by_cases hfits : (rest.headD chunk).chunkId = chunk.chunkId ∧
    (rest.headD chunk).count = chunk.count ∧ (rest.headD chunk).byteLength = chunk.byteLength ∧
    UInt32.ofNat rest.length = chunk.index
  case neg =>
    refine ⟨.sequenceMismatch, ?_⟩
    rw [if_pos]
    simp only [not_and_or] at hfits
    exact hfits
  rw [if_neg (by simp only [not_or, not_not]; exact hfits)]
  obtain ⟨hlike, hnext⟩ := (hopen.fits_iff chunk).mp hfits
  -- the chunk fits, so it carries more than the group has room for
  refine ⟨.sequenceExceedsDeclaredLength, ?_⟩
  rw [if_pos]
  rw [group_concat_iff (hopen.imp_right (·.toGroup))] at hgroup
  have hover : ¬ (payload (rest ++ [chunk])).length ≤ chunk.byteLength.get.toNat :=
    fun h => hgroup ⟨hlike, hnext, hlimit, h⟩
  rw [payload_concat] at hover
  have hbytes : (rest.headD chunk).byteLength = chunk.byteLength := hfits.2.2.1
  simp only [PendingChunks.of, PendingChunks.start, ChunkFrame.appendDecodedData, hbytes]
  omega

/-- A chunk that goes on with the group is taken, and the last of a group has it read. -/
theorem push_chunk_group (serde : SerdeJson base64 Other) {chunk : ChunkFrame base64}
    (hopen : Open limit rest)
    (hgroup : Group limit (rest ++ [chunk])) :
    (holding limit rest).push serde (.transport (.rpcChunk chunk)) =
      if (rest ++ [chunk]).length < chunk.count.get.toNat then
        (.ok none, holding limit (rest ++ [chunk]))
      else if (payload (rest ++ [chunk])).length ≠ chunk.byteLength.get.toNat then
        (.error .sequenceLengthMismatch, holding limit (rest ++ [chunk]))
      else
        ((PendingChunks.of (rest.headD chunk) (rest ++ [chunk])).finish serde,
          holding limit ([] : List (ChunkFrame base64))) := by
  obtain ⟨hlike, hnext, hlimit, hbound⟩ :=
    (group_concat_iff (hopen.imp_right (·.toGroup))).mp hgroup
  have hfits := (hopen.fits_iff chunk).mpr ⟨hlike, hnext⟩
  have hindex : rest = [] → chunk.index.toNat = 0 := by
    rintro rfl
    exact hnext
  have hlength := hopen.length_lt
  have hstep : UInt32.ofNat rest.length + 1 = UInt32.ofNat (rest ++ [chunk]).length := by
    rw [List.length_append, List.length_singleton, UInt32.ofNat_add]
    rfl
  have hcount : (UInt32.ofNat (rest ++ [chunk]).length).toUInt64 < chunk.count.get ↔
      (rest ++ [chunk]).length < chunk.count.get.toNat := by
    rw [UInt64.lt_iff_toNat_lt, UInt32.toNat_toUInt64, UInt32.toNat_ofNat', Nat.mod_eq_of_lt]
    rw [List.length_append, List.length_singleton]
    omega
  rw [push_chunk hlimit hindex, append, if_neg (by simp only [not_or, not_not]; exact hfits)]
  simp only [holding_concat, PendingChunks.of, PendingChunks.start, ChunkFrame.appendDecodedData,
    ← payload_concat, hstep, hfits.2.1, hfits.2.2.1, hcount]
  rw [if_neg (by omega)]
  rfl

end RpcFrameDecoder

/-! ## Frames that are read -/

theorem utf8_eq_iff {json : String} {bytes : List UInt8} :
    utf8 json = bytes ↔ String.fromUTF8? ⟨bytes.toArray⟩ = some json := by
  constructor
  · rintro rfl
    have hbytes : (⟨(utf8 json).toArray⟩ : ByteArray) = json.toByteArray := by
      simp only [utf8, Array.toArray_toList, String.toUTF8_eq_toByteArray]
    rw [hbytes, String.fromUTF8?, dif_pos json.isValidUTF8]
    rfl
  · unfold utf8 String.fromUTF8?
    intro h
    split at h
    · cases h
      rfl
    · cases h

theorem PendingChunks.finish_ok_iff {serde : SerdeJson base64 Other}
    {pending : PendingChunks} {result : Option (ServerMessage base64 Other)} :
    pending.finish serde = .ok result ↔ ∃ message, result = some message ∧
      (∃ json, utf8 json = pending.data ∧
        ServerMessage.fromJsonLine serde pending.data = .ok message) ∧ message.chunk? = none := by
  unfold PendingChunks.finish
  constructor
  · intro h
    split at h
    · exact nomatch h
    · rename_i json hjson
      have hutf8 := utf8_eq_iff.mpr hjson
      rw [hutf8] at h
      split at h
      · exact nomatch h
      · exact nomatch h
      · rename_i message hchunk hread
        cases h
        refine ⟨message, rfl, ⟨json, hutf8, hread⟩, ?_⟩
        unfold ServerMessage.chunk?
        split
        · rename_i chunk
          exact (hchunk chunk rfl).elim
        · rfl
  · rintro ⟨message, rfl, ⟨json, hutf8, hread⟩, hchunk⟩
    rw [utf8_eq_iff.mp hutf8]
    simp only [hutf8, hread]
    split
    · rename_i h
      cases h
    · rename_i h
      cases h
      exact nomatch hchunk
    · rename_i h
      cases h
      rfl

namespace RpcFrameDecoder

variable {serde : SerdeJson base64 Other} {limit : NonZeroU64} {rest : List (ChunkFrame base64)}

theorem push_plain {message : ServerMessage base64 Other} (h : message.chunk? = none) :
    (holding limit ([] : List (ChunkFrame base64))).push serde message =
      (.ok (some message),
        holding (message.readyLimit?.getD limit) ([] : List (ChunkFrame base64))) := by
  match message with
  | .transport (.rpcChunk _) => exact nomatch h
  | .transport (.ready _) => rfl
  | .other _ => rfl

/-- What a push that succeeds has read: a plain frame between groups, a chunk more of
a group, or the last chunk of one. -/
theorem push_ok {frame : ServerMessage base64 Other}
    {result : Option (ServerMessage base64 Other)} (hopen : Open limit rest)
    (h : ((holding limit rest).push serde frame).1 = .ok result) :
    (rest = [] ∧ frame.chunk? = none) ∨
    (∃ chunk, frame = .transport (.rpcChunk chunk) ∧ Incomplete limit (rest ++ [chunk]) ∧
      (holding limit rest).push serde frame = (.ok none, holding limit (rest ++ [chunk]))) ∨
    ∃ chunk message, frame = .transport (.rpcChunk chunk) ∧
      Complete serde limit (rest ++ [chunk]) message ∧
      (holding limit rest).push serde frame =
        (.ok (some message), holding limit ([] : List (ChunkFrame base64))) := by
  have hplain (hchunk : frame.chunk? = none) : rest = [] := by
    cases rest with
    | nil => rfl
    | cons first more =>
      match frame with
      | .transport (.rpcChunk _) => exact nomatch hchunk
      | .transport (.ready _) => exact nomatch h
      | .other _ => exact nomatch h
  match frame, hplain with
  | .transport (.ready _), hplain => exact .inl ⟨hplain rfl, rfl⟩
  | .other _, hplain => exact .inl ⟨hplain rfl, rfl⟩
  | .transport (.rpcChunk chunk), _ =>
    refine .inr ?_
    have hlast : chunk ∈ rest ++ [chunk] := List.mem_append_right _ List.mem_cons_self
    by_cases hgroup : Group limit (rest ++ [chunk])
    case neg =>
      obtain ⟨error, herror⟩ := push_chunk_error serde hopen hgroup
      exact nomatch herror.symm.trans h
    have hpush := push_chunk_group serde hopen hgroup
    split_ifs at hpush with hshort hfilled
    · refine .inl ⟨chunk, rfl, ⟨hgroup, fun a ha => ?_⟩, hpush⟩
      rw [(hgroup.shared a ha chunk hlast).2.1]
      exact hshort
    · rw [hpush] at h
      exact nomatch h
    · rw [hpush] at h
      obtain ⟨message, rfl, hread, hmessage⟩ := PendingChunks.finish_ok_iff.mp h
      -- the index of the last chunk is below the count, so there are not more of them
      have hcounted : (rest ++ [chunk]).length = chunk.count.get.toNat := by
        have hindex := ((group_concat_iff (hopen.imp_right (·.toGroup))).mp hgroup).2.1
        have := chunk.index_lt_count
        rw [List.length_append, List.length_singleton] at hshort ⊢
        omega
      refine .inr ⟨chunk, message, rfl, ⟨hgroup, fun a ha => ?_, fun a ha => ?_, hread, hmessage⟩,
        ?_⟩
      · rw [(hgroup.shared a ha chunk hlast).2.1]
        exact hcounted
      · rw [(hgroup.shared a ha chunk hlast).2.2]
        exact not_not.mp hfilled
      · rw [hpush]
        exact Prod.ext h rfl

theorem push_short {chunk : ChunkFrame base64} (hopen : Open limit rest)
    (h : Incomplete limit (rest ++ [chunk])) :
    (holding limit rest).push serde (.transport (.rpcChunk chunk)) =
      (.ok none, holding limit (rest ++ [chunk])) := by
  rw [push_chunk_group serde hopen h.toGroup, if_pos]
  exact h.short chunk (List.mem_append_right _ List.mem_cons_self)

theorem push_last {chunk : ChunkFrame base64} {message : ServerMessage base64 Other}
    (hopen : Open limit rest) (h : Complete serde limit (rest ++ [chunk]) message) :
    (holding limit rest).push serde (.transport (.rpcChunk chunk)) =
      (.ok (some message), holding limit ([] : List (ChunkFrame base64))) := by
  have hlast : chunk ∈ rest ++ [chunk] := List.mem_append_right _ List.mem_cons_self
  have hcounted := h.counted chunk hlast
  rw [push_chunk_group serde hopen h.toGroup, if_neg (by omega),
    if_neg (not_not.mpr (h.filled chunk hlast)),
    PendingChunks.finish_ok_iff.mpr ⟨message, rfl, h.read, h.notChunk⟩]

end RpcFrameDecoder

/-! ## The decoder reads every sentence -/

/-- The chunks of a group before its last are a group that is not complete. -/
theorem Group.open_left {limit : NonZeroU64} {chunks : List (ChunkFrame base64)}
    {chunk : ChunkFrame base64} (h : Group limit (chunks ++ [chunk]))
    (hcount : ∀ a ∈ chunks ++ [chunk], (chunks ++ [chunk]).length ≤ a.count.get.toNat) :
    Open limit chunks := by
  by_cases hnil : chunks = []
  case pos => exact .inl hnil
  have hmem {a : ChunkFrame base64} (ha : a ∈ chunks) : a ∈ chunks ++ [chunk] :=
    List.mem_append_left _ ha
  refine .inr ⟨⟨hnil, ?_, ?_, ?_, ?_⟩, ?_⟩
  · intro a ha b hb
    exact h.shared a (hmem ha) b (hmem hb)
  · have hordered := h.ordered
    rw [List.length_append, List.length_singleton, List.range_succ, List.map_append,
      List.map_singleton] at hordered
    exact (List.append_singleton_inj.mp hordered).1
  · intro a ha
    exact h.limited a (hmem ha)
  · intro a ha
    have := h.bounded a (hmem ha)
    rw [payload_concat, List.length_append] at this
    omega
  · intro a ha
    have := hcount a (hmem ha)
    rw [List.length_append, List.length_singleton] at this
    omega

theorem Open.left {limit : NonZeroU64} {chunks : List (ChunkFrame base64)}
    {chunk : ChunkFrame base64} (h : Incomplete limit (chunks ++ [chunk])) : Open limit chunks :=
  h.toGroup.open_left fun a ha => Nat.le_of_lt (h.short a ha)

theorem chunkFrames_concat (chunks : List (ChunkFrame base64)) (chunk : ChunkFrame base64) :
    (chunkFrames (chunks ++ [chunk]) : List (ServerMessage base64 Other)) =
      chunkFrames chunks ++ [.transport (.rpcChunk chunk)] :=
  List.map_append

/-- The results of pushing the frames of a segment. -/
def Segment.results : Segment base64 Other → List (PushResult base64 Other)
  | plain message => [.ok (some message)]
  | group chunks message => List.replicate (chunks.length - 1) (.ok none) ++ [.ok (some message)]

namespace RpcFrameDecoder

variable {serde : SerdeJson base64 Other} {limit : NonZeroU64}

theorem pushAll_open {rest : List (ChunkFrame base64)} (h : Open limit rest) :
    (holding limit ([] : List (ChunkFrame base64))).pushAll serde (chunkFrames rest) =
      (List.replicate rest.length (.ok none), holding limit rest) := by
  induction rest using List.reverseRecOn with
  | nil => rfl
  | append_singleton rest chunk ih =>
    have hincomplete : Incomplete limit (rest ++ [chunk]) :=
      h.resolve_left (List.append_ne_nil_of_right_ne_nil _ (List.cons_ne_nil _ _))
    have hopen := Open.left hincomplete
    rw [chunkFrames_concat, pushAll_append (ih hopen),
      pushAll_cons (push_short hopen hincomplete), List.length_append, List.length_singleton,
      List.replicate_succ']
    rfl

theorem pushAll_complete {chunks : List (ChunkFrame base64)}
    {message : ServerMessage base64 Other} (h : Complete serde limit chunks message) :
    (holding limit ([] : List (ChunkFrame base64))).pushAll serde (chunkFrames chunks) =
      ((Segment.group chunks message).results,
        holding limit ([] : List (ChunkFrame base64))) := by
  obtain ⟨before, chunk, rfl⟩ := (List.eq_nil_or_concat' chunks).resolve_left h.ne_nil
  have hopen : Open limit before := h.toGroup.open_left fun a ha => Nat.le_of_eq (h.counted a ha)
  rw [chunkFrames_concat, pushAll_append (pushAll_open hopen), pushAll_cons (push_last hopen h),
    Segment.results, List.length_append, List.length_singleton, Nat.add_sub_cancel]
  rfl

end RpcFrameDecoder

theorem limitAfter_cons (initial : NonZeroU64) (segment : Segment base64 Other)
    (segments : List (Segment base64 Other)) :
    limitAfter initial (segment :: segments) =
      limitAfter (segment.readyLimit?.getD initial) segments := by
  unfold limitAfter
  rw [List.filterMap_cons]
  cases segment.readyLimit? with
  | none => rfl
  | some limit => exact List.getLastD_cons

theorem sentence_cons_iff {serde : SerdeJson base64 Other} {initial : NonZeroU64}
    {segment : Segment base64 Other} {segments : List (Segment base64 Other)}
    {rest : List (ChunkFrame base64)} :
    Sentence serde initial (segment :: segments) rest ↔
      segment.WellFormed serde initial ∧
        Sentence serde (segment.readyLimit?.getD initial) segments rest := by
  constructor
  · rintro ⟨hwell, hrest⟩
    refine ⟨hwell [] segment segments rfl, fun before next after hsplit => ?_, ?_⟩
    · rw [← limitAfter_cons]
      exact hwell (segment :: before) next after (by rw [hsplit]; rfl)
    · rwa [← limitAfter_cons]
  · rintro ⟨hfirst, hwell, hrest⟩
    refine ⟨fun before next after hsplit => ?_, ?_⟩
    · rcases List.cons_eq_append_iff.mp hsplit with ⟨rfl, hnext⟩ | ⟨more, rfl, hmore⟩
      · cases hnext
        exact hfirst
      · rw [limitAfter_cons]
        exact hwell more next after hmore
    · rwa [limitAfter_cons]

namespace RpcFrameDecoder

variable {serde : SerdeJson base64 Other}

theorem pushAll_segment {limit : NonZeroU64} {segment : Segment base64 Other}
    (h : segment.WellFormed serde limit) :
    (holding limit ([] : List (ChunkFrame base64))).pushAll serde segment.frames =
      (segment.results,
        holding (segment.readyLimit?.getD limit) ([] : List (ChunkFrame base64))) := by
  cases segment with
  | plain message =>
    rw [Segment.frames, pushAll_cons (push_plain h)]
    rfl
  | group chunks message => exact pushAll_complete h

/-- Every sentence is read. -/
theorem pushAll_sentence {initial : NonZeroU64} {segments : List (Segment base64 Other)}
    {rest : List (ChunkFrame base64)} (h : Sentence serde initial segments rest) :
    (holding initial ([] : List (ChunkFrame base64))).pushAll serde (sentence segments rest) =
      (segments.flatMap Segment.results ++ List.replicate rest.length (.ok none),
        holding (limitAfter initial segments) rest) := by
  induction segments generalizing initial with
  | nil => exact pushAll_open h.incomplete
  | cons segment segments ih =>
    obtain ⟨hsegment, hmore⟩ := sentence_cons_iff.mp h
    rw [sentence, List.flatMap_cons, List.append_assoc, pushAll_append (pushAll_segment hsegment)]
    rw [← sentence, ih hmore, limitAfter_cons, List.flatMap_cons, List.append_assoc]

/-- What is read without an error is, with the chunks that are held, a sentence. -/
theorem sentence_of_pushAll {limit : NonZeroU64} {rest : List (ChunkFrame base64)}
    {frames : List (ServerMessage base64 Other)} (hopen : Open limit rest)
    (h : ∀ result ∈ ((holding limit rest).pushAll serde frames).1, ∃ output, result = .ok output) :
    ∃ segments more, Sentence serde limit segments more ∧
      chunkFrames rest ++ frames = sentence segments more := by
  induction frames generalizing limit rest with
  | nil =>
    refine ⟨[], rest, ⟨fun before segment after hsplit => ?_, hopen⟩, ?_⟩
    · exact absurd hsplit.symm (List.append_ne_nil_of_right_ne_nil _ (List.cons_ne_nil _ _))
    · rw [List.append_nil]
      rfl
  | cons frame frames ih =>
    rcases hpush : (holding limit rest).push serde frame with ⟨result, next⟩
    rw [pushAll_cons hpush] at h
    obtain ⟨output, rfl⟩ := h result List.mem_cons_self
    have hlater := fun result hresult => h result (List.mem_cons_of_mem _ hresult)
    rcases push_ok hopen (congrArg Prod.fst hpush) with
      ⟨rfl, hplain⟩ | ⟨chunk, rfl, hincomplete, hshort⟩ | ⟨chunk, message, rfl, hcomplete, hlast⟩
    · cases hpush.symm.trans (push_plain hplain)
      obtain ⟨segments, more, hsentence, hframes⟩ := ih (.inl rfl) hlater
      refine ⟨.plain frame :: segments, more, sentence_cons_iff.mpr ⟨hplain, hsentence⟩, ?_⟩
      rw [sentence, List.flatMap_cons, List.append_assoc, ← sentence, ← hframes]
      rfl
    · cases hpush.symm.trans hshort
      obtain ⟨segments, more, hsentence, hframes⟩ := ih (.inr hincomplete) hlater
      refine ⟨segments, more, hsentence, ?_⟩
      rw [← hframes, chunkFrames_concat, List.append_assoc]
      rfl
    · cases hpush.symm.trans hlast
      obtain ⟨segments, more, hsentence, hframes⟩ := ih (.inl rfl) hlater
      refine ⟨.group (rest ++ [chunk]) message :: segments, more,
        sentence_cons_iff.mpr ⟨hcomplete, hsentence⟩, ?_⟩
      rw [sentence, List.flatMap_cons, List.append_assoc, ← sentence, ← hframes, Segment.frames,
        chunkFrames_concat, List.append_assoc]
      rfl

end RpcFrameDecoder

/-! ## Cutting a frame in chunks -/

/-- Chunks that `ChunkFrame::new` made of the bytes of a message, cut in pieces. -/
structure Cut (serde : SerdeJson base64 Other) (message : ServerMessage base64 Other)
    (chunkId : String) (count byteLength : NonZeroU64) (pieces : List (List UInt8))
    (chunks : List (ChunkFrame base64)) : Prop where
  bytes : pieces.flatten = message.toVec serde
  counted : count.get.toNat = pieces.length
  length : byteLength.get.toNat = (message.toVec serde).length
  made : chunks.map Except.ok = pieces.mapIdx fun index piece =>
    ChunkFrame.new base64 chunkId (UInt32.ofNat index) count byteLength (base64.encode piece)

/-- `serde_json` reads the message back, and writes a chunk frame as its text. -/
structure SerdeJson.CorrectOn (serde : SerdeJson base64 Other)
    (message : ServerMessage base64 Other) : Prop where
  reads : ServerMessage.fromJsonLine serde (message.toVec serde) = .ok message
  writes : ∀ chunk ∈ message.chunk?, serde.toString message = chunk.json

namespace Cut

variable {serde : SerdeJson base64 Other} {message : ServerMessage base64 Other}
  {chunkId : String} {count byteLength : NonZeroU64} {pieces : List (List UInt8)}
  {chunks : List (ChunkFrame base64)}

theorem getElem? (h : Cut serde message chunkId count byteLength pieces chunks) (i : Nat) :
    chunks[i]?.map Except.ok = pieces[i]?.map fun piece =>
      ChunkFrame.new base64 chunkId (UInt32.ofNat i) count byteLength (base64.encode piece) := by
  have := congrArg (fun made => made[i]?) h.made
  rwa [List.getElem?_map, List.getElem?_mapIdx] at this

theorem length_eq (h : Cut serde message chunkId count byteLength pieces chunks) :
    chunks.length = pieces.length := by
  have := congrArg List.length h.made
  rwa [List.length_map, List.length_mapIdx] at this

/-- What the chunk at a position is made of. -/
theorem chunk (h : Cut serde message chunkId count byteLength pieces chunks) {i : Nat}
    {chunk : ChunkFrame base64} (hchunk : chunks[i]? = some chunk) :
    chunk.chunkId = chunkId ∧ chunk.index.toNat = i ∧ chunk.count = count ∧
      chunk.byteLength = byteLength ∧ pieces[i]? = some chunk.decodedData := by
  have hi := h.getElem? i
  rw [hchunk] at hi
  cases hpiece : pieces[i]? with
  | none =>
    rw [hpiece] at hi
    exact nomatch hi
  | some piece =>
    rw [hpiece] at hi
    obtain ⟨hid, hindex, hcount, hlength, hdata⟩ := ChunkFrame.new_ok (Option.some.inj hi).symm
    have hlt : i < 256 := by
      have := (List.getElem?_eq_some_iff.mp hpiece).1
      have hle := chunk.count_le
      rw [hcount, h.counted] at hle
      omega
    refine ⟨hid, ?_, hcount, hlength, congrArg some (ChunkFrame.decodedData_of_data hdata).symm⟩
    rw [hindex, UInt32.toNat_ofNat', Nat.mod_eq_of_lt (by omega)]

theorem chunk_mem (h : Cut serde message chunkId count byteLength pieces chunks)
    {chunk : ChunkFrame base64} (hchunk : chunk ∈ chunks) :
    chunk.chunkId = chunkId ∧ chunk.count = count ∧ chunk.byteLength = byteLength := by
  obtain ⟨i, hi⟩ := List.getElem?_of_mem hchunk
  obtain ⟨hid, -, hcount, hlength, -⟩ := h.chunk hi
  exact ⟨hid, hcount, hlength⟩

theorem payload_eq (h : Cut serde message chunkId count byteLength pieces chunks) :
    payload chunks = message.toVec serde := by
  have hpieces : chunks.map ChunkFrame.decodedData = pieces := by
    refine List.ext_getElem? fun i => ?_
    rw [List.getElem?_map]
    cases hchunk : chunks[i]? with
    | none =>
      rw [List.getElem?_eq_none_iff, h.length_eq] at hchunk
      exact (List.getElem?_eq_none hchunk).symm
    | some chunk => exact (h.chunk hchunk).2.2.2.2.symm
  rw [payload, List.flatMap_def, hpieces, h.bytes]

/-- A chunk frame is too short to be cut. -/
theorem notChunk (h : Cut serde message chunkId count byteLength pieces chunks)
    (hserde : serde.CorrectOn message) (hne : chunks ≠ []) : message.chunk? = none := by
  refine Option.eq_none_iff_forall_not_mem.mpr fun inner hinner => ?_
  obtain ⟨chunk, hchunk⟩ := List.exists_mem_of_ne_nil _ hne
  have hmin := UInt64.le_iff_toNat_le.mp chunk.byteLength_mem.1
  rw [(h.chunk_mem hchunk).2.2, h.length, ServerMessage.toVec, length_utf8,
    hserde.writes inner hinner] at hmin
  have := inner.json_size
  omega

theorem complete (h : Cut serde message chunkId count byteLength pieces chunks)
    (hserde : serde.CorrectOn message) {limit : NonZeroU64}
    (hlimit : byteLength.get ≤ limit.get) : Complete serde limit chunks message := by
  have hcount : count.get.toNat ≠ 0 := fun hzero => count.property (UInt64.toNat_inj.mp hzero)
  have hne : chunks ≠ [] := by
    refine List.ne_nil_of_length_pos ?_
    rw [h.length_eq, ← h.counted]
    omega
  have hlength := h.length
  rw [← h.payload_eq] at hlength
  refine ⟨⟨hne, ?_, ?_, ?_, ?_⟩, ?_, ?_, ?_, h.notChunk hserde hne⟩
  · intro a ha b hb
    obtain ⟨h1, h2, h3⟩ := h.chunk_mem ha
    obtain ⟨h4, h5, h6⟩ := h.chunk_mem hb
    exact ⟨h1.trans h4.symm, h2.trans h5.symm, h3.trans h6.symm⟩
  · refine List.ext_getElem? fun i => ?_
    rw [List.getElem?_map]
    by_cases hi : i < chunks.length
    · rw [List.getElem?_range hi, List.getElem?_eq_getElem hi]
      exact congrArg some (h.chunk (List.getElem?_eq_getElem hi)).2.1
    · rw [List.getElem?_eq_none (by omega), List.getElem?_eq_none]
      · rfl
      · rw [List.length_range]
        omega
  · intro a ha
    rw [(h.chunk_mem ha).2.2]
    exact hlimit
  · intro a ha
    rw [(h.chunk_mem ha).2.2]
    omega
  · intro a ha
    rw [(h.chunk_mem ha).2.1, h.counted, h.length_eq]
  · intro a ha
    rw [(h.chunk_mem ha).2.2]
    exact hlength.symm
  · rw [h.payload_eq]
    exact ⟨_, rfl, hserde.reads⟩

end Cut

/-- The frames that pushes hand on. -/
def handedOn (results : List (PushResult base64 Other)) : List (ServerMessage base64 Other) :=
  results.filterMap fun
    | .ok (some message) => some message
    | _ => none

theorem handedOn_replicate (n : Nat) :
    handedOn (List.replicate n (.ok none) : List (PushResult base64 Other)) = [] := by
  refine List.filterMap_eq_nil_iff.mpr fun result hresult => ?_
  rw [List.eq_of_mem_replicate hresult]

theorem handedOn_results (segment : Segment base64 Other) :
    handedOn segment.results = [segment.message] := by
  cases segment with
  | plain message => rfl
  | group chunks message =>
    rw [Segment.results, handedOn, List.filterMap_append, ← handedOn, handedOn_replicate]
    rfl

theorem handedOn_sentence (segments : List (Segment base64 Other)) (n : Nat) :
    handedOn (segments.flatMap Segment.results ++ List.replicate n (.ok none)) =
      segments.map Segment.message := by
  induction segments with
  | nil => exact handedOn_replicate n
  | cons segment segments ih =>
    rw [List.flatMap_cons, List.append_assoc, handedOn, List.filterMap_append, ← handedOn,
      ← handedOn, handedOn_results, ih]
    rfl

theorem ok_of_mem_sentence {segments : List (Segment base64 Other)} {n : Nat}
    {result : PushResult base64 Other}
    (h : result ∈ segments.flatMap Segment.results ++ List.replicate n (.ok none)) :
    ∃ output, result = .ok output := by
  rw [List.mem_append, List.mem_flatMap] at h
  rcases h with ⟨segment, -, hresult⟩ | hresult
  · cases segment with
    | plain message => exact ⟨_, List.mem_singleton.mp hresult⟩
    | group chunks message =>
      rw [Segment.results, List.mem_append, List.mem_singleton] at hresult
      rcases hresult with hnone | hsome
      · exact ⟨none, List.eq_of_mem_replicate hnone⟩
      · exact ⟨some message, hsome⟩
  · exact ⟨none, List.eq_of_mem_replicate hresult⟩

/-- **The decoder accepts its framing grammar**: no push returns an error exactly
when the frames are a sentence; of a sentence it hands on the plain frames and the
reassembled ones in their order, and it is reassembling exactly when the sentence
ends inside a group. A message that is cut in chunks within the limit is read back
by a decoder that is between groups. -/
theorem decoder_grammar (serde : SerdeJson base64 Other) (initial : NonZeroU64) :
    (∀ frames : List (ServerMessage base64 Other),
      (∀ result ∈ ((RpcFrameDecoder.new initial).pushAll serde frames).1,
        ∃ output, result = .ok output) ↔
      ∃ segments rest, Sentence serde initial segments rest ∧ frames = sentence segments rest) ∧
    (∀ segments rest, Sentence serde initial segments rest →
      handedOn ((RpcFrameDecoder.new initial).pushAll serde (sentence segments rest)).1 =
        segments.map Segment.message ∧
      (((RpcFrameDecoder.new initial).pushAll serde
        (sentence segments rest)).2.isReassembling = true ↔ rest ≠ [])) ∧
    ∀ (decoder : RpcFrameDecoder) message chunkId count byteLength pieces chunks,
      decoder.isReassembling = false → serde.CorrectOn message →
      Cut serde message chunkId count byteLength pieces chunks →
      byteLength.get ≤ decoder.maxReassembledFrameBytes.get →
      decoder.pushAll serde (chunkFrames chunks) =
        (List.replicate (chunks.length - 1) (.ok none) ++ [.ok (some message)], decoder) := by
  have hnew : RpcFrameDecoder.new initial =
      .holding initial ([] : List (ChunkFrame base64)) := rfl
  rw [hnew]
  refine ⟨fun frames => ⟨fun h => ?_, ?_⟩, fun segments rest hsentence => ?_, ?_⟩
  · exact RpcFrameDecoder.sentence_of_pushAll (.inl rfl) h
  · rintro ⟨segments, rest, hsentence, rfl⟩ result hresult
    rw [RpcFrameDecoder.pushAll_sentence hsentence] at hresult
    exact ok_of_mem_sentence hresult
  · rw [RpcFrameDecoder.pushAll_sentence hsentence]
    refine ⟨handedOn_sentence _ _, ?_⟩
    cases rest with
    | nil => exact ⟨nofun, fun h => absurd rfl h⟩
    | cons first more => exact ⟨fun _ => List.cons_ne_nil _ _, fun _ => rfl⟩
  · intro decoder message chunkId count byteLength pieces chunks hidle hserde hcut hlimit
    have hdecoder : decoder =
        .holding decoder.maxReassembledFrameBytes ([] : List (ChunkFrame base64)) := by
      rcases decoder with ⟨pending, limit⟩
      cases pending with
      | none => rfl
      | some pending => exact nomatch hidle
    have hpush := RpcFrameDecoder.pushAll_complete (hcut.complete hserde hlimit)
    rwa [← hdecoder] at hpush

/-! ### A long frame can be cut -/

/-- The first pieces of 256 KiB. -/
def piecesOf (bytes : List UInt8) : Nat → List (List UInt8)
  | 0 => []
  | count + 1 =>
    bytes.take ChunkFrame.maxPayloadBytes ::
      piecesOf (bytes.drop ChunkFrame.maxPayloadBytes) count

theorem length_piecesOf (bytes : List UInt8) (count : Nat) :
    (piecesOf bytes count).length = count := by
  induction count generalizing bytes with
  | zero => rfl
  | succ count ih => rw [piecesOf, List.length_cons, ih]

theorem flatten_piecesOf (bytes : List UInt8) (count : Nat) :
    (piecesOf bytes count).flatten = bytes.take (count * ChunkFrame.maxPayloadBytes) := by
  induction count generalizing bytes with
  | zero => rw [piecesOf, Nat.zero_mul, List.take_zero, List.flatten_nil]
  | succ count ih =>
    rw [piecesOf, List.flatten_cons, ih, Nat.succ_mul, Nat.add_comm, List.take_add]

theorem length_of_mem_piecesOf {bytes piece : List UInt8} {count : Nat}
    (h : piece ∈ piecesOf bytes count)
    (hlength : (count - 1) * ChunkFrame.maxPayloadBytes < bytes.length) :
    piece ≠ [] ∧ piece.length ≤ ChunkFrame.maxPayloadBytes := by
  induction count generalizing bytes with
  | zero => exact nomatch h
  | succ count ih =>
    rcases List.mem_cons.mp h with rfl | h
    · refine ⟨List.ne_nil_of_length_pos ?_, List.length_take_le _ _⟩
      have : 0 < ChunkFrame.maxPayloadBytes := by decide
      rw [List.length_take]
      omega
    · cases count with
      | zero => exact nomatch h
      | succ count =>
        refine ih h ?_
        rw [Nat.add_sub_cancel, Nat.succ_mul] at hlength
        rw [List.length_drop, Nat.add_sub_cancel]
        omega

theorem exists_map_ok {ε α : Type} {made : List (Except ε α)} (h : ∀ x ∈ made, ∃ a, x = .ok a) :
    ∃ as : List α, as.map Except.ok = made := by
  induction made with
  | nil => exact ⟨[], rfl⟩
  | cons x made ih =>
    obtain ⟨a, rfl⟩ := h x List.mem_cons_self
    obtain ⟨as, rfl⟩ := ih fun x hx => h x (List.mem_cons_of_mem _ hx)
    exact ⟨a :: as, rfl⟩

/-- A message whose text is 1 MiB to 64 MiB long can be sent in chunks. -/
theorem exists_cut {serde : SerdeJson base64 Other} {message : ServerMessage base64 Other}
    {byteLength : NonZeroU64} (chunkId : String)
    (hlength : byteLength.get.toNat = (message.toVec serde).length)
    (hmin : ChunkFrame.minByteLength ≤ byteLength.get)
    (hmax : byteLength.get ≤ ChunkFrame.maxByteLength)
    (hid : chunkId ≠ "") (hchars : chunkId.length ≤ ChunkFrame.maxChunkIdChars) :
    ∃ count pieces chunks, Cut serde message chunkId count byteLength pieces chunks := by
  have hmin' : 1048576 ≤ byteLength.get.toNat := UInt64.le_iff_toNat_le.mp hmin
  have hmax' : byteLength.get.toNat ≤ 67108864 := UInt64.le_iff_toNat_le.mp hmax
  have hpayload : ChunkFrame.maxPayloadBytes = 262144 := rfl
  generalize hn : (byteLength.get.toNat + 262143) / 262144 = n
  have hcount : (UInt64.ofNat n).toNat = n := by
    rw [UInt64.toNat_ofNat', Nat.mod_eq_of_lt (by omega)]
  have hne : UInt64.ofNat n ≠ 0 := by
    intro hzero
    rw [hzero] at hcount
    have : (0 : UInt64).toNat = 0 := rfl
    omega
  have htwo : (2 : UInt64) ≤ UInt64.ofNat n ∧ UInt64.ofNat n ≤ ChunkFrame.maxCount := by
    rw [UInt64.le_iff_toNat_le, UInt64.le_iff_toNat_le, hcount]
    have h2 : (2 : UInt64).toNat = 2 := rfl
    have h256 : ChunkFrame.maxCount.toNat = 256 := rfl
    omega
  have hmade : ∀ x ∈ (piecesOf (message.toVec serde) n).mapIdx fun index piece =>
      ChunkFrame.new base64 chunkId (UInt32.ofNat index) ⟨UInt64.ofNat n, hne⟩ byteLength
        (base64.encode piece), ∃ chunk, x = .ok chunk := by
    intro x hx
    obtain ⟨i, hi, rfl⟩ := List.mem_mapIdx.mp hx
    obtain ⟨hpiece, hle⟩ := length_of_mem_piecesOf (List.getElem_mem hi) (by
      rw [hpayload]
      omega)
    rw [length_piecesOf] at hi
    refine ChunkFrame.new_encode hid hchars htwo ?_ ⟨hmin, hmax⟩ hpiece hle
    rw [UInt64.lt_iff_toNat_lt, UInt32.toNat_toUInt64, UInt32.toNat_ofNat', hcount,
      Nat.mod_eq_of_lt (by omega)]
    exact hi
  obtain ⟨chunks, hchunks⟩ := exists_map_ok hmade
  refine ⟨⟨UInt64.ofNat n, hne⟩, piecesOf (message.toVec serde) n, chunks, ?_, ?_, hlength,
    hchunks⟩
  · rw [flatten_piecesOf, List.take_of_length_le]
    rw [hpayload]
    omega
  · rw [length_piecesOf]
    exact hcount

/-- A `serde_json` that knows one message and its text. -/
def SerdeJson.knowing (text : String) (message : Other) : SerdeJson base64 Other where
  fromSlice bytes := if bytes = utf8 text then .ok (.other message) else .error "expected value"
  toString
    | .transport (.rpcChunk chunk) => chunk.json
    | _ => text

theorem SerdeJson.knowing_correctOn (text : String) (message : Other) :
    (SerdeJson.knowing text message : SerdeJson base64 Other).CorrectOn (.other message) := by
  refine ⟨?_, nofun⟩
  exact if_pos rfl

def oneMiB : NonZeroU64 := ⟨1048576, by decide⟩

/-- The output of a command, which makes its frame as long as the shortest that is sent
in chunks. -/
def longFields : List (String × String) :=
  [("text", jsonString (String.ofList (List.replicate 1048541 'x')))]

def longText : String := jsonObject (("type", jsonString "command_output") :: longFields)

def longOutput : SideChannelFrame := .other "command_output" (jsonObject longFields)

theorem longText_size : longText.utf8ByteSize = oneMiB.get.toNat := by
  have hxs : (jsonString (String.ofList (List.replicate 1048541 'x'))).utf8ByteSize =
      2 + 1048541 := by
    rw [jsonString_isText, String.length_ofList, List.length_replicate]
    intro c hc
    rw [String.toList_ofList] at hc
    rw [List.eq_of_mem_replicate hc]
    exact .inl (by decide)
  have hrest : ("\x7b".utf8ByteSize, "\x7d".utf8ByteSize, ":".utf8ByteSize, ",".utf8ByteSize,
      (jsonString "type").utf8ByteSize, (jsonString "text").utf8ByteSize,
      (jsonString "command_output").utf8ByteSize) = (1, 1, 1, 1, 6, 6, 16) := by
    decide +kernel
  simp only [Prod.mk.injEq] at hrest
  obtain ⟨h1, h2, h3, h4, h5, h6, h7⟩ := hrest
  simp only [longText, longFields, jsonObject, jsonFields, String.utf8ByteSize_append, hxs, h1,
    h2, h3, h4, h5, h6, h7]
  rfl

theorem decoder_grammar_long :
    ∃ chunks : List (ChunkFrame Base64.standard),
      RpcFrameDecoder.default.pushAll (.knowing longText longOutput) (chunkFrames chunks) =
        (List.replicate (chunks.length - 1) (.ok none) ++ [.ok (some (.other longOutput))],
          RpcFrameDecoder.default) := by
  have hserde := (SerdeJson.knowing_correctOn longText longOutput :
    (SerdeJson.knowing longText longOutput : SerdeJson .standard SideChannelFrame).CorrectOn _)
  have hlength : oneMiB.get.toNat = ((ServerMessage.other longOutput).toVec
      (.knowing longText longOutput : SerdeJson .standard SideChannelFrame)).length := by
    rw [ServerMessage.toVec, length_utf8, ← longText_size]
    rfl
  obtain ⟨count, pieces, chunks, hcut⟩ :=
    exists_cut "rpc-1" hlength (by decide) (by decide) (by decide) (by decide)
  exact ⟨chunks, (decoder_grammar (.knowing longText longOutput) oneMiB).2.2 .default
    (.other longOutput) "rpc-1" count oneMiB pieces chunks rfl hserde hcut (by decide)⟩

end OmpRemote.Rpc.Transport

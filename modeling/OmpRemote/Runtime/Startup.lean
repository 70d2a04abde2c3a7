import OmpRemote.Lib.BufReader
import OmpRemote.Rpc.Decoder
import OmpRemote.Rpc.Message
import OmpRemote.Runtime.Actor

/-!
# The start of an OMP process

Before the reader task runs, `initialize_rpc` reads the process's output itself: the
`ready` frame and, if that advertises capabilities, everything up to the answer to the
protocol negotiation. It hands its buffered reader and its decoder on to `read_stdout`.

- `readLimitedLine_eq`: which line is read, whatever the reads return.
- `readStdout_frames`, `negotiate_ok`: what the two loops decode.
- `startup_loses_nothing`: together they deliver what the whole output decodes to.
-/

namespace OmpRemote.Runtime

open Lib Rpc Rpc.Transport

/-! ## Lines -/

def newline : UInt8 := 0x0a

def isNewline (byte : UInt8) : Bool := byte == newline

inductive LineReadError where
  | io (error : String)
  | tooLarge (limit : Nat)
  | unexpectedEof
  deriving DecidableEq, Repr

def LineReadError.message : LineReadError → String
  | io error => error
  | tooLarge limit => "RPC frame exceeds " ++ toString limit ++ " bytes"
  | unexpectedEof => "OMP stdout ended in the middle of a frame"

/-- What reading a line returns: no line at the end of the output; nothing while the
process has not written more. -/
abbrev LineRead := Option (Except LineReadError (Option (List UInt8)))

/-- How much of what is available belongs to the line. -/
def consumedOf (available : List UInt8) : Nat :=
  ((available.findIdx? isNewline).map (· + 1)).getD available.length

theorem consumedOf_pos {available : List UInt8} (h : available ≠ []) :
    0 < consumedOf available := by
  unfold consumedOf
  cases available.findIdx? isNewline with
  | some position => simp
  | none => exact List.length_pos_of_ne_nil h

/-- `line` is what the turns of the loop before this one have read. -/
def readLimitedLine (limit : Nat) (line : List UInt8) (reader : BufReader UInt8) :
    LineRead × BufReader UInt8 :=
  let filled := reader.fillBuf
  let available := filled.buffer
  if _hempty : available = [] then
    match filled.ending with
    | .waits => (none, filled)
    | .failed error => (some (.error (.io error)), filled)
    | .eof => (some (if line.isEmpty then .ok none else .error .unexpectedEof), filled)
  else
    let consumed := consumedOf available
    if limit < line.length + consumed then (some (.error (.tooLarge limit)), filled)
    else
      let line := line ++ available.take consumed
      let complete := available[consumed - 1]? = some newline
      let rest := filled.consume consumed
      if complete then (some (.ok (some line)), rest) else readLimitedLine limit line rest
termination_by reader.bytes.length
decreasing_by
  rw [← reader.fillBuf_bytes]
  exact BufReader.consume_lt _hempty (consumedOf_pos _hempty)

/-- What is read as a line, of the bytes that are left. -/
def nextLine (limit : Nat) (bytes : List UInt8) (ending : SourceEnd) : LineRead :=
  match firstLine isNewline bytes with
  | some (line, _) =>
    some (if limit < line.length then .error (.tooLarge limit) else .ok (some line))
  | none =>
    if limit < bytes.length then some (.error (.tooLarge limit))
    else match ending with
      | .waits => none
      | .failed error => some (.error (.io error))
      | .eof => some (if bytes.isEmpty then .ok none else .error .unexpectedEof)

/-- What is consumed when the line ends in what is available. -/
theorem consumedOf_some {available next rest : List UInt8}
    (h : firstLine isNewline available = some (next, rest)) :
    consumedOf available = next.length ∧ available = next ++ rest ∧
      available[consumedOf available - 1]? = some newline := by
  obtain ⟨position, hposition, hcut⟩ := Option.map_eq_some_iff.mp h
  cases hcut
  obtain ⟨hlt, hnewline, -⟩ := List.findIdx?_eq_some_iff_getElem.mp hposition
  have hconsumed : consumedOf available = position + 1 := by
    rw [consumedOf, hposition]
    rfl
  refine ⟨?_, (List.take_append_drop ..).symm, ?_⟩
  · rw [hconsumed, List.length_take]
    omega
  · rw [hconsumed, Nat.add_sub_cancel, List.getElem?_eq_getElem hlt]
    exact congrArg some (beq_iff_eq.mp hnewline)

/-- Otherwise everything is. -/
theorem consumedOf_none {available : List UInt8} (h : firstLine isNewline available = none) :
    consumedOf available = available.length ∧
      available[consumedOf available - 1]? ≠ some newline := by
  have hnone : available.findIdx? isNewline = none := Option.map_eq_none_iff.mp h
  refine ⟨by rw [consumedOf, hnone]; rfl, fun hnewline => ?_⟩
  have := List.findIdx?_eq_none_iff.mp hnone newline (List.mem_of_getElem? hnewline)
  exact absurd this (by decide)

/-- A line that is too long already. -/
theorem nextLine_tooLarge {limit : Nat} {bytes : List UInt8} (later : List UInt8)
    (ending : SourceEnd) (hbytes : firstLine isNewline bytes = none)
    (hlong : limit < bytes.length) :
    nextLine limit (bytes ++ later) ending = some (.error (.tooLarge limit)) := by
  unfold nextLine
  rw [firstLine_append, hbytes]
  cases firstLine isNewline later with
  | none =>
    show (if limit < (bytes ++ later).length then _ else _) = _
    rw [if_pos (by rw [List.length_append]; omega)]
  | some cut =>
    show some (if limit < (bytes ++ cut.1).length then _ else _) = _
    rw [if_pos (by rw [List.length_append]; omega)]

/-- A turn with something available. -/
theorem readLimitedLine_turn {limit : Nat} {line : List UInt8} {reader : BufReader UInt8}
    (h : reader.fillBuf.buffer ≠ []) : readLimitedLine limit line reader =
      if limit < line.length + consumedOf reader.fillBuf.buffer then
        (some (.error (.tooLarge limit)), reader.fillBuf)
      else
        let line := line ++ reader.fillBuf.buffer.take (consumedOf reader.fillBuf.buffer)
        let rest := reader.fillBuf.consume (consumedOf reader.fillBuf.buffer)
        if reader.fillBuf.buffer[consumedOf reader.fillBuf.buffer - 1]? = some newline then
          (some (.ok (some line)), rest)
        else readLimitedLine limit line rest := by
  rw [readLimitedLine, dif_neg h]

/-- The line that is read depends on the bytes that are left and on how they end; what
follows it is left. -/
theorem readLimitedLine_eq {limit : Nat} {line : List UInt8}
    (hline : firstLine isNewline line = none) (hfits : line.length ≤ limit)
    (reader : BufReader UInt8) :
    (readLimitedLine limit line reader).1 =
        nextLine limit (line ++ reader.bytes) reader.ending ∧
      ∀ next, (readLimitedLine limit line reader).1 = some (.ok (some next)) →
        firstLine isNewline (line ++ reader.bytes) =
            some (next, (readLimitedLine limit line reader).2.bytes) ∧
          (readLimitedLine limit line reader).2.ending = reader.ending := by
  induction hlength : reader.bytes.length using Nat.strong_induction_on
    generalizing line reader with
  | _ length ih =>
    subst hlength
    by_cases hempty : reader.fillBuf.buffer = []
    · -- at the end of what the source returns
      have hbytes := BufReader.fillBuf_buffer.mp hempty
      rw [readLimitedLine, dif_pos hempty, hbytes, List.append_nil]
      simp only [nextLine, hline, BufReader.fillBuf_ending, if_neg (Nat.not_lt.mpr hfits)]
      cases reader.ending with
      | waits => exact ⟨rfl, nofun⟩
      | failed error => exact ⟨rfl, nofun⟩
      | eof =>
        refine ⟨rfl, fun next hnext => ?_⟩
        cases line <;> cases hnext
    -- the bytes that are left, from what is available on
    rw [readLimitedLine_turn hempty]
    have hbytes : reader.bytes = reader.fillBuf.buffer ++
        reader.fillBuf.reads.flatMap Subtype.val := (reader.fillBuf_bytes).symm
    cases hfirst : firstLine isNewline reader.fillBuf.buffer with
    | some cut =>
      obtain ⟨next, rest⟩ := cut
      obtain ⟨hconsumed, havailable, hcomplete⟩ := consumedOf_some hfirst
      have hcut : firstLine isNewline (line ++ reader.bytes) =
          some (line ++ next, rest ++ reader.fillBuf.reads.flatMap Subtype.val) := by
        rw [firstLine_append, hline, hbytes, firstLine_append, hfirst]
        rfl
      have htake : reader.fillBuf.buffer.take (consumedOf reader.fillBuf.buffer) = next := by
        rw [hconsumed, havailable, List.take_left]
      have hdrop : reader.fillBuf.buffer.drop (consumedOf reader.fillBuf.buffer) = rest := by
        rw [hconsumed, havailable, List.drop_left]
      simp only [nextLine, hcut, List.length_append, htake, if_pos hcomplete, ← hconsumed]
      split
      · exact ⟨rfl, nofun⟩
      · refine ⟨rfl, fun next' hnext => ?_⟩
        cases hnext
        rw [BufReader.bytes, BufReader.consume, hdrop]
        exact ⟨rfl, reader.fillBuf_ending⟩
    | none =>
      obtain ⟨hconsumed, hcomplete⟩ := consumedOf_none hfirst
      have hline' : firstLine isNewline (line ++ reader.fillBuf.buffer) = none := by
        rw [firstLine_append, hline, hfirst]
        rfl
      have htake : reader.fillBuf.buffer.take (consumedOf reader.fillBuf.buffer) =
          reader.fillBuf.buffer := by
        rw [hconsumed, List.take_length]
      have hwhole : line ++ reader.bytes = line ++ reader.fillBuf.buffer ++
          (reader.fillBuf.consume (consumedOf reader.fillBuf.buffer)).bytes := by
        rw [hbytes, BufReader.bytes, BufReader.consume, hconsumed, List.drop_length,
          List.append_assoc]
        rfl
      simp only [htake, if_neg hcomplete]
      split
      · rename_i hlimit
        rw [hbytes, ← List.append_assoc, nextLine_tooLarge _ _ hline' (by
          rw [List.length_append]
          omega)]
        exact ⟨rfl, nofun⟩
      · rename_i hlimit
        have hless := BufReader.consume_lt hempty (consumedOf_pos hempty)
        rw [reader.fillBuf_bytes] at hless
        have hfits' : (line ++ reader.fillBuf.buffer).length ≤ limit := by
          rw [List.length_append]
          omega
        have := ih _ hless hline' hfits' (reader.fillBuf.consume _) rfl
        rw [← hwhole] at this
        simpa using this

/-! ## Frames -/

/-- A frame that is no transport frame. -/
inductive Payload where
  | response (response : Response)
  | extensionUi (frame : ExtensionUiRequestFrame)
  | host (frame : Json)
  | sideChannel (frame : SideChannelFrame)
  | subagent (frame : Json)
  | sessionEvent (event : SessionEvent)
  deriving DecidableEq, Repr

variable {base64 : Base64}

/-- A frame as it is handed on. -/
abbrev Frame (base64 : Base64) := Transport.ServerMessage base64 Payload

/-- What the reader task sends to the actor. -/
inductive StdoutItem (base64 : Base64) where
  | frame (frame : Frame base64)
  | error (message : String)
  | eof

def StdoutItem.frame? : StdoutItem base64 → Option (Frame base64)
  | .frame message => some message
  | _ => none

/-- A line that is read is the first line of what is left. -/
theorem readLimitedLine_line {limit : Nat} {reader rest : BufReader UInt8} {line : List UInt8}
    (h : readLimitedLine limit [] reader = (some (.ok (some line)), rest)) :
    firstLine isNewline reader.bytes = some (line, rest.bytes) ∧ line.length ≤ limit := by
  obtain ⟨hnext, hcut⟩ := readLimitedLine_eq firstLine_nil (Nat.zero_le limit) reader
  obtain ⟨hcut, -⟩ := hcut line (by rw [h])
  rw [List.nil_append, h] at hcut hnext
  refine ⟨hcut, ?_⟩
  simp only [nextLine, hcut] at hnext
  split at hnext
  · cases hnext
  · omega

/-- If no line is read, there is none or the first one is too long. -/
theorem readLimitedLine_none {limit : Nat} {reader : BufReader UInt8}
    (h : ∀ line, (readLimitedLine limit [] reader).1 ≠ some (.ok (some line)))
    {line rest : List UInt8} (hcut : firstLine isNewline reader.bytes = some (line, rest)) :
    limit < line.length := by
  obtain ⟨hnext, -⟩ := readLimitedLine_eq firstLine_nil (Nat.zero_le limit) reader
  rw [List.nil_append] at hnext
  simp only [nextLine, hcut] at hnext
  split at hnext
  · assumption
  · exact absurd hnext (h line)

/-- A line that is read is gone. -/
theorem readLimitedLine_lt {limit : Nat} {reader rest : BufReader UInt8} {line : List UInt8}
    (h : readLimitedLine limit [] reader = (some (.ok (some line)), rest)) :
    rest.bytes.length < reader.bytes.length := by
  obtain ⟨hbytes, hline⟩ := firstLine_some (readLimitedLine_line h).1
  have := List.length_pos_of_ne_nil hline
  rw [hbytes, List.length_append]
  omega

/-- What the reader task sends, while the actor receives. -/
def readStdout (serde : SerdeJson base64 Payload) (maxFrameBytes : Nat) (decoder : RpcFrameDecoder)
    (stdout : BufReader UInt8) : List (StdoutItem base64) :=
  match _hread : readLimitedLine maxFrameBytes [] stdout with
  | (none, _) => []
  | (some (.ok (some line)), rest) =>
    match decoder.pushJsonLine serde line with
    | (.ok (some frame), decoder) => .frame frame :: readStdout serde maxFrameBytes decoder rest
    | (.ok none, decoder) => readStdout serde maxFrameBytes decoder rest
    | (.error error, _) => [.error error.message]
  | (some (.ok none), _) =>
    [if decoder.isReassembling then .error "OMP stdout ended during an RPC chunk sequence"
      else .eof]
  | (some (.error error), _) => [.error error.message]
termination_by stdout.bytes.length
decreasing_by all_goals exact readLimitedLine_lt _hread

/-! ## The start -/

inductive RuntimeSpawnError where
  | startupEof
  | startupIo (error : String)
  | startupProtocol (message : String)
  | expectedReadyFrame
  | protocolNegotiation (message : String)
  deriving DecidableEq, Repr

def lineStartupError : LineReadError → RuntimeSpawnError
  | .io error => .startupIo error
  | other => .startupProtocol other.message

structure Startup (base64 : Base64) where
  stdout : BufReader UInt8
  decoder : RpcFrameDecoder
  maxFrameBytes : Nat
  initialEvents : List (Frame base64)

def negotiationRequestId : Rpc.RequestId := ⟨"omp-runtime-negotiate-v2"⟩

/-- What a frame says about the negotiation; nothing, if it is an initial event. -/
def negotiationResult : Frame base64 → Option (Except RuntimeSpawnError Unit)
  | .other (.response (.success (some id) result)) =>
    if id ≠ negotiationRequestId then none
    else if result = .negotiateProtocol then some (.ok ())
    else some (.error (.protocolNegotiation "server returned the wrong success response"))
  | .other (.response (.error (some id) _ error _)) =>
    if id ≠ negotiationRequestId then none else some (.error (.protocolNegotiation error))
  | _ => none

/-- The loop of `initialize_rpc`. -/
def negotiate (serde : SerdeJson base64 Payload) (maxFrameBytes : Nat) (decoder : RpcFrameDecoder)
    (initialEvents : List (Frame base64)) (stdout : BufReader UInt8) :
    Option (Except RuntimeSpawnError (Startup base64)) :=
  match _hread : readLimitedLine maxFrameBytes [] stdout with
  | (none, _) => none
  | (some (.error error), _) => some (.error (lineStartupError error))
  | (some (.ok none), _) => some (.error .startupEof)
  | (some (.ok (some line)), rest) =>
    match decoder.pushJsonLine serde line with
    | (.error error, _) => some (.error (.startupProtocol error.message))
    | (.ok none, decoder) => negotiate serde maxFrameBytes decoder initialEvents rest
    | (.ok (some message), decoder) =>
      match negotiationResult message with
      | some (.ok ()) => some (.ok ⟨rest, decoder, maxFrameBytes, initialEvents⟩)
      | some (.error error) => some (.error error)
      | none => negotiate serde maxFrameBytes decoder (initialEvents ++ [message]) rest
termination_by stdout.bytes.length
decreasing_by all_goals exact readLimitedLine_lt _hread

def defaultLimit : Nat := ReadyFrame.defaultMaxFrameBytes.toNat

/-- `write` is what becomes of the negotiation command. -/
def initializeRpc (serde : SerdeJson base64 Payload) (write : Write) (stdout : BufReader UInt8) :
    Option (Except RuntimeSpawnError (Startup base64)) :=
  match readLimitedLine defaultLimit [] stdout with
  | (none, _) => none
  | (some (.error error), _) => some (.error (lineStartupError error))
  | (some (.ok none), _) => some (.error .startupEof)
  | (some (.ok (some line)), rest) =>
    match RpcFrameDecoder.default.pushJsonLine serde line with
    | (.error error, _) => some (.error (.startupProtocol error.message))
    | (.ok none, _) => some (.error (.startupProtocol "ready frame was chunked"))
    | (.ok (some (.transport (.ready ready))), decoder) =>
      let maxFrameBytes := ready.maxFrameBytes.get.toNat
      if ready.advertisesCapabilities then
        match writeMessage write maxFrameBytes with
        | .error error => some (.error (.protocolNegotiation error.message))
        | .ok () => negotiate serde maxFrameBytes decoder [] rest
      else some (.ok ⟨rest, decoder, maxFrameBytes, []⟩)
    | (.ok (some _), _) => some (.error .expectedReadyFrame)

/-! ## What the output decodes to -/

/-- The frames in lines of at most `limit` bytes, up to the first failure. -/
def decodeLines (serde : SerdeJson base64 Payload) (limit : Nat) (decoder : RpcFrameDecoder) :
    List (List UInt8) → List (Frame base64)
  | [] => []
  | line :: lines =>
    if limit < line.length then []
    else match decoder.pushJsonLine serde line with
      | (.ok (some frame), decoder) => frame :: decodeLines serde limit decoder lines
      | (.ok none, decoder) => decodeLines serde limit decoder lines
      | (.error _, _) => []

/-- The limit of the lines after the first frame. -/
def negotiatedLimit : Frame base64 → Nat
  | .transport (.ready ready) => ready.maxFrameBytes.get.toNat
  | _ => defaultLimit

/-- The frames of the whole output: its first line within the default limit, the others
within the limit that the first frame names. -/
def decodedFrames (serde : SerdeJson base64 Payload) (output : List UInt8) : List (Frame base64) :=
  match lines isNewline output with
  | [] => []
  | first :: later =>
    if defaultLimit < first.length then []
    else match RpcFrameDecoder.default.pushJsonLine serde first with
      | (.ok (some frame), decoder) =>
        frame :: decodeLines serde (negotiatedLimit frame) decoder later
      | _ => []

/-! ## The two loops -/

theorem decodeLines_line (serde : SerdeJson base64 Payload) {limit : Nat}
    (decoder : RpcFrameDecoder) {reader rest : BufReader UInt8} {line : List UInt8}
    (h : readLimitedLine limit [] reader = (some (.ok (some line)), rest)) :
    decodeLines serde limit decoder (lines isNewline reader.bytes) =
      match decoder.pushJsonLine serde line with
      | (.ok (some frame), decoder) =>
        frame :: decodeLines serde limit decoder (lines isNewline rest.bytes)
      | (.ok none, decoder) => decodeLines serde limit decoder (lines isNewline rest.bytes)
      | (.error _, _) => [] := by
  obtain ⟨hcut, hfits⟩ := readLimitedLine_line h
  rw [lines_eq, hcut, decodeLines, if_neg (Nat.not_lt.mpr hfits)]

theorem decodeLines_none (serde : SerdeJson base64 Payload) {limit : Nat}
    (decoder : RpcFrameDecoder) {reader : BufReader UInt8}
    (h : ∀ line, (readLimitedLine limit [] reader).1 ≠ some (.ok (some line))) :
    decodeLines serde limit decoder (lines isNewline reader.bytes) = [] := by
  rw [lines_eq]
  cases hcut : firstLine isNewline reader.bytes with
  | none => rfl
  | some cut =>
    show (if limit < cut.1.length then _ else _) = _
    rw [if_pos (readLimitedLine_none h hcut)]

/-- The reader task delivers the frames of the lines that are left. -/
theorem readStdout_frames (serde : SerdeJson base64 Payload) (limit : Nat)
    (decoder : RpcFrameDecoder) (stdout : BufReader UInt8) :
    (readStdout serde limit decoder stdout).filterMap StdoutItem.frame? =
      decodeLines serde limit decoder (lines isNewline stdout.bytes) := by
  induction hlength : stdout.bytes.length using Nat.strong_induction_on
    generalizing decoder stdout with
  | _ length ih =>
    subst hlength
    rw [readStdout]
    split
    · rename_i hread
      rw [decodeLines_none serde decoder (by rw [hread]; nofun)]
      rfl
    · rename_i line rest hread
      rw [decodeLines_line serde decoder hread]
      split
      · rename_i frame decoder' hpush
        exact congrArg _ (ih _ (readLimitedLine_lt hread) decoder' rest rfl)
      · rename_i decoder' hpush
        exact ih _ (readLimitedLine_lt hread) decoder' rest rfl
      · rfl
    · rename_i hread
      rw [decodeLines_none serde decoder (by rw [hread]; nofun)]
      split <;> rfl
    · rename_i hread
      rw [decodeLines_none serde decoder (by rw [hread]; nofun)]
      rfl

/-- The response to the negotiation request. -/
def negotiationResponse : Frame base64 :=
  .other (.response (.success (some negotiationRequestId) .negotiateProtocol))

theorem negotiationResult_ok {message : Frame base64}
    (h : negotiationResult message = some (.ok ())) : message = negotiationResponse := by
  unfold negotiationResult at h
  split at h
  · split at h
    · cases h
    rename_i hid
    split at h
    · rename_i hresult
      rw [not_not.mp hid, hresult]
      rfl
    · cases h
  · split at h <;> cases h
  · cases h

/-- The loop of the start takes the frames up to the response. -/
theorem negotiate_ok {serde : SerdeJson base64 Payload} {limit : Nat} {decoder : RpcFrameDecoder}
    {initialEvents : List (Frame base64)} {stdout : BufReader UInt8} {startup : Startup base64}
    (h : negotiate serde limit decoder initialEvents stdout = some (.ok startup)) :
    startup.maxFrameBytes = limit ∧ ∃ events, startup.initialEvents = initialEvents ++ events ∧
      (∀ event ∈ events, negotiationResult event = none) ∧
      decodeLines serde limit decoder (lines isNewline stdout.bytes) =
        events ++ negotiationResponse ::
          decodeLines serde limit startup.decoder (lines isNewline startup.stdout.bytes) := by
  induction hlength : stdout.bytes.length using Nat.strong_induction_on
    generalizing decoder initialEvents stdout with
  | _ length ih =>
    subst hlength
    rw [negotiate] at h
    split at h
    · cases h
    · cases h
    · cases h
    rename_i line rest hread
    rw [decodeLines_line serde decoder hread]
    split at h
    · cases h
    · rename_i decoder' hpush
      rw [hpush]
      exact ih _ (readLimitedLine_lt hread) h rfl
    rename_i message decoder' hpush
    rw [hpush]
    split at h
    · rename_i hresult
      cases h
      rw [negotiationResult_ok hresult]
      exact ⟨rfl, [], (List.append_nil _).symm, nofun, rfl⟩
    · cases h
    · rename_i hresult
      obtain ⟨hlimit, events, hevents, hnone, hdecoded⟩ := ih _ (readLimitedLine_lt hread) h rfl
      refine ⟨hlimit, message :: events, ?_, ?_, ?_⟩
      · rw [hevents, List.append_assoc, List.singleton_append]
      · rintro event (_ | ⟨_, hevent⟩)
        · exact hresult
        · exact hnone event hevent
      · exact congrArg _ hdecoded

/-! ## The hand-over -/

/-- **The start loses nothing.** When a start succeeds, the output decodes to the `ready`
frame, the initial events, the response to the negotiation if the process advertises
capabilities, and what the reader task delivers. -/
theorem startup_loses_nothing (serde : SerdeJson base64 Payload) (write : Write)
    (stdout : BufReader UInt8) {startup : Startup base64}
    (h : initializeRpc serde write stdout = some (.ok startup)) :
    ∃ ready : ReadyFrame,
      decodedFrames serde stdout.bytes = .transport (.ready ready) :: (startup.initialEvents ++
        (if ready.advertisesCapabilities then [negotiationResponse] else []) ++
        (readStdout serde startup.maxFrameBytes startup.decoder startup.stdout).filterMap
          StdoutItem.frame?) ∧
      (∀ event ∈ startup.initialEvents, negotiationResult event = none) ∧
      (ready.advertisesCapabilities = false → startup.initialEvents = []) := by
  rw [readStdout_frames]
  unfold initializeRpc at h
  split at h
  · cases h
  · cases h
  · cases h
  rename_i line rest hread
  obtain ⟨hcut, hfits⟩ := readLimitedLine_line hread
  rw [decodedFrames, lines_eq, hcut]
  dsimp only
  rw [if_neg (Nat.not_lt.mpr hfits)]
  split at h
  · cases h
  · cases h
  · rename_i ready decoder hpush
    rw [hpush]
    refine ⟨ready, ?_⟩
    dsimp only at h
    split at h
    · rename_i hadvertises
      split at h
      · cases h
      obtain ⟨hlimit, events, hevents, hnone, hlines⟩ := negotiate_ok h
      rw [List.nil_append] at hevents
      refine ⟨?_, hevents ▸ hnone, fun hlegacy => ?_⟩
      · rw [if_pos hadvertises, hevents, hlimit, List.append_assoc]
        exact congrArg _ hlines
      · rw [hadvertises] at hlegacy
        cases hlegacy
    · rename_i hlegacy
      cases h
      refine ⟨?_, nofun, fun _ => rfl⟩
      rw [if_neg hlegacy]
      rfl
  · cases h

/-! ## A start -/

/-- A line that `serde_json` reads as a frame. -/
def jsonLine (fields : List (String × String)) : List UInt8 := utf8 (jsonObject fields) ++ [newline]

def readyLine : List UInt8 :=
  jsonLine [("type", jsonString "ready"), ("protocolVersion", "1"),
    ("supportedProtocolVersions", "[1,2]"), ("maxFrameBytes", "1048576"),
    ("maxReassembledFrameBytes", "67108864")]

def agentStartLine : List UInt8 := jsonLine [("type", jsonString "agent_start")]

def negotiationLine : List UInt8 :=
  jsonLine [("type", jsonString "response"), ("id", jsonString negotiationRequestId.text),
    ("command", jsonString "negotiate_protocol"), ("success", "true"),
    ("data", jsonObject [("protocolVersion", "2")])]

def readyFrame : ReadyFrame :=
  ⟨oneMiB, ⟨67108864, by decide⟩, true, by decide⟩

/-- A `serde_json` that knows the three lines. -/
def startSerde : SerdeJson Base64.standard Payload where
  fromSlice line :=
    if line = readyLine then .ok (.transport (.ready readyFrame))
    else if line = agentStartLine then .ok (.other (.sessionEvent .agentStart))
    else if line = negotiationLine then .ok negotiationResponse
    else .error "expected value"
  toString _ := ""

def startOutput : List UInt8 :=
  readyLine ++ agentStartLine ++ negotiationLine ++ agentStartLine

/-- The output, cut in the middle of its last line. -/
def startStdout : BufReader UInt8 :=
  .new [⟨startOutput.take 290, by decide +kernel⟩, ⟨startOutput.drop 290, by decide +kernel⟩] .waits

theorem startup_loses_nothing_cut : ∃ startup ready,
    initializeRpc startSerde ⟨.ok 100, .ok ()⟩ startStdout = some (.ok startup) ∧
      startup.initialEvents.length = 1 ∧ startup.stdout.buffer ≠ [] ∧
      decodedFrames startSerde startStdout.bytes =
        .transport (.ready ready) :: (startup.initialEvents ++
          (if ready.advertisesCapabilities then [negotiationResponse] else []) ++
          (readStdout startSerde startup.maxFrameBytes startup.decoder startup.stdout).filterMap
            StdoutItem.frame?) := by
  have hstart : ((initializeRpc startSerde ⟨.ok 100, .ok ()⟩ startStdout).any fun result =>
      match result with
      | .ok startup => startup.initialEvents.length = 1 ∧ startup.stdout.buffer ≠ []
      | .error _ => false) = true := by
    decide +kernel
  obtain ⟨result, hresult, hstarted⟩ := (Option.any_eq_true ..).mp hstart
  cases result with
  | error error => cases hstarted
  | ok startup =>
    obtain ⟨ready, hdecoded, -⟩ := startup_loses_nothing startSerde _ startStdout hresult
    obtain ⟨hevents, hbuffer⟩ := of_decide_eq_true hstarted
    exact ⟨startup, ready, hresult, hevents, hbuffer, hdecoded⟩

end OmpRemote.Runtime

import OmpRemote.Client.Resend
import OmpRemote.Protocol.Serialize

/-!
# Requests that cannot be encoded

`send_frame` encodes a frame under the codec of the connection before it hands it to
the socket, and the runner takes either failure for the loss of the connection. A
request that cannot be encoded stays pending and is sent again on the next connection,
before the requests that came after it.

- `attempt`: the frame of a request that a step has to send.
- `encodingStep`: the steps of the runner, with the encoder.
- `FailsAlone`: what sending should make of a frame that cannot be encoded, and of the
  others.
- `fails_alone_iff`: that is so along a run iff every frame it has to send can be encoded.
-/

namespace OmpRemote.Client

open Lib Rpc

/-- What encodes frames: the negotiated codec of each connection, and ciborium. -/
structure Encoder where
  codecs : Nat → CborCodec
  serializer : ClientFrame → List ByteArray × Option String

def Encoder.encodes (encoder : Encoder) (sent : Sent) : Bool :=
  ((encoder.codecs sent.connection).encodeValue (encoder.serializer sent.frame)).isOk

/-- The phase of a runner that goes on after a frame. -/
def Phase.next : Phase → Phase
  | .initializing [] (_ :: keys) => .initializing [] keys
  | phase => phase

namespace ClientRunner

variable {runner : ClientRunner} {encoder : Encoder}

/-- The key of the pending request that the step has to send, and the frame. -/
def attempt (runner : ClientRunner) : Input → Option (UInt64 × Sent)
  | .take _ => match runner.phase, runner.commands with
    | .connected, .request payload response :: _ =>
      (runner.ids.next "request").map fun drawn =>
        (runner.nextPending, ⟨response, runner.connection, ⟨drawn.1⟩, payload⟩)
    | _, _ => none
  | .initializeConnection _ => match runner.phase with
    | .initializing [] (key :: _) =>
      (runner.ids.next "request").bind fun drawn =>
        (runner.pending.lookup key).map fun pending =>
          (key, ⟨pending.response, runner.connection, ⟨drawn.1⟩, pending.payload⟩)
    | _ => none
  | _ => none

/-- The input when the socket is given the frame only if it was encoded. -/
def Input.encoded (encoded : Bool) : Input → Input
  | .take ok => .take (encoded && ok)
  | .initializeConnection ok => .initializeConnection (encoded && ok)
  | input => input

/-- A step in which the frame of a request is encoded first; `ok` is whether the socket
takes what it is given. -/
def encodingStep (encoder : Encoder) (runner : ClientRunner) (input : Input) : ClientRunner :=
  match runner.attempt input with
  | some (_, sent) => runner.step (input.encoded (encoder.encodes sent))
  | none => runner.step input

/-- Whether the socket takes what it is given. -/
def Input.taken : Input → Bool
  | .take ok | .initializeConnection ok => ok
  | _ => true

/-- A request that cannot be encoded is completed with an error and removed, and the
connection goes on; one that can be is sent, if the socket takes it. -/
structure FailsAlone (encoder : Encoder) (runner : ClientRunner) (input : Input) : Prop where
  fails : ∀ key sent, runner.attempt input = some (key, sent) → encoder.encodes sent = false →
    (encodingStep encoder runner input).pending.lookup key = none ∧
      (∃ error, (sent.response, .error error) ∈ (encodingStep encoder runner input).replies) ∧
      (∀ other, other ≠ key → (encodingStep encoder runner input).pending.lookup other =
        runner.pending.lookup other) ∧
      (encodingStep encoder runner input).phase = runner.phase.next
  sends : ∀ key sent, runner.attempt input = some (key, sent) → encoder.encodes sent = true →
    input.taken = true →
      (∃ entry, (encodingStep encoder runner input).pending.lookup key = some entry ∧
        entry.payload = sent.payload ∧ entry.sentRequestId = some sent.requestId) ∧
      (∀ other, other ≠ key → (encodingStep encoder runner input).pending.lookup other =
        runner.pending.lookup other) ∧
      (encodingStep encoder runner input).phase = runner.phase.next

/-- The frame that the step has to send can be encoded. -/
def Encodable (encoder : Encoder) (runner : ClientRunner) (input : Input) : Prop :=
  ∀ key sent, runner.attempt input = some (key, sent) → encoder.encodes sent = true

/-! ## One frame -/

/-- Sending a pending request when an id is left, and what follows: `go`, or the loss of
the connection. -/
theorem sent_or_lost {key : UInt64} {entry : PendingRequest} {text : String} {ids : IdGenerator}
    (hentry : runner.pending.lookup key = some entry)
    (hnext : runner.ids.next "request" = some (text, ids)) (ok : Bool)
    (go : ClientRunner → ClientRunner) (hgo : ∀ runner, (go runner).pending = runner.pending)
    {after : ClientRunner} (hafter : after = if (runner.sendPending key ok).1 then
      go (runner.sendPending key ok).2 else (runner.sendPending key ok).2.disconnected) :
    ∃ entry', after.pending.lookup key = some entry' ∧ (ok = true →
      entry'.payload = entry.payload ∧ entry'.sentRequestId = some ⟨text⟩ ∧
      (∀ other, other ≠ key → after.pending.lookup other = runner.pending.lookup other) ∧
      after = go (runner.sendPending key ok).2 ∧
      (runner.sendPending key ok).2.phase = runner.phase) := by
  rcases sendPending_outcome hentry ok with
    ⟨hnone, -⟩ | ⟨text', ids', hnext', hok, -, -, hphase, hpending⟩
  · rw [hnone] at hnext
    cases hnext
  cases hnext'.symm.trans hnext
  rw [hok] at hafter
  cases ok with
  | false =>
    rw [if_neg Bool.false_ne_true] at hpending hafter
    refine ⟨{ entry with sentRequestId := none }, ?_, nofun⟩
    rw [hafter, disconnected]
    show (markPendingDisconnected _).pending.lookup key = _
    rw [lookup_unmarked, hpending, hentry]
    rfl
  | true =>
    rw [if_pos rfl] at hpending hafter
    have hlookup (other : UInt64) : after.pending.lookup other =
        if other = key then some { entry with sentRequestId := some ⟨text⟩ }
        else runner.pending.lookup other := by
      rw [hafter, hgo, hpending, Table.lookup_put]
    refine ⟨{ entry with sentRequestId := some ⟨text⟩ }, ?_, fun _ =>
      ⟨rfl, rfl, fun other hother => ?_, hafter, hphase⟩⟩
    · rw [hlookup, if_pos rfl]
    · rw [hlookup, if_neg hother]

/-- What becomes of a frame that a step has to send: its request is pending afterwards,
and if the frame was sent, it is marked and the connection goes on. -/
theorem attempt_step {input : Input} {key : UInt64} {sent : Sent}
    (h : runner.attempt input = some (key, sent)) (encoded : Bool) :
    ∃ entry, (runner.step (input.encoded encoded)).pending.lookup key = some entry ∧
      ((encoded && input.taken) = true →
        entry.payload = sent.payload ∧ entry.sentRequestId = some sent.requestId ∧
        (∀ other, other ≠ key → (runner.step (input.encoded encoded)).pending.lookup other =
          runner.pending.lookup other) ∧
        (runner.step (input.encoded encoded)).phase = runner.phase.next) := by
  cases input with
  | take ok =>
    dsimp only [attempt] at h
    split at h
    · rename_i payload response commands hphase hcommands
      obtain ⟨⟨text, ids⟩, hnext, hsent⟩ := Option.map_eq_some_iff.mp h
      cases hsent
      -- the request is inserted before it is sent
      generalize hinserting : { runner with commands }.insertPending payload response = inserting
      have hinserted (other : UInt64) : inserting.pending.lookup other =
          if other = runner.nextPending then some ⟨payload, none, response⟩
          else runner.pending.lookup other := by
        rw [← hinserting]
        exact Table.lookup_put ..
      have hids : inserting.ids = runner.ids := by rw [← hinserting]; rfl
      have hsame : inserting.phase = runner.phase := by rw [← hinserting]; rfl
      have hstep : runner.step (Input.encoded encoded (.take ok)) =
          if (inserting.sendPending runner.nextPending (encoded && ok)).1 then
            id (inserting.sendPending runner.nextPending (encoded && ok)).2
          else (inserting.sendPending runner.nextPending (encoded && ok)).2.disconnected := by
        rw [← hinserting]
        simp only [Input.encoded, step, take, hphase, hcommands, handleConnectedCommand, id]
      obtain ⟨entry, hentry, hsends⟩ := sent_or_lost (by rw [hinserted, if_pos rfl])
        (by rw [hids]; exact hnext) (encoded && ok) id (fun _ => rfl) hstep
      refine ⟨entry, hentry, fun hok => ?_⟩
      obtain ⟨hpayload, hmarked, hothers, hafter, hkept⟩ := hsends hok
      refine ⟨hpayload, hmarked, fun other hother => ?_, ?_⟩
      · rw [hothers other hother, hinserted, if_neg hother]
      · rw [hafter]
        refine (hkept.trans hsame).trans ?_
        rw [hphase]
        rfl
    · cases h
  | initializeConnection ok =>
    dsimp only [attempt] at h
    split at h
    · rename_i key' keys hphase
      obtain ⟨⟨text, ids⟩, hnext, hsent⟩ := Option.bind_eq_some_iff.mp h
      obtain ⟨entry, hentry, hsent⟩ := Option.map_eq_some_iff.mp hsent
      cases hsent
      have hstep : runner.step (Input.encoded encoded (.initializeConnection ok)) =
          if (runner.sendPending key (encoded && ok)).1 then
            { (runner.sendPending key (encoded && ok)).2 with phase := .initializing [] keys }
          else (runner.sendPending key (encoded && ok)).2.disconnected := by
        simp only [Input.encoded, step, hphase]
      obtain ⟨entry', hentry', hsends⟩ := sent_or_lost hentry hnext (encoded && ok)
        (fun runner => { runner with phase := .initializing [] keys }) (fun _ => rfl) hstep
      refine ⟨entry', hentry', fun hok => ?_⟩
      obtain ⟨hpayload, hmarked, hothers, hafter, -⟩ := hsends hok
      refine ⟨hpayload, hmarked, hothers, ?_⟩
      rw [hafter, hphase]
      rfl
    · cases h
  | _ => cases h

/-! ## Runs -/

/-- **An unencodable request does not fail alone.** Along a run, each request that cannot
be encoded is completed and removed while the connection goes on, and each other one is
sent in its turn, if and only if every frame that the run has to send can be encoded. -/
theorem fails_alone_iff (encoder : Encoder) (random : String) (inputs : List Input) :
    Along (encodingStep encoder) (FailsAlone encoder) (new random) inputs ↔
      Along (encodingStep encoder) (Encodable encoder) (new random) inputs := by
  rw [along_iff, along_iff]
  refine forall₄_congr fun pre input post _ => ?_
  generalize Lib.run (encodingStep encoder) (new random) pre = runner
  have hstep {key : UInt64} {sent : Sent} (h : runner.attempt input = some (key, sent)) :
      encodingStep encoder runner input =
        runner.step (input.encoded (encoder.encodes sent)) := by
    rw [encodingStep, h]
  constructor
  · intro halone key sent hattempt
    by_contra hrefused
    obtain ⟨entry, hentry, -⟩ := attempt_step hattempt (encoder.encodes sent)
    have hremoved := (halone.fails key sent hattempt (Bool.not_eq_true _ ▸ hrefused)).1
    rw [hstep hattempt, hentry] at hremoved
    cases hremoved
  · intro hencodable
    refine ⟨fun key sent hattempt hrefused => ?_, fun key sent hattempt hencoded htaken => ?_⟩
    · rw [hencodable key sent hattempt] at hrefused
      cases hrefused
    · obtain ⟨entry, hentry, hsent⟩ := attempt_step hattempt (encoder.encodes sent)
      obtain ⟨hpayload, hmarked, hothers, hphase⟩ := hsent (by rw [hencoded, htaken]; rfl)
      rw [hstep hattempt]
      exact ⟨⟨entry, hentry, hpayload, hmarked⟩, hothers, hphase⟩

/-! ## A long prompt -/

/-- The frame of a request, given what serde makes of the request. -/
def requestFrame (requestId : RequestId) (operationId : Option OperationId) (request : Cbor) :
    Cbor :=
  adjacentlyTagged "type" "payload" "request" (.map ([("requestId", .text requestId.text)] ++
    (operationId.map fun id => ("operationId", Cbor.text id.text)).toList ++
      [("request", request)]))

theorem size_lt_requestFrame (requestId : RequestId) (operationId : Option OperationId)
    (request : Cbor) : request.size < (requestFrame requestId operationId request).size := by
  refine Nat.lt_trans ?_ (Cbor.size_lt_map "payload" (.tail _ List.mem_cons_self))
  exact Cbor.size_lt_map "request" (List.mem_append_right _ List.mem_cons_self)

def promptCbor (agentId : AgentId) (message : String) : Cbor :=
  .map [("action", .text "prompt"), ("agent_id", .text agentId.text), ("message", .text message)]

/-- The default codec, and ciborium on prompts and on lists of agents. -/
def defaultEncoder : Encoder where
  codecs _ := FrameLimits.default.codec .authenticated
  serializer
    | .request ⟨requestId, operationId, .prompt agentId message [] none⟩ =>
      serialized (requestFrame requestId operationId (promptCbor agentId message))
    | .request ⟨requestId, operationId, .listAgents⟩ =>
      serialized (requestFrame requestId operationId (.map [("action", .text "list_agents")]))
    | _ => ([], some "not serialized")

/-- A frame is longer than the message in it. -/
theorem refuses_long {sent : Sent} {agentId : AgentId} {operationId : Option OperationId}
    {message : String}
    (hsent : sent.payload = .request (.prompt agentId message [] none) operationId)
    (hlong : 1048576 ≤ message.utf8ByteSize) : defaultEncoder.encodes sent = false := by
  have hframe : sent.frame = .request ⟨sent.requestId, operationId,
      .prompt agentId message [] none⟩ := by
    rw [Sent.frame, hsent]
    rfl
  have hlimit : (defaultEncoder.codecs sent.connection).maxFrameBytes.1.toNat = 1048576 := rfl
  rw [Encoder.encodes, ← Bool.not_eq_true, hframe]
  show ¬ ((defaultEncoder.codecs sent.connection).encodeValue (serialized _)).isOk = true
  rw [encodeValue_cbor, hlimit]
  have hmessage : message.utf8ByteSize ≤ (Cbor.text message).size := Nat.le_add_left ..
  have hprompt : (Cbor.text message).size < (promptCbor agentId message).size :=
    Cbor.size_lt_map "message" (.tail _ (.tail _ List.mem_cons_self))
  have := size_lt_requestFrame sent.requestId operationId (promptCbor agentId message)
  omega

def agent : AgentId := ⟨"agent"⟩

def prompt (n : Nat) : ControlRequest := .prompt agent (letters n) [] none

/-- A prompt and a list of the agents are asked for while connected. -/
def asked (n : Nat) : List Input :=
  [.welcome, .initializeConnection true, .freshRequest (prompt n), .freshRequest .listAgents]

/-- Both are taken, and so many connections come; the socket takes everything. -/
def sending (connections : Nat) : List Input :=
  [Input.take true, .take true] ++
    (List.replicate connections [.welcome, .initializeConnection true]).flatten

/-- The prompt is the first of what is pending, and nothing else was ever tried. -/
structure Blocked (n : Nat) (runner : ClientRunner) : Prop where
  phase : runner.phase = .offline
  subscriptions : runner.desiredSubscriptions = []
  rows : runner.pending.rows =
    [(0, ⟨.request (prompt n) (some ⟨"operation--0"⟩), none, 0⟩),
      (1, ⟨.request .listAgents none, none, 1⟩)]
  replies : runner.replies = []
  requests : ∀ sent ∈ runner.requests, sent.response = 0

theorem refuses_prompt {n : Nat} (h : 1048576 ≤ n) (connection : Nat) (id : RequestId) :
    defaultEncoder.encodes ⟨0, connection, id, .request (prompt n) (some ⟨"operation--0"⟩)⟩ =
      false :=
  refuses_long rfl (by rw [utf8ByteSize_letters]; exact h)

theorem encodingStep_refused {input : Input} {key : UInt64} {sent : Sent}
    (hattempt : runner.attempt input = some (key, sent))
    (hrefused : encoder.encodes sent = false) :
    encodingStep encoder runner input = runner.step (input.encoded false) := by
  rw [encodingStep, hattempt, ← hrefused]

theorem Blocked.disconnected {n : Nat} {phase : Phase}
    (h : Blocked n { runner with phase := .offline })
    (ids : IdGenerator) {requests : List Sent} (hrequests : ∀ sent ∈ requests, sent.response = 0)
    (connection : Nat) :
    Blocked n { runner with phase, ids, requests, connection }.disconnected where
  phase := rfl
  subscriptions := h.subscriptions
  rows := by
    show runner.pending.rows.map _ = _
    rw [h.rows]
    rfl
  replies := h.replies
  requests := hrequests

/-- One more connection changes nothing. -/
theorem Blocked.connection {n : Nat} (hn : 1048576 ≤ n) (h : Blocked n runner) :
    Blocked n (Lib.run (encodingStep defaultEncoder) runner
      [.welcome, .initializeConnection true]) := by
  have hkeys : (runner.pending.rows.map Prod.fst).mergeSort (· ≤ ·) = [0, 1] := by
    have hsorted : ([0, 1] : List UInt64).mergeSort (· ≤ ·) = [0, 1] := 
      List.mergeSort_of_pairwise (by decide)
    rw [h.rows]
    exact hsorted
  have hprompt : runner.pending.lookup 0 =
      some ⟨.request (prompt n) (some ⟨"operation--0"⟩), none, 0⟩ := by
    rw [Table.lookup_eq_some, h.rows]
    exact List.mem_cons_self
  have hwelcome : encodingStep defaultEncoder runner .welcome =
      { runner with phase := .initializing [] [0, 1], connection := runner.connection + 1 } := by
    show runner.step .welcome = _
    rw [step, if_pos h.phase, hkeys, h.subscriptions]
  have hoffline : { runner with phase := .offline } = runner := by
    rw [← h.phase]
  rw [Lib.run_cons, hwelcome, Lib.run_cons, Lib.run_nil]
  cases hnext : runner.ids.next "request" with
  | none =>
    have hattempt : attempt { runner with
        phase := .initializing [] [0, 1], connection := runner.connection + 1 }
        (.initializeConnection true) = none := by
      simp only [attempt, hnext, Option.bind_none]
    rw [encodingStep, hattempt]
    simp only [step, sendPending, hnext, Bool.false_eq_true, if_false]
    exact Blocked.disconnected (hoffline.symm ▸ h) _ h.requests _
  | some drawn =>
    have hattempt : attempt { runner with
        phase := .initializing [] [0, 1], connection := runner.connection + 1 }
        (.initializeConnection true) = some (0, ⟨0, runner.connection + 1, ⟨drawn.1⟩,
          .request (prompt n) (some ⟨"operation--0"⟩)⟩) := by
      simp only [attempt, hnext, hprompt, Option.bind_some, Option.map_some]
    rw [encodingStep_refused hattempt (refuses_prompt hn ..)]
    simp only [Input.encoded, step, sendPending, hnext, hprompt, Bool.false_and, Bool.not_false,
      Bool.false_eq_true, if_true, if_false]
    refine Blocked.disconnected (hoffline.symm ▸ h) _ ?_ _
    rintro sent hsent
    rcases List.mem_append.mp hsent with hsent | hsent
    · exact h.requests sent hsent
    · rw [List.mem_singleton.mp hsent]

theorem attempt_asked (n : Nat) : (Lib.run (encodingStep defaultEncoder) (new "") (asked n)).attempt
    (.take true) =
      some (0, ⟨0, 1, ⟨"request--1"⟩, .request (prompt n) (some ⟨"operation--0"⟩)⟩) := by
  with_unfolding_all rfl

/-- Both are taken, and the prompt is refused. -/
def refusedOnce (n : Nat) : ClientRunner :=
  Lib.run (encodingStep defaultEncoder)
    ((Lib.run (encodingStep defaultEncoder) (new "") (asked n)).step (.take false)) [.take true]

theorem blocked_asked {n : Nat} (hn : 1048576 ≤ n) (connections : Nat) :
    Blocked n (Lib.run (encodingStep defaultEncoder) (new "") (asked n ++ sending connections)) := by
  rw [Lib.run_append, sending, Lib.run_append]
  induction connections with
  | zero =>
    rw [Lib.run_cons, encodingStep_refused (attempt_asked n) (refuses_prompt hn ..)]
    have hrequests : (refusedOnce n).requests =
        [⟨0, 1, ⟨"request--1"⟩, .request (prompt n) (some ⟨"operation--0"⟩)⟩] := by
      with_unfolding_all rfl
    refine ⟨?_, ?_, ?_, ?_, fun sent (hsent : sent ∈ (refusedOnce n).requests) => ?_⟩
    rotate_left 4
    · rw [hrequests, List.mem_singleton] at hsent
      rw [hsent]
    all_goals with_unfolding_all rfl
  | succ connections ih =>
    rw [List.replicate_succ', List.flatten_append, Lib.run_append, List.flatten_singleton]
    exact ih.connection hn

/-- A prompt of a MiB is never encoded: it is not answered, every connection is lost, and
the list of the agents is never sent. -/
theorem long_prompt_blocks :
    ¬ Along (encodingStep defaultEncoder) (FailsAlone defaultEncoder) (new "")
        (asked 1048576 ++ sending 0) ∧
      ∀ connections, Blocked 1048576 (Lib.run (encodingStep defaultEncoder) (new "")
        (asked 1048576 ++ sending connections)) := by
  refine ⟨fun h => ?_, blocked_asked (Nat.le_refl _)⟩
  have halone := (along_iff.mp h) (asked 1048576) (.take true) [.take true] rfl
  obtain ⟨entry, hentry, -⟩ := attempt_step (attempt_asked 1048576) false
  have hremoved := (halone.fails _ _ (attempt_asked _) (refuses_prompt (Nat.le_refl _) ..)).1
  rw [encodingStep_refused (attempt_asked _) (refuses_prompt (Nat.le_refl _) ..)] at hremoved
  cases hentry.symm.trans hremoved

end ClientRunner

end OmpRemote.Client

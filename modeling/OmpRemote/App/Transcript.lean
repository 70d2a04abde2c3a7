import Mathlib.Data.List.Induction
import OmpRemote.Lib.Utf8

/-!
# Transcripts

The app keeps a transcript for each agent. The text of an assistant's message is
collected from its deltas, up to a limit, and becomes an entry when the message ends.
Texts are lists of characters; of the messages there is what the transcript reads.

- `appendBounded`, `Transcript.apply`.
- `keepsPrefix_iff`: when a collected text is a first part of all its deltas.
-/

namespace OmpRemote.App

open Lib

def maxTranscriptEntries : Nat := 1000

def maxPartialTextBytes : Nat := 1024 * 1024

/-! ## Messages -/

inductive UserContentBlock where
  | text (text : List Char)
  | image

inductive MessageContent where
  | text (text : List Char)
  | blocks (blocks : List UserContentBlock)

inductive AssistantContent where
  | text (text : List Char)
  | thinking (thinking : List Char)
  | other
  deriving DecidableEq

inductive AgentMessage where
  | user (content : MessageContent)
  | developer (content : MessageContent)
  | assistant (content : List AssistantContent)
  | bashExecution (command output : List Char)
  | pythonExecution (code output : List Char)
  | other

inductive AssistantMessageEvent where
  | textDelta (contentIndex : Nat) (delta : List Char)
  | thinkingDelta (contentIndex : Nat) (delta : List Char)
  | other
  deriving DecidableEq

inductive NoticeLevel where
  | info | warning | error

/-- `Debug`. -/
def NoticeLevel.text : NoticeLevel → List Char
  | info => "Info".toList
  | warning => "Warning".toList
  | error => "Error".toList

/-- `args` and `result` are JSON, as it is displayed. -/
inductive SessionEvent where
  | messageStart (message : AgentMessage)
  | messageUpdate (assistantMessageEvent : AssistantMessageEvent)
  | messageEnd (message : AgentMessage)
  | toolExecutionStart (toolName args : List Char) (intent : Option (List Char))
  | toolExecutionEnd (toolName result : List Char) (isError : Option Bool)
  | notice (level : NoticeLevel) (message : List Char)
  | other

inductive SideChannelFrame where
  | commandOutput (text : List Char)
  | other

inductive ServerMessage where
  | sessionEvent (event : SessionEvent)
  | sideChannel (frame : SideChannelFrame)
  | other

def UserContentBlock.text? : UserContentBlock → Option (List Char)
  | .text value => some value
  | .image => none

def renderMessageContent : MessageContent → List Char
  | .text text => text
  | .blocks blocks => ['\n'].intercalate (blocks.filterMap UserContentBlock.text?)

def AssistantContent.rendered? : AssistantContent → Option (List Char)
  | .text value => some value
  | .thinking value => some value
  | .other => none

def renderAgentMessage : AgentMessage → List Char
  | .user content | .developer content => renderMessageContent content
  | .assistant content => ['\n'].intercalate (content.filterMap AssistantContent.rendered?)
  | .bashExecution command output => '$' :: ' ' :: (command ++ '\n' :: output)
  | .pythonExecution code output => code ++ '\n' :: output
  | .other => []

/-! ## Transcripts -/

inductive TranscriptKind where
  | user | assistant | thinking | tool | system
  deriving DecidableEq, Repr

structure TranscriptEntry where
  sequence : UInt64
  kind : TranscriptKind
  text : List Char
  deriving DecidableEq, Repr

structure Transcript where
  entries : List TranscriptEntry
  partialAssistant : List Char
  partialThinking : List Char
  deriving DecidableEq, Repr

def appendBounded (target delta : List Char) : List Char :=
  let remaining := maxPartialTextBytes - Utf8.size target
  if remaining = 0 then target
  else
    let index := min remaining (Utf8.size delta)
    target ++ Utf8.takeTo delta (Utf8.floorCharBoundary delta index)
      (Utf8.isCharBoundary_floorCharBoundary delta index)

namespace Transcript

def empty : Transcript := ⟨[], [], []⟩

def push (transcript : Transcript) (sequence : UInt64) (kind : TranscriptKind) (text : List Char) :
    Transcript :=
  let entries :=
    -- the oldest entry goes
    if transcript.entries.length = maxTranscriptEntries then transcript.entries.tail
    else transcript.entries
  { transcript with entries := entries ++ [⟨sequence, kind, text⟩] }

def apply (transcript : Transcript) (sequence : UInt64) : ServerMessage → Transcript
  | .sessionEvent (.messageStart message) =>
    match message with
    | .user _ => transcript.push sequence .user (renderAgentMessage message)
    | _ => transcript
  | .sessionEvent (.messageUpdate (.textDelta _ delta)) =>
    { transcript with partialAssistant := appendBounded transcript.partialAssistant delta }
  | .sessionEvent (.messageUpdate (.thinkingDelta _ delta)) =>
    { transcript with partialThinking := appendBounded transcript.partialThinking delta }
  | .sessionEvent (.messageUpdate .other) => transcript
  | .sessionEvent (.messageEnd message) =>
    match message with
    | .assistant _ =>
      let transcript :=
        if transcript.partialThinking.isEmpty then transcript
        else { transcript with partialThinking := [] }.push sequence .thinking
          transcript.partialThinking
      let text :=
        if transcript.partialAssistant.isEmpty then renderAgentMessage message
        else transcript.partialAssistant
      let transcript := { transcript with partialAssistant := [] }
      if text.isEmpty then transcript else transcript.push sequence .assistant text
    | _ => transcript
  | .sessionEvent (.toolExecutionStart toolName args intent) =>
    let intent := intent.elim [] fun value => " — ".toList ++ value
    transcript.push sequence .tool (toolName ++ intent ++ '\n' :: args)
  | .sessionEvent (.toolExecutionEnd toolName result isError) =>
    let start := if isError = some true then "Tool failed".toList else "Tool finished".toList
    transcript.push sequence .tool (start ++ ": ".toList ++ toolName ++ '\n' :: result)
  | .sessionEvent (.notice level message) =>
    transcript.push sequence .system (level.text ++ ": ".toList ++ message)
  | .sideChannel (.commandOutput text) => transcript.push sequence .system text
  | .sessionEvent .other | .sideChannel .other | .other => transcript

end Transcript

/-! ## Collected texts -/

/-- What is appended is as much as there is room for. -/
theorem appendBounded_eq (target delta : List Char) :
    appendBounded target delta =
      target ++ Utf8.clip (maxPartialTextBytes - Utf8.size target) delta := by
  unfold appendBounded
  dsimp only
  split
  · rename_i hfull
    rw [hfull, Utf8.clip_zero, List.append_nil]
  · rw [Utf8.takeTo_floorCharBoundary, Utf8.clip_min_size]

/-- The text collected from deltas. -/
def collected (deltas : List (List Char)) : List Char := deltas.foldl appendBounded []

theorem collected_concat (deltas : List (List Char)) (delta : List Char) :
    collected (deltas ++ [delta]) = appendBounded (collected deltas) delta :=
  List.foldl_concat ..

theorem size_appendBounded {target : List Char} (h : Utf8.size target ≤ maxPartialTextBytes)
    (delta : List Char) : Utf8.size (appendBounded target delta) ≤ maxPartialTextBytes := by
  have := Utf8.size_clip_le (maxPartialTextBytes - Utf8.size target) delta
  rw [appendBounded_eq, Utf8.size_append]
  omega

theorem size_collected (deltas : List (List Char)) :
    Utf8.size (collected deltas) ≤ maxPartialTextBytes := by
  induction deltas using List.reverseRecOn with
  | nil => exact Nat.zero_le _
  | append_singleton deltas delta ih =>
    rw [collected_concat]
    exact size_appendBounded ih delta

/-- The text is a first part of all deltas, within the limit, and nothing is added to it
once it is less than they are. -/
structure KeepsPrefix (deltas : List (List Char)) : Prop where
  front : ∀ k, collected (deltas.take k) <+: deltas.flatten
  within : ∀ k, Utf8.size (collected (deltas.take k)) ≤ maxPartialTextBytes
  afterCut : ∀ k, collected (deltas.take k) ≠ (deltas.take k).flatten →
    ∀ m, k ≤ m → collected (deltas.take m) = collected (deltas.take k)

/-- After the limit is exceeded, every delta begins with a character that is too wide for
what is left of it. -/
def NothingFits (deltas : List (List Char)) : Prop :=
  ∀ k, maxPartialTextBytes < Utf8.size (deltas.take k).flatten →
    ∀ delta ∈ deltas[k]?, ∀ c ∈ delta.head?,
      maxPartialTextBytes < Utf8.size (Utf8.clip maxPartialTextBytes deltas.flatten) + c.utf8Size

/-- Once the limit is exceeded, what comes later does not matter. -/
theorem clip_take {deltas : List (List Char)} {k : Nat}
    (h : maxPartialTextBytes < Utf8.size (deltas.take k).flatten) :
    Utf8.clip maxPartialTextBytes (deltas.take k).flatten =
      Utf8.clip maxPartialTextBytes deltas.flatten := by
  have hsplit : deltas.flatten = (deltas.take k).flatten ++ (deltas.drop k).flatten := by
    rw [← List.flatten_append, List.take_append_drop]
  rw [hsplit, Utf8.clip_append, if_neg (Nat.not_le_of_lt h)]

/-- Then the text is as much of the deltas as the limit allows. -/
theorem collected_eq_clip {deltas : List (List Char)} (h : NothingFits deltas) (k : Nat) :
    collected (deltas.take k) = Utf8.clip maxPartialTextBytes (deltas.take k).flatten := by
  induction k with
  | zero => rfl
  | succ k ih =>
    rw [List.take_add_one]
    cases hdelta : deltas[k]? with
    | none => rw [Option.toList_none, List.append_nil, ih]
    | some delta =>
      rw [Option.toList_some, collected_concat, appendBounded_eq, List.flatten_append,
        List.flatten_singleton, Utf8.clip_append, ih]
      split
      · rename_i hfits
        rw [Utf8.clip_eq_self hfits]
      · rename_i hover
        have hover := Nat.lt_of_not_le hover
        -- the first character is too wide for the room that is left, so nothing is added
        have hnone : Utf8.clip (maxPartialTextBytes -
            Utf8.size (Utf8.clip maxPartialTextBytes (deltas.take k).flatten)) delta = [] := by
          refine Utf8.clip_eq_nil.mpr fun c hc => ?_
          have := h k hover delta hdelta c hc
          have := c.utf8Size_pos
          rw [clip_take hover]
          omega
        rw [hnone, List.append_nil]

/-- **When a collected text is a first part.** The text stays a first part of all deltas,
within the limit and unchanged once it is cut, iff after the limit is exceeded every delta
begins with a character that is too wide for what is left. -/
theorem keepsPrefix_iff (deltas : List (List Char)) :
    KeepsPrefix deltas ↔ NothingFits deltas := by
  have htake : ∀ k, (deltas.take k).flatten <+: deltas.flatten := by
    intro k
    refine ⟨(deltas.drop k).flatten, ?_⟩
    rw [← List.flatten_append, List.take_append_drop]
  constructor
  · intro h k hover delta hdelta c hc
    -- the text is cut, so the next delta adds nothing
    have hcut : collected (deltas.take k) ≠ (deltas.take k).flatten := by
      intro heq
      have := h.within k
      rw [heq] at this
      omega
    have hsame := h.afterCut k hcut (k + 1) (Nat.le_succ k)
    rw [List.take_add_one, hdelta, Option.toList_some, collected_concat, appendBounded_eq] at hsame
    have hnone := List.append_cancel_left (hsame.trans (List.append_nil _).symm)
    have hwide := Utf8.clip_eq_nil.mp hnone c hc
    -- and it is no longer than what fits
    have hsize := Utf8.size_mono (Utf8.prefix_clip (h.front k) (h.within k))
    have := h.within k
    omega
  · intro h
    refine ⟨fun k => ?_, fun k => size_collected _, fun k hcut m hm => ?_⟩
    · rw [collected_eq_clip h]
      exact (Utf8.clip_isPrefix _ _).trans (htake k)
    · -- the limit is exceeded from the cut on
      have hover : ∀ j, k ≤ j → maxPartialTextBytes < Utf8.size (deltas.take j).flatten := by
        intro j hj
        have hprefix : (deltas.take k).flatten <+: (deltas.take j).flatten := by
          refine ⟨((deltas.take j).drop k).flatten, ?_⟩
          rw [← List.flatten_append, ← Nat.min_eq_left hj, ← List.take_take, Nat.min_eq_left hj,
            List.take_append_drop]
        refine Nat.lt_of_lt_of_le (Nat.lt_of_not_le fun hfits => hcut ?_)
          (Utf8.size_mono hprefix)
        rw [collected_eq_clip h, Utf8.clip_eq_self hfits]
      rw [collected_eq_clip h, collected_eq_clip h, clip_take (hover m hm),
        clip_take (hover k (Nat.le_refl k))]

/-- One byte is left, a character of two is cut, and a later one of one byte is added. -/
def straddling : List (List Char) :=
  [List.replicate (maxPartialTextBytes - 1) 'a', ['é'], ['b']]

theorem collected_straddling :
    collected straddling = List.replicate (maxPartialTextBytes - 1) 'a' ++ ['b'] ∧
      ¬ KeepsPrefix straddling := by
  have hfirst : Utf8.size (List.replicate (maxPartialTextBytes - 1) 'a') =
      maxPartialTextBytes - 1 := (Utf8.size_replicate ..).trans (Nat.mul_one _)
  have hroom : maxPartialTextBytes - (maxPartialTextBytes - 1) = 1 := rfl
  have hcollected : collected straddling =
      List.replicate (maxPartialTextBytes - 1) 'a' ++ ['b'] := by
    have hstart : appendBounded [] (List.replicate (maxPartialTextBytes - 1) 'a') =
        List.replicate (maxPartialTextBytes - 1) 'a' := by
      rw [appendBounded_eq, Utf8.size_nil, Nat.sub_zero, List.nil_append, Utf8.clip_eq_self]
      rw [hfirst]
      exact Nat.sub_le _ _
    have hcut : Utf8.clip 1 ['é'] = [] := by decide +kernel
    have hadded : Utf8.clip 1 ['b'] = ['b'] := by decide +kernel
    unfold collected straddling
    rw [List.foldl_cons, List.foldl_cons, List.foldl_cons, List.foldl_nil, hstart,
      appendBounded_eq _ ['é'], hfirst, hroom, hcut, List.append_nil, appendBounded_eq, hfirst,
      hroom, hadded]
  refine ⟨hcollected, fun h => ?_⟩
  have hfront := h.front 3
  have hwhole : straddling.flatten =
      List.replicate (maxPartialTextBytes - 1) 'a' ++ ['é', 'b'] := by
    rw [straddling, List.flatten_cons]
    rfl
  rw [show straddling.take 3 = straddling from rfl, hcollected, hwhole,
    List.prefix_append_right_inj] at hfront
  revert hfront
  decide +kernel

end OmpRemote.App

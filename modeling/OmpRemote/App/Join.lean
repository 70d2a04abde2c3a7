import OmpRemote.App.Transcript

/-!
# Joining in the middle of a message

A client may begin to observe an agent while a message is being written. What the
transcript says of the message in the end is either what was collected or what the end of
the message carries.

- `MessageStream`: the events of one message of an assistant.
- `joinIndependent_iff`: when every client has the same text in the end.
-/

namespace OmpRemote.App

open Lib

/-! ## The events of a message -/

namespace AssistantContent

/-- The text of a block of text. -/
def textOf : AssistantContent → List Char
  | .text value => value
  | _ => []

def thinkingOf : AssistantContent → List Char
  | .thinking value => value
  | _ => []

end AssistantContent

namespace AssistantMessageEvent

def textDelta? : AssistantMessageEvent → Option (List Char)
  | .textDelta _ delta => some delta
  | _ => none

/-- What an event adds to the text of a block. -/
def textAt (index : Nat) : AssistantMessageEvent → List Char
  | .textDelta contentIndex delta => if contentIndex = index then delta else []
  | _ => []

def thinkingAt (index : Nat) : AssistantMessageEvent → List Char
  | .thinkingDelta contentIndex delta => if contentIndex = index then delta else []
  | _ => []

end AssistantMessageEvent

open AssistantContent AssistantMessageEvent

/-- The events of one message: for each block of its content, the deltas are the block. -/
structure MessageStream where
  content : List AssistantContent
  updates : List AssistantMessageEvent
  text : ∀ index, updates.flatMap (textAt index) = content[index]?.elim [] textOf
  thinking : ∀ index, updates.flatMap (thinkingAt index) = content[index]?.elim [] thinkingOf

namespace MessageStream

def messages (stream : MessageStream) : List ServerMessage :=
  .sessionEvent (.messageStart (.assistant stream.content)) ::
    (stream.updates.map (fun event => .sessionEvent (.messageUpdate event)) ++
      [.sessionEvent (.messageEnd (.assistant stream.content))])

/-- The transcript of a client that observes the messages from one on. -/
def observed (stream : MessageStream) (sequence : Nat → UInt64) (point : Nat) : Transcript :=
  (stream.messages.zipIdx.drop point).foldl (fun transcript (message, i) =>
    transcript.apply (sequence i) message) .empty

end MessageStream

/-- The texts of the assistant's entries. -/
def Transcript.assistantTexts (transcript : Transcript) : List (List Char) :=
  (transcript.entries.filter fun entry => entry.kind = .assistant).map TranscriptEntry.text

/-! ## What is collected -/

def textDeltas (updates : List AssistantMessageEvent) : List (List Char) :=
  updates.filterMap textDelta?

/-- The text that becomes the entry. -/
def finalText (content : List AssistantContent) (updates : List AssistantMessageEvent) :
    List Char :=
  if (collected (textDeltas updates)).isEmpty then renderAgentMessage (.assistant content)
  else collected (textDeltas updates)

/-- An empty text is no entry. -/
def entryTexts (text : List Char) : List (List Char) := if text.isEmpty then [] else [text]

theorem entryTexts_injective {text text' : List Char} (h : entryTexts text = entryTexts text') :
    text = text' := by
  unfold entryTexts at h
  cases text <;> cases text' <;> simp_all

namespace Transcript

/-- Updates are collected and change no entry. -/
theorem apply_updates (sequence : Nat → UInt64) (updates : List AssistantMessageEvent) (n : Nat)
    (transcript : Transcript) :
    ∃ thinking, ((updates.map fun event =>
        ServerMessage.sessionEvent (.messageUpdate event)).zipIdx n).foldl
          (fun transcript (message, i) => transcript.apply (sequence i) message) transcript =
      ⟨transcript.entries, (textDeltas updates).foldl appendBounded transcript.partialAssistant,
        thinking⟩ := by
  induction updates generalizing n transcript with
  | nil => exact ⟨transcript.partialThinking, rfl⟩
  | cons event updates ih =>
    rw [List.map_cons, List.zipIdx_cons, List.foldl_cons]
    -- a delta of thinking is collected elsewhere, and no update makes an entry
    cases event with
    | textDelta contentIndex delta => exact ih (n + 1) _
    | thinkingDelta contentIndex delta => exact ih (n + 1) _
    | other => exact ih (n + 1) _

theorem assistantTexts_end (sequence : UInt64) (content : List AssistantContent)
    (assistant thinking : List Char) :
    ((⟨[], assistant, thinking⟩ : Transcript).apply sequence
        (.sessionEvent (.messageEnd (.assistant content)))).assistantTexts =
      entryTexts (if assistant.isEmpty then renderAgentMessage (.assistant content)
        else assistant) := by
  unfold apply entryTexts
  by_cases htext : (if assistant.isEmpty then renderAgentMessage (.assistant content)
      else assistant).isEmpty = true
  · -- what was thought makes an entry of another kind
    cases thinking <;> exact (congrArg assistantTexts (if_pos htext)).trans (if_pos htext).symm
  · cases thinking <;> exact (congrArg assistantTexts (if_neg htext)).trans (if_neg htext).symm

end Transcript

theorem drop_zipIdx {α : Type} (as : List α) (n k : Nat) :
    (as.zipIdx n).drop k = (as.drop k).zipIdx (n + k) := by
  induction k generalizing as n with
  | zero => rfl
  | succ k ih =>
    cases as with
    | nil => rfl
    | cons a as =>
      rw [List.zipIdx_cons, List.drop_succ_cons, List.drop_succ_cons, ih, Nat.add_assoc,
        Nat.add_comm 1 k]

/-- What a client has in the end, that observes the messages from one on. -/
theorem MessageStream.observed_texts (stream : MessageStream) (sequence : Nat → UInt64)
    {point : Nat} (h : point ≤ stream.updates.length + 1) :
    (stream.observed sequence point).assistantTexts =
      entryTexts (finalText stream.content (stream.updates.drop (point - 1))) := by
  -- the start of the message changes nothing
  have hstart : stream.observed sequence point =
      (((stream.updates.drop (point - 1)).map (fun event =>
          ServerMessage.sessionEvent (.messageUpdate event)) ++
        [ServerMessage.sessionEvent (.messageEnd (.assistant stream.content))]).zipIdx
          (point - 1 + 1)).foldl
          (fun transcript (message, i) => transcript.apply (sequence i) message) .empty := by
    unfold observed
    rw [drop_zipIdx, Nat.zero_add]
    cases point with
    | zero => rfl
    | succ point =>
      have hdrop : point ≤ (stream.updates.map fun event =>
          ServerMessage.sessionEvent (.messageUpdate event)).length := by
        rw [List.length_map]
        omega
      rw [messages, List.drop_succ_cons, List.drop_append_of_le_length hdrop, ← List.map_drop,
        Nat.add_sub_cancel]
  obtain ⟨thinking, hupdates⟩ := Transcript.apply_updates sequence
    (stream.updates.drop (point - 1)) (point - 1 + 1) .empty
  rw [hstart, List.zipIdx_append, List.foldl_append, hupdates]
  exact Transcript.assistantTexts_end ..

/-! ## The size of the text -/

/-- The updates of the blocks after the first. -/
def later : List AssistantMessageEvent → List AssistantMessageEvent :=
  List.filterMap fun
    | .textDelta (index + 1) delta => some (.textDelta index delta)
    | _ => none

theorem textAt_later (updates : List AssistantMessageEvent) (index : Nat) :
    (later updates).flatMap (textAt index) = updates.flatMap (textAt (index + 1)) := by
  induction updates with
  | nil => rfl
  | cons event updates ih =>
    rw [List.flatMap_cons, ← ih]
    match event with
    | .textDelta 0 delta => rfl
    | .textDelta (contentIndex + 1) delta =>
      have hindex : (if contentIndex = index then delta else []) =
          if contentIndex + 1 = index + 1 then delta else [] :=
        if_congr Nat.succ_inj.symm rfl rfl
      exact congrArg (· ++ (later updates).flatMap (textAt index)) hindex
    | .thinkingDelta _ _ => rfl
    | .other => rfl

/-- The deltas of the first block and of the others. -/
theorem size_textDeltas (updates : List AssistantMessageEvent) :
    Utf8.size (textDeltas updates).flatten =
      Utf8.size (updates.flatMap (textAt 0)) + Utf8.size (textDeltas (later updates)).flatten := by
  induction updates with
  | nil => rfl
  | cons event updates ih =>
    rw [List.flatMap_cons, Utf8.size_append]
    match event with
    | .textDelta 0 delta =>
      show Utf8.size (delta ++ (textDeltas updates).flatten) =
        Utf8.size delta + _ + Utf8.size (textDeltas (later updates)).flatten
      rw [Utf8.size_append, ih, Nat.add_assoc]
    | .textDelta (contentIndex + 1) delta =>
      show Utf8.size (delta ++ (textDeltas updates).flatten) =
        0 + _ + Utf8.size (delta ++ (textDeltas (later updates)).flatten)
      rw [Utf8.size_append, Utf8.size_append, ih]
      omega
    | .thinkingDelta _ _ =>
      show Utf8.size (textDeltas updates).flatten = 0 + _ + _
      rw [ih, Nat.zero_add]
      rfl
    | .other =>
      show Utf8.size (textDeltas updates).flatten = 0 + _ + _
      rw [ih, Nat.zero_add]
      rfl

/-- The texts of all blocks. -/
def blockTexts (content : List AssistantContent) : List Char := content.flatMap textOf

/-- The deltas are no longer than the blocks. -/
theorem size_textDeltas_le {content : List AssistantContent} {updates : List AssistantMessageEvent}
    (h : ∀ index, updates.flatMap (textAt index) = content[index]?.elim [] textOf) :
    Utf8.size (textDeltas updates).flatten ≤ Utf8.size (blockTexts content) := by
  -- the deltas of the first block are its text, and the other deltas those of the rest
  induction content generalizing updates with
  | nil =>
    have hempty : (textDeltas updates).flatten = [] := by
      refine List.flatten_eq_nil_iff.mpr fun delta hdelta => ?_
      obtain ⟨event, hevent, hdelta⟩ := List.mem_filterMap.mp hdelta
      cases event with
      | textDelta contentIndex delta' =>
        cases hdelta
        have hnone := List.flatMap_eq_nil_iff.mp (h contentIndex) _ hevent
        rwa [textAt, if_pos rfl] at hnone
      | thinkingDelta contentIndex delta' => cases hdelta
      | other => cases hdelta
    rw [hempty]
    exact Nat.zero_le _
  | cons block content ih =>
    have hlater : ∀ index,
        (later updates).flatMap (textAt index) = content[index]?.elim [] textOf := by
      intro index
      rw [textAt_later, h (index + 1)]
      rfl
    have hfirst : updates.flatMap (textAt 0) = textOf block := h 0
    have := ih hlater
    rw [size_textDeltas, hfirst, blockTexts, List.flatMap_cons, Utf8.size_append]
    exact Nat.add_le_add_left this _

theorem size_intercalate_le (separator : List Char) (texts : List (List Char)) :
    Utf8.size texts.flatten ≤ Utf8.size (separator.intercalate texts) := by
  induction texts with
  | nil => exact Nat.le_refl _
  | cons text texts ih =>
    cases texts with
    | nil =>
      have hone : [text].flatten = separator.intercalate [text] := by
        rw [List.intercalate_singleton, List.flatten_singleton]
      exact Nat.le_of_eq (congrArg Utf8.size hone)
    | cons text' texts =>
      rw [List.intercalate_cons_cons, List.flatten_cons, Utf8.size_append, Utf8.size_append,
        Utf8.size_append]
      omega

/-- Every block is in what is rendered. -/
theorem size_blockTexts_le (content : List AssistantContent) :
    Utf8.size (blockTexts content) ≤ Utf8.size (renderAgentMessage (.assistant content)) := by
  refine Nat.le_trans ?_ (size_intercalate_le ['\n'] _)
  induction content with
  | nil => exact Nat.le_refl _
  | cons block content ih =>
    rw [blockTexts, List.flatMap_cons, Utf8.size_append]
    cases block with
    | text value =>
      show Utf8.size value + Utf8.size (blockTexts content) ≤ Utf8.size (value ++ _)
      rw [Utf8.size_append]
      exact Nat.add_le_add_left ih _
    | thinking value =>
      show 0 + Utf8.size (blockTexts content) ≤ Utf8.size (value ++ _)
      rw [Utf8.size_append]
      exact Nat.add_le_add (Nat.zero_le _) ih
    | other =>
      show 0 + Utf8.size (blockTexts content) ≤ _
      rw [Nat.zero_add]
      exact ih

/-! ## The law -/

def nonEmptyDeltas (updates : List AssistantMessageEvent) : List (List Char) :=
  (textDeltas updates).filter fun delta => !delta.isEmpty

theorem collected_nonEmptyDeltas (updates : List AssistantMessageEvent) :
    collected (nonEmptyDeltas updates) = collected (textDeltas updates) := by
  unfold nonEmptyDeltas collected
  rw [List.foldl_filter]
  congr 1
  funext target delta
  cases delta with
  | nil => exact ((appendBounded_eq target []).trans (List.append_nil target)).symm
  | cons c delta => rfl

theorem collected_singleton (delta : List Char) :
    collected [delta] = Utf8.clip maxPartialTextBytes delta :=
  (appendBounded_eq [] delta).trans (List.nil_append _)

/-- The final text of updates with one delta, or with none. -/
theorem finalText_of_singleton {content : List AssistantContent}
    {updates : List AssistantMessageEvent} {delta : List Char}
    (h : nonEmptyDeltas updates = [delta]) :
    finalText content updates = Utf8.clip maxPartialTextBytes delta := by
  have hne : delta ≠ [] := by
    have hmem : delta ∈ nonEmptyDeltas updates := by
      rw [h]
      exact List.mem_singleton_self _
    have := (List.mem_filter.mp hmem).2
    rintro rfl
    cases this
  have hclip : (Utf8.clip maxPartialTextBytes delta).isEmpty = false := by
    rw [List.isEmpty_eq_false_iff]
    intro hnil
    obtain ⟨c, rest, rfl⟩ := List.exists_cons_of_ne_nil hne
    have := Utf8.clip_eq_nil.mp hnil c rfl
    have := c.utf8Size_le_four
    have : 4 ≤ maxPartialTextBytes := by decide
    omega
  rw [finalText, ← collected_nonEmptyDeltas, h, collected_singleton, hclip]
  exact if_neg Bool.false_ne_true

theorem finalText_of_nil {content : List AssistantContent}
    {updates : List AssistantMessageEvent} (h : nonEmptyDeltas updates = []) :
    finalText content updates = renderAgentMessage (.assistant content) := by
  rw [finalText, ← collected_nonEmptyDeltas, h]
  exact if_pos rfl

namespace MessageStream

/-- Every client has the same entry in the end. -/
def JoinIndependent (stream : MessageStream) : Prop :=
  ∀ sequence point, point ≤ stream.updates.length + 1 →
    (stream.observed sequence point).assistantTexts =
      (stream.observed sequence 0).assistantTexts

/-- The deltas of text are empty, except one, if any, that is all there is to the message
and within the limit. -/
def OneDelta (stream : MessageStream) : Prop :=
  nonEmptyDeltas stream.updates = [] ∨
    nonEmptyDeltas stream.updates = [renderAgentMessage (.assistant stream.content)] ∧
      Utf8.size (renderAgentMessage (.assistant stream.content)) ≤ maxPartialTextBytes

/-- What the text of a stream with one delta is from any point on. -/
theorem OneDelta.finalText_drop {stream : MessageStream} (h : stream.OneDelta) (k : Nat) :
    finalText stream.content (stream.updates.drop k) =
      renderAgentMessage (.assistant stream.content) := by
  have hsuffix : nonEmptyDeltas (stream.updates.drop k) <:+ nonEmptyDeltas stream.updates :=
    ((List.drop_suffix k stream.updates).filterMap _).filter _
  rcases h with hnone | ⟨hone, hfits⟩
  · rw [hnone] at hsuffix
    exact finalText_of_nil (List.suffix_nil.mp hsuffix)
  · rw [hone] at hsuffix
    rcases List.suffix_cons_iff.mp hsuffix with hsame | hrest
    · rw [finalText_of_singleton hsame, Utf8.clip_eq_self hfits]
    · exact finalText_of_nil (List.suffix_nil.mp hrest)

/-- **When it does not matter where a client joins.** Every client has the same text of a
message in the end iff the deltas of text are empty, except one, if any, that is the whole
message as it is rendered and within the limit. -/
theorem joinIndependent_iff (stream : MessageStream) :
    stream.JoinIndependent ↔ stream.OneDelta := by
  constructor
  · intro h
    -- who sees only the end has what it carries
    have hrender : ∀ k ≤ stream.updates.length,
        finalText stream.content (stream.updates.drop k) =
          renderAgentMessage (.assistant stream.content) := by
      intro k hk
      have hend := h (fun _ => 0) (stream.updates.length + 1) (Nat.le_refl _)
      rw [← h (fun _ => 0) (k + 1) (by omega), stream.observed_texts _ (Nat.le_refl _),
        stream.observed_texts _ (by omega), Nat.add_sub_cancel, Nat.add_sub_cancel,
        List.drop_length] at hend
      rw [← entryTexts_injective hend]
      exact finalText_of_nil rfl
    rcases List.eq_nil_or_concat (nonEmptyDeltas stream.updates) with hnone | ⟨deltas, delta, hall⟩
    · exact .inl hnone
    · -- and who sees the last delta has nothing else
      rw [List.concat_eq_append] at hall
      obtain ⟨before, after, htexts, hbefore, hafter⟩ := List.filter_eq_append_iff.mp hall
      obtain ⟨front, back, hupdates, hfront, hback⟩ := List.filterMap_eq_append_iff.mp htexts
      have hlast : nonEmptyDeltas back = [delta] := by
        rw [nonEmptyDeltas, textDeltas, hback, hafter]
      have hclip : renderAgentMessage (.assistant stream.content) =
          Utf8.clip maxPartialTextBytes delta := by
        rw [← hrender front.length (by rw [hupdates, List.length_append]; omega), hupdates,
          List.drop_left]
        exact finalText_of_singleton hlast
      -- all deltas together are no longer than the message, so that the last one is all of it
      have hsize : Utf8.size deltas.flatten + Utf8.size delta ≤
          Utf8.size (renderAgentMessage (.assistant stream.content)) := by
        have hflatten : deltas.flatten ++ delta = (nonEmptyDeltas stream.updates).flatten := by
          rw [hall, List.flatten_append, List.flatten_singleton]
        rw [← Utf8.size_append, hflatten, nonEmptyDeltas, List.flatten_filter_not_isEmpty]
        exact Nat.le_trans (size_textDeltas_le stream.text) (size_blockTexts_le _)
      have hprefix := Utf8.clip_isPrefix maxPartialTextBytes delta
      rw [hclip] at hsize
      have hwhole : Utf8.clip maxPartialTextBytes delta = delta :=
        Utf8.eq_of_prefix_of_size_le hprefix (by omega)
      -- no room is left for the others
      have hothers : deltas = [] := by
        have := Utf8.size_mono hprefix
        have hempty : deltas.flatten = [] := Utf8.size_eq_zero.mp (by omega)
        refine List.eq_nil_iff_forall_not_mem.mpr fun delta' hmem => ?_
        have hnil := List.flatten_eq_nil_iff.mp hempty delta' hmem
        have hin : delta' ∈ nonEmptyDeltas stream.updates := by
          rw [hall]
          exact List.mem_append_left _ hmem
        have := (List.mem_filter.mp hin).2
        rw [hnil] at this
        cases this
      refine .inr ⟨?_, ?_⟩
      · rw [hall, hothers, hclip, hwhole]
        rfl
      · rw [hclip]
        exact Utf8.size_clip_le _ _
  · intro h sequence point hpoint
    rw [stream.observed_texts sequence hpoint, stream.observed_texts sequence (Nat.zero_le _),
      h.finalText_drop, h.finalText_drop]

/-- A message of one block that arrives in two deltas. -/
def twoDeltas : MessageStream where
  content := [.text "Hello".toList]
  updates := [.textDelta 0 "Hel".toList, .textDelta 0 "lo".toList]
  text := by
    rintro (_ | index)
    · decide +kernel
    · rfl
  thinking := by
    rintro (_ | index)
    · decide +kernel
    · rfl

/-- A client that joins between them has only the second. -/
theorem twoDeltas_join :
    (twoDeltas.observed UInt64.ofNat 0).assistantTexts = ["Hello".toList] ∧
      (twoDeltas.observed UInt64.ofNat 2).assistantTexts = ["lo".toList] ∧
      ¬ twoDeltas.JoinIndependent := by
  have hwhole : (twoDeltas.observed UInt64.ofNat 0).assistantTexts = ["Hello".toList] := by
    decide +kernel
  have hlate : (twoDeltas.observed UInt64.ofNat 2).assistantTexts = ["lo".toList] := by
    decide +kernel
  refine ⟨hwhole, hlate, fun h => ?_⟩
  have hsame := h UInt64.ofNat 2 (by decide)
  rw [hwhole, hlate] at hsame
  revert hsame
  decide +kernel

end MessageStream

end OmpRemote.App

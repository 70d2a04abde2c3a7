import OmpRemote.Runtime.Correlation

/-!
# What a runtime publishes

The event stream of a runtime is made of the frames of its process, then the news
of its end. The end is one event, or two: a reader that fails while it is drained
is reported before the exit is.

- `step_publishes`: as long as the task goes on it publishes frames only; the step
  that ends it publishes how it ended, and nothing follows.
-/

namespace OmpRemote.Runtime

open Rpc

/-- The news that a runtime has ended. -/
def RuntimeEvent.isFinal : RuntimeEvent → Bool
  | .exited _ | .failed _ => true
  | .frame _ | .stderr _ => false

def RuntimeEvent.toFrame : RuntimeEvent → Option ServerMessage
  | .frame message => some message
  | .stderr _ | .exited _ | .failed _ => none

/-- The frames among events, in order. -/
def frames (events : List RuntimeEvent) : List ServerMessage :=
  events.filterMap RuntimeEvent.toFrame

@[simp] theorem frames_nil : frames [] = [] := rfl

@[simp] theorem frames_append (events events' : List RuntimeEvent) :
    frames (events ++ events') = frames events ++ frames events' := List.filterMap_append

def Effect.toEvent : Effect → Option RuntimeEvent
  | .event published => some published
  | .resolved .. | .dropped _ | .sent _ | .shutDown _ => none

/-- The events among the effects of a step, in order. -/
def publishedEvents (effects : List Effect) : List RuntimeEvent := effects.filterMap Effect.toEvent

namespace RuntimeActor

/-- What one step publishes: frames at most if the task goes on, which it does with
the status it had, and that it has ended if it has. -/
def Publishes (actor : RuntimeActor) (r : List Effect × RuntimeActor) : Prop :=
  (r.2.phase ≠ .ended ∧ r.2.status = actor.status ∧
    ∀ event ∈ publishedEvents r.1, event.isFinal = false) ∨
    r.2.phase = .ended ∧ publishedEvents r.1 ≠ [] ∧
      ∀ event ∈ publishedEvents r.1, event.isFinal = true

variable {actor : RuntimeActor} {r : List Effect × RuntimeActor}

/-- A step that publishes nothing and goes on. -/
theorem publishes_nothing (hphase : r.2.phase ≠ .ended) (hstatus : r.2.status = actor.status)
    (h : publishedEvents r.1 = []) : actor.Publishes r := by
  refine .inl ⟨hphase, hstatus, ?_⟩
  rw [h]
  intro event hevent
  cases hevent

@[simp] theorem updatePromptStatus_status (frame : ServerMessage) :
    (actor.updatePromptStatus frame).status = actor.status := by
  unfold updatePromptStatus
  split
  · rfl
  split <;> rfl

@[simp] theorem submitPrompt_status (requestId : Rpc.RequestId) (kind : String) :
    (actor.submitPrompt requestId kind).status = actor.status := by
  unfold submitPrompt
  split <;> rfl

@[simp] theorem failPrompt_status (requestId : Rpc.RequestId) (error : String) :
    (actor.failPrompt requestId error).status = actor.status := by
  unfold failPrompt
  split
  · rfl
  split <;> rfl

theorem handleFrame_status (frame : ServerMessage) :
    (actor.handleFrame frame).2.status = actor.status := by
  have hstatus : (actor.updatePromptStatus frame).status = actor.status :=
    updatePromptStatus_status frame
  unfold handleFrame
  dsimp only
  split
  · split
    · split <;> exact hstatus
    · exact hstatus
  · exact hstatus

theorem publishes_handleFrame (hphase : actor.phase ≠ .ended) (frame : ServerMessage) :
    actor.Publishes (actor.handleFrame frame) := by
  have hgoesOn : (actor.handleFrame frame).2.phase ≠ .ended := by rwa [handleFrame_phase]
  rcases actor.handleFrame_cases frame with ⟨response, requestId, -, -, -, heffects, -⟩ |
    ⟨heffects, -⟩
  · exact publishes_nothing hgoesOn (handleFrame_status frame) (congrArg publishedEvents heffects)
  · refine .inl ⟨hgoesOn, handleFrame_status frame, ?_⟩
    rw [heffects]
    intro event hevent
    cases List.mem_singleton.mp hevent
    rfl

theorem publishes_insertPending (hphase : actor.phase ≠ .ended) (requestId : Rpc.RequestId) :
    actor.Publishes (actor.insertPending requestId) := by
  unfold insertPending
  split
  · exact publishes_nothing hphase rfl rfl
  · exact publishes_nothing hphase rfl rfl

theorem publishes_cancel (hphase : actor.phase ≠ .ended) (requestId : Rpc.RequestId) :
    actor.Publishes (actor.cancel requestId) := by
  unfold cancel
  split
  · exact publishes_nothing hphase rfl rfl
  · exact publishes_nothing hphase rfl rfl

/-! ### The end -/

theorem publishedEvents_failPending (actor : RuntimeActor) :
    publishedEvents actor.failPending.1 = [] := by
  show (actor.pending.map _).filterMap Effect.toEvent = []
  rw [List.filterMap_map]
  exact List.filterMap_eq_nil_iff.mpr fun _ _ => rfl

theorem publishedEvents_finishExit (exit : RuntimeExit) (answer : Bool) :
    publishedEvents (actor.finishExit exit answer).1 = [.exited exit] := by
  have h := publishedEvents_failPending { actor with status := .exited exit }
  unfold publishedEvents at h ⊢
  cases answer <;> simp only [finishExit, List.filterMap_append, h] <;> rfl

theorem publishedEvents_finishFailure (message : String) (answer : Bool) :
    publishedEvents (actor.finishFailure message answer).1 = [.failed message] := by
  have h := publishedEvents_failPending { actor with status := .failed message }
  unfold publishedEvents at h ⊢
  cases answer <;> simp only [finishFailure, List.filterMap_append, h] <;> rfl

/-- The task ends with one event. -/
theorem publishes_last {event : RuntimeEvent} (hphase : r.2.phase = .ended)
    (h : publishedEvents r.1 = [event]) (hfinal : event.isFinal = true) :
    actor.Publishes r := by
  refine .inr ⟨hphase, ?_, ?_⟩
  · rw [h]
    exact List.cons_ne_nil _ _
  · rw [h]
    intro event' hevent
    rw [List.mem_singleton.mp hevent, hfinal]

theorem publishes_finishExit (exit : RuntimeExit) (answer : Bool) :
    actor.Publishes (actor.finishExit exit answer) :=
  publishes_last rfl (publishedEvents_finishExit exit answer) rfl

theorem publishes_finishFailure (message : String) (answer : Bool) :
    actor.Publishes (actor.finishFailure message answer) :=
  publishes_last rfl (publishedEvents_finishFailure message answer) rfl

/-! ### The loops -/

theorem publishes_request (hphase : actor.phase ≠ .ended) (requestId : Rpc.RequestId)
    (kind : String) (write : Write) : actor.Publishes (actor.request requestId kind write) := by
  have hsubmitted : (actor.submitPrompt requestId kind).phase ≠ .ended := by
    rwa [submitPrompt_phase]
  have hstatus := actor.submitPrompt_status requestId kind
  unfold request
  dsimp only
  split
  · have hinserted := publishes_insertPending hsubmitted requestId
    rwa [Publishes, hstatus] at hinserted
  · exact publishes_nothing (by rwa [failPrompt_phase]) (by rw [failPrompt_status, hstatus]) rfl
  · exact publishes_last rfl (publishedEvents_finishFailure _ false) rfl

theorem publishes_send (hphase : actor.phase ≠ .ended) (write : Write) :
    actor.Publishes (actor.send write) := by
  unfold send
  split
  · exact publishes_nothing hphase rfl rfl
  · exact publishes_nothing hphase rfl rfl
  · exact publishes_last rfl (publishedEvents_finishFailure _ false) rfl

/-- **What a step publishes**, whichever loop it belongs to. -/
theorem step_publishes (hphase : actor.phase ≠ .ended) (input : RuntimeInput) :
    actor.Publishes (actor.step input) := by
  have hidle : actor.Publishes ([], actor) := publishes_nothing hphase rfl rfl
  unfold step
  split
  · unfold turn
    split
    · exact publishes_nothing (by rintro ⟨⟩) rfl rfl
    · exact publishes_finishFailure _ false
    · exact publishes_request hphase _ _ _
    · exact publishes_cancel hphase _
    · exact publishes_send hphase _
    · exact publishes_nothing (by rintro ⟨⟩) rfl rfl
    · exact publishes_nothing (by rintro ⟨⟩) rfl rfl
    · split
      · exact hidle
      split
      · exact publishes_handleFrame hphase _
      · exact publishes_finishFailure _ false
      · exact publishes_nothing hphase rfl rfl
      · exact publishes_nothing hphase rfl rfl
    · exact hidle
  · rename_i answer _
    unfold shutdownTurn
    split
    · exact publishes_nothing (by rintro ⟨⟩) rfl rfl
    · exact publishes_finishFailure _ answer
    · split
      · exact hidle
      split
      · exact publishes_handleFrame hphase _
      · exact publishes_finishFailure _ answer
      · exact publishes_nothing hphase rfl rfl
      · exact publishes_nothing hphase rfl rfl
    · exact publishes_finishFailure _ answer
    · exact publishes_finishFailure _ answer
    · exact publishes_nothing (by rintro ⟨⟩) rfl rfl
    · exact hidle
    · exact hidle
  · rename_i exit answer _
    unfold drainTurn
    split
    · exact publishes_handleFrame hphase _
    · -- the reader failed: two events
      rename_i error
      have hevents : publishedEvents (.event (.failed error) :: (actor.finishExit exit answer).1) =
          [.failed error, .exited exit] :=
        congrArg (List.cons _) (publishedEvents_finishExit exit answer)
      refine .inr ⟨rfl, ?_, ?_⟩
      · show publishedEvents (.event (.failed error) :: (actor.finishExit exit answer).1) ≠ []
        rw [hevents]
        exact List.cons_ne_nil _ _
      · show ∀ event ∈
            publishedEvents (.event (.failed error) :: (actor.finishExit exit answer).1),
          event.isFinal = true
        rw [hevents]
        intro event hevent
        rcases List.mem_pair.mp hevent with rfl | rfl
        · rfl
        · rfl
    · exact publishes_finishExit exit answer
    · exact publishes_finishExit exit answer
    · exact hidle
  · rename_i hended
    exact absurd hended hphase

/-- A task that has ended does nothing. -/
theorem step_after_end (h : actor.phase = .ended) (input : RuntimeInput) :
    actor.step input = ([], actor) := by
  unfold step
  rw [h]

end RuntimeActor

end OmpRemote.Runtime

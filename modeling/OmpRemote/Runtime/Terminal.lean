import OmpRemote.Runtime.Events
import OmpRemote.Runtime.PromptPhase

/-!
# The last event of a runtime

The task ends in its main loop, while it shuts down, or when it has drained its reader,
and each of them publishes the end on its own. All but one publish one event. The reader
that fails while it is drained publishes a failure, and then the exit follows.

- `TerminatesOnce`: there is one final event, no frame after it, and it says how the
  status has it.
- `step_end`: the two ways the step that ends the task publishes the end.
- `terminates_once_iff`: every run that has ended, exactly.
-/

namespace OmpRemote.Runtime

open Lib Rpc

/-- The event says what the status says. -/
def RuntimeEvent.Agrees : RuntimeEvent → RuntimeStatus → Prop
  | .exited exit, status => status = .exited exit
  | .failed message, status => status = .failed message
  | .frame _, _ | .stderr _, _ => False

/-- From the first final event on: it is the only one, no frame comes after it, and it
agrees with the status. -/
def TerminatesOnce (events : List RuntimeEvent) (status : RuntimeStatus) : Prop :=
  ∃ last later, events.dropWhile (fun event => !event.isFinal) = last :: later ∧
    last.Agrees status ∧ (∀ event ∈ later, event.isFinal = false) ∧ frames later = []

/-- What a history has published. -/
def published (history : List Event) : List RuntimeEvent := publishedEvents (effects history)

theorem published_cons (e : Event) (history : List Event) :
    published (e :: history) = publishedEvents e.output ++ published history := by
  unfold published effects publishedEvents
  rw [List.flatMap_cons, List.filterMap_append]

namespace RuntimeActor

/-- The reader fails while it is drained. -/
def FailsDrained (actor : RuntimeActor) (input : RuntimeInput) : Prop :=
  ∃ exit answer error, actor.phase = .draining exit answer ∧
    input = .reader (some (.error error))

variable {actor : RuntimeActor} {input : RuntimeInput}

/-! ## The last step -/

theorem terminatesOnce_single {event : RuntimeEvent} {status : RuntimeStatus}
    (h : event.Agrees status) : TerminatesOnce [event] status := by
  have hfinal : event.isFinal = true := by
    cases event with
    | exited exit => rfl
    | failed message => rfl
    | frame frame => cases h
    | stderr text => cases h
  refine ⟨event, [], ?_, h, ?_, rfl⟩
  · rw [List.dropWhile_cons_of_neg (by rw [hfinal]; exact Bool.false_ne_true)]
  · intro later hlater
    cases hlater

/-- Events that are not final can be left out at the start. -/
theorem terminatesOnce_append {earlier events : List RuntimeEvent} {status : RuntimeStatus}
    (h : ∀ event ∈ earlier, event.isFinal = false) :
    TerminatesOnce (earlier ++ events) status ↔ TerminatesOnce events status := by
  unfold TerminatesOnce
  rw [List.dropWhile_append_of_pos]
  intro event hevent
  rw [h event hevent]
  rfl

/-- What the step that ends the task publishes: one event that agrees with the status, or
two. -/
def EndsWith (actor : RuntimeActor) (input : RuntimeInput) (r : List Effect × RuntimeActor) :
    Prop :=
  (∃ event, publishedEvents r.1 = [event] ∧ event.Agrees r.2.status ∧
    ¬ actor.FailsDrained input) ∨
    ∃ error exit, publishedEvents r.1 = [.failed error, .exited exit] ∧ actor.FailsDrained input

theorem endsWith_finishFailure (hno : ¬ actor.FailsDrained input) (other : RuntimeActor)
    (message : String) (answer : Bool) :
    actor.EndsWith input (other.finishFailure message answer) :=
  .inl ⟨.failed message, publishedEvents_finishFailure message answer, rfl, hno⟩

theorem endsWith_finishExit (hno : ¬ actor.FailsDrained input) (exit : RuntimeExit)
    (answer : Bool) : actor.EndsWith input (actor.finishExit exit answer) :=
  .inl ⟨.exited exit, publishedEvents_finishExit exit answer, rfl, hno⟩

/-- **How a task ends**, whichever loop it was in. -/
theorem step_end {r : List Effect × RuntimeActor} (hstep : actor.step input = r)
    (hbefore : actor.phase ≠ .ended) (hafter : r.2.phase = .ended) : actor.EndsWith input r := by
  have hsame : ([], actor) ≠ r := by
    rintro rfl
    exact hbefore hafter
  unfold step at hstep
  split at hstep
  · rename_i hphase
    have hno : ∀ input, ¬ actor.FailsDrained input := by
      rintro input ⟨exit, answer, error, hdraining, -⟩
      cases hphase.symm.trans hdraining
    unfold turn at hstep
    split at hstep
    case h_2 error =>
      subst hstep
      exact endsWith_finishFailure (hno _) actor error false
    case h_3 requestId kind fields write =>
      unfold request at hstep
      dsimp only at hstep
      split at hstep
      · -- it was written
        have hgoesOn : ((actor.submitPrompt requestId kind).insertPending requestId).2.phase =
            actor.phase := by
          unfold insertPending
          split <;> exact submitPrompt_phase ..
        rw [hstep] at hgoesOn
        exact absurd (hgoesOn.symm.trans hafter) hbefore
      · subst hstep
        exact absurd (((failPrompt_phase ..).trans (submitPrompt_phase ..)).symm.trans hafter)
          hbefore
      · subst hstep
        exact .inl ⟨_, publishedEvents_finishFailure _ false, rfl, hno _⟩
    case h_4 requestId =>
      unfold cancel at hstep
      split at hstep
      · subst hstep
        exact absurd hafter hbefore
      · exact absurd hstep hsame
    case h_5 write =>
      unfold send at hstep
      split at hstep
      · subst hstep
        exact absurd hafter hbefore
      · subst hstep
        exact absurd hafter hbefore
      · subst hstep
        exact .inl ⟨_, publishedEvents_finishFailure _ false, rfl, hno _⟩
    case h_8 item =>
      split at hstep
      · exact absurd hstep hsame
      split at hstep
      · rename_i frame
        subst hstep
        exact absurd ((handleFrame_phase actor frame).symm.trans hafter) hbefore
      · subst hstep
        exact endsWith_finishFailure (hno _) actor _ false
      all_goals
        subst hstep
        exact absurd hafter hbefore
    case h_9 => exact absurd hstep hsame
    all_goals
      subst hstep
      cases hafter
  · rename_i answer hphase
    have hno : ∀ input, ¬ actor.FailsDrained input := by
      rintro input ⟨exit, answer, error, hdraining, -⟩
      cases hphase.symm.trans hdraining
    unfold shutdownTurn at hstep
    split at hstep
    case h_2 error =>
      subst hstep
      exact endsWith_finishFailure (hno _) actor error answer
    case h_3 item =>
      split at hstep
      · exact absurd hstep hsame
      split at hstep
      · rename_i frame
        subst hstep
        exact absurd ((handleFrame_phase actor frame).symm.trans hafter) hbefore
      · subst hstep
        exact endsWith_finishFailure (hno _) actor _ answer
      all_goals
        subst hstep
        exact absurd hafter hbefore
    case h_4 | h_5 =>
      subst hstep
      exact endsWith_finishFailure (hno _) actor _ answer
    case h_7 | h_8 => exact absurd hstep hsame
    all_goals
      subst hstep
      cases hafter
  · rename_i exit answer hphase
    unfold drainTurn at hstep
    split at hstep
    · rename_i frame
      subst hstep
      exact absurd ((handleFrame_phase actor frame).symm.trans hafter) hbefore
    · -- the failure, and then the exit
      rename_i error
      subst hstep
      refine .inr ⟨error, exit, ?_, exit, answer, error, hphase, rfl⟩
      exact congrArg (List.cons _) (publishedEvents_finishExit exit answer)
    · subst hstep
      refine endsWith_finishExit ?_ exit answer
      rintro ⟨_, _, _, -, hinput⟩
      cases hinput
    · subst hstep
      refine endsWith_finishExit ?_ exit answer
      rintro ⟨_, _, _, -, hinput⟩
      cases hinput
    · exact absurd hstep hsame
  · rename_i hended
    exact absurd hended hbefore

/-! ## Runs -/

/-- What a task that has ended has still to publish. -/
theorem published_ended (h : actor.phase = .ended) (inputs : List RuntimeInput) :
    published (Mealy.trace step actor inputs) = [] := by
  induction inputs with
  | nil => rfl
  | cons input inputs ih =>
    rw [Mealy.trace, published_cons, Mealy.event, step_after_end h input]
    exact ih

/-- **One terminal event**, in a run that has ended, from whatever state before the end, if
and only if the reader has not failed while it was drained. -/
theorem terminates_once_iff (actor : RuntimeActor) (hstart : actor.phase ≠ .ended)
    (inputs : List RuntimeInput) (hended : (Mealy.run step actor inputs).phase = .ended) :
    TerminatesOnce (published (Mealy.trace step actor inputs))
        (Mealy.run step actor inputs).status ↔
      ∀ e ∈ Mealy.trace step actor inputs, ¬ e.before.FailsDrained e.input := by
  induction inputs generalizing actor with
  | nil => exact absurd hended hstart
  | cons input inputs ih =>
    have hrun : Mealy.run step actor (input :: inputs) =
        Mealy.run step (actor.step input).2 inputs := rfl
    have hoften : published (Mealy.trace step actor (input :: inputs)) =
        publishedEvents (actor.step input).1 ++
          published (Mealy.trace step (actor.step input).2 inputs) := by
      rw [Mealy.trace, published_cons]
      rfl
    rw [hrun] at hended ⊢
    rw [hoften, Mealy.trace, List.forall_mem_cons]
    by_cases hafter : (actor.step input).2.phase = .ended
    · -- this is the last step
      obtain ⟨hsame, hrest⟩ := run_ended hafter inputs
      have hlater : ∀ e ∈ Mealy.trace step (actor.step input).2 inputs,
          ¬ e.before.FailsDrained e.input := by
        rintro e he ⟨exit, answer, error, hdraining, -⟩
        cases (hrest e he).symm.trans hdraining
      rw [published_ended hafter, List.append_nil, hsame]
      rcases step_end rfl hstart hafter with ⟨event, hevent, hagrees, hno⟩ |
        ⟨error, exit, hevents, hfails⟩
      · rw [hevent]
        exact iff_of_true (terminatesOnce_single hagrees) ⟨hno, hlater⟩
      · rw [hevents]
        refine iff_of_false ?_ (fun hall => hall.1 hfails)
        rintro ⟨last, later, hsplit, -, hnone, -⟩
        cases hsplit
        cases hnone (.exited exit) List.mem_cons_self
    · -- the task goes on, and has published frames only
      have hframes : ∀ event ∈ publishedEvents (actor.step input).1, event.isFinal = false := by
        rcases step_publishes hstart input with ⟨-, -, hframes⟩ | ⟨hends, -⟩
        · exact hframes
        · exact absurd hends hafter
      have hno : ¬ actor.FailsDrained input := by
        rintro ⟨exit, answer, error, hphase, rfl⟩
        refine hafter ?_
        unfold step
        rw [hphase]
        rfl
      rw [terminatesOnce_append hframes, ih (actor.step input).2 hafter hended]
      exact ⟨fun hrest => ⟨hno, hrest⟩, fun h => h.2⟩

/-- A task that shuts down, and whose process closes its output in time. -/
theorem terminates_once_shutdown :
    TerminatesOnce
      (published (Mealy.trace step (spawn 1 100) [.message .shutdown, .reader none,
        .childWait (.ok ⟨some 0, true⟩), .reader none]))
      (Mealy.run step (spawn 1 100) [.message .shutdown, .reader none,
        .childWait (.ok ⟨some 0, true⟩), .reader none]).status := by
  refine (terminates_once_iff (spawn 1 100) nofun _ (by decide +kernel)).mpr ?_
  rintro e he ⟨exit, answer, error, -, hinput⟩
  rcases List.mem_cons.mp he with rfl | he
  · cases hinput
  rcases List.mem_cons.mp he with rfl | he
  · cases hinput
  rcases List.mem_cons.mp he with rfl | he
  · cases hinput
  rw [List.mem_singleton.mp he] at hinput
  cases hinput

/-- The process exits in the middle of a chunk sequence. -/
def truncated : List RuntimeInput :=
  [.childWait (.ok ⟨some 0, true⟩),
    .reader (some (.error "OMP stdout ended during an RPC chunk sequence"))]

/-- **Truncated output ends a task twice.** -/
theorem truncated_terminates_twice :
    ¬ TerminatesOnce (published (Mealy.trace step (spawn 1 100) truncated))
        (Mealy.run step (spawn 1 100) truncated).status ∧
      published (Mealy.trace step (spawn 1 100) truncated) =
        [.failed "OMP stdout ended during an RPC chunk sequence", .exited ⟨some 0, true, false⟩] ∧
      (Mealy.run step (spawn 1 100) truncated).status = .exited ⟨some 0, true, false⟩ := by
  have htwice : published (Mealy.trace step (spawn 1 100) truncated) =
      [.failed "OMP stdout ended during an RPC chunk sequence", .exited ⟨some 0, true, false⟩] := by
    decide +kernel
  refine ⟨?_, htwice, by decide +kernel⟩
  rw [htwice]
  rintro ⟨last, later, hsplit, -, hnone, -⟩
  cases hsplit
  exact absurd (hnone (.exited ⟨some 0, true, false⟩) List.mem_cons_self) (by decide)

end RuntimeActor

end OmpRemote.Runtime

import Mathlib.Data.List.Nodup
import Mathlib.Data.List.Perm.Basic
import OmpRemote.Runtime.Actor

/-!
# Correlation of requests and responses

Three loops of the runtime actor touch the table of pending requests. What they
do to it is one conservation law: the requests accepted so far are those pending
and those settled, each as often as accepted.

- `StepEffect`, `step_effect`: what a turn of any of the loops can do.
- `step_conserves`, `conserved`: the law for one turn and for whole runs.
- `requests_correlated`: what follows when request ids are not reused.
-/

namespace OmpRemote.Runtime

open Lib Rpc
open scoped List

/-! ## Accepted and settled requests -/

/-- The request an effect settles: with a result, or by dropping its sender. -/
def Effect.settles : Effect → Option Rpc.RequestId
  | .resolved requestId _ | .dropped requestId => some requestId
  | _ => none

/-- The request a message makes. -/
def RuntimeInput.requestId : RuntimeInput → Option Rpc.RequestId
  | .message (.request requestId _ _ _) => some requestId
  | _ => none

abbrev Event := Mealy.Event RuntimeActor RuntimeInput (List Effect)

namespace RuntimeActor

/-- Only the main loop takes messages. -/
def accepts (actor : RuntimeActor) (input : RuntimeInput) : Option Rpc.RequestId :=
  if actor.phase = .running then input.requestId else none

/-- The frame a step takes from the reader. -/
def takes (actor : RuntimeActor) : RuntimeInput → Option ServerMessage
  | .reader (some (.frame frame)) =>
    match actor.phase with
    | .running | .shuttingDown _ => if actor.readerOpen then some frame else none
    | .draining _ _ => some frame
    | .ended => none
  | _ => none

end RuntimeActor

/-- The requests accepted in a history, oldest first. -/
def acceptedIds (history : List Event) : List Rpc.RequestId :=
  history.filterMap fun e => e.before.accepts e.input

/-- The effects of a history, oldest first. -/
def effects (history : List Event) : List Effect := history.flatMap (·.output)

/-- The requests settled in a history, oldest first. -/
def settledIds (history : List Event) : List Rpc.RequestId :=
  (effects history).filterMap Effect.settles

/-! ## What a turn can do -/

namespace RuntimeActor

variable (actor : RuntimeActor)

/-- What a turn does to the table of pending requests. -/
inductive StepEffect (input : RuntimeInput) : List Effect × RuntimeActor → Prop where
  /-- A frame from the reader is sorted. -/
  | takes (frame : ServerMessage) : actor.takes input = some frame →
      actor.accepts input = none → StepEffect input (actor.handleFrame frame)
  /-- The table is left alone. -/
  | idle (effects : List Effect) (actor' : RuntimeActor) : actor.accepts input = none →
      actor'.pending = actor.pending → (actor'.phase = .ended → actor.phase = .ended) →
      effects.filterMap Effect.settles = [] → StepEffect input (effects, actor')
  /-- A request is written and waits. -/
  | inserts (requestId : Rpc.RequestId) (actor' : RuntimeActor) :
      actor.accepts input = some requestId → actor'.pending = actor.pending →
      actor'.phase = actor.phase → StepEffect input (actor'.insertPending requestId)
  /-- A request is refused. -/
  | refuses (requestId : Rpc.RequestId) (error : RequestError) (actor' : RuntimeActor) :
      actor.accepts input = some requestId → actor'.pending = actor.pending →
      actor'.phase = actor.phase →
      StepEffect input ([.resolved requestId (.error error)], actor')
  | cancels (requestId : Rpc.RequestId) : input = .message (.cancel requestId) →
      actor.accepts input = none → StepEffect input (actor.cancel requestId)
  /-- The task ends: a request just accepted and all that is pending fail. -/
  | ends (r : List Effect × RuntimeActor) : r.2.pending = [] →
      r.1.filterMap Effect.settles = (actor.accepts input).toList ++ actor.pending →
      (∀ requestId response, .resolved requestId (.ok response) ∉ r.1) → StepEffect input r

@[simp] theorem updatePromptStatus_pending (frame : ServerMessage) :
    (actor.updatePromptStatus frame).pending = actor.pending := by
  unfold updatePromptStatus
  split
  · rfl
  split <;> rfl

@[simp] theorem updatePromptStatus_phase (frame : ServerMessage) :
    (actor.updatePromptStatus frame).phase = actor.phase := by
  unfold updatePromptStatus
  split
  · rfl
  split <;> rfl

@[simp] theorem submitPrompt_pending (requestId : Rpc.RequestId) (kind : String) :
    (actor.submitPrompt requestId kind).pending = actor.pending := by
  unfold submitPrompt
  split <;> rfl

@[simp] theorem submitPrompt_phase (requestId : Rpc.RequestId) (kind : String) :
    (actor.submitPrompt requestId kind).phase = actor.phase := by
  unfold submitPrompt
  split <;> rfl

@[simp] theorem failPrompt_pending (requestId : Rpc.RequestId) (error : String) :
    (actor.failPrompt requestId error).pending = actor.pending := by
  unfold failPrompt
  split
  · rfl
  split <;> rfl

@[simp] theorem failPrompt_phase (requestId : Rpc.RequestId) (error : String) :
    (actor.failPrompt requestId error).phase = actor.phase := by
  unfold failPrompt
  split
  · rfl
  split <;> rfl

/-! ### The end of the task -/

/-- `fail_pending` settles everything that is pending. -/
theorem failPending_settles :
    actor.failPending.1.filterMap Effect.settles = actor.pending := by
  show (actor.pending.map _).filterMap Effect.settles = _
  rw [List.filterMap_map]
  exact List.filterMap_some

theorem failPending_no_success (requestId : Rpc.RequestId) (response : Response) :
    .resolved requestId (.ok response) ∉ actor.failPending.1 := by
  intro h
  obtain ⟨_, -, h⟩ := List.mem_map.mp h
  cases h

theorem finishFailure_settles (message : String) (answer : Bool) :
    (actor.finishFailure message answer).1.filterMap Effect.settles = actor.pending := by
  have h := failPending_settles { actor with status := .failed message }
  cases answer <;> simp only [finishFailure, List.filterMap_append, h] <;> rfl

theorem finishFailure_no_success (message : String) (answer : Bool) (requestId : Rpc.RequestId)
    (response : Response) :
    .resolved requestId (.ok response) ∉ (actor.finishFailure message answer).1 := by
  have h := failPending_no_success { actor with status := .failed message } requestId response
  cases answer <;> simpa [finishFailure] using h

theorem finishExit_settles (exit : RuntimeExit) (answer : Bool) :
    (actor.finishExit exit answer).1.filterMap Effect.settles = actor.pending := by
  have h := failPending_settles { actor with status := .exited exit }
  cases answer <;> simp only [finishExit, List.filterMap_append, h] <;> rfl

theorem finishExit_no_success (exit : RuntimeExit) (answer : Bool) (requestId : Rpc.RequestId)
    (response : Response) :
    .resolved requestId (.ok response) ∉ (actor.finishExit exit answer).1 := by
  have h := failPending_no_success { actor with status := .exited exit } requestId response
  cases answer <;> simpa [finishExit] using h

/-! ### The loops -/

variable {actor} {input : RuntimeInput}

/-- A turn that changes nothing. -/
theorem stepEffect_refl (h : actor.accepts input = none) : StepEffect actor input ([], actor) :=
  .idle [] actor h rfl id rfl

theorem finishFailure_effect (h : actor.accepts input = none) (message : String) (answer : Bool) :
    StepEffect actor input (actor.finishFailure message answer) := by
  refine .ends _ rfl ?_ (finishFailure_no_success actor message answer)
  rw [finishFailure_settles, h]
  rfl

/-- The task ends right after another effect. -/
theorem ends_cons {effect : Effect} {effects : List Effect} {actor' : RuntimeActor}
    (hpending : actor'.pending = [])
    (hsettles : effect.settles.toList ++ effects.filterMap Effect.settles =
      (actor.accepts input).toList ++ actor.pending)
    (hfirst : ∀ requestId response, effect ≠ .resolved requestId (.ok response))
    (hrest : ∀ requestId response, .resolved requestId (.ok response) ∉ effects) :
    StepEffect actor input (effect :: effects, actor') := by
  refine .ends _ hpending ?_ fun requestId response hmem => ?_
  · rw [← hsettles]
    cases h : effect.settles with
    | none => exact List.filterMap_cons_none h
    | some requestId => exact List.filterMap_cons_some h
  · rcases List.mem_cons.mp hmem with hmem | hmem
    · exact hfirst requestId response hmem.symm
    · exact hrest requestId response hmem

theorem request_effect {requestId : Rpc.RequestId} (h : actor.accepts input = some requestId)
    (kind : String) (write : Write) :
    StepEffect actor input (actor.request requestId kind write) := by
  unfold request
  dsimp only
  split
  · exact .inserts requestId _ h (submitPrompt_pending ..) (submitPrompt_phase ..)
  · exact .refuses requestId _ _ h ((failPrompt_pending ..).trans (submitPrompt_pending ..))
      ((failPrompt_phase ..).trans (submitPrompt_phase ..))
  · refine ends_cons rfl ?_ nofun
      (finishFailure_no_success _ _ false)
    rw [finishFailure_settles, submitPrompt_pending, h]
    rfl

theorem send_effect (h : actor.accepts input = none) (write : Write) :
    StepEffect actor input (actor.send write) := by
  unfold send
  split
  · exact .idle _ actor h rfl id rfl
  · exact .idle _ actor h rfl id rfl
  · refine ends_cons rfl ?_ nofun (finishFailure_no_success _ _ false)
    rw [h]
    exact finishFailure_settles actor _ false

variable (actor) (input)

/-- **What a turn can do**, whichever loop it belongs to. -/
theorem step_effect : StepEffect actor input (actor.step input) := by
  unfold step
  cases hphase : actor.phase with
  | running =>
    have haccepts : actor.accepts input = input.requestId := by rw [accepts, if_pos hphase]
    show StepEffect actor input (actor.turn input)
    unfold turn
    split
    · exact .idle [] _ haccepts rfl nofun rfl
    · exact finishFailure_effect haccepts _ false
    · exact request_effect haccepts _ _
    · exact .cancels _ rfl haccepts
    · exact send_effect haccepts _
    · exact .idle [] _ haccepts rfl nofun rfl
    · exact .idle [] _ haccepts rfl nofun rfl
    · split
      · exact stepEffect_refl haccepts
      rename_i hopen
      split
      · refine .takes _ ?_ haccepts
        rw [takes, hphase]
        exact if_pos (by simpa using hopen)
      · exact finishFailure_effect haccepts _ false
      · exact .idle [] _ haccepts rfl id rfl
      · exact .idle [] _ haccepts rfl id rfl
    · exact stepEffect_refl haccepts
  | shuttingDown answer =>
    have haccepts : actor.accepts input = none := by
      rw [accepts, if_neg (by rw [hphase]; nofun)]
    show StepEffect actor input (actor.shutdownTurn answer input)
    unfold shutdownTurn
    split
    · exact .idle [] _ haccepts rfl nofun rfl
    · exact finishFailure_effect haccepts _ answer
    · split
      · exact stepEffect_refl haccepts
      rename_i hopen
      split
      · refine .takes _ ?_ haccepts
        rw [takes, hphase]
        exact if_pos (by simpa using hopen)
      · exact finishFailure_effect haccepts _ answer
      · exact .idle [] _ haccepts rfl id rfl
      · exact .idle [] _ haccepts rfl id rfl
    · exact finishFailure_effect haccepts _ answer
    · exact finishFailure_effect haccepts _ answer
    · exact .idle [] _ haccepts rfl nofun rfl
    · exact stepEffect_refl haccepts
    · exact stepEffect_refl haccepts
  | draining exit answer =>
    have haccepts : actor.accepts input = none := by
      rw [accepts, if_neg (by rw [hphase]; nofun)]
    have hexit : StepEffect actor input (actor.finishExit exit answer) := by
      refine .ends _ rfl ?_ (finishExit_no_success actor exit answer)
      rw [finishExit_settles, haccepts]
      rfl
    show StepEffect actor input (actor.drainTurn exit answer input)
    unfold drainTurn
    split
    · refine .takes _ ?_ haccepts
      rw [takes, hphase]
    · refine ends_cons rfl ?_ nofun (finishExit_no_success actor exit answer)
      rw [haccepts]
      exact finishExit_settles actor exit answer
    · exact hexit
    · exact hexit
    · exact stepEffect_refl haccepts
  | ended =>
    refine stepEffect_refl ?_
    rw [accepts, if_neg (by rw [hphase]; nofun)]

/-! ## Frames -/

/-- A response goes to the request pending under its id, or else to the events. -/
theorem handleFrame_response (response : Response) :
    (∃ requestId, response.id = some requestId ∧ requestId ∈ actor.pending ∧
        (actor.handleFrame (.response response)).1 = [.resolved requestId (.ok response)]) ∨
      (∀ requestId, response.id = some requestId → requestId ∉ actor.pending) ∧
        (actor.handleFrame (.response response)).1 = [.event (.frame (.response response))] := by
  have hpending := actor.updatePromptStatus_pending (.response response)
  unfold handleFrame
  dsimp only
  split
  · rename_i requestId hid
    split
    · rename_i hmem
      rw [hpending] at hmem
      exact .inl ⟨requestId, hid, hmem, rfl⟩
    · rename_i hmem
      rw [hpending] at hmem
      refine .inr ⟨fun requestId' hid' => ?_, rfl⟩
      obtain rfl : requestId = requestId' := Option.some.inj (hid.symm.trans hid')
      exact hmem
  · rename_i hid
    refine .inr ⟨fun requestId' hid' => ?_, rfl⟩
    rw [hid] at hid'
    cases hid'

/-- What handling a frame does to the table: it settles at most the request the
frame answers. -/
theorem handleFrame_cases (frame : ServerMessage) :
    (∃ response requestId, frame = .response response ∧ response.id = some requestId ∧
        requestId ∈ actor.pending ∧
        (actor.handleFrame frame).1 = [.resolved requestId (.ok response)] ∧
        (actor.handleFrame frame).2.pending = actor.pending.erase requestId) ∨
      (actor.handleFrame frame).1 = [.event (.frame frame)] ∧
        (actor.handleFrame frame).2.pending = actor.pending := by
  have hpending := actor.updatePromptStatus_pending frame
  unfold handleFrame
  dsimp only
  split
  · rename_i response
    split
    · rename_i requestId hid
      split
      · rename_i hmem
        rw [hpending] at hmem
        exact .inl ⟨response, requestId, rfl, hid, hmem, rfl,
          congrArg (List.erase · requestId) hpending⟩
      · exact .inr ⟨rfl, hpending⟩
    · exact .inr ⟨rfl, hpending⟩
  · exact .inr ⟨rfl, hpending⟩

theorem handleFrame_phase (frame : ServerMessage) :
    (actor.handleFrame frame).2.phase = actor.phase := by
  have hphase := actor.updatePromptStatus_phase frame
  unfold handleFrame
  dsimp only
  split
  · split
    · split <;> exact hphase
    · exact hphase
  · exact hphase

/-! ## Conservation -/

/-- **The conservation law** for one turn: what was pending and what is accepted
is afterwards pending or settled, each request as often as before. -/
theorem step_conserves {r : List Effect × RuntimeActor} (h : StepEffect actor input r) :
    (r.2.pending ++ r.1.filterMap Effect.settles).Perm
      (actor.pending ++ (actor.accepts input).toList) := by
  cases h with
  | takes frame _ haccepts =>
    rw [haccepts]
    rcases handleFrame_cases actor frame with
      ⟨response, requestId, -, -, hmem, heffects, hpending⟩ | ⟨heffects, hpending⟩
    · rw [heffects, hpending]
      show (actor.pending.erase requestId ++ [requestId]).Perm (actor.pending ++ [])
      rw [List.append_nil]
      exact (List.perm_append_singleton _ _).trans (List.perm_cons_erase hmem).symm
    · rw [heffects, hpending]
      exact List.Perm.refl _
  | idle effects actor' haccepts hpending _ hsettles =>
    rw [haccepts, hpending, hsettles]
    exact List.Perm.refl _
  | inserts requestId actor' haccepts hpending _ =>
    rw [haccepts, ← hpending]
    unfold insertPending
    split
    · exact List.Perm.refl _
    · show (requestId :: actor'.pending ++ []).Perm (actor'.pending ++ [requestId])
      rw [List.append_nil]
      exact (List.perm_append_singleton _ _).symm
  | refuses requestId error actor' haccepts hpending _ =>
    rw [haccepts, ← hpending]
    exact List.Perm.refl _
  | cancels requestId _ haccepts =>
    rw [haccepts]
    unfold cancel
    split
    · rename_i hmem
      show (actor.pending.erase requestId ++ [requestId]).Perm (actor.pending ++ [])
      rw [List.append_nil]
      exact (List.perm_append_singleton _ _).trans (List.perm_cons_erase hmem).symm
    · exact List.Perm.refl _
  | ends _ hpending hsettles _ =>
    rw [hpending, hsettles, List.nil_append]
    exact List.perm_append_comm

/-- A task that has ended has nothing pending. -/
theorem step_ended {r : List Effect × RuntimeActor} (h : StepEffect actor input r)
    (hactor : actor.phase = .ended → actor.pending = []) :
    r.2.phase = .ended → r.2.pending = [] := by
  intro hended
  cases h with
  | takes frame htakes _ =>
    -- a task that has ended takes no frames
    rw [handleFrame_phase] at hended
    unfold takes at htakes
    rw [hended] at htakes
    split at htakes <;> cases htakes
  | idle effects actor' _ hpending hphase _ => exact hpending.trans (hactor (hphase hended))
  | inserts requestId actor' haccepts _ hphase =>
    have hrunning : actor.phase = .running := by
      by_contra hno
      rw [accepts, if_neg hno] at haccepts
      cases haccepts
    unfold insertPending at hended
    split at hended <;> exact absurd (hended.symm.trans (hphase.trans hrunning)) nofun
  | refuses requestId error actor' haccepts _ hphase =>
    have hrunning : actor.phase = .running := by
      by_contra hno
      rw [accepts, if_neg hno] at haccepts
      cases haccepts
    exact absurd (hended.symm.trans (hphase.trans hrunning)) nofun
  | cancels requestId _ _ =>
    unfold cancel at hended ⊢
    split at hended
    · rename_i hmem
      rw [hactor hended] at hmem
      cases hmem
    · rename_i hmem
      rw [if_neg hmem]
      exact hactor hended
  | ends _ hpending _ _ => exact hpending

/-- A request is resolved successfully by the response taken, under its own id. -/
theorem step_success {r : List Effect × RuntimeActor} (h : StepEffect actor input r)
    {requestId : Rpc.RequestId} {response : Response}
    (hmem : .resolved requestId (.ok response) ∈ r.1) :
    actor.takes input = some (.response response) ∧ response.id = some requestId := by
  cases h with
  | takes frame htakes _ =>
    rcases handleFrame_cases actor frame with
      ⟨response', requestId', rfl, hid, -, heffects, -⟩ | ⟨heffects, -⟩
    · rw [heffects, List.mem_singleton] at hmem
      cases hmem
      exact ⟨htakes, hid⟩
    · rw [heffects, List.mem_singleton] at hmem
      cases hmem
  | idle effects actor' _ _ _ hsettles =>
    have hsome : requestId ∈ effects.filterMap Effect.settles :=
      List.mem_filterMap.mpr ⟨_, hmem, rfl⟩
    rw [hsettles] at hsome
    cases hsome
  | inserts requestId' actor' _ _ _ =>
    unfold insertPending at hmem
    split at hmem
    · cases List.mem_singleton.mp hmem
    · cases hmem
  | refuses requestId' error actor' _ _ _ => cases List.mem_singleton.mp hmem
  | cancels requestId' _ _ =>
    unfold cancel at hmem
    split at hmem
    · cases List.mem_singleton.mp hmem
    · cases hmem
  | ends _ _ _ hno => exact absurd hmem (hno requestId response)

/-- A frame that a step takes is handled by `handle_frame`, whatever the loop. -/
theorem step_takes {frame : ServerMessage} (h : actor.takes input = some frame) :
    actor.step input = actor.handleFrame frame := by
  unfold takes at h
  split at h
  · unfold step
    split at h
    · rename_i hphase
      split at h
      · rename_i hopen
        cases h
        simp only [hphase, turn, hopen, Bool.not_true, Bool.false_eq_true, if_false]
      · cases h
    · rename_i answer hphase
      split at h
      · rename_i hopen
        cases h
        simp only [hphase, shutdownTurn, hopen, Bool.not_true, Bool.false_eq_true, if_false]
      · cases h
    · rename_i exit answer hphase
      cases h
      simp only [hphase, drainTurn]
    · cases h
  · cases h

/-! ## Whole runs -/

/-- The law and the end, related to the steps so far. -/
structure Accounts (history : List Event) (actor : RuntimeActor) : Prop where
  conserved : (actor.pending ++ settledIds history).Perm (acceptedIds history)
  ended : actor.phase = .ended → actor.pending = []

theorem accounts_spawn (processId : UInt32) (maxFrameBytes : Nat) :
    Accounts [] (spawn processId maxFrameBytes) := ⟨List.Perm.refl _, nofun⟩

theorem accounts_step {history : List Event} (h : Accounts history actor) :
    Accounts (history ++ [Mealy.event step actor input]) (actor.step input).2 := by
  have heffect := step_effect actor input
  refine ⟨?_, step_ended actor input heffect h.ended⟩
  have hsettled : settledIds (history ++ [Mealy.event step actor input]) =
      settledIds history ++ (actor.step input).1.filterMap Effect.settles := by
    simp [settledIds, effects, Mealy.event]
  have haccepted : acceptedIds (history ++ [Mealy.event step actor input]) =
      acceptedIds history ++ (actor.accepts input).toList := by
    rw [acceptedIds, List.filterMap_append, acceptedIds]
    show _ ++ [_].filterMap _ = _
    congr 1
  rw [hsettled, haccepted]
  -- what is pending moves past what was settled before, twice
  refine List.Perm.trans ?_ (h.conserved.append_right _)
  have hturn := step_conserves actor input heffect
  calc (actor.step input).2.pending ++
        (settledIds history ++ (actor.step input).1.filterMap Effect.settles)
      _ ~ (actor.step input).2.pending ++
        ((actor.step input).1.filterMap Effect.settles ++ settledIds history) :=
        List.perm_append_comm.append_left _
      _ ~ actor.pending ++ (actor.accepts input).toList ++ settledIds history := by
        rw [← List.append_assoc]
        exact hturn.append_right _
      _ ~ actor.pending ++ settledIds history ++ (actor.accepts input).toList := by
        rw [List.append_assoc, List.append_assoc]
        exact List.perm_append_comm.append_left _

/-- Requests are accepted in the order of the messages, some of which come too
late. -/
theorem acceptedIds_sublist (actor : RuntimeActor) (inputs : List RuntimeInput) :
    (acceptedIds (Mealy.trace step actor inputs)).Sublist
      (inputs.filterMap RuntimeInput.requestId) := by
  induction inputs generalizing actor with
  | nil => exact List.Sublist.refl _
  | cons input inputs ih =>
    have hrest := ih (actor.step input).2
    have htrace : acceptedIds (Mealy.trace step actor (input :: inputs)) =
        (actor.accepts input).toList ++
          acceptedIds (Mealy.trace step (actor.step input).2 inputs) := by
      rw [Mealy.trace, acceptedIds, List.filterMap_cons, Mealy.event]
      dsimp only
      cases actor.accepts input <;> rfl
    have hinputs : (input :: inputs).filterMap RuntimeInput.requestId =
        input.requestId.toList ++ inputs.filterMap RuntimeInput.requestId := by
      rw [List.filterMap_cons]
      cases input.requestId <;> rfl
    rw [htrace, hinputs]
    refine List.Sublist.append ?_ hrest
    unfold accepts
    split
    · exact List.Sublist.refl _
    · exact List.nil_sublist _

/-- The step processes the cancellation of the request. -/
def Cancels (requestId : Rpc.RequestId) (e : Event) : Prop :=
  e.before.phase = .running ∧ e.input = .message (.cancel requestId)

/-- After its cancellation an accepted request is settled. -/
theorem cancelled_settled {history : List Event} {e : Event} {requestId : Rpc.RequestId}
    (haccounts : Accounts history e.before) (he : e = Mealy.event step e.before e.input)
    (hcancels : Cancels requestId e) (haccepted : requestId ∈ acceptedIds history) :
    requestId ∈ settledIds (history ++ [e]) := by
  have hsettled : settledIds (history ++ [e]) =
      settledIds history ++ e.output.filterMap Effect.settles := by
    simp [settledIds, effects]
  rw [hsettled]
  rcases List.mem_append.mp (haccounts.conserved.mem_iff.mpr haccepted) with hpending | hdone
  · obtain ⟨hphase, hinput⟩ := hcancels
    have houtput : e.output = [.dropped requestId] := by
      rw [he, hinput]
      simp only [Mealy.event, step, hphase, turn, cancel, if_pos hpending]
    rw [houtput]
    exact List.mem_append_right _ (List.mem_singleton_self requestId)
  · exact List.mem_append_left _ hdone

/-- **Requests and responses are correlated.**

In every run of the runtime actor in which no request id is used twice: a request
is settled at most once; what is pending is what is accepted and not settled; a
request is resolved successfully only by a response taken from the reader under
exactly its id; a response taken goes either to the request pending under its id
or to the event stream, and to nothing else; after its cancellation a request's
response goes to the event stream; and when the task has ended, every request it
accepted is settled. -/
theorem requests_correlated (processId : UInt32) (maxFrameBytes : Nat)
    (inputs : List RuntimeInput) (hunique : (inputs.filterMap RuntimeInput.requestId).Nodup) :
    let history := Mealy.trace step (spawn processId maxFrameBytes) inputs
    (∀ requestId, (settledIds history).count requestId ≤ 1) ∧
    (∀ (pre : List Event) (e : Event) post, history = pre ++ e :: post →
      (∀ requestId, requestId ∈ e.before.pending ↔
        requestId ∈ acceptedIds pre ∧ requestId ∉ settledIds pre) ∧
      (∀ requestId response, .resolved requestId (.ok response) ∈ e.output →
        e.before.takes e.input = some (.response response) ∧ response.id = some requestId) ∧
      (∀ response, e.before.takes e.input = some (.response response) →
        (∃ requestId, response.id = some requestId ∧ requestId ∈ e.before.pending ∧
            e.output = [.resolved requestId (.ok response)]) ∨
          (∀ requestId, response.id = some requestId → requestId ∉ e.before.pending) ∧
            e.output = [.event (.frame (.response response))]) ∧
      ∀ before (cancel : Event) between requestId response,
        pre = before ++ cancel :: between → requestId ∈ acceptedIds before →
        Cancels requestId cancel → e.before.takes e.input = some (.response response) →
        response.id = some requestId → e.output = [.event (.frame (.response response))]) ∧
    ((Mealy.run step (spawn processId maxFrameBytes) inputs).phase = .ended →
      ∀ requestId ∈ acceptedIds history, requestId ∈ settledIds history) := by
  intro history
  have haccounts : Accounts history (Mealy.run step (spawn processId maxFrameBytes) inputs) :=
    Mealy.history_invariant (accounts_spawn processId maxFrameBytes)
      (fun _ _ _ h => accounts_step _ _ h) inputs
  have hat : ∀ pre e post, history = pre ++ e :: post →
      Accounts pre e.before ∧ e = Mealy.event step e.before e.input :=
    fun pre e post hsplit => Mealy.history_at (accounts_spawn processId maxFrameBytes)
      (fun _ _ _ h => accounts_step _ _ h) hsplit
  have hnodup : (acceptedIds history).Nodup := hunique.sublist (acceptedIds_sublist _ inputs)
  refine ⟨fun requestId => ?_, fun pre e post hsplit => ?_, fun hended requestId hmem => ?_⟩
  · have hall := haccounts.conserved.nodup_iff.mpr hnodup
    exact List.nodup_iff_count_le_one.mp (List.nodup_append.mp hall).2.1 requestId
  · obtain ⟨hpre, he⟩ := hat pre e post hsplit
    have hprefix : (acceptedIds pre).Nodup := by
      refine hnodup.sublist ?_
      rw [hsplit, acceptedIds, acceptedIds, List.filterMap_append]
      exact List.sublist_append_left _ _
    have hpending : ∀ requestId, requestId ∈ e.before.pending ↔
        requestId ∈ acceptedIds pre ∧ requestId ∉ settledIds pre := by
      intro requestId
      have hall := List.nodup_append.mp (hpre.conserved.nodup_iff.mpr hprefix)
      rw [← hpre.conserved.mem_iff, List.mem_append]
      constructor
      · exact fun h => ⟨.inl h, fun hsettled => hall.2.2 _ h _ hsettled rfl⟩
      · rintro ⟨h | h, hno⟩
        · exact h
        · exact absurd h hno
    have houtput : ∀ response, e.before.takes e.input = some (.response response) →
        e.output = (e.before.handleFrame (.response response)).1 := by
      intro response htakes
      rw [← step_takes e.before e.input htakes]
      exact congrArg (·.output) he
    have hresponse : ∀ response, e.before.takes e.input = some (.response response) →
        (∃ requestId, response.id = some requestId ∧ requestId ∈ e.before.pending ∧
            e.output = [.resolved requestId (.ok response)]) ∨
          (∀ requestId, response.id = some requestId → requestId ∉ e.before.pending) ∧
            e.output = [.event (.frame (.response response))] := by
      intro response htakes
      rw [houtput response htakes]
      exact handleFrame_response e.before response
    refine ⟨hpending, fun requestId response hmem => ?_, hresponse, ?_⟩
    · rw [he] at hmem
      exact step_success e.before e.input (step_effect e.before e.input) hmem
    · intro before cancel between requestId response hsplit' haccepted hcancels htakes hid
      rcases hresponse response htakes with ⟨requestId', hid', hmem, -⟩ | ⟨-, hevent⟩
      · -- a cancelled request is settled, so it is not pending
        obtain rfl : requestId = requestId' := Option.some.inj (hid.symm.trans hid')
        refine absurd ?_ ((hpending requestId).mp hmem).2
        have hcancelled := hat before cancel (between ++ e :: post)
          (by rw [hsplit, hsplit', List.append_assoc]; rfl)
        have hsettled := cancelled_settled hcancelled.1 hcancelled.2 hcancels haccepted
        have hpre : settledIds pre = settledIds (before ++ [cancel]) ++ settledIds between := by
          rw [hsplit']
          simp [settledIds, effects]
        rw [hpre]
        exact List.mem_append_left _ hsettled
      · exact hevent
  · have hpending := haccounts.ended hended
    have hconserved := haccounts.conserved
    rw [hpending, List.nil_append] at hconserved
    exact hconserved.mem_iff.mpr hmem

/-- A request that is written, answered and drained. -/
theorem requests_correlated_answered :
    ((Mealy.run step (spawn 1 100)
      [.message (.request ⟨"omp-runtime-1"⟩ "get_state" "" ⟨.ok 10, .ok ()⟩),
        .reader (some (.frame (.response (.success (some ⟨"omp-runtime-1"⟩) .negotiateProtocol)))),
        .childWait (.ok ⟨some 0, true⟩), .reader none]).phase = .ended) ∧
    ∀ requestId, (settledIds (Mealy.trace step (spawn 1 100)
      [.message (.request ⟨"omp-runtime-1"⟩ "get_state" "" ⟨.ok 10, .ok ()⟩),
        .reader (some (.frame (.response (.success (some ⟨"omp-runtime-1"⟩) .negotiateProtocol)))),
        .childWait (.ok ⟨some 0, true⟩), .reader none])).count requestId ≤ 1 :=
  ⟨by decide, (requests_correlated 1 100 _ (by decide)).1⟩

end RuntimeActor

end OmpRemote.Runtime

import OmpRemote.Runtime.Correlation

/-!
# The phase of a prompt

A runtime publishes how far its last prompt has come. Four kinds of frames move the phase,
each on its own, and so do requests: a prompt command starts over, and a command that is
too large fails the prompt that has its id.

- `step_prompt`: what a step does to the prompt status.
- `Disturbs`: a frame, or a request that reuses its id, overrules a prompt that is over.
- `sticky_iff`: a prompt that is over stays as it is until another one is submitted, if and
  only if no step disturbs it.
- `LeavesOpen`, `closed_iff`: nothing closes a prompt when the task ends.
-/

namespace OmpRemote.Runtime

open Lib Rpc

/-- The prompt is over. -/
def PromptPhase.isTerminal : PromptPhase → Bool
  | .completed _ | .failed _ => true
  | .submitted | .running => false

namespace PromptStatus

/-- The status after a frame. -/
def after (current : PromptStatus) (frame : ServerMessage) : PromptStatus :=
  match RuntimeActor.nextPromptPhase current frame with
  | none => current
  | some phase => ⟨current.requestId, phase⟩

/-- The frame says of the prompt what is not its phase, and is not held back by it. -/
def ContradictedBy (current : PromptStatus) : ServerMessage → Prop
  | .response (.error (some id) _ error _) =>
    id = current.requestId ∧ current.phase ≠ .failed error
  | .response (.success (some id) (.prompt (some acknowledgement))) =>
    id = current.requestId ∧ acknowledgement.agentInvoked = false ∧
      current.phase ≠ .completed .local
  | .sideChannel (.promptResult (some id) agentInvoked) =>
    id = current.requestId ∧ (agentInvoked = true ∨ current.phase ≠ .completed .local)
  | _ => False

variable {current : PromptStatus} {frame : ServerMessage}

theorem after_of_none (h : RuntimeActor.nextPromptPhase current frame = none) :
    current.after frame = current := by
  unfold after
  rw [h]

theorem after_of_some (phase : PromptPhase)
    (h : RuntimeActor.nextPromptPhase current frame = some phase) :
    current.after frame = current ↔ current.phase = phase := by
  unfold after
  rw [h]
  constructor
  · intro hsame
    exact (congrArg PromptStatus.phase hsame).symm
  · rintro rfl
    rfl

/-- **Frames and prompts that are over**: the frames that contradict the phase, and no
others, change it. -/
theorem after_eq_iff (hover : current.phase.isTerminal = true) (frame : ServerMessage) :
    current.after frame = current ↔ ¬ current.ContradictedBy frame := by
  have hsubmitted : current.phase ≠ .submitted := by
    intro hphase
    rw [hphase] at hover
    cases hover
  have hrunning : current.phase ≠ .running := by
    intro hphase
    rw [hphase] at hover
    cases hover
  unfold ContradictedBy
  split
  · -- an error
    rename_i id command error code
    by_cases hid : id = current.requestId
    · rw [after_of_some (.failed error) (by simp only [RuntimeActor.nextPromptPhase, hid,
        if_true])]
      simp only [hid, true_and, not_not]
    · rw [after_of_none (by simp only [RuntimeActor.nextPromptPhase, if_neg hid])]
      simp only [hid, false_and, not_false_eq_true]
  · -- an acknowledgement
    rename_i id acknowledgement
    by_cases hid : id = current.requestId
    · cases hinvoked : acknowledgement.agentInvoked with
      | false =>
        rw [after_of_some (.completed .local) (by
          simp [RuntimeActor.nextPromptPhase, hid, hinvoked])]
        simp only [hid, true_and, not_not]
      | true =>
        rw [after_of_none (by simp [RuntimeActor.nextPromptPhase, hinvoked, hsubmitted])]
        simp
    · rw [after_of_none (by simp [RuntimeActor.nextPromptPhase, hid])]
      simp only [hid, false_and, not_false_eq_true]
  · -- a late result
    rename_i id agentInvoked
    by_cases hid : id = current.requestId
    · cases agentInvoked with
      | false =>
        rw [after_of_some (.completed .local) (by
          simp [RuntimeActor.nextPromptPhase, hid])]
        simp [hid]
      | true =>
        rw [after_of_some .running (by simp [RuntimeActor.nextPromptPhase, hid])]
        simp [hid, hrunning]
    · rw [after_of_none (by simp [RuntimeActor.nextPromptPhase, hid])]
      simp only [hid, false_and, not_false_eq_true]
  · -- the others look at the phase first
    rename_i hno_error hno_acknowledgement hno_result
    refine ⟨fun _ => id, fun _ => after_of_none ?_⟩
    unfold RuntimeActor.nextPromptPhase
    split
    · exact absurd rfl (hno_error _ _ _ _)
    · exact absurd rfl (hno_acknowledgement _ _)
    · exact absurd rfl (hno_result _ _)
    · exact if_neg hsubmitted
    · exact if_neg fun hopen => hopen.elim hsubmitted hrunning
    · rfl

end PromptStatus

namespace RuntimeActor

/-- The main loop takes a prompt command with this id. -/
def Submits (actor : RuntimeActor) (input : RuntimeInput) (requestId : Rpc.RequestId) : Prop :=
  actor.phase = .running ∧ ∃ kind fields write,
    input = .message (.request requestId kind fields write) ∧ isPromptCommand kind = true

/-- The main loop takes a request with the prompt's own id, and makes of the prompt what it
was not: a new one, or one that is too large. -/
def Reuses (actor : RuntimeActor) (current : PromptStatus) (input : RuntimeInput) : Prop :=
  actor.phase = .running ∧ ∃ kind fields write,
    input = .message (.request current.requestId kind fields write) ∧
    match writeMessage write actor.maxFrameBytes with
    | .error (.frameTooLarge bytes limit) =>
      current.phase ≠ .failed (RequestError.frameTooLarge bytes limit).message
    | .ok () | .error _ => isPromptCommand kind = true

/-- A prompt is over, and the step overrules it. -/
def Disturbs (actor : RuntimeActor) (input : RuntimeInput) : Prop :=
  ∃ current, actor.prompt = some current ∧ current.phase.isTerminal = true ∧
    ((∃ frame, actor.takes input = some frame ∧ current.ContradictedBy frame) ∨
      actor.Reuses current input)

/-- A prompt is not over, or one is just submitted. -/
def LeavesOpen (actor : RuntimeActor) (input : RuntimeInput) : Prop :=
  (∃ current, actor.prompt = some current ∧ current.phase.isTerminal = false) ∨
    ∃ requestId, actor.Submits input requestId

/-- There is no prompt that is not over. -/
def Closed (actor : RuntimeActor) : Prop :=
  ∀ current, actor.prompt = some current → current.phase.isTerminal = true

variable {actor : RuntimeActor} {input : RuntimeInput} {current : PromptStatus}
  {requestId : Rpc.RequestId} {kind : String} {write : Write}

/-! ## What a step does to the prompt -/

theorem handleFrame_prompt (actor : RuntimeActor) (frame : ServerMessage) :
    (actor.handleFrame frame).2.prompt = actor.prompt.map (·.after frame) := by
  have hupdated : (actor.updatePromptStatus frame).prompt = actor.prompt.map (·.after frame) := by
    unfold updatePromptStatus PromptStatus.after
    cases hprompt : actor.prompt with
    | none => exact hprompt
    | some current =>
      dsimp only [Option.map_some]
      cases hnext : nextPromptPhase current frame with
      | none => exact hprompt
      | some phase => rfl
  unfold handleFrame
  dsimp only
  split
  · split
    · split <;> exact hupdated
    · exact hupdated
  · exact hupdated

theorem submitPrompt_maxFrameBytes (actor : RuntimeActor) (requestId : Rpc.RequestId)
    (kind : String) : (actor.submitPrompt requestId kind).maxFrameBytes = actor.maxFrameBytes := by
  unfold submitPrompt
  split <;> rfl

theorem submitPrompt_prompt (actor : RuntimeActor) (requestId : Rpc.RequestId) (kind : String) :
    (actor.submitPrompt requestId kind).prompt =
      if isPromptCommand kind then some ⟨requestId, .submitted⟩ else actor.prompt := by
  unfold submitPrompt
  split <;> rfl

theorem failPrompt_prompt (actor : RuntimeActor) (requestId : Rpc.RequestId) (error : String) :
    (actor.failPrompt requestId error).prompt = actor.prompt.map fun current =>
      if current.requestId = requestId then ⟨current.requestId, .failed error⟩ else current := by
  unfold failPrompt
  cases hprompt : actor.prompt with
  | none => exact hprompt
  | some current =>
    dsimp only [Option.map_some]
    split
    · rfl
    · exact hprompt

/-- A request that is not too large submits its prompt, whatever becomes of it. -/
theorem request_prompt
    (hfits : ∀ bytes limit, writeMessage write actor.maxFrameBytes ≠
      .error (.frameTooLarge bytes limit)) :
    (actor.request requestId kind write).2.prompt =
      if isPromptCommand kind then some ⟨requestId, .submitted⟩ else actor.prompt := by
  rw [← submitPrompt_prompt]
  unfold request
  dsimp only
  rw [submitPrompt_maxFrameBytes]
  split
  · unfold insertPending
    split <;> rfl
  · rename_i bytes limit hlarge
    exact absurd hlarge (hfits bytes limit)
  · rfl

/-- One that is too large fails the prompt with its id, which it may just have submitted. -/
theorem request_large {bytes limit : Nat}
    (hlarge : writeMessage write actor.maxFrameBytes = .error (.frameTooLarge bytes limit)) :
    (actor.request requestId kind write).2.phase = actor.phase ∧
    (actor.request requestId kind write).2.prompt =
      (if isPromptCommand kind then some ⟨requestId, .submitted⟩ else actor.prompt).map
        fun current => if current.requestId = requestId then
          ⟨current.requestId, .failed (RequestError.frameTooLarge bytes limit).message⟩
        else current := by
  rw [← submitPrompt_prompt]
  unfold request
  dsimp only
  rw [submitPrompt_maxFrameBytes, hlarge]
  exact ⟨(failPrompt_phase ..).trans (submitPrompt_phase ..), failPrompt_prompt ..⟩

/-- **What a step does to the prompt**: a frame moves it, a request may submit or fail it,
and nothing else touches it. -/
inductive PromptEffect (actor : RuntimeActor) (input : RuntimeInput) : RuntimeActor → Prop where
  | takes (frame : ServerMessage) : actor.takes input = some frame →
    PromptEffect actor input (actor.handleFrame frame).2
  | requests (requestId : Rpc.RequestId) (kind : String) (fields : Json) (write : Write) :
    actor.phase = .running → input = .message (.request requestId kind fields write) →
    PromptEffect actor input (actor.request requestId kind write).2
  | kept (actor' : RuntimeActor) : actor.takes input = none →
    (∀ requestId kind fields write, actor.phase = .running →
      input ≠ .message (.request requestId kind fields write)) →
    actor'.prompt = actor.prompt → PromptEffect actor input actor'

/-- A frame is handled by `handle_frame`; everything else is seen by its message. -/
theorem step_prompt (actor : RuntimeActor) (input : RuntimeInput) :
    PromptEffect actor input (actor.step input).2 := by
  cases htakes : actor.takes input with
  | some frame =>
    rw [step_takes actor input htakes]
    exact .takes frame htakes
  | none =>
    unfold step
    split
    · rename_i hphase
      unfold turn
      split
      case h_3 requestId kind fields write => exact .requests requestId kind fields write hphase rfl
      case h_4 requestId =>
        refine .kept _ htakes (by rintro _ _ _ _ - ⟨⟩) ?_
        unfold cancel
        split <;> rfl
      case h_5 write =>
        refine .kept _ htakes (by rintro _ _ _ _ - ⟨⟩) ?_
        unfold send
        split <;> rfl
      case h_8 item =>
        split
        · exact .kept _ htakes (by rintro _ _ _ _ - ⟨⟩) rfl
        rename_i hopen
        split
        · rename_i frame
          -- an open reader's frame is taken
          simp only [RuntimeActor.takes, hphase] at htakes
          rw [if_pos (by simpa using hopen)] at htakes
          cases htakes
        all_goals exact .kept _ htakes (by rintro _ _ _ _ - ⟨⟩) rfl
      all_goals exact .kept _ htakes (by rintro _ _ _ _ - ⟨⟩) rfl
    · rename_i answer hphase
      have hnot : ∀ requestId kind fields write, actor.phase = .running →
          input ≠ .message (.request requestId kind fields write) := by
        intro _ _ _ _ hrunning
        rw [hphase] at hrunning
        cases hrunning
      refine .kept _ htakes hnot ?_
      unfold shutdownTurn
      split
      case h_3 item =>
        split
        · rfl
        rename_i hopen
        split
        · rename_i frame
          simp only [RuntimeActor.takes, hphase] at htakes
          rw [if_pos (by simpa using hopen)] at htakes
          cases htakes
        all_goals rfl
      all_goals rfl
    · rename_i exit answer hphase
      have hnot : ∀ requestId kind fields write, actor.phase = .running →
          input ≠ .message (.request requestId kind fields write) := by
        intro _ _ _ _ hrunning
        rw [hphase] at hrunning
        cases hrunning
      refine .kept _ htakes hnot ?_
      unfold drainTurn
      split
      · rename_i frame
        simp only [RuntimeActor.takes, hphase] at htakes
        cases htakes
      all_goals rfl
    · rename_i hphase
      refine .kept _ htakes ?_ rfl
      intro _ _ _ _ hrunning
      rw [hphase] at hrunning
      cases hrunning

/-- A request with the prompt's own id. -/
theorem request_own (hprompt : actor.prompt = some current) (kind : String) (write : Write) :
    (actor.request current.requestId kind write).2.prompt = some
      (match writeMessage write actor.maxFrameBytes with
        | .error (.frameTooLarge bytes limit) =>
          ⟨current.requestId, .failed (RequestError.frameTooLarge bytes limit).message⟩
        | .ok () | .error _ =>
          if isPromptCommand kind then ⟨current.requestId, .submitted⟩ else current) := by
  split
  · rename_i bytes limit hlarge
    rw [(request_large hlarge).2, hprompt]
    split
    · rw [Option.map_some, if_pos rfl]
    · rw [Option.map_some, if_pos rfl]
  · rename_i hwritten
    rw [request_prompt (by rw [hwritten]; nofun), hprompt]
    split <;> rfl
  · rename_i error hother hfails
    rw [request_prompt, hprompt]
    · split <;> rfl
    · intro bytes limit hlarge
      rw [hfails] at hlarge
      cases hlarge
      exact hother bytes limit rfl

/-- It changes a prompt that is over if and only if it reuses the id. -/
theorem reuses_iff (hprompt : actor.prompt = some current)
    (hover : current.phase.isTerminal = true) (hphase : actor.phase = .running) (kind : String)
    (fields : Json) (write : Write) :
    actor.Reuses current (.message (.request current.requestId kind fields write)) ↔
      (actor.request current.requestId kind write).2.prompt ≠ some current := by
  have hsubmitted : (⟨current.requestId, .submitted⟩ : PromptStatus) ≠ current := by
    intro hsame
    rw [← hsame] at hover
    cases hover
  have hfailed : ∀ error, (⟨current.requestId, .failed error⟩ : PromptStatus) ≠ current ↔
      current.phase ≠ .failed error := by
    intro error
    refine not_congr ⟨fun hsame => (congrArg PromptStatus.phase hsame).symm, ?_⟩
    intro hphase
    rw [← hphase]
  have hkind : (if isPromptCommand kind then (⟨current.requestId, .submitted⟩ : PromptStatus)
      else current) ≠ current ↔ isPromptCommand kind = true := by
    split
    · rename_i hprompts
      exact iff_of_true hsubmitted hprompts
    · rename_i hno
      exact iff_of_false (fun hne => hne rfl) hno
  rw [request_own hprompt, Ne, Option.some_inj]
  constructor
  · rintro ⟨-, kind', fields', write', hinput, hreuses⟩
    cases hinput
    split at hreuses
    · exact (hfailed _).mpr hreuses
    all_goals exact hkind.mpr hreuses
  · intro hchanges
    refine ⟨hphase, kind, fields, write, rfl, ?_⟩
    split at hchanges
    · exact (hfailed _).mp hchanges
    all_goals exact hkind.mp hchanges

/-! ## Sticky -/

/-- **One step** and a prompt that is over: it stays as it is, another is submitted, or the
step disturbs it. -/
theorem sticky_step (hprompt : actor.prompt = some current)
    (hover : current.phase.isTerminal = true) (input : RuntimeInput) :
    (actor.step input).2.prompt = some current ∨
      (∃ other, other ≠ current.requestId ∧ actor.Submits input other) ∨ actor.Disturbs input := by
  have heffect := step_prompt actor input
  generalize (actor.step input).2 = after at heffect
  cases heffect with
  | takes frame htakes =>
    by_cases hcontradicted : current.ContradictedBy frame
    · exact .inr (.inr ⟨current, hprompt, hover, .inl ⟨frame, htakes, hcontradicted⟩⟩)
    · refine .inl ?_
      rw [handleFrame_prompt, hprompt, Option.map_some,
        (PromptStatus.after_eq_iff hover frame).mpr hcontradicted]
  | kept after _ _ hkept => exact .inl (hkept.trans hprompt)
  | requests requestId kind fields write hphase hinput =>
    by_cases hown : requestId = current.requestId
    · subst hown hinput
      by_cases hreuses : actor.Reuses current
        (.message (.request current.requestId kind fields write))
      · exact .inr (.inr ⟨current, hprompt, hover, .inr hreuses⟩)
      · refine .inl ?_
        rw [reuses_iff hprompt hover hphase, not_not] at hreuses
        exact hreuses
    · -- another id: a new prompt, or nothing to do with this one
      cases hkind : isPromptCommand kind with
      | true => exact .inr (.inl ⟨requestId, hown, hphase, kind, fields, write, hinput, hkind⟩)
      | false =>
        refine .inl ?_
        by_cases hlarge : ∃ bytes limit,
            writeMessage write actor.maxFrameBytes = .error (.frameTooLarge bytes limit)
        · obtain ⟨bytes, limit, hlarge⟩ := hlarge
          rw [(request_large hlarge).2, hkind, if_neg Bool.false_ne_true, hprompt, Option.map_some,
            if_neg (Ne.symm hown)]
        · rw [request_prompt (fun bytes limit hfails => hlarge ⟨bytes, limit, hfails⟩), hkind,
            if_neg Bool.false_ne_true, hprompt]

/-- A step that disturbs a prompt changes it, and submits no other. -/
theorem disturbed (h : actor.Disturbs input) :
    ∃ current, actor.prompt = some current ∧ current.phase.isTerminal = true ∧
      (actor.step input).2.prompt ≠ some current ∧
        ∀ other, other ≠ current.requestId → ¬ actor.Submits input other := by
  obtain ⟨current, hprompt, hover, ⟨frame, htakes, hcontradicted⟩ | hreuses⟩ := h
  · refine ⟨current, hprompt, hover, ?_, ?_⟩
    · rw [step_takes actor input htakes, handleFrame_prompt, hprompt, Option.map_some]
      intro hsame
      exact (PromptStatus.after_eq_iff hover frame).mp (Option.some.inj hsame) hcontradicted
    · rintro other - ⟨-, kind, fields, write, rfl, -⟩
      cases htakes
  · have hrequest := hreuses
    obtain ⟨hphase, kind, fields, write, rfl, -⟩ := hrequest
    refine ⟨current, hprompt, hover, ?_, ?_⟩
    · have hstep : (actor.step (.message (.request current.requestId kind fields write))).2 =
          (actor.request current.requestId kind write).2 := by
        unfold step
        rw [hphase]
        rfl
      rw [hstep]
      exact (reuses_iff hprompt hover hphase kind fields write).mp hreuses
    · rintro other hother ⟨-, kind', fields', write', hinput, -⟩
      cases hinput
      exact hother rfl

/-- A prompt that is over stays as it is, from whatever point of a run, until another one
is submitted. -/
def Sticky (actor : RuntimeActor) (inputs : List RuntimeInput) : Prop :=
  ∀ before between later, inputs = before ++ between ++ later →
    ∀ current, (Mealy.run step actor before).prompt = some current →
      current.phase.isTerminal = true →
      (∀ e ∈ Mealy.trace step (Mealy.run step actor before) between,
        ∀ other, other ≠ current.requestId → ¬ e.before.Submits e.input other) →
      (Mealy.run step actor (before ++ between)).prompt = some current

/-- Without disturbance, until another prompt is submitted. -/
theorem sticky_until {between : List RuntimeInput}
    (hcalm : Along (fun a i => (step a i).2) (fun a i => ¬ a.Disturbs i) actor between)
    (hprompt : actor.prompt = some current) (hover : current.phase.isTerminal = true)
    (hnone : ∀ e ∈ Mealy.trace step actor between,
      ∀ other, other ≠ current.requestId → ¬ e.before.Submits e.input other) :
    (Mealy.run step actor between).prompt = some current := by
  induction between generalizing actor with
  | nil => exact hprompt
  | cons input between ih =>
    rw [Mealy.trace, List.forall_mem_cons] at hnone
    rcases sticky_step hprompt hover input with hkept | ⟨other, hother, hsubmits⟩ | hdisturbs
    · exact ih hcalm.2 hkept hnone.2
    · exact absurd hsubmits (hnone.1 other hother)
    · exact absurd hdisturbs hcalm.1

/-- **Prompts that are over stay over**, in a run from any state, if and only if no step of
it disturbs them. -/
theorem sticky_iff (actor : RuntimeActor) (inputs : List RuntimeInput) :
    Sticky actor inputs ↔
      Along (fun a i => (step a i).2) (fun a i => ¬ a.Disturbs i) actor inputs := by
  constructor
  · intro hsticky
    induction inputs generalizing actor with
    | nil => trivial
    | cons input inputs ih =>
      refine ⟨?_, ih (actor.step input).2 ?_⟩
      · intro hdisturbs
        obtain ⟨current, hprompt, hover, hchanged, hnone⟩ := disturbed hdisturbs
        refine hchanged (hsticky [] [input] inputs rfl current hprompt hover ?_)
        intro e he
        rw [List.mem_singleton.mp he]
        exact hnone
      · intro before between later hsplit current hprompt hover hnone
        exact hsticky (input :: before) between later (congrArg (List.cons input) hsplit) current
          hprompt hover hnone
  · rintro hcalm before between later rfl current hprompt hover hnone
    obtain ⟨hbetween, -⟩ := along_append.mp hcalm
    obtain ⟨-, hbetween⟩ := along_append.mp hbetween
    rw [Mealy.run, run_append]
    exact sticky_until hbetween hprompt hover hnone

/-! ## The end of the task -/

/-- The step ends the task. -/
def Ends (e : Event) : Prop := e.before.phase ≠ .ended ∧ e.after.phase = .ended

/-- **The last step** closes nothing: no prompt is open afterwards if and only if none was
before, and it was not a prompt command that could not be written. -/
theorem closed_of_end (hbefore : actor.phase ≠ .ended)
    (hafter : (actor.step input).2.phase = .ended) :
    (actor.step input).2.Closed ↔ ¬ actor.LeavesOpen input := by
  have heffect := step_prompt actor input
  generalize (actor.step input).2 = after at heffect hafter
  have hkept : after.prompt = actor.prompt → (∀ requestId, ¬ actor.Submits input requestId) →
      (after.Closed ↔ ¬ actor.LeavesOpen input) := by
    intro hprompt hnone
    unfold Closed LeavesOpen
    rw [hprompt, not_or]
    constructor
    · intro hclosed
      refine ⟨?_, fun ⟨requestId, hsubmits⟩ => hnone requestId hsubmits⟩
      rintro ⟨current, hcurrent, hopen⟩
      exact Bool.false_ne_true (hopen.symm.trans (hclosed current hcurrent))
    · rintro ⟨hclosed, -⟩ current hcurrent
      rw [← Bool.not_eq_false]
      exact fun hopen => hclosed ⟨current, hcurrent, hopen⟩
  cases heffect with
  | takes frame htakes =>
    -- frames do not end the task
    rw [handleFrame_phase] at hafter
    exact absurd hafter hbefore
  | kept after _ hnone hprompt =>
    refine hkept hprompt ?_
    rintro requestId ⟨hphase, kind, fields, write, hinput, -⟩
    exact hnone requestId kind fields write hphase hinput
  | requests requestId kind fields write hphase hinput =>
    have hfits : ∀ bytes limit, writeMessage write actor.maxFrameBytes ≠
        .error (.frameTooLarge bytes limit) := by
      intro bytes limit hlarge
      rw [(request_large hlarge).1] at hafter
      exact hbefore hafter
    have hprompt : (actor.request requestId kind write).2.prompt = _ := request_prompt hfits
    cases hkind : isPromptCommand kind with
    | true =>
      rw [hkind, if_pos rfl] at hprompt
      refine iff_of_false ?_ ?_
      · intro hclosed
        have hover := hclosed _ hprompt
        cases hover
      · intro hnot
        exact hnot (.inr ⟨requestId, hphase, kind, fields, write, hinput, hkind⟩)
    | false =>
      rw [hkind, if_neg Bool.false_ne_true] at hprompt
      refine hkept hprompt ?_
      rintro other ⟨-, kind', fields', write', hinput', hprompts⟩
      rw [hinput] at hinput'
      cases hinput'
      rw [hkind] at hprompts
      cases hprompts

/-- A task that has ended takes no further steps. -/
theorem run_ended (h : actor.phase = .ended) (inputs : List RuntimeInput) :
    Mealy.run step actor inputs = actor ∧
      ∀ e ∈ Mealy.trace step actor inputs, e.before.phase = .ended := by
  induction inputs with
  | nil => exact ⟨rfl, fun e he => absurd he List.not_mem_nil⟩
  | cons input inputs ih =>
    have hsame : (actor.step input).2 = actor := by
      unfold step
      rw [h]
    rw [Mealy.trace, List.forall_mem_cons, Mealy.run, run_cons, hsame]
    exact ⟨ih.1, h, ih.2⟩

/-- **No prompt outlives its runtime**, in a run that has ended, if and only if no prompt
was open when it did. -/
theorem closed_iff (actor : RuntimeActor) (hstart : actor.phase ≠ .ended)
    (inputs : List RuntimeInput) (hended : (Mealy.run step actor inputs).phase = .ended) :
    (Mealy.run step actor inputs).Closed ↔
      ∀ e ∈ Mealy.trace step actor inputs, Ends e → ¬ e.before.LeavesOpen e.input := by
  induction inputs generalizing actor with
  | nil => exact absurd hended hstart
  | cons input inputs ih =>
    rw [Mealy.trace, List.forall_mem_cons]
    have hrun : Mealy.run step actor (input :: inputs) =
        Mealy.run step (actor.step input).2 inputs := rfl
    rw [hrun] at hended ⊢
    by_cases hafter : (actor.step input).2.phase = .ended
    · -- this is the last step
      obtain ⟨hsame, hrest⟩ := run_ended hafter inputs
      rw [hsame, closed_of_end hstart hafter]
      constructor
      · intro hclosed
        refine ⟨fun _ => hclosed, ?_⟩
        rintro e he ⟨hbefore, -⟩
        exact absurd (hrest e he) hbefore
      · rintro ⟨hclosed, -⟩
        exact hclosed ⟨hstart, hafter⟩
    · rw [ih (actor.step input).2 hafter hended]
      constructor
      · intro hrest
        exact ⟨fun hends => absurd hends.2 hafter, hrest⟩
      · exact fun h => h.2

/-- A prompt that is answered, run and ended by its agent. -/
def promptRun : List RuntimeInput :=
  [.message (.request ⟨"omp-runtime-1"⟩ "prompt" "" ⟨.ok 10, .ok ()⟩),
    .reader (some (.frame (.response (.success (some ⟨"omp-runtime-1"⟩) (.prompt (some ⟨true⟩)))))),
    .reader (some (.frame (.sessionEvent .agentStart))),
    .reader (some (.frame (.sessionEvent (.agentEnd ""))))]

/-- The late result of the same prompt. -/
def lateResult : List RuntimeInput :=
  [.reader (some (.frame (.sideChannel (.promptResult (some ⟨"omp-runtime-1"⟩) true))))]

/-- **The late result of a prompt reopens it.** -/
theorem late_result_reopens :
    ¬ Sticky (spawn 1 100) (promptRun ++ lateResult) ∧
      (Mealy.run step (spawn 1 100) promptRun).prompt =
        some ⟨⟨"omp-runtime-1"⟩, .completed .agent⟩ ∧
      (Mealy.run step (spawn 1 100) (promptRun ++ lateResult)).prompt =
        some ⟨⟨"omp-runtime-1"⟩, .running⟩ := by
  have hover : (Mealy.run step (spawn 1 100) promptRun).prompt =
      some ⟨⟨"omp-runtime-1"⟩, .completed .agent⟩ := by decide +kernel
  have hreopened : (Mealy.run step (spawn 1 100) (promptRun ++ lateResult)).prompt =
      some ⟨⟨"omp-runtime-1"⟩, .running⟩ := by decide +kernel
  refine ⟨?_, hover, hreopened⟩
  intro hsticky
  have hkept := hsticky promptRun lateResult [] (List.append_nil _).symm _ hover rfl ?_
  · rw [hreopened] at hkept
    cases hkept
  · rintro e he other - ⟨-, kind, fields, write, hinput, -⟩
    rw [List.mem_singleton.mp he] at hinput
    cases hinput

/-- The process exits, and its output ends. -/
def exits : List RuntimeInput := [.childWait (.ok ⟨some 0, true⟩), .reader none]

/-- The process exits before the agent has ended its turn. -/
theorem exit_leaves_prompt :
    ¬ (Mealy.run step (spawn 1 100) (promptRun.take 2 ++ exits)).Closed ∧
      (Mealy.run step (spawn 1 100) (promptRun.take 2 ++ exits)).phase = .ended ∧
      (Mealy.run step (spawn 1 100) (promptRun.take 2 ++ exits)).prompt =
        some ⟨⟨"omp-runtime-1"⟩, .running⟩ := by
  have hopen : (Mealy.run step (spawn 1 100) (promptRun.take 2 ++ exits)).prompt =
      some ⟨⟨"omp-runtime-1"⟩, .running⟩ := by decide +kernel
  refine ⟨?_, by decide +kernel, hopen⟩
  intro hclosed
  have hover := hclosed _ hopen
  cases hover

/-- It exits afterwards. -/
theorem closed_after_prompt :
    (Mealy.run step (spawn 1 100) (promptRun ++ exits)).Closed ∧
      ∀ e ∈ Mealy.trace step (spawn 1 100) (promptRun ++ exits), Ends e →
        ¬ e.before.LeavesOpen e.input := by
  have hprompt : (Mealy.run step (spawn 1 100) (promptRun ++ exits)).prompt =
      some ⟨⟨"omp-runtime-1"⟩, .completed .agent⟩ := by decide +kernel
  have hclosed : (Mealy.run step (spawn 1 100) (promptRun ++ exits)).Closed := by
    intro current hcurrent
    rw [hprompt] at hcurrent
    cases hcurrent
    rfl
  exact ⟨hclosed, (closed_iff (spawn 1 100) nofun _ (by decide +kernel)).mp hclosed⟩

end RuntimeActor

end OmpRemote.Runtime

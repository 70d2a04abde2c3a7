import OmpRemote.Ompd.AtMostOnce
import OmpRemote.Ompd.UiResponse

/-!
# Answers and operations

The daemon together with the calls of `send_ui_response` it makes for one agent.
What is executed at most once is an operation, so an operation forwards at most
one response, however often it is submitted and whoever holds the lease. The id
of the question is not looked at: two operations may both answer it.

- `System.step`: the daemon, the agent, and crashes of both.
- `one_answer_per_operation`: the law; `two_answers`: what it does not exclude.
-/

namespace OmpRemote.Ompd

open Lib Rpc ControlPlane

structure System (δ : Type) where
  daemon : Daemon δ
  ui : UiResponse.World

namespace System

inductive Input where
  /-- `restored` is what a start finds in the store for the agent. -/
  | daemon (input : DaemonInput) (restored : Option AgentSnapshot)
  | ui (input : UiResponse.Input)

variable {δ : Type} [DecidableEq δ]

def create (serverId : ServerId) (agentId : AgentId) (config : AgentActorConfig) : System δ :=
  ⟨.create serverId, .initial agentId config none 0⟩

/-- What a step of the daemon means for the agent's controller. -/
def control (agentId : AgentId) (config : AgentActorConfig) (system : System δ)
    (input : DaemonInput) (effect : Option Effect) (restored : Option AgentSnapshot) :
    UiResponse.World :=
  match input, effect with
  | .crash, _ => { system.ui with tasks := [] }
  | .start nowMs _, _ =>
    if system.daemon.up then system.ui else .initial agentId config restored nowMs
  | _, some (.called (some key) (.respondToUi agent holder response)) =>
    if agent = agentId then system.ui.submit key holder response else system.ui
  | _, _ => system.ui

/-- New calls come from the daemon only. -/
def isSubmit : UiResponse.Input → Bool
  | .submit .. => true
  | _ => false

def step (backend : Backend δ) (agentId : AgentId) (config : AgentActorConfig)
    (system : System δ) : Input → Option UiResponse.HandOver × System δ
  | .daemon input restored =>
    let (effect, daemon) := system.daemon.step backend input
    (none, ⟨daemon, system.control agentId config input effect restored⟩)
  | .ui input =>
    if system.daemon.up && !isSubmit input then
      let (handOver, ui) := system.ui.step input
      (handOver, { system with ui })
    else (none, system)

/-- One step of a run of the system. -/
abbrev Event (δ : Type) := Mealy.Event (System δ) Input (Option UiResponse.HandOver)

def history (backend : Backend δ) (serverId : ServerId) (agentId : AgentId)
    (config : AgentActorConfig) (inputs : List Input) : List (Event δ) :=
  Mealy.trace (step backend agentId config) (create serverId agentId config) inputs

/-- The step forwards a response under the operation id. -/
def forwards (key : OperationKey) (e : Event δ) : Bool :=
  e.output.any fun handOver => handOver.key = key

/-- The step forwards a response to the question. -/
def answers (id : String) (e : Event δ) : Bool :=
  e.output.any fun handOver => handOver.response.id = id

/-- The call is under the operation id and still to forward its response. -/
def pending (key : OperationKey) (task : UiResponse.Task) : Bool :=
  task.key = key && task.phase ≠ .done

/-- An operation that was called is called no more, and has one call at most that
is still to forward. -/
structure Invariant (system : System δ) : Prop where
  exclusive : system.daemon.Exclusive
  once : ∀ key, system.ui.tasks.countP (pending key) ≤ 1
  called : ∀ key, 0 < system.ui.tasks.countP (pending key) → system.daemon.Called key

/-- The operation has been called and forwards nothing any more. -/
def Spent (key : OperationKey) (system : System δ) : Prop :=
  system.daemon.Called key ∧ system.ui.tasks.countP (pending key) = 0

/-! ## What a step does to the calls -/

variable {backend : Backend δ} {agentId : AgentId} {config : AgentActorConfig}

omit [DecidableEq δ] in
theorem control_tasks (agentId : AgentId) (config : AgentActorConfig) (system : System δ)
    (input : DaemonInput) (effect : Option Effect) (restored : Option AgentSnapshot) :
    (system.control agentId config input effect restored).tasks = system.ui.tasks ∨
    (system.control agentId config input effect restored).tasks = [] ∨
    ∃ key holder response phase,
      effect = some (.called (some key) (.respondToUi agentId holder response)) ∧
      (system.control agentId config input effect restored).tasks =
        system.ui.tasks ++ [⟨key, holder, response, phase⟩] ∧
      (phase = .done ∨ ∃ actor, phase = .snapshot actor) := by
  unfold control
  split
  · exact .inr (.inl rfl)
  · split
    · exact .inl rfl
    · exact .inr (.inl rfl)
  · split
    · rename_i key agent holder response _ _ hagent
      subst hagent
      refine .inr (.inr ⟨key, holder, response, _, rfl, rfl, ?_⟩)
      cases system.ui.life.registry with
      | none => exact .inl rfl
      | some actor => exact .inr ⟨actor, rfl⟩
    · exact .inl rfl
  · exact .inl rfl

/-- A call that moves on is not pending more than before. -/
theorem countP_setPhase {world : UiResponse.World} {index : Nat} {task : UiResponse.Task}
    (htask : world.tasks[index]? = some task) (hopen : task.phase ≠ .done)
    (phase : UiResponse.Phase) (key : OperationKey) :
    (world.setPhase index task phase).tasks.countP (pending key) ≤
      world.tasks.countP (pending key) := by
  obtain ⟨hlt, hget⟩ := List.getElem?_eq_some_iff.mp htask
  have hpending : pending key task = decide (task.key = key) := by simp [pending, hopen]
  have hcount := List.boole_getElem_le_countP (p := pending key) hlt
  rw [hget, hpending] at hcount
  show (world.tasks.set index { task with phase }).countP (pending key) ≤ _
  rw [List.countP_set hlt, hget, hpending]
  by_cases hkey : task.key = key
  · simp only [hkey, decide_true, if_true] at hcount ⊢
    split <;> omega
  · have hmoved : pending key { task with phase } = false := by simp [pending, hkey]
    simp [hmoved, hkey]

/-- A response that is forwarded is that of a checked call. -/
theorem forwarded_task {system : System δ} {input : Input} {handOver : UiResponse.HandOver}
    (h : (system.step backend agentId config input).1 = some handOver) :
    ∃ index ok task process, input = .ui (.resume index ok) ∧ system.daemon.up = true ∧
      system.ui.tasks[index]? = some task ∧ task.phase = .send process ∧
      handOver = ⟨task.key, task.holder, task.response, process⟩ ∧
      (system.ui.resume index ok).2 = system.ui.setPhase index task .done := by
  cases input with
  | daemon => cases h
  | ui input =>
    simp only [System.step] at h
    split at h
    swap
    · cases h
    rename_i henabled
    have hup : system.daemon.up = true := (Bool.and_eq_true_iff.mp henabled).1
    cases input with
    | submit => simp [isSubmit] at henabled
    | life | clock => cases h
    | actor actor input =>
      simp only [UiResponse.World.step] at h
      split at h <;> cases h
    | resume index ok =>
      replace h : (system.ui.resume index ok).1 = some handOver := h
      rcases UiResponse.World.resume_cases system.ui index ok with
        hidle | ⟨task, phase, htask, -, hmoved, hquiet | ⟨rfl, process, hphase, hhanded⟩⟩
      · rw [hidle] at h
        cases h
      · rw [hquiet] at h
        cases h
      · rw [hhanded] at h
        cases h
        exact ⟨index, ok, task, process, rfl, hup, htask, hphase, rfl, hmoved⟩

omit [DecidableEq δ] in
/-- A step of the agent moves its calls on; only a hand-over ends one for good. -/
theorem ui_tasks (system : System δ) {input : UiResponse.Input} (hsubmit : isSubmit input = false)
    (key : OperationKey) :
    (system.ui.step input).2.tasks.countP (pending key) ≤ system.ui.tasks.countP (pending key) := by
  cases input with
  | submit => cases hsubmit
  | life | clock => exact Nat.le_refl _
  | actor actor input =>
    simp only [UiResponse.World.step]
    split <;> exact Nat.le_refl _
  | resume index ok =>
    show (system.ui.resume index ok).2.tasks.countP (pending key) ≤ _
    rcases UiResponse.World.resume_cases system.ui index ok with
      hidle | ⟨task, phase, htask, hopen, hmoved, -⟩
    · rw [hidle]
    · rw [hmoved]
      exact countP_setPhase htask hopen phase key

theorem Invariant.step {system : System δ} (h : Invariant system) (input : Input) :
    Invariant (system.step backend agentId config input).2 := by
  cases input with
  | daemon input restored =>
    have heffect := system.daemon.step_effect backend input
    have hkept : ∀ key, system.daemon.Called key → (system.daemon.step backend input).2.Called key :=
      fun key hcalled => Daemon.called_step heffect hcalled
    show Invariant ⟨_, system.control agentId config input (system.daemon.step backend input).1
      restored⟩
    rcases control_tasks agentId config system input (system.daemon.step backend input).1
        restored with hsame | hnone |
        ⟨key, holder, response, phase, hcalled, hnew, -⟩
    · refine ⟨Daemon.exclusive_step heffect h.exclusive, ?_, ?_⟩ <;> rw [hsame]
      · exact h.once
      · exact fun key hpos => hkept key (h.called key hpos)
    · refine ⟨Daemon.exclusive_step heffect h.exclusive, ?_, ?_⟩ <;> rw [hnone]
      · exact fun _ => Nat.zero_le 1
      · exact fun key hpos => absurd hpos (Nat.lt_irrefl 0)
    · have hcalls : Daemon.calls key (Mealy.event (Daemon.step backend) system.daemon input) =
          true := by
        simp [Daemon.calls, Mealy.event, hcalled]
      obtain ⟨hfresh, hspent⟩ := Daemon.calls_spends system.daemon h.exclusive input key hcalls
      -- the call is new, so nothing under its id is pending
      have hzero : system.ui.tasks.countP (pending key) = 0 :=
        Nat.eq_zero_of_not_pos fun hpos => hfresh (h.called key hpos)
      have hother : ∀ key', key' ≠ key →
          pending key' (⟨key, holder, response, phase⟩ : UiResponse.Task) = false := by
        intro key' hne
        simp [pending, hne.symm]
      refine ⟨Daemon.exclusive_step heffect h.exclusive, ?_, ?_⟩ <;> rw [hnew]
      · intro key'
        rw [List.countP_append, List.countP_singleton]
        by_cases hkey : key' = key
        · rw [hkey, hzero]
          split <;> omega
        · have := h.once key'
          rwa [hother key' hkey]
      · intro key' hpos
        by_cases hkey : key' = key
        · rw [hkey]
          exact hspent
        · rw [List.countP_append, List.countP_singleton, hother key' hkey] at hpos
          exact hkept key' (h.called key' hpos)
  | ui input =>
    simp only [System.step]
    split
    · rename_i henabled
      have hsubmit : isSubmit input = false := by
        simpa using (Bool.and_eq_true_iff.mp henabled).2
      refine ⟨h.exclusive, ?_, ?_⟩
      · exact fun key => (ui_tasks system hsubmit key).trans (h.once key)
      · exact fun key hpos => h.called key (hpos.trans_le (ui_tasks system hsubmit key))
    · exact h

theorem Spent.step {system : System δ} (hI : Invariant system) {key : OperationKey}
    (h : Spent key system) (input : Input) :
    Spent key (system.step backend agentId config input).2 := by
  cases input with
  | daemon input restored =>
    have heffect := system.daemon.step_effect backend input
    refine ⟨Daemon.called_step heffect h.1, ?_⟩
    show (system.control agentId config input (system.daemon.step backend input).1
      restored).tasks.countP (pending key) = 0
    rcases control_tasks agentId config system input (system.daemon.step backend input).1
        restored with hsame | hnone |
        ⟨key', holder, response, phase, hcalled, hnew, -⟩
    · rw [hsame]
      exact h.2
    · rw [hnone]
      rfl
    · have hcalls : Daemon.calls key' (Mealy.event (Daemon.step backend) system.daemon input) =
          true := by
        simp [Daemon.calls, Mealy.event, hcalled]
      have hfresh := (Daemon.calls_spends system.daemon hI.exclusive input key' hcalls).1
      have hkey : key' ≠ key := by
        rintro rfl
        exact hfresh h.1
      rw [hnew, List.countP_append, h.2, List.countP_singleton]
      simp [pending, hkey]
  | ui input =>
    simp only [System.step]
    split
    · rename_i henabled
      have hsubmit : isSubmit input = false := by
        simpa using (Bool.and_eq_true_iff.mp henabled).2
      have hle := ui_tasks system hsubmit key
      rw [h.2] at hle
      exact ⟨h.1, Nat.le_zero.mp hle⟩
    · exact h

/-- A hand-over under the operation id is the last. -/
theorem forwards_spends {system : System δ} (hI : Invariant system) (input : Input)
    {key : OperationKey}
    (h : forwards key (Mealy.event (step backend agentId config) system input) = true) :
    ¬ Spent key system ∧ Spent key (system.step backend agentId config input).2 := by
  obtain ⟨handOver, houtput, hkey⟩ := Option.any_eq_true _ _ |>.mp h
  replace houtput : (system.step backend agentId config input).1 = some handOver := houtput
  replace hkey : handOver.key = key := by simpa using hkey
  obtain ⟨index, ok, task, process, rfl, hup, htask, hphase, rfl, hmoved⟩ := forwarded_task houtput
  obtain ⟨hlt, hget⟩ := List.getElem?_eq_some_iff.mp htask
  have htaskKey : task.key = key := hkey
  have hpending : pending key task = true := by simp [pending, htaskKey, hphase]
  have hpos : 0 < system.ui.tasks.countP (pending key) :=
    List.countP_pos_iff.mpr ⟨task, List.mem_of_getElem? htask, hpending⟩
  have hdone : pending key { task with phase := .done } = false := by simp [pending]
  refine ⟨fun hspent => ?_, ?_⟩
  · rw [hspent.2] at hpos
    exact Nat.lt_irrefl 0 hpos
  · have hafter : (system.step backend agentId config (.ui (.resume index ok))).2 =
        { system with ui := system.ui.setPhase index task .done } := by
      simp [System.step, hup, isSubmit, UiResponse.World.step, hmoved]
    have honce := hI.once key
    rw [hafter]
    refine ⟨hI.called key hpos, ?_⟩
    show (system.ui.tasks.set index { task with phase := .done }).countP (pending key) = 0
    rw [List.countP_set hlt, hget, hpending, hdone]
    simp only [if_true, Bool.false_eq_true, if_false]
    omega

/-! ## Where a forwarded response comes from -/

/-- The controller was called with this response under the operation id. -/
def Submitted (backend : Backend δ) (agentId : AgentId) (history : List (Event δ))
    (key : OperationKey) (holder : LeaseHolderId) (response : ExtensionUiResponseFrame) : Prop :=
  ∃ e ∈ history, ∃ input restored, e.input = .daemon input restored ∧
    (e.before.daemon.step backend input).1 =
      some (.called (some key) (.respondToUi agentId holder response))

/-- The agent's snapshot was copied and the copy showed the holder's unexpired
lease when it was checked for the operation. -/
def CheckedUnderLease (history : List (Event δ)) (key : OperationKey) (holder : LeaseHolderId) :
    Prop :=
  ∃ pre, ∃ check : Event δ, ∃ post, history = pre ++ check :: post ∧ ∃ index ok task snapshot,
    check.input = .ui (.resume index ok) ∧ check.before.ui.tasks[index]? = some task ∧
    task.key = key ∧ task.holder = holder ∧ task.phase = .copied snapshot ∧
    snapshot.leasedTo holder check.before.ui.nowMs = true ∧
    ∃ copy ∈ pre, ∃ actor, (copy.before.ui.actors actor).snapshot = snapshot

structure Remembers (backend : Backend δ) (agentId : AgentId) (history : List (Event δ))
    (system : System δ) : Prop where
  submitted : ∀ task ∈ system.ui.tasks, task.phase ≠ .done →
    Submitted backend agentId history task.key task.holder task.response
  copied : ∀ task ∈ system.ui.tasks, ∀ snapshot, task.phase = .copied snapshot →
    ∃ copy ∈ history, ∃ actor, (copy.before.ui.actors actor).snapshot = snapshot
  checked : ∀ task ∈ system.ui.tasks, task.checked = true →
    CheckedUnderLease history task.key task.holder

theorem Submitted.append {history : List (Event δ)} {key : OperationKey} {holder : LeaseHolderId}
    {response : ExtensionUiResponseFrame}
    (h : Submitted backend agentId history key holder response) (e : Event δ) :
    Submitted backend agentId (history ++ [e]) key holder response := by
  obtain ⟨e', hmem, hcalled⟩ := h
  exact ⟨e', List.mem_append_left _ hmem, hcalled⟩

omit [DecidableEq δ] in
theorem CheckedUnderLease.append {history : List (Event δ)} {key : OperationKey}
    {holder : LeaseHolderId} (h : CheckedUnderLease history key holder) (e : Event δ) :
    CheckedUnderLease (history ++ [e]) key holder := by
  obtain ⟨pre, check, post, rfl, hcheck⟩ := h
  exact ⟨pre, check, post ++ [e], by simp, hcheck⟩

/-- Calls that are there before the step are remembered after it. -/
theorem Remembers.keep {history : List (Event δ)} {system : System δ}
    (h : Remembers backend agentId history system) (daemon : Daemon δ) (ui : UiResponse.World)
    (e : Event δ)
    (hsub : ∀ task ∈ ui.tasks, task ∈ system.ui.tasks) :
    Remembers backend agentId (history ++ [e]) ⟨daemon, ui⟩ where
  submitted := fun task hmem hopen => (h.submitted task (hsub task hmem) hopen).append e
  copied := by
    intro task hmem snapshot hphase
    obtain ⟨copy, hcopy, hactor⟩ := h.copied task (hsub task hmem) snapshot hphase
    exact ⟨copy, List.mem_append_left _ hcopy, hactor⟩
  checked := fun task hmem hchecked => (h.checked task (hsub task hmem) hchecked).append e

theorem Remembers.resume {history : List (Event δ)} {system : System δ}
    (h : Remembers backend agentId history system) (index : Nat) (ok : Bool) {e : Event δ}
    (hbefore : e.before = system) (hinput : e.input = .ui (.resume index ok)) :
    Remembers backend agentId (history ++ [e])
      { system with ui := (system.ui.resume index ok).2 } where
  submitted := by
    intro task hmem hopen
    rcases UiResponse.World.resume_cases system.ui index ok with
      hidle | ⟨before, phase, htask, hbeforeOpen, hmoved, -⟩
    · rw [hidle] at hmem
      exact (h.submitted task hmem hopen).append e
    · replace hmem : task ∈ (system.ui.resume index ok).2.tasks := hmem
      rw [hmoved] at hmem
      rcases UiResponse.World.mem_setPhase hmem with hold | rfl
      · exact (h.submitted task hold hopen).append e
      · exact (h.submitted before (List.mem_of_getElem? htask) hbeforeOpen).append e
  copied := by
    intro task hmem snapshot hphase
    rcases UiResponse.World.copied_resume hmem hphase with hold | ⟨actor, hactor⟩
    · obtain ⟨copy, hcopy, hactor⟩ := h.copied task hold snapshot hphase
      exact ⟨copy, List.mem_append_left _ hcopy, hactor⟩
    · exact ⟨e, List.mem_append_right _ List.mem_cons_self, actor, by rw [hbefore]; exact hactor⟩
  checked := by
    intro task hmem hchecked
    obtain ⟨before, hkey, hholder, ⟨hold, hwas⟩ | ⟨snapshot, htask, hphase, hleased⟩⟩ :=
      UiResponse.World.checked_resume hmem hchecked
    · rw [← hkey, ← hholder]
      exact (h.checked before hold hwas).append e
    · -- this step is the check
      rw [← hbefore] at htask hleased
      obtain ⟨copy, hcopy, hactor⟩ :=
        h.copied before (List.mem_of_getElem? (hbefore ▸ htask)) snapshot hphase
      exact ⟨history, e, [], rfl, index, ok, before, snapshot, hinput, htask, hkey, hholder, hphase,
        hholder ▸ hleased, copy, hcopy, hactor⟩

theorem Remembers.step {history : List (Event δ)} {system : System δ}
    (h : Remembers backend agentId history system) (input : Input) :
    Remembers backend agentId
      (history ++ [Mealy.event (step backend agentId config) system input])
      (system.step backend agentId config input).2 := by
  cases input with
  | daemon input restored =>
    show Remembers backend agentId _ ⟨_, system.control agentId config input
      (system.daemon.step backend input).1 restored⟩
    rcases control_tasks agentId config system input (system.daemon.step backend input).1
        restored with hsame | hnone | ⟨key, holder, response, phase, hcalled, hnew, hphase⟩
    · exact h.keep _ _ _ fun task hmem => hsame ▸ hmem
    · refine h.keep _ _ _ fun task hmem => ?_
      rw [hnone] at hmem
      cases hmem
    · have hkeep := h.keep (system.daemon.step backend input).2 system.ui
        (Mealy.event (System.step backend agentId config) system (.daemon input restored))
        fun _ hmem => hmem
      have hmem : ∀ task, task ∈ (system.control agentId config input
          (system.daemon.step backend input).1 restored).tasks →
          task ∈ system.ui.tasks ∨ task = ⟨key, holder, response, phase⟩ := by
        intro task hmem
        rw [hnew] at hmem
        exact (List.mem_append.mp hmem).imp_right List.mem_singleton.mp
      refine ⟨?_, ?_, ?_⟩
      · intro task htask hopen
        rcases hmem task htask with hold | rfl
        · exact hkeep.submitted task hold hopen
        · exact ⟨_, List.mem_append_right _ List.mem_cons_self, input, restored, rfl, hcalled⟩
      · intro task htask snapshot hcopied
        rcases hmem task htask with hold | rfl
        · exact hkeep.copied task hold snapshot hcopied
        · rcases hphase with rfl | ⟨actor, rfl⟩ <;> cases hcopied
      · intro task htask hchecked
        rcases hmem task htask with hold | rfl
        · exact hkeep.checked task hold hchecked
        · rcases hphase with rfl | ⟨actor, rfl⟩ <;> cases hchecked
  | ui input =>
    simp only [System.step]
    split
    · rename_i henabled
      cases input with
      | submit => simp [isSubmit] at henabled
      | life | clock => exact h.keep _ _ _ fun _ hmem => hmem
      | actor actor input =>
        refine h.keep _ _ _ fun task hmem => ?_
        simp only [UiResponse.World.step] at hmem
        split at hmem <;> exact hmem
      | resume index ok => exact h.resume index ok rfl rfl
    · exact h.keep _ _ _ fun _ hmem => hmem

omit [DecidableEq δ] in
theorem invariant_create (serverId : ServerId) (agentId : AgentId) (config : AgentActorConfig) :
    Invariant (create serverId agentId config : System δ) where
  exclusive := by
    rintro connection key request ⟨device, h⟩
    cases h
  once := fun _ => Nat.zero_le 1
  called := fun _ h => absurd h (Nat.lt_irrefl 0)

theorem remembers_create (backend : Backend δ) (serverId : ServerId) (agentId : AgentId)
    (config : AgentActorConfig) :
    Remembers backend agentId [] (create serverId agentId config) where
  submitted := by
    intro task hmem
    cases hmem
  copied := by
    intro task hmem
    cases hmem
  checked := by
    intro task hmem
    cases hmem

/-- **One answer for an operation.** In every run of the daemon, with any connections,
resends, crashes and restarts and any leases: an operation id forwards at most one
response to OMP, and a forwarded response is one that the controller was called
with under that id and that was checked against an unexpired lease of its holder. -/
theorem one_answer_per_operation (backend : Backend δ) (serverId : ServerId) (agentId : AgentId)
    (config : AgentActorConfig) (inputs : List Input) :
    (∀ key, (history backend serverId agentId config inputs).countP (forwards key) ≤ 1) ∧
    ∀ (pre : List (Event δ)) (e : Event δ) post,
      history backend serverId agentId config inputs = pre ++ e :: post → ∀ handOver,
        e.output = some handOver →
          Submitted backend agentId pre handOver.key handOver.holder handOver.response ∧
          CheckedUnderLease pre handOver.key handOver.holder := by
  constructor
  · intro key
    refine Mealy.countP_le_one (I := Invariant) (fun _ input h => h.step input)
      (fun _ input hI (h : Spent key _) => h.step hI input)
      (fun _ input hI h => forwards_spends hI input h) ?_ inputs
    exact invariant_create serverId agentId config
  · intro pre e post hsplit handOver houtput
    obtain ⟨hremembers, he⟩ := Mealy.history_at (P := Remembers backend agentId)
      (remembers_create backend serverId agentId config) (fun _ _ input h => h.step input) hsplit
    have hstep : (step backend agentId config e.before e.input).1 = some handOver := by
      rw [← houtput, he]
      rfl
    obtain ⟨index, ok, task, process, -, -, htask, hphase, rfl, -⟩ := forwarded_task hstep
    have hmem := List.mem_of_getElem? htask
    have hopen : task.phase ≠ .done := by
      rw [hphase]
      nofun
    have hchecked : task.checked = true := by rw [UiResponse.Task.checked, hphase]
    exact ⟨hremembers.submitted task hmem hopen, hremembers.checked task hmem hchecked⟩

/-! ## Two operations, one question -/

section Example

open UiResponse.World (agent answer acquire)

/-- A store that can write and read what this run needs. -/
def plainBackend : Backend Unit :=
  ⟨fun _ => (), fun _ => .ok .empty, fun _ => .ok .empty, fun _ => .error ""⟩

def phone : DeviceRecord :=
  ⟨⟨"phone"⟩, "phone", .web, ⟨true, false, false, false, true, false⟩, 0, none, none⟩

/-- The connection submits the answer under the operation id, and the call at
`index` runs to its end. -/
def answerInputs (operation : String) (index : Nat) : List Input :=
  [.daemon (.receive 0 (.uiResponse ⟨agent, ⟨"request"⟩, ⟨operation⟩, ⟨"first"⟩, answer⟩)) none,
    .daemon (.claim 0 0 none) none, .daemon (.call 0) none,
    .ui (.resume index true), .ui (.resume index true), .ui (.resume index true),
    .ui (.resume index true),
    .daemon (.return 0 (.success .accepted)) none, .daemon (.complete 0 0 none) none]

def twice : List Input :=
  [Input.daemon (.start 0 none) none, .daemon (.store (.insertDevice phone ⟨"token"⟩ none)) none,
    .daemon (.connect 0 phone) none] ++
    (Lifecycle.World.launchInputs 0).map (fun input => .ui (.life input)) ++
    [Input.ui (acquire "first")] ++
    answerInputs "one" 0 ++ answerInputs "two" 1

/-- A holder answers the same question under two operation ids, and both answers
are forwarded. -/
theorem two_answers :
    ¬ ∀ id, (history plainBackend ⟨"server"⟩ agent .default twice).countP (answers id) ≤ 1 := by
  intro h
  have htwo : (history plainBackend ⟨"server"⟩ agent .default twice).countP (answers "question") = 2 := by
    decide
  have := h "question"
  omega

end Example

end System

end OmpRemote.Ompd

import OmpRemote.Client.Events
import OmpRemote.Lib.Machine

/-!
# Interactions of the app

The app keeps one interaction for each agent. A loop takes the events of the client one by
one and acquires a lease for an interaction that wants an answer before it takes the next
one. The user answers or dismisses what the dialog shows, and what becomes of an answer is
known later.

- `AppState.step`; `AppState.Undisturbed`, the steps on which nothing is displaced.
- `AppState.invariant_step`: what is in flight is never newer than what is pending.
- `keepsInteractions_iff`: the runs that keep their interactions are those of such steps.
-/

namespace OmpRemote.App

open Lib Client Rpc

inductive InteractionLeaseState where
  | acquiring
  | owned
  | unavailable (error : String)
  deriving DecidableEq, Repr

/-- `arrival` numbers the interactions as they arrive. The app does not read it: the ids of
two interactions may be the same. -/
structure PendingInteraction where
  arrival : Nat
  envelope : UiInteractionEnvelope
  lease : InteractionLeaseState
  deriving DecidableEq, Repr

def interactionRequiresResponse (frame : ExtensionUiRequestFrame) : Bool :=
  match frame.request with
  | .select .. | .confirm .. | .input .. | .editor .. => true
  | _ => false

def PendingInteraction.requiresResponse (interaction : PendingInteraction) : Bool :=
  interactionRequiresResponse interaction.envelope.request

/-- A response that is on its way. -/
structure Answer where
  arrival : Nat
  agentId : AgentId
  id : String
  response : ExtensionUiResponse
  deriving DecidableEq, Repr

/-- What the event loop waits for. -/
inductive Awaiting where
  | agents
  | lease (arrival : Nat) (agentId : AgentId)
  deriving DecidableEq, Repr

/-- The interactions, the event loop, the dialog as it was rendered last, and the tasks of
`respond_interaction`. -/
structure AppState where
  interactions : AgentId → Option PendingInteraction
  awaiting : Option Awaiting
  dialog : Option PendingInteraction
  answers : List Answer
  arrivals : Nat

namespace AppState

def initial : AppState := ⟨fun _ => none, none, none, [], 0⟩

/-! ## The model of the app -/

def applyClientEvent (app : AppState) : ClientEvent → AppState
  | .interactionRequest envelope =>
    { app with
      interactions := Function.update app.interactions envelope.agentId
        (some ⟨app.arrivals, envelope, .acquiring⟩)
      arrivals := app.arrivals + 1 }
  | _ => app

def setInteractionLease (app : AppState) (agentId : AgentId) (state : InteractionLeaseState) :
    AppState :=
  { app with
    interactions := Function.update app.interactions agentId
      ((app.interactions agentId).map fun interaction => { interaction with lease := state }) }

def dismissInteraction (app : AppState) (agentId : AgentId) : AppState :=
  { app with interactions := Function.update app.interactions agentId none }

/-! ## Steps -/

inductive Input where
  /-- The loop takes an event. -/
  | event (event : ClientEvent)
  /-- `list_agents` returns. -/
  | listed
  | leased (result : Except String Unit)
  /-- The dialog shows the interaction of an agent. -/
  | render (agentId : AgentId)
  | answer (response : ExtensionUiResponse)
  | dismiss
  /-- One of the responses that are on their way is accepted, or fails. -/
  | answered (index : Nat) (result : Except String Unit)

/-- One turn of the loop. -/
def takeEvent (app : AppState) (event : ClientEvent) : AppState :=
  let applied := app.applyClientEvent event
  match event with
  -- the agents are listed before the next event is taken
  | .connectionChanged (.connected ..) => { applied with awaiting := some .agents }
  | .interactionRequest envelope =>
    if interactionRequiresResponse envelope.request then
      { applied with awaiting := some (.lease app.arrivals envelope.agentId) }
    else applied
  | _ => applied

def respondInteraction (app : AppState) (shown : PendingInteraction)
    (response : ExtensionUiResponse) : AppState :=
  { app with
    answers := app.answers ++
      [⟨shown.arrival, shown.envelope.agentId, shown.envelope.request.id, response⟩] }

/-- Buttons that answer are disabled without the lease; what needs no answer can be
dismissed. -/
def step (app : AppState) : Input → AppState
  | .event event => if app.awaiting = none then app.takeEvent event else app
  | .listed => if app.awaiting = some .agents then { app with awaiting := none } else app
  | .leased result =>
    match app.awaiting with
    | some (.lease _ agentId) =>
      let state := match result with
        | .ok () => InteractionLeaseState.owned
        | .error error => .unavailable error
      { app.setInteractionLease agentId state with awaiting := none }
    | _ => app
  | .render agentId => { app with dialog := app.interactions agentId }
  | .answer response =>
    match app.dialog with
    | some shown =>
      if shown.requiresResponse ∧ shown.lease = .owned then app.respondInteraction shown response
      else app
    | none => app
  | .dismiss =>
    match app.dialog with
    | some shown =>
      if shown.requiresResponse then app else app.dismissInteraction shown.envelope.agentId
    | none => app
  | .answered index result =>
    match app.answers[index]? with
    | some answer =>
      let rest := { app with answers := app.answers.eraseIdx index }
      match result with
      | .ok () => rest.dismissInteraction answer.agentId
      | .error _ => rest
    | none => app

/-! ## What a step is about -/

/-- The interaction that an input removes, and its agent. -/
def removes (app : AppState) : Input → Option (Nat × AgentId)
  | .dismiss =>
    (app.dialog.filter fun shown => !shown.requiresResponse).map fun shown =>
      (shown.arrival, shown.envelope.agentId)
  | .answered index (.ok ()) =>
    app.answers[index]?.map fun answer => (answer.arrival, answer.agentId)
  | _ => none

/-- The interaction that a lease, an answer or a dismissal belongs to. -/
def subject (app : AppState) : Input → Option Nat
  | .leased _ =>
    match app.awaiting with
    | some (.lease arrival _) => some arrival
    | _ => none
  | .dismiss => app.dialog.map PendingInteraction.arrival
  | .answered index _ => app.answers[index]?.map Answer.arrival
  | _ => none

/-- The interaction is answered or dismissed. -/
def Settles (arrival : Nat) (app : AppState) (input : Input) : Prop :=
  ∃ agentId, app.removes input = some (arrival, agentId)

/-- The interaction that arrives. -/
def arriving (app : AppState) : Input → Option UiInteractionEnvelope
  | .event (.interactionRequest envelope) => if app.awaiting = none then some envelope else none
  | _ => none

/-- An interaction arrives only when none of its agent waits for a response, and when an
answer is accepted or a notice dismissed, none is pending that arrived after it. -/
structure Undisturbed (app : AppState) (input : Input) : Prop where
  arrives : ∀ envelope ∈ app.arriving input, ∀ p ∈ app.interactions envelope.agentId,
    p.requiresResponse = false
  removes : ∀ removed ∈ app.removes input, ∀ p ∈ app.interactions removed.2,
    p.arrival ≤ removed.1

instance (app : AppState) (input : Input) : Decidable (app.Undisturbed input) :=
  decidable_of_iff ((∀ envelope ∈ app.arriving input, ∀ p ∈ app.interactions envelope.agentId,
      p.requiresResponse = false) ∧
    ∀ removed ∈ app.removes input, ∀ p ∈ app.interactions removed.2, p.arrival ≤ removed.1)
    ⟨fun h => ⟨h.1, h.2⟩, fun h => ⟨h.arrives, h.removes⟩⟩

/-- The interactions the dialog and the answers stem from, with their agents. -/
def held (app : AppState) : List (Nat × AgentId) :=
  app.dialog.toList.map (fun shown => (shown.arrival, shown.envelope.agentId)) ++
    app.answers.map fun answer => (answer.arrival, answer.agentId)

theorem mem_held {app : AppState} {source : Nat × AgentId} :
    source ∈ app.held ↔
      (∃ shown, app.dialog = some shown ∧ (shown.arrival, shown.envelope.agentId) = source) ∨
        ∃ answer ∈ app.answers, (answer.arrival, answer.agentId) = source := by
  simp only [held, List.mem_append, List.mem_map, Option.mem_toList]

/-- What is removed is in the dialog or was answered, and the input belongs to it. -/
theorem removes_held {app : AppState} {input : Input} {arrival : Nat} {agentId : AgentId}
    (h : app.removes input = some (arrival, agentId)) :
    (arrival, agentId) ∈ app.held ∧ app.subject input = some arrival := by
  unfold removes at h
  split at h
  · obtain ⟨shown, hshown, heq⟩ := Option.map_eq_some_iff.mp h
    obtain ⟨hdialog, -⟩ := Option.filter_eq_some_iff.mp hshown
    refine ⟨mem_held.mpr (.inl ⟨shown, hdialog, heq⟩), ?_⟩
    rw [subject, hdialog, Option.map_some, (Prod.mk.inj heq).1]
  · obtain ⟨answer, hanswer, heq⟩ := Option.map_eq_some_iff.mp h
    refine ⟨mem_held.mpr (.inr ⟨answer, List.mem_of_getElem? hanswer, heq⟩), ?_⟩
    rw [subject, hanswer, Option.map_some, (Prod.mk.inj heq).1]
  · cases h

/-- What a step does with the interactions, and to what is in flight. -/
inductive Effect (app : AppState) (input : Input) (after : AppState) : Prop
  | same (hinteractions : after.interactions = app.interactions)
      (harrivals : after.arrivals = app.arrivals)
      (hawaiting : after.awaiting = app.awaiting ∨
        ∀ arrival agentId, after.awaiting ≠ some (.lease arrival agentId))
      (hheld : ∀ source ∈ after.held, source ∈ app.held ∨
        ∃ agentId, ∃ p ∈ app.interactions agentId, source = (p.arrival, p.envelope.agentId))
  | arrives (envelope : UiInteractionEnvelope)
      (hinput : input = .event (.interactionRequest envelope)) (hfree : app.awaiting = none)
      (hinteractions : after.interactions = Function.update app.interactions envelope.agentId
        (some ⟨app.arrivals, envelope, .acquiring⟩))
      (harrivals : after.arrivals = app.arrivals + 1)
      (hawaiting : ∀ arrival agentId, after.awaiting = some (.lease arrival agentId) →
        arrival = app.arrivals ∧ agentId = envelope.agentId)
      (hheld : after.held = app.held)
  | marks (arrival : Nat) (agentId : AgentId) (state : InteractionLeaseState)
      (hawaiting : app.awaiting = some (.lease arrival agentId))
      (hsubject : app.subject input = some arrival)
      (hafter : after = { app.setInteractionLease agentId state with awaiting := none })
  | removed (arrival : Nat) (agentId : AgentId)
      (hremoves : app.removes input = some (arrival, agentId))
      (hinteractions : after.interactions = Function.update app.interactions agentId none)
      (harrivals : after.arrivals = app.arrivals) (hawaiting : after.awaiting = app.awaiting)
      (hheld : ∀ source ∈ after.held, source ∈ app.held)

/-- Nothing changes. -/
theorem Effect.unchanged (app : AppState) (input : Input) : Effect app input app :=
  .same rfl rfl (.inl rfl) fun _ h => .inl h

theorem takeEvent_effect {app : AppState} (hfree : app.awaiting = none) (event : ClientEvent) :
    Effect app (.event event) (app.takeEvent event) := by
  cases event with
  | interactionRequest envelope =>
    have hawaiting : ∀ arrival agentId,
        (app.takeEvent (.interactionRequest envelope)).awaiting = some (.lease arrival agentId) →
          arrival = app.arrivals ∧ agentId = envelope.agentId := by
      intro arrival agentId h
      unfold takeEvent at h
      dsimp only at h
      split at h
      · cases h
        exact ⟨rfl, rfl⟩
      · rw [applyClientEvent, hfree] at h
        cases h
    unfold takeEvent at hawaiting ⊢
    dsimp only at hawaiting ⊢
    split at hawaiting <;> rename_i hresponse
    · rw [if_pos hresponse]
      exact .arrives envelope rfl hfree rfl rfl hawaiting rfl
    · rw [if_neg hresponse]
      exact .arrives envelope rfl hfree rfl rfl hawaiting rfl
  | connectionChanged status =>
    cases status with
    | connected serverId deviceId protocolVersion =>
      exact .same rfl rfl (.inr fun _ _ => nofun) fun _ h => .inl h
    | disconnected reason => exact .unchanged app _
    | connecting => exact .unchanged app _
    | stopped reason => exact .unchanged app _
  | stateChanged agentId => exact .unchanged app _
  | agentEvent envelope => exact .unchanged app _
  | resyncRequired agentId => exact .unchanged app _
  | protocolError error => exact .unchanged app _
  | replicationError error => exact .unchanged app _

theorem step_effect (app : AppState) (input : Input) : Effect app input (app.step input) := by
  cases input with
  | event event =>
    by_cases hfree : app.awaiting = none
    · rw [step, if_pos hfree]
      exact takeEvent_effect hfree event
    · rw [step, if_neg hfree]
      exact .unchanged app _
  | listed =>
    rw [step]
    split
    · exact .same rfl rfl (.inr fun _ _ => nofun) fun _ h => .inl h
    · exact .unchanged app _
  | leased result =>
    unfold step
    dsimp only
    split
    · rename_i arrival agentId hawaiting
      -- the event that arrived is marked in the agents, once the lease is settled
      refine .marks arrival agentId _ hawaiting ?_ rfl
      rw [subject, hawaiting]
    · exact .unchanged app _
  | render agentId =>
    refine .same rfl rfl (.inl rfl) fun source hsource => ?_
    rcases mem_held.mp hsource with ⟨shown, hshown, rfl⟩ | hanswer
    · exact .inr ⟨agentId, shown, hshown, rfl⟩
    · exact .inl (mem_held.mpr (.inr hanswer))
  | answer response =>
    unfold step
    dsimp only
    split
    · rename_i shown hshown
      split
      · refine .same rfl rfl (.inl rfl) fun source hsource => .inl (mem_held.mpr ?_)
        rcases mem_held.mp hsource with hdialog | ⟨answer, hanswer, rfl⟩
        · exact .inl hdialog
        · rcases List.mem_append.mp hanswer with hold | hnew
          · exact .inr ⟨answer, hold, rfl⟩
          · obtain rfl := List.mem_singleton.mp hnew
            exact .inl ⟨shown, hshown, rfl⟩
      · exact .unchanged app _
    · exact .unchanged app _
  | dismiss =>
    unfold step
    dsimp only
    split
    · rename_i shown hshown
      split
      · exact .unchanged app _
      · rename_i hpassive
        -- only a passive dialog is dismissed for good
        refine .removed shown.arrival shown.envelope.agentId ?_ rfl rfl rfl fun _ h => h
        rw [removes, hshown, Option.filter_some_pos (by simpa using hpassive)]
        rfl
    · exact .unchanged app _
  | answered index result =>
    -- the answer comes off the list before its result is looked at
    have hrest : ∀ source ∈ ({ app with answers := app.answers.eraseIdx index } : AppState).held,
        source ∈ app.held := by
      intro source hsource
      rcases mem_held.mp hsource with hdialog | ⟨answer, hanswer, heq⟩
      · exact mem_held.mpr (.inl hdialog)
      · exact mem_held.mpr (.inr ⟨answer, List.mem_of_mem_eraseIdx hanswer, heq⟩)
    unfold step
    dsimp only
    split
    · rename_i answer hanswer
      cases result with
      | ok =>
        refine .removed answer.arrival answer.agentId ?_ rfl rfl rfl hrest
        rw [removes, hanswer]
        rfl
      | error error => exact .same rfl rfl (.inl rfl) fun source h => .inl (hrest source h)
    · exact .unchanged app _

/-! ## What is in flight -/

/-- What the dialog shows and what is answered is never newer than what is pending, and
what the loop waits for is what is pending. -/
structure Invariant (app : AppState) : Prop where
  pending : ∀ agentId, ∀ p ∈ app.interactions agentId,
    p.envelope.agentId = agentId ∧ p.arrival < app.arrivals
  older : ∀ source ∈ app.held, source.1 < app.arrivals ∧
    ∀ p ∈ app.interactions source.2, source.1 ≤ p.arrival
  leasing : ∀ arrival agentId, app.awaiting = some (.lease arrival agentId) →
    ∀ p ∈ app.interactions agentId, p.arrival = arrival

theorem invariant_initial : Invariant initial where
  pending _ _ h := by cases h
  older _ h := by cases h
  leasing _ _ h := by cases h

/-- What is pending for an agent after a change for one. -/
theorem mem_update {interactions : AgentId → Option PendingInteraction} {agentId agentId' : AgentId}
    {changed : Option PendingInteraction} {p : PendingInteraction}
    (h : p ∈ Function.update interactions agentId changed agentId') :
    agentId' = agentId ∧ p ∈ changed ∨ agentId' ≠ agentId ∧ p ∈ interactions agentId' := by
  by_cases heq : agentId' = agentId
  · subst heq
    rw [Function.update_self] at h
    exact .inl ⟨rfl, h⟩
  · rw [Function.update_of_ne heq] at h
    exact .inr ⟨heq, h⟩

theorem invariant_step {app : AppState} (h : app.Invariant) (input : Input) :
    (app.step input).Invariant := by
  cases step_effect app input with
  | same hinteractions harrivals hawaiting hheld =>
    constructor
    · rw [hinteractions, harrivals]
      exact h.pending
    · intro source hsource
      rw [hinteractions, harrivals]
      rcases hheld source hsource with hold | ⟨agentId, shown, hshown, rfl⟩
      · exact h.older source hold
      · -- the dialog has been rendered, and shows what is pending
        obtain ⟨rfl, hless⟩ := h.pending agentId shown hshown
        refine ⟨hless, fun p hp => ?_⟩
        cases hshown.symm.trans hp
        exact Nat.le_refl _
    · intro arrival agentId hlease
      rw [hinteractions]
      rcases hawaiting with hsame | hnone
      · exact h.leasing arrival agentId (hsame ▸ hlease)
      · exact absurd hlease (hnone arrival agentId)
  | arrives envelope hinput hfree hinteractions harrivals hawaiting hheld =>
    constructor
    · intro agentId p hp
      rw [hinteractions] at hp
      rw [harrivals]
      rcases mem_update hp with ⟨rfl, hnew⟩ | ⟨-, hold⟩
      · cases hnew
        exact ⟨rfl, Nat.lt_succ_self _⟩
      · obtain ⟨hagent, hless⟩ := h.pending agentId p hold
        exact ⟨hagent, Nat.lt_succ_of_lt hless⟩
    · intro source hsource
      rw [hheld] at hsource
      obtain ⟨hless, holder⟩ := h.older source hsource
      rw [hinteractions, harrivals]
      refine ⟨Nat.lt_succ_of_lt hless, fun p hp => ?_⟩
      rcases mem_update hp with ⟨-, hnew⟩ | ⟨-, hold⟩
      · cases hnew
        -- what has just arrived is newer than everything in flight
        exact Nat.le_of_lt hless
      · exact holder p hold
    · intro arrival agentId hlease p hp
      obtain ⟨rfl, rfl⟩ := hawaiting arrival agentId hlease
      rw [hinteractions, Function.update_self] at hp
      cases hp
      rfl
  | marks arrival agentId state hawaiting hsubject hafter =>
    rw [hafter]
    -- a lease is marked, but no interaction is exchanged for another
    have hold : ∀ agentId' p, p ∈ (app.setInteractionLease agentId state).interactions agentId' →
        ∃ p' ∈ app.interactions agentId', p'.envelope = p.envelope ∧ p'.arrival = p.arrival := by
      intro agentId' p hp
      rcases mem_update hp with ⟨rfl, hmarked⟩ | ⟨-, hsame⟩
      · obtain ⟨p', hp', rfl⟩ := Option.map_eq_some_iff.mp hmarked
        exact ⟨p', hp', rfl, rfl⟩
      · exact ⟨p, hsame, rfl, rfl⟩
    constructor
    · intro agentId' p hp
      obtain ⟨p', hp', henvelope, harrival⟩ := hold agentId' p hp
      rw [← henvelope, ← harrival]
      exact h.pending agentId' p' hp'
    · intro source hsource
      obtain ⟨hless, holder⟩ := h.older source hsource
      refine ⟨hless, fun p hp => ?_⟩
      obtain ⟨p', hp', -, harrival⟩ := hold source.2 p hp
      rw [← harrival]
      exact holder p' hp'
    · intro arrival' agentId' hlease
      cases hlease
  | removed arrival agentId hremoves hinteractions harrivals hawaiting hheld =>
    -- what is left was pending before
    have hold : ∀ agentId', ∀ p ∈ (app.step input).interactions agentId',
        p ∈ app.interactions agentId' := by
      intro agentId' p hp
      rw [hinteractions] at hp
      rcases mem_update hp with ⟨-, hnone⟩ | ⟨-, hsame⟩
      · cases hnone
      · exact hsame
    constructor
    · intro agentId' p hp
      rw [harrivals]
      exact h.pending agentId' p (hold agentId' p hp)
    · intro source hsource
      obtain ⟨hless, holder⟩ := h.older source (hheld source hsource)
      rw [harrivals]
      exact ⟨hless, fun p hp => holder p (hold source.2 p hp)⟩
    · intro arrival' agentId' hlease p hp
      exact h.leasing arrival' agentId' (hawaiting ▸ hlease) p (hold agentId' p hp)

/-! ## What is kept -/

/-- What an input belongs to is all it marks or removes. -/
theorem step_others {app : AppState} (h : app.Invariant) {input : Input}
    (hundisturbed : app.Undisturbed input) {agentId : AgentId} {p : PendingInteraction}
    (hp : app.interactions agentId = some p) {other : Nat}
    (hsubject : app.subject input = some other) (hother : other ≠ p.arrival) :
    (app.step input).interactions agentId = some p := by
  cases step_effect app input with
  | same hinteractions harrivals hawaiting hheld => rw [hinteractions, hp]
  | arrives envelope hinput hfree hinteractions harrivals hawaiting hheld =>
    rw [hinput] at hsubject
    cases hsubject
  | marks arrival agentId' state hawaiting hsubject' hafter =>
    obtain rfl : arrival = other := Option.some.inj (hsubject'.symm.trans hsubject)
    have hne : agentId ≠ agentId' := by
      rintro rfl
      exact hother (h.leasing arrival agentId hawaiting p hp).symm
    rw [hafter]
    exact (Function.update_of_ne hne ..).trans hp
  | removed arrival agentId' hremoves hinteractions harrivals hawaiting hheld =>
    obtain ⟨hsource, hsubject'⟩ := removes_held hremoves
    obtain rfl : arrival = other := Option.some.inj (hsubject'.symm.trans hsubject)
    have hne : agentId ≠ agentId' := by
      rintro rfl
      -- it would be of the same agent: neither older nor newer than what is pending, it is that
      have hle := (h.older _ hsource).2 p hp
      have hge := hundisturbed.removes _ hremoves p hp
      exact hother (Nat.le_antisymm hle hge)
    rw [hinteractions, Function.update_of_ne hne, hp]

/-- An interaction that waits for a response stays until it is answered or dismissed. -/
theorem step_stays {app : AppState} (h : app.Invariant) {input : Input}
    (hundisturbed : app.Undisturbed input) {agentId : AgentId} {p : PendingInteraction}
    (hp : app.interactions agentId = some p) (hresponse : p.requiresResponse = true)
    (hsettles : ¬ app.Settles p.arrival input) :
    ∃ p', (app.step input).interactions agentId = some p' ∧ p'.arrival = p.arrival ∧
      p'.envelope = p.envelope := by
  cases step_effect app input with
  | same hinteractions harrivals hawaiting hheld => exact ⟨p, by rw [hinteractions, hp], rfl, rfl⟩
  | arrives envelope hinput hfree hinteractions harrivals hawaiting hheld =>
    have hne : agentId ≠ envelope.agentId := by
      rintro rfl
      have harriving : app.arriving input = some envelope := by
        rw [hinput]
        exact if_pos hfree
      -- no interaction arrives while this one waits
      rw [hundisturbed.arrives envelope harriving p hp] at hresponse
      cases hresponse
    exact ⟨p, by rw [hinteractions, Function.update_of_ne hne, hp], rfl, rfl⟩
  | marks arrival agentId' state hawaiting hsubject hafter =>
    rw [hafter]
    by_cases heq : agentId = agentId'
    · subst heq
      refine ⟨{ p with lease := state }, ?_, rfl, rfl⟩
      show Function.update app.interactions agentId _ agentId = _
      rw [Function.update_self, hp]
      rfl
    · exact ⟨p, (Function.update_of_ne heq ..).trans hp, rfl, rfl⟩
  | removed arrival agentId' hremoves hinteractions harrivals hawaiting hheld =>
    have hne : agentId ≠ agentId' := by
      rintro rfl
      have hle := (h.older _ (removes_held hremoves).1).2 p hp
      have hge := hundisturbed.removes _ hremoves p hp
      -- so what is removed is the interaction itself, which is not settled
      obtain rfl : arrival = p.arrival := Nat.le_antisymm hle hge
      exact hsettles ⟨agentId, hremoves⟩
    exact ⟨p, by rw [hinteractions, Function.update_of_ne hne, hp], rfl, rfl⟩

theorem invariant_run (inputs : List Input) : (run step initial inputs).Invariant :=
  run_invariant (P := Invariant) (fun _ input h => invariant_step h input) invariant_initial inputs

/-- It stays in a run that neither answers nor dismisses it. -/
theorem run_stays {app : AppState} (h : app.Invariant) {inputs : List Input}
    (hundisturbed : Along step Undisturbed app inputs) {agentId : AgentId} {p : PendingInteraction}
    (hp : app.interactions agentId = some p) (hresponse : p.requiresResponse = true)
    (hsettles : Along step (fun app input => ¬ app.Settles p.arrival input) app inputs) :
    ∃ p', (run step app inputs).interactions agentId = some p' ∧ p'.arrival = p.arrival ∧
      p'.envelope = p.envelope := by
  -- the lease may have been marked: the number and the envelope are what is carried along
  induction inputs generalizing app p with
  | nil => exact ⟨p, hp, rfl, rfl⟩
  | cons input inputs ih =>
    obtain ⟨p', hp', harrival, henvelope⟩ :=
      step_stays h hundisturbed.1 hp hresponse hsettles.1
    have hresponse' : p'.requiresResponse = true := by
      rwa [PendingInteraction.requiresResponse, henvelope]
    have hsettles' := hsettles.2
    rw [← harrival] at hsettles' ⊢
    rw [← henvelope]
    exact ih (invariant_step h input) hundisturbed.2 hp' hresponse' hsettles'

/-- What arrives is pending. -/
theorem step_arriving {app : AppState} {input : Input} {envelope : UiInteractionEnvelope}
    (h : app.arriving input = some envelope) :
    (app.step input).interactions envelope.agentId = some ⟨app.arrivals, envelope, .acquiring⟩ := by
  unfold arriving at h
  split at h
  · obtain ⟨hfree, heq⟩ := Option.ite_none_right_eq_some.mp h
    cases heq
    rw [step, if_pos hfree]
    unfold takeEvent
    dsimp only
    split <;> exact Function.update_self ..
  · cases h

/-- What is removed is not. -/
theorem step_removes {app : AppState} {input : Input} {arrival : Nat} {agentId : AgentId}
    (h : app.removes input = some (arrival, agentId)) :
    (app.step input).interactions agentId = none := by
  unfold removes at h
  split at h
  · obtain ⟨shown, hshown, heq⟩ := Option.map_eq_some_iff.mp h
    obtain ⟨hdialog, hpassive⟩ := Option.filter_eq_some_iff.mp hshown
    cases heq
    have hnot : ¬ shown.requiresResponse = true := by simpa using hpassive
    simp only [step, hdialog, if_neg hnot]
    exact Function.update_self ..
  · obtain ⟨answer, hanswer, heq⟩ := Option.map_eq_some_iff.mp h
    cases heq
    simp only [step, hanswer]
    exact Function.update_self ..
  · cases h

/-- An interaction that waits for a response stays pending until it is answered or
dismissed, and what belongs to another one neither marks nor removes it. -/
structure KeepsInteractions (inputs : List Input) : Prop where
  stays : ∀ before during after, inputs = before ++ during ++ after → ∀ agentId p,
    (run step initial before).interactions agentId = some p → p.requiresResponse = true →
      Along step (fun app input => ¬ app.Settles p.arrival input) (run step initial before)
        during →
      ∃ p', (run step initial (before ++ during)).interactions agentId = some p' ∧
        p'.arrival = p.arrival ∧ p'.envelope = p.envelope
  others : ∀ before input after, inputs = before ++ input :: after → ∀ agentId p,
    (run step initial before).interactions agentId = some p → ∀ other,
      (run step initial before).subject input = some other → other ≠ p.arrival →
        ((run step initial before).step input).interactions agentId = some p

/-- **When interactions are not displaced.** A run keeps its interactions iff in each of its
steps an interaction arrives only when none of its agent waits for a response, and an
answer is accepted or a notice dismissed only when nothing that arrived later is pending. -/
theorem keepsInteractions_iff (inputs : List Input) :
    KeepsInteractions inputs ↔ Along step Undisturbed initial inputs := by
  constructor
  · intro h
    refine along_iff.mpr fun before input after hsplit => ⟨?_, ?_⟩
    · intro envelope harriving p hp
      -- it would be replaced by the one that arrives
      by_contra hresponse
      have hresponse := Bool.of_not_eq_false hresponse
      have hsettles : ¬ (run step initial before).Settles p.arrival input := by
        rintro ⟨agentId, hremoves⟩
        cases input with
        | event event => cases hremoves
        | _ => cases harriving
      obtain ⟨p', hp', harrival, -⟩ := h.stays before [input] after
        (by rw [hsplit, List.append_assoc]; rfl) envelope.agentId p hp hresponse
        ⟨hsettles, trivial⟩
      rw [run_append] at hp'
      cases (step_arriving harriving).symm.trans hp'
      have := ((invariant_run before).pending envelope.agentId p hp).2
      exact absurd harrival (Nat.ne_of_gt this)
    · rintro ⟨arrival, agentId⟩ hremoves p hp
      by_contra hlater
      -- the answer belongs to another interaction, and removes this one
      have hne : arrival ≠ p.arrival := Nat.ne_of_lt (Nat.lt_of_not_le hlater)
      have hkept := h.others before input after hsplit agentId p hp arrival
        (removes_held hremoves).2 hne
      rw [step_removes hremoves] at hkept
      cases hkept
  · intro hundisturbed
    constructor
    · rintro before during after rfl agentId p hp hresponse hsettles
      rw [List.append_assoc] at hundisturbed
      -- the steps from where it is pending on
      have hduring := (along_append.mp (along_append.mp hundisturbed).2).1
      rw [run_append]
      exact run_stays (invariant_run before) hduring hp hresponse hsettles
    · rintro before input after rfl agentId p hp other hsubject hother
      exact step_others (invariant_run before) (along_append.mp hundisturbed).2.1 hp hsubject
        hother

/-- A question of an agent. -/
def question (id : String) : UiInteractionEnvelope := ⟨⟨"agent"⟩, ⟨0⟩, id, .confirm "" "" none⟩

/-- A second question arrives while the first is answered. -/
def overtaken : List Input :=
  [.event (.interactionRequest (question "first")), .leased (.ok ()), .render ⟨"agent"⟩,
    .answer (.confirmed true), .event (.interactionRequest (question "second")),
    .leased (.ok ()), .answered 0 (.ok ())]

/-- It is pending and removed with the answer to the first. -/
theorem overtaken_removed :
    ((run step initial (overtaken.take 6)).interactions ⟨"agent"⟩).map
        (fun p => (p.arrival, p.envelope)) = some (1, question "second") ∧
      (run step initial (overtaken.take 6)).subject (.answered 0 (.ok ())) = some 0 ∧
      (run step initial overtaken).interactions ⟨"agent"⟩ = none ∧
      ¬ KeepsInteractions overtaken := by
  have hpending : ((run step initial (overtaken.take 6)).interactions ⟨"agent"⟩).map
      (fun p => (p.arrival, p.envelope)) = some (1, question "second") := by decide +kernel
  have hsubject : (run step initial (overtaken.take 6)).subject (.answered 0 (.ok ())) =
      some 0 := by decide +kernel
  have hnone : (run step initial overtaken).interactions ⟨"agent"⟩ = none := by decide +kernel
  refine ⟨hpending, hsubject, hnone, fun h => ?_⟩
  obtain ⟨p, hp, heq⟩ := Option.map_eq_some_iff.mp hpending
  have harrival : p.arrival = 1 := congrArg Prod.fst heq
  have hkept := h.others (overtaken.take 6) (.answered 0 (.ok ())) [] rfl ⟨"agent"⟩ p hp 0 hsubject
    (by rw [harrival]; decide)
  have hremoved : ((run step initial (overtaken.take 6)).step (.answered 0 (.ok ()))).interactions
      ⟨"agent"⟩ = none := hnone
  rw [hremoved] at hkept
  cases hkept

end AppState

end OmpRemote.App

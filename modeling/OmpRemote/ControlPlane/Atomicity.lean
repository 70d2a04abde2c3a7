import OmpRemote.ControlPlane.Exclusion

/-!
# Commands that fail

A command that is answered with an error should leave no trace, and a lease should have
its timer. Both rest on the order in which a command touches the timer and numbers its
update, and the counters can run out.

- `Exhausted`, `applyChange_error_iff`: when a change cannot be numbered.
- `Coupled`: the timer is armed exactly while there is a lease.
- `World.LosesDeadline`: a lease is to end, but that can no longer be numbered.
- `atomic_iff`: one step; `commands_atomic_iff`: runs from a snapshot without a lease.
-/

namespace OmpRemote

open Lib Rpc

/-- No revision or no event sequence is left. -/
def AgentSnapshot.Exhausted (snapshot : AgentSnapshot) : Prop :=
  snapshot.revision.toNat = 2 ^ 64 - 1 ∨ snapshot.eventSequence.toNat = 2 ^ 64 - 1

namespace ControlPlane

/-- The reply is an error. -/
def ActorReply.fails : ActorReply → Bool
  | .stopped | .changed (.error _) | .published (.error _) | .leased (.error _)
  | .released (.error _) => true
  | .nothing | .snapshot _ | .changed (.ok _) | .published (.ok _) | .subscribed _
  | .leased (.ok _) | .released (.ok _) | .shutdown => false

/-- The timer is armed exactly while there is a lease. -/
def ActorState.Coupled (state : ActorState) : Prop :=
  (∃ lease, state.snapshot.interaction = .leased lease) ↔ state.leaseDeadline.isSome = true

/-- A command that is answered with an error has changed nothing: neither the actor, its
subscribers' channels included, nor what the subscribers hold. -/
def HandleEvent.Atomic (e : HandleEvent) : Prop := e.output.fails = true → e.after = e.before

/-- The lease is to end, by its holder's hand or by the timer, but no update can be
numbered any more. -/
structure World.LosesDeadline (w : World) (input : HandleInput) : Prop where
  running : w.actor.running = true
  exhausted : w.actor.snapshot.Exhausted
  ends : (∃ holder, input = .call (.releaseInteractionLease holder) ∧
      w.actor.snapshot.HeldBy holder) ∨
    input = .leaseTimer ∧ w.actor.leaseDeadline.isSome = true

namespace ActorState

variable {state : ActorState} {change : AgentStateChange} {holder : LeaseHolderId}

/-! ## Numbering -/

/-- A change fails if and only if it would change something and cannot be numbered. -/
theorem applyChange_error_iff (state : ActorState) (change : AgentStateChange) :
    (∃ error, (state.applyChange change).1 = .error error) ↔
      state.snapshot.wouldChange change = true ∧ state.snapshot.Exhausted := by
  constructor
  · rintro ⟨error, herror⟩
    unfold applyChange at herror
    split at herror
    · cases herror
    rename_i hchange
    refine ⟨by simpa using hchange, ?_⟩
    cases hrevision : checkedAdd state.snapshot.revision 1 with
    | none => exact .inl (checkedAdd_one_eq_none.mp hrevision)
    | some revision =>
      cases hsequence : checkedAdd state.snapshot.eventSequence 1 with
      | none => exact .inr (checkedAdd_one_eq_none.mp hsequence)
      | some sequence =>
        -- the delta is the next one, so that it applies
        have hnext := checkedAdd_one_eq_some.mp hsequence
        have haccepts : state.snapshot.Accepts (.delta sequence
            ⟨state.snapshot.agentId, state.snapshot.revision, revision, change⟩) :=
          ⟨rfl, UInt64.lt_iff_toNat_lt.mpr (by omega), rfl,
            (saturatingAdd_of_checkedAdd hrevision).symm⟩
        have happly : state.snapshot.applyDelta
            ⟨state.snapshot.agentId, state.snapshot.revision, revision, change⟩ sequence =
            .ok (state.snapshot.updated (.delta sequence
              ⟨state.snapshot.agentId, state.snapshot.revision, revision, change⟩)) :=
          AgentSnapshot.applyUpdate_ok.mpr ⟨haccepts, rfl⟩
        simp only [nextEventSequence, hrevision, hsequence, happly] at herror
        cases herror
  · rintro ⟨hchange, hexhausted⟩
    unfold applyChange
    rw [hchange]
    cases hrevision : checkedAdd state.snapshot.revision 1 with
    | none => exact ⟨.revisionExhausted, rfl⟩
    | some revision =>
      have hroom := checkedAdd_one_eq_some.mp hrevision
      have hlast : checkedAdd state.snapshot.eventSequence 1 = none := by
        refine checkedAdd_one_eq_none.mpr (hexhausted.resolve_left fun hrev => ?_)
        have := revision.toNat_lt
        omega
      simp only [nextEventSequence, hlast]
      exact ⟨.eventSequenceExhausted, rfl⟩

/-- A change that fails leaves everything, and no change touches the timer. -/
theorem applyChange_kept (state : ActorState) (change : AgentStateChange) :
    ((∃ error, (state.applyChange change).1 = .error error) →
      (state.applyChange change).2 = state) ∧
    (state.applyChange change).2.leaseDeadline = state.leaseDeadline := by
  rcases applyChange_cases state change with ⟨hsame, -⟩ | ⟨seq, delta, snapshot, -, -, -, happly⟩
  · exact ⟨fun _ => hsame, congrArg ActorState.leaseDeadline hsame⟩
  · rw [happly]
    refine ⟨?_, rfl⟩
    rintro ⟨error, herror⟩
    cases herror

/-! ## The lease and its timer -/

theorem coupled_of_same {state' : ActorState} (h : state.Coupled)
    (hinteraction : state'.snapshot.interaction = state.snapshot.interaction)
    (hdeadline : state'.leaseDeadline = state.leaseDeadline) : state'.Coupled := by
  unfold Coupled
  rw [hinteraction, hdeadline]
  exact h

/-- The end of a lease, after the timer has been disarmed. -/
def unclaim (state : ActorState) : Except AgentError (Option StateDelta) × ActorState :=
  (state.setDeadline none).applyChange (.interactionChanged .unclaimed)

/-- If it can be numbered, there is neither lease nor timer afterwards. -/
theorem unclaim_ok (hroom : ¬ state.snapshot.Exhausted) :
    (∃ delta, state.unclaim.1 = .ok delta) ∧ state.unclaim.2.Coupled := by
  have hdeadline : state.unclaim.2.leaseDeadline = none :=
    (applyChange_kept (state.setDeadline none) (.interactionChanged .unclaimed)).2
  rcases applyChange_interaction (state.setDeadline none) .unclaimed with
    ⟨error, herror⟩ | ⟨hok, hinteraction⟩
  · have hfails := (applyChange_error_iff (state.setDeadline none)
      (.interactionChanged .unclaimed)).mp ⟨error, congrArg Prod.fst herror⟩
    exact absurd hfails.2 hroom
  · refine ⟨hok, ?_⟩
    unfold Coupled
    rw [hdeadline]
    have hunclaimed : state.unclaim.2.snapshot.interaction = .unclaimed := hinteraction
    rw [hunclaimed]
    constructor
    · rintro ⟨lease, hlease⟩
      cases hlease
    · intro hnone
      cases hnone

/-- If it cannot, the lease is left without its timer. -/
theorem unclaim_error {lease : InteractionLease}
    (hlease : state.snapshot.interaction = .leased lease)
    (hexhausted : state.snapshot.Exhausted) : ¬ state.unclaim.2.Coupled := by
  have hchange : (state.setDeadline none).snapshot.wouldChange (.interactionChanged .unclaimed) =
      true := by
    rw [AgentSnapshot.wouldChange]
    refine decide_eq_true fun hsame => ?_
    have hinteraction := congrArg AgentSnapshot.interaction hsame
    rw [setDeadline_snapshot, hlease] at hinteraction
    cases hinteraction
  have hkept : state.unclaim.2 = state.setDeadline none :=
    (applyChange_kept _ _).1 ((applyChange_error_iff _ _).mpr ⟨hchange, hexhausted⟩)
  rw [hkept]
  intro hcoupled
  have harmed := hcoupled.mp ⟨lease, hlease⟩
  cases harmed

/-- An acquisition is refused and leaves everything, or there are a lease and a timer. -/
theorem acquireLease_coupled (state : ActorState) (holder : LeaseHolderId) (nowMs : UInt64)
    (ttlMs : { ttl : UInt64 // ttl ≠ 0 }) (deadline : Option Instant) :
    (∃ error, state.acquireLease holder nowMs ttlMs deadline = (.error error, state)) ∨
      (∃ lease, (state.acquireLease holder nowMs ttlMs deadline).1 = .ok lease) ∧
        (state.acquireLease holder nowMs ttlMs deadline).2.Coupled := by
  rcases acquireLease_cases state holder nowMs ttlMs deadline with
    hrefused | ⟨lease, hok, -, -, hinteraction⟩
  · exact .inl hrefused
  · refine .inr ⟨⟨lease, hok⟩, ?_⟩
    have harmed : (state.acquireLease holder nowMs ttlMs deadline).2.leaseDeadline = deadline ∧
        deadline.isSome = true := by
      unfold acquireLease at hok ⊢
      split
      · rename_i hheld
        simp only [hheld] at hok
        cases hok
      rename_i hfree
      split
      · rename_i hoverflow
        simp only [hfree, hoverflow] at hok
        cases hok
      rename_i expiresAtMs hexpires
      split
      · simp only [hfree, hexpires] at hok
        cases hok
      · simp only [hfree, hexpires] at hok
        dsimp only
        split
        · rename_i error after happly
          rw [happly] at hok
          cases hok
        · exact ⟨rfl, rfl⟩
    refine ⟨fun _ => ?_, fun _ => ⟨lease, hinteraction⟩⟩
    rw [harmed.1]
    exact harmed.2

/-- The holder's release is the end of the lease. -/
theorem releaseLease_held (h : state.snapshot.HeldBy holder) :
    (state.releaseLease holder).1 = state.unclaim.1.map (fun _ => ()) ∧
      (state.releaseLease holder).2 = state.unclaim.2 := by
  obtain ⟨lease, hlease, hholder⟩ := h
  unfold releaseLease unclaim
  rw [hlease]
  dsimp only
  rw [if_neg (fun hother => hother hholder)]
  split
  · rename_i happly
    rw [happly]
    exact ⟨rfl, rfl⟩
  · rename_i happly
    rw [happly]
    exact ⟨rfl, rfl⟩

end ActorState

/-! ## One step -/

section Step

variable {w : World} {input : HandleInput}

/-- What makes a step of the actor atomic. -/
theorem atomic_turn (turned : ActorInput) (hinput : input.world = .actor turned)
    (hkept : (w.actor.turn turned).1.fails = true → (w.actor.turn turned).2 = w.actor) :
    HandleEvent.Atomic (Mealy.event World.respond w input) := by
  have houtput : (w.respond input).1 = (w.actor.turn turned).1 := by
    unfold World.respond
    rw [hinput]
  intro hfails
  replace hfails : (w.respond input).1.fails = true := hfails
  rw [houtput] at hfails
  refine respond_same turned hinput (hkept hfails) ?_
  cases hreply : (w.actor.turn turned).1 with
  | subscribed subscription =>
    rw [hreply] at hfails
    cases hfails
  | _ => rfl

/-- A step of a subscriber is no command, and leaves lease and timer. -/
theorem subscriber_atomic (h : w.actor.Coupled) (hinput : ∀ turned, input.world ≠ .actor turned) :
    HandleEvent.Atomic (Mealy.event World.respond w input) ∧
      (w.respond input).2.actor.Coupled := by
  obtain ⟨hsnapshot, -, hdeadline⟩ := subscriber_step w input.world hinput
  refine ⟨?_, ActorState.coupled_of_same h (congrArg AgentSnapshot.interaction hsnapshot) hdeadline⟩
  intro hfails
  replace hfails : (w.respond input).1.fails = true := hfails
  have hnothing : (w.respond input).1 = .nothing := by
    unfold World.respond
    split
    · rename_i turned hturned
      exact absurd hturned (hinput turned)
    all_goals rfl
  rw [hnothing] at hfails
  cases hfails

/-- A change of something other than the lease. -/
theorem change_atomic (h : w.actor.Coupled) {change : AgentStateChange}
    (hother : ∀ snapshot, (OmpRemote.applyChange snapshot change).interaction =
      snapshot.interaction) :
    ((ActorReply.changed ((w.actor.applyChange change).1.map fun _ => ())).fails = true →
      (w.actor.applyChange change).2 = w.actor) ∧ (w.actor.applyChange change).2.Coupled := by
  obtain ⟨hkept, hdeadline⟩ := ActorState.applyChange_kept w.actor change
  refine ⟨?_, ActorState.coupled_of_same h
    (ActorState.interaction_applyChange w.actor hother) hdeadline⟩
  intro hfails
  cases hresult : (w.actor.applyChange change).1 with
  | error error => exact hkept ⟨error, hresult⟩
  | ok delta =>
    rw [hresult] at hfails
    cases hfails

/-- **One step**: a lease that has its timer keeps it, and errors leave everything as it
was, if and only if the step is not one at which a lease ends without a number. -/
theorem atomic_iff (w : World) (input : HandleInput) (h : w.actor.Coupled) :
    HandleEvent.Atomic (Mealy.event World.respond w input) ∧
        (w.respond input).2.actor.Coupled ↔ ¬ w.LosesDeadline input := by
  have hafter : ∀ turned, input.world = .actor turned →
      (w.respond input).2.actor = (w.actor.turn turned).2 := by
    intro turned hinput
    show (w.step input.world).actor = _
    rw [hinput]
    exact turn_actor w turned
  constructor
  · -- the timer is gone and the lease is not
    rintro ⟨-, hcoupled⟩ ⟨hrunning, hexhausted, ⟨holder, rfl, hheld⟩ | ⟨rfl, harmed⟩⟩
    · have hturn : (w.actor.turn (.command (.releaseLease holder))).2 = w.actor.unclaim.2 := by
        unfold ActorState.turn
        rw [hrunning]
        exact (ActorState.releaseLease_held hheld).2
      obtain ⟨lease, hlease, -⟩ := hheld
      rw [hafter _ rfl] at hcoupled
      replace hcoupled : (w.actor.turn (.command (.releaseLease holder))).2.Coupled := hcoupled
      rw [hturn] at hcoupled
      exact ActorState.unclaim_error hlease hexhausted hcoupled
    · have hturn : (w.actor.turn .leaseTimer).2 = w.actor.unclaim.2 := by
        unfold ActorState.turn
        simp only [hrunning, Bool.not_true, Bool.false_eq_true, if_false]
        rw [if_neg (fun hnone => Option.isSome_iff_ne_none.mp harmed
          (Option.isNone_iff_eq_none.mp hnone))]
        rfl
      obtain ⟨lease, hlease⟩ := h.mpr harmed
      rw [hafter _ rfl, hturn] at hcoupled
      exact ActorState.unclaim_error hlease hexhausted hcoupled
  · intro hno
    -- it is enough to look at the turns of a task that has not ended
    have hturned : ∀ turned, input.world = .actor turned →
        (w.actor.running = true →
          ((w.actor.turn turned).1.fails = true → (w.actor.turn turned).2 = w.actor) ∧
            (w.actor.turn turned).2.Coupled) →
        HandleEvent.Atomic (Mealy.event World.respond w input) ∧
          (w.respond input).2.actor.Coupled := by
      intro turned hinput hturn
      rw [hafter turned hinput]
      cases hrunning : w.actor.running with
      | true =>
        obtain ⟨hkept, hcoupled⟩ := hturn hrunning
        exact ⟨atomic_turn turned hinput hkept, hcoupled⟩
      | false =>
        have hsame : (w.actor.turn turned).2 = w.actor := by
          unfold ActorState.turn
          rw [hrunning]
          rfl
        rw [hsame]
        exact ⟨atomic_turn turned hinput fun _ => hsame, h⟩
    cases input with
    | recv id | poll id | cancel id | drop id =>
      exact subscriber_atomic h (by rintro _ ⟨⟩)
    | disconnected =>
      refine hturned .disconnected rfl fun hrunning => ?_
      unfold ActorState.turn
      rw [hrunning]
      exact ⟨by rintro ⟨⟩, ActorState.coupled_of_same h rfl rfl⟩
    | leaseTimer =>
      refine hturned .leaseTimer rfl fun hrunning => ?_
      unfold ActorState.turn
      simp only [hrunning, Bool.not_true, Bool.false_eq_true, if_false]
      split
      · exact ⟨by rintro ⟨⟩, h⟩
      · rename_i harmed
        have hroom : ¬ w.actor.snapshot.Exhausted := fun hexhausted =>
          hno ⟨hrunning, hexhausted, .inr ⟨rfl, Option.isSome_iff_ne_none.mpr fun hnone =>
            harmed (Option.isNone_iff_eq_none.mpr hnone)⟩⟩
        exact ⟨by rintro ⟨⟩, (ActorState.unclaim_ok hroom).2⟩
    | call method =>
      refine hturned (.command method.command) rfl fun hrunning => ?_
      have hturn : w.actor.turn (.command method.command) = w.actor.command method.command := by
        unfold ActorState.turn
        rw [hrunning]
        rfl
      rw [hturn]
      cases method with
      | snapshot | shutdown | subscribe cursor =>
        exact ⟨by rintro ⟨⟩, ActorState.coupled_of_same h rfl rfl⟩
      | setLifecycle | setSession | clearSession | removeRun | setAvailableCommands =>
        exact change_atomic h fun _ => rfl
      | upsertRun run =>
        refine change_atomic h fun snapshot => ?_
        simp only [OmpRemote.applyChange]
        split <;> rfl
      | publishEvent event =>
        show ((ActorReply.published (w.actor.publishEvent event).1).fails = true →
          (w.actor.publishEvent event).2 = w.actor) ∧ (w.actor.publishEvent event).2.Coupled
        rcases w.actor.publishEvent_cases event with ⟨hsame, -⟩ | ⟨seq, snapshot, hadv, hpublish⟩
        · rw [hsame]
          exact ⟨fun _ => rfl, h⟩
        · rw [hpublish]
          refine ⟨by rintro ⟨⟩, ActorState.coupled_of_same h ?_ rfl⟩
          rw [ActorState.record_snapshot, hadv.updated]
          rfl
      | acquireInteractionLease holder nowMs ttlMs deadline =>
        show ((ActorReply.leased (w.actor.acquireLease holder nowMs ttlMs deadline).1).fails =
          true → (w.actor.acquireLease holder nowMs ttlMs deadline).2 = w.actor) ∧
            (w.actor.acquireLease holder nowMs ttlMs deadline).2.Coupled
        rcases w.actor.acquireLease_coupled holder nowMs ttlMs deadline with
          ⟨error, hrefused⟩ | ⟨⟨lease, hok⟩, hcoupled⟩
        · rw [hrefused]
          exact ⟨fun _ => rfl, h⟩
        · rw [hok]
          exact ⟨by rintro ⟨⟩, hcoupled⟩
      | releaseInteractionLease holder =>
        show ((ActorReply.released (w.actor.releaseLease holder).1).fails = true →
          (w.actor.releaseLease holder).2 = w.actor) ∧ (w.actor.releaseLease holder).2.Coupled
        by_cases hheld : w.actor.snapshot.HeldBy holder
        · have hroom : ¬ w.actor.snapshot.Exhausted := fun hexhausted =>
            hno ⟨hrunning, hexhausted, .inl ⟨holder, rfl, hheld⟩⟩
          obtain ⟨hresult, hstate⟩ := ActorState.releaseLease_held hheld
          obtain ⟨⟨delta, hok⟩, hcoupled⟩ := ActorState.unclaim_ok hroom
          rw [hresult, hstate, hok]
          exact ⟨by rintro ⟨⟩, hcoupled⟩
        · obtain ⟨error, hrefused⟩ := ActorState.releaseLease_other hheld
          rw [hrefused]
          exact ⟨fun _ => rfl, h⟩

end Step

/-! ## Runs -/

/-- **Commands are atomic on error**, and a lease has its timer, in a run from a snapshot
without a lease if and only if no lease is to end after the counters have run out. -/
theorem commands_atomic_iff (initial : AgentSnapshot) (config : AgentActorConfig)
    (inputs : List HandleInput) (hunclaimed : initial.interaction = .unclaimed) :
    (∀ e ∈ handling initial config inputs, e.Atomic ∧ e.after.actor.Coupled) ↔
      Along (fun w input => (World.respond w input).2) (fun w input => ¬ w.LosesDeadline input)
        (World.start initial config) inputs := by
  have hstart : (World.start initial config).actor.Coupled := by
    constructor
    · rintro ⟨lease, hlease⟩
      cases hunclaimed.symm.trans hlease
    · intro harmed
      cases harmed
  unfold handling
  generalize World.start initial config = w at hstart
  clear hunclaimed
  induction inputs generalizing w with
  | nil =>
    refine ⟨fun _ => trivial, ?_⟩
    intro _ e he
    rw [Mealy.trace] at he
    exact absurd he List.not_mem_nil
  | cons input inputs ih =>
    rw [Mealy.trace, List.forall_mem_cons]
    constructor
    · rintro ⟨hstep, hrest⟩
      exact ⟨(atomic_iff w input hstart).mp hstep, (ih _ hstep.2).mp hrest⟩
    · rintro ⟨hstep, hrest⟩
      have hatomic := (atomic_iff w input hstart).mpr hstep
      exact ⟨hatomic, (ih _ hatomic.2).mpr hrest⟩

/-- An agent with one revision left. -/
def oneLeft : AgentSnapshot :=
  { AgentSnapshot.initial ⟨"agent"⟩ with revision := 18446744073709551614 }

/-- The lease takes it. -/
def acquires : HandleInput :=
  .call (.acquireInteractionLease ⟨"phone"⟩ 0 ⟨1000, by decide⟩ (some 1000))

def releases : HandleInput := .call (.releaseInteractionLease ⟨"phone"⟩)

/-- The counters run out while the phone has the lease; nobody ends it. -/
def runsOut : List HandleInput :=
  [acquires, .call (.releaseInteractionLease ⟨"tablet"⟩), .call (.setLifecycle .idle)]

/-- The last two calls fail, and leave everything. -/
theorem commands_atomic_last :
    (handling oneLeft .default runsOut).map (·.output.fails) = [false, true, true] ∧
      ∀ e ∈ handling oneLeft .default runsOut, e.Atomic ∧ e.after.actor.Coupled := by
  refine ⟨by decide +kernel, (commands_atomic_iff oneLeft .default runsOut rfl).mpr ?_⟩
  refine ⟨?_, ?_, ?_, trivial⟩
  · rintro ⟨-, -, ⟨holder, hinput, -⟩ | ⟨hinput, -⟩⟩
    · cases hinput
    · cases hinput
  · rintro ⟨-, -, ⟨holder, hinput, lease, hlease, hholder⟩ | ⟨hinput, -⟩⟩
    · cases hinput
      cases hlease
      exact absurd hholder (by decide)
    · cases hinput
  · rintro ⟨-, -, ⟨holder, hinput, -⟩ | ⟨hinput, -⟩⟩
    · cases hinput
    · cases hinput

/-- The release is refused, and yet the timer is gone: the lease never ends. -/
theorem release_disarms :
    ¬ (∀ e ∈ handling oneLeft .default [acquires, releases],
        e.Atomic ∧ e.after.actor.Coupled) ∧
      (handling oneLeft .default [acquires, releases]).map (fun e =>
          (e.output.fails, e.after.actor.snapshot.interaction, e.after.actor.leaseDeadline)) =
        [(false, .leased ⟨⟨"phone"⟩, 1000⟩, some 1000), (true, .leased ⟨⟨"phone"⟩, 1000⟩, none)] := by
  refine ⟨?_, by decide +kernel⟩
  intro hall
  have hcoupled := (hall _ (List.mem_cons_of_mem _ List.mem_cons_self)).2
  exact absurd (hcoupled.mp ⟨⟨⟨"phone"⟩, 1000⟩, by decide +kernel⟩) (by decide +kernel)

end ControlPlane

end OmpRemote

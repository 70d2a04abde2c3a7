import OmpRemote.ControlPlane.Subscription
import OmpRemote.Protocol.Convergence

/-!
# Exclusive leases

One holder at a time may answer the agent's questions. Users of an `AgentHandle`,
the lease timer and the subscribers are interleaved at will.

- `HandleInput`: what can happen. A handle has no method that sets the interaction,
  so that only the lease commands and the timer do.
- `interaction_step`: the lease that is in the snapshot stays its holder's, unless it
  is released, times out, or is taken over when it has expired.
- `lease_exclusive`: what that means over whole runs, what refused calls leave, and
  what subscribers see of it.
-/

namespace OmpRemote

open Lib Rpc

/-- The lease is the holder's. -/
def AgentSnapshot.HeldBy (snapshot : AgentSnapshot) (holder : LeaseHolderId) : Prop :=
  ∃ lease, snapshot.interaction = .leased lease ∧ lease.holder = holder

namespace ControlPlane

/-- The methods of an `AgentHandle`. -/
inductive HandleCall where
  | snapshot
  | setLifecycle (lifecycle : AgentLifecycle)
  | setSession (session : SessionSummary)
  | clearSession
  | upsertRun (run : RunSnapshot)
  | removeRun (runId : RunId)
  | setAvailableCommands (commands : List AvailableSlashCommand)
  | publishEvent (event : ServerMessage)
  | subscribe (cursor : Option SubscriptionCursor)
  | acquireInteractionLease (holder : LeaseHolderId) (nowMs : UInt64)
      (ttlMs : { ttl : UInt64 // ttl ≠ 0 }) (deadline : Option Instant)
  | releaseInteractionLease (holder : LeaseHolderId)
  | shutdown

/-- The command that a method sends. -/
def HandleCall.command : HandleCall → ActorCommand
  | .snapshot => .snapshot
  | .setLifecycle lifecycle => .change (.lifecycleChanged lifecycle)
  | .setSession session => .change (.sessionChanged session)
  | .clearSession => .change .sessionCleared
  | .upsertRun run => .change (.runUpserted run)
  | .removeRun runId => .change (.runRemoved runId)
  | .setAvailableCommands commands => .change (.availableCommandsChanged commands)
  | .publishEvent event => .publishEvent event
  | .subscribe cursor => .subscribe cursor
  | .acquireInteractionLease holder nowMs ttlMs deadline =>
    .acquireLease holder nowMs ttlMs deadline
  | .releaseInteractionLease holder => .releaseLease holder
  | .shutdown => .shutdown

/-- A call, the timer, the last handle going, or a step of a subscriber. -/
inductive HandleInput where
  | call (method : HandleCall)
  | leaseTimer
  | disconnected
  | recv (id : SubscriptionId)
  | poll (id : SubscriptionId)
  | cancel (id : SubscriptionId)
  | drop (id : SubscriptionId)

def HandleInput.world : HandleInput → WorldInput
  | .call method => .actor (.command method.command)
  | .leaseTimer => .actor .leaseTimer
  | .disconnected => .actor .disconnected
  | .recv id => .recv id
  | .poll id => .poll id
  | .cancel id => .cancel id
  | .drop id => .drop id

/-- A step, with what the actor replies. -/
def World.respond (w : World) (input : HandleInput) : ActorReply × World :=
  (match input.world with
    | .actor input => (w.actor.turn input).1
    | .recv _ | .poll _ | .cancel _ | .drop _ => .nothing,
    w.step input.world)

/-- One step of a run. -/
abbrev HandleEvent := Mealy.Event World HandleInput ActorReply

namespace HandleEvent

/-- The holder gets the lease, at its time. -/
def Acquires (e : HandleEvent) (holder : LeaseHolderId) (nowMs : UInt64) : Prop :=
  ∃ ttlMs deadline lease, e.input = .call (.acquireInteractionLease holder nowMs ttlMs deadline) ∧
    e.output = .leased (.ok lease)

/-- The holder gives the lease up. -/
def Releases (e : HandleEvent) (holder : LeaseHolderId) : Prop :=
  e.input = .call (.releaseInteractionLease holder) ∧ e.output = .released (.ok ())

def Fires (e : HandleEvent) : Prop :=
  e.input = .leaseTimer ∧ e.before.actor.running = true ∧
    e.before.actor.leaseDeadline.isSome = true

/-- Another gets the lease at a time at which the holder's has expired. -/
def TakesOver (e : HandleEvent) (holder : LeaseHolderId) : Prop :=
  ∃ other nowMs held, other ≠ holder ∧ e.Acquires other nowMs ∧
    e.before.actor.snapshot.interaction = .leased held ∧ held.holder = holder ∧
      held.expiresAtMs ≤ nowMs

end HandleEvent

/-! ## Lease commands -/

namespace ActorState

variable {state : ActorState} {holder : LeaseHolderId}

/-- A change of something else leaves the lease. -/
theorem interaction_applyChange (state : ActorState) {change : AgentStateChange}
    (h : ∀ snapshot, (OmpRemote.applyChange snapshot change).interaction = snapshot.interaction) :
    (state.applyChange change).2.snapshot.interaction = state.snapshot.interaction := by
  rcases applyChange_cases state change with ⟨hsame, -⟩ |
    ⟨seq, delta, snapshot, hdelta, -, hadv, happly⟩
  · rw [hsame]
  · rw [happly, record_snapshot, hadv.updated]
    show (OmpRemote.applyChange state.snapshot delta.change).interaction = _
    rw [hdelta]
    exact h state.snapshot

/-- A change of the lease makes it, or fails and leaves everything. -/
theorem applyChange_interaction (state : ActorState) (interaction : InteractionState) :
    (∃ error, state.applyChange (.interactionChanged interaction) = (.error error, state)) ∨
      (∃ delta, (state.applyChange (.interactionChanged interaction)).1 = .ok delta) ∧
        (state.applyChange (.interactionChanged interaction)).2.snapshot.interaction =
          interaction := by
  rcases applyChange_cases state (.interactionChanged interaction) with
    ⟨hsame, hnoop | ⟨error, herror⟩⟩ | ⟨seq, delta, snapshot, hdelta, -, hadv, happly⟩
  · refine .inr ?_
    have hok : (state.applyChange (.interactionChanged interaction)).1 = .ok none := by
      unfold applyChange
      simp [AgentSnapshot.wouldChange, hnoop]
    refine ⟨⟨none, hok⟩, ?_⟩
    rw [hsame, ← hnoop]
    rfl
  · exact .inl ⟨error, Prod.ext herror hsame⟩
  · refine .inr ⟨⟨some delta, by rw [happly]⟩, ?_⟩
    rw [happly, record_snapshot, hadv.updated]
    show (OmpRemote.applyChange state.snapshot delta.change).interaction = _
    rw [hdelta]
    rfl

/-- An acquisition is refused and leaves everything, or the lease is the holder's. -/
theorem acquireLease_cases (state : ActorState) (holder : LeaseHolderId) (nowMs : UInt64)
    (ttlMs : { ttl : UInt64 // ttl ≠ 0 }) (deadline : Option Instant) :
    (∃ error, state.acquireLease holder nowMs ttlMs deadline = (.error error, state)) ∨
      ∃ lease, (state.acquireLease holder nowMs ttlMs deadline).1 = .ok lease ∧
        lease.holder = holder ∧ state.heldByOther holder nowMs = none ∧
        (state.acquireLease holder nowMs ttlMs deadline).2.snapshot.interaction =
          .leased lease := by
  unfold acquireLease
  split
  · exact .inl ⟨_, rfl⟩
  rename_i hfree
  split
  · exact .inl ⟨_, rfl⟩
  rename_i expiresAtMs hexpires
  split
  · exact .inl ⟨_, rfl⟩
  rename_i deadline
  dsimp only
  rcases applyChange_interaction state (.leased ⟨holder, expiresAtMs⟩) with
    ⟨error, happly⟩ | ⟨⟨delta, hok⟩, hinteraction⟩
  · rw [happly]
    exact .inl ⟨error, rfl⟩
  · generalize state.applyChange (.interactionChanged (.leased ⟨holder, expiresAtMs⟩)) = applied at *
    obtain ⟨result, after⟩ := applied
    cases hok
    exact .inr ⟨⟨holder, expiresAtMs⟩, rfl, rfl, hfree, hinteraction⟩

/-- A release is refused, or the lease was the holder's. -/
theorem releaseLease_cases (state : ActorState) (holder : LeaseHolderId) :
    (∃ error, (state.releaseLease holder).1 = .error error ∧
      (state.releaseLease holder).2.snapshot = state.snapshot) ∨
      state.snapshot.HeldBy holder ∧ (state.releaseLease holder).1 = .ok () := by
  unfold releaseLease
  split
  · exact .inl ⟨_, rfl, rfl⟩
  rename_i lease hlease
  split
  · exact .inl ⟨_, rfl, rfl⟩
  rename_i hself
  have hholder : lease.holder = holder := by simpa using hself
  rcases applyChange_interaction (state.setDeadline none) .unclaimed with
    ⟨error, happly⟩ | ⟨⟨delta, hok⟩, -⟩
  · rw [happly]
    exact .inl ⟨error, rfl, rfl⟩
  · refine .inr ⟨⟨lease, hlease, hholder⟩, ?_⟩
    generalize (state.setDeadline none).applyChange (.interactionChanged .unclaimed) = applied at *
    obtain ⟨result, after⟩ := applied
    cases hok
    rfl

/-- A release by anyone but the holder is refused and leaves everything. -/
theorem releaseLease_other (h : ¬ state.snapshot.HeldBy holder) :
    ∃ error, state.releaseLease holder = (.error error, state) := by
  unfold releaseLease
  split
  · exact ⟨_, rfl⟩
  rename_i lease hlease
  rw [if_pos (fun hself => h ⟨lease, hlease, hself⟩)]
  exact ⟨_, rfl⟩

/-- The holder's lease keeps others out until it expires. -/
theorem expired_of_free {held : InteractionLease} {nowMs : UInt64}
    (h : state.snapshot.interaction = .leased held) (hother : holder ≠ held.holder)
    (hfree : state.heldByOther holder nowMs = none) : held.expiresAtMs ≤ nowMs := by
  by_contra hearly
  rw [UInt64.not_le] at hearly
  have hdiff : held.holder ≠ holder := hother.symm
  simp [heldByOther, h, hdiff, hearly] at hfree

end ActorState

/-! ## One step -/

section Step

variable {w : World} {held : InteractionLease}

/-- A step of a subscriber touches its channel at most. -/
theorem subscriber_step (w : World) (input : WorldInput)
    (h : ∀ turned, input ≠ .actor turned) :
    (w.step input).actor.snapshot = w.actor.snapshot ∧
      (w.step input).actor.history = w.actor.history ∧
      (w.step input).actor.leaseDeadline = w.actor.leaseDeadline := by
  cases input with
  | actor turned => exact absurd rfl (h turned)
  | recv id =>
    simp only [World.step, World.recv]
    split
    · exact ⟨rfl, rfl, rfl⟩
    split
    · exact ⟨rfl, rfl, rfl⟩
    split <;> exact ⟨rfl, rfl, rfl⟩
  | poll id =>
    simp only [World.step, World.poll]
    split
    · exact ⟨rfl, rfl, rfl⟩
    split
    · exact ⟨rfl, rfl, rfl⟩
    split
    · exact ⟨rfl, rfl, rfl⟩
    · split <;> exact ⟨rfl, rfl, rfl⟩
    · exact ⟨rfl, rfl, rfl⟩
  | cancel id =>
    simp only [World.step, World.cancel]
    split <;> exact ⟨rfl, rfl, rfl⟩
  | drop id =>
    simp only [World.step, World.drop]
    split <;> exact ⟨rfl, rfl, rfl⟩

theorem turn_actor (w : World) (input : ActorInput) :
    (w.turn input).actor = (w.actor.turn input).2 := by
  unfold World.turn
  dsimp only
  split <;> rfl

/-- What is recorded stays recorded. -/
theorem history_step (w : World) (input : WorldInput) :
    w.actor.history <+: (w.step input).actor.history := by
  cases input with
  | actor turned =>
    show w.actor.history <+: (w.turn turned).actor.history
    rw [turn_actor]
    rcases w.actor.turn_cases turned with ⟨cursor, -, hturn⟩ | ⟨-, heffect⟩
    · rw [hturn]
      exact List.prefix_refl _
    · generalize (w.actor.turn turned).2 = after at *
      cases heffect with
      | idle deadline => exact List.prefix_refl _
      | halted => exact List.prefix_refl _
      | records update snapshot deadline hadv => exact List.prefix_append _ _
  | recv id | poll id | cancel id | drop id =>
    rw [(subscriber_step w _ (by rintro _ ⟨⟩)).2.1]

/-- A lease that stays as it is. -/
theorem heldBy_of_same {snapshot : AgentSnapshot} (h : w.actor.snapshot.interaction = .leased held)
    (hsame : snapshot.interaction = w.actor.snapshot.interaction) :
    snapshot.HeldBy held.holder := ⟨held, hsame.trans h, rfl⟩

/-- **What can happen to a lease** at a step: it stays its holder's, or it is given
up, times out, or is taken over when it has expired. -/
theorem interaction_step (w : World) (input : HandleInput)
    (h : w.actor.snapshot.interaction = .leased held) :
    (w.respond input).2.actor.snapshot.HeldBy held.holder ∨
      HandleEvent.Releases (Mealy.event World.respond w input) held.holder ∨
      HandleEvent.Fires (Mealy.event World.respond w input) ∨
      HandleEvent.TakesOver (Mealy.event World.respond w input) held.holder := by
  -- a task that has ended does nothing any more
  have hhalted : ∀ turned, w.actor.running = false →
      (w.actor.turn turned).2.snapshot.HeldBy held.holder := by
    intro turned hhalted
    unfold ActorState.turn
    rw [hhalted]
    exact heldBy_of_same h rfl
  cases input with
  | recv id | poll id | cancel id | drop id =>
    refine .inl (heldBy_of_same h ?_)
    exact congrArg AgentSnapshot.interaction (subscriber_step w _ (by rintro _ ⟨⟩)).1
  | disconnected =>
    refine .inl ?_
    show (w.turn .disconnected).actor.snapshot.HeldBy held.holder
    rw [turn_actor]
    cases hrunning : w.actor.running with
    | false => exact hhalted _ hrunning
    | true =>
      unfold ActorState.turn
      rw [hrunning]
      exact heldBy_of_same h rfl
  | leaseTimer =>
    cases hrunning : w.actor.running with
    | false =>
      refine .inl ?_
      show (w.turn .leaseTimer).actor.snapshot.HeldBy held.holder
      rw [turn_actor]
      exact hhalted _ hrunning
    | true =>
      cases hdeadline : w.actor.leaseDeadline.isSome with
      | true => exact .inr (.inr (.inl ⟨rfl, hrunning, hdeadline⟩))
      | false =>
        refine .inl ?_
        show (w.turn .leaseTimer).actor.snapshot.HeldBy held.holder
        rw [turn_actor]
        unfold ActorState.turn
        rw [hrunning]
        rw [Option.isSome_eq_false_iff] at hdeadline
        simp only [Bool.not_true, Bool.false_eq_true, if_false, hdeadline, if_true]
        exact heldBy_of_same h rfl
  | call method =>
    have hafter : (w.respond (.call method)).2.actor =
        (w.actor.turn (.command method.command)).2 := turn_actor w _
    cases hrunning : w.actor.running with
    | false =>
      refine .inl ?_
      rw [hafter]
      exact hhalted _ hrunning
    | true =>
      have hturn : w.actor.turn (.command method.command) = w.actor.command method.command := by
        unfold ActorState.turn
        rw [hrunning]
        rfl
      have hreply : (Mealy.event World.respond w (.call method)).output =
          (w.actor.command method.command).1 := congrArg Prod.fst hturn
      rw [hafter, hturn]
      cases method with
      | snapshot | shutdown | subscribe cursor => exact .inl (heldBy_of_same h rfl)
      | publishEvent event =>
        refine .inl (heldBy_of_same h ?_)
        show (w.actor.publishEvent event).2.snapshot.interaction = _
        rcases w.actor.publishEvent_cases event with ⟨hsame, -⟩ | ⟨seq, snapshot, hadv, hpublish⟩
        · rw [hsame]
        · rw [hpublish, ActorState.record_snapshot, hadv.updated]
          rfl
      | setLifecycle | setSession | clearSession | removeRun | setAvailableCommands =>
        exact .inl (heldBy_of_same h (ActorState.interaction_applyChange _ fun _ => rfl))
      | upsertRun run =>
        refine .inl (heldBy_of_same h (ActorState.interaction_applyChange _ fun snapshot => ?_))
        simp only [OmpRemote.applyChange]
        split <;> rfl
      | acquireInteractionLease other nowMs ttlMs deadline =>
        rcases w.actor.acquireLease_cases other nowMs ttlMs deadline with
          ⟨error, hrefused⟩ | ⟨lease, hok, hlease, hfree, hinteraction⟩
        · refine .inl (heldBy_of_same h ?_)
          show (w.actor.acquireLease other nowMs ttlMs deadline).2.snapshot.interaction = _
          rw [hrefused]
        · by_cases hself : other = held.holder
          · exact .inl ⟨lease, hinteraction, hlease.trans hself⟩
          · have hacquires : HandleEvent.Acquires (Mealy.event World.respond w
                (.call (.acquireInteractionLease other nowMs ttlMs deadline))) other nowMs :=
              ⟨ttlMs, deadline, lease, rfl, hreply.trans (congrArg ActorReply.leased hok)⟩
            exact .inr (.inr (.inr ⟨other, nowMs, held, hself, hacquires, h, rfl,
              ActorState.expired_of_free h hself hfree⟩))
      | releaseInteractionLease releasing =>
        rcases w.actor.releaseLease_cases releasing with
          ⟨error, -, hsame⟩ | ⟨⟨lease, hlease, hholder⟩, hok⟩
        · exact .inl (heldBy_of_same h (congrArg AgentSnapshot.interaction hsame))
        · have hheld : lease = held := by
            have heq := hlease.symm.trans h
            cases heq
            rfl
          have hself : releasing = held.holder := by rw [← hholder, hheld]
          subst hself
          exact .inr (.inl ⟨rfl, hreply.trans (congrArg ActorReply.released hok)⟩)

/-- A lease passes on, is taken or is given up by a delta that the actor records
then, and offers to every subscriber it has. -/
structure HandsOver (before after : ActorState) (seq : EventSequence) (delta : StateDelta) :
    Prop where
  change : delta.change = .interactionChanged after.snapshot.interaction
  advances : Advances before.snapshot ⟨.delta seq delta, after.snapshot⟩ after.snapshot
  history : after.history = before.history ++ [⟨.delta seq delta, after.snapshot⟩]
  subscribers : ∀ id ∈ after.subscribers, id ∈ before.subscribers ∧
    (after.channels id).updates.buffer = (before.channels id).updates.buffer ++ [.delta seq delta]

/-- What the actor records of a step that changes the lease. -/
theorem handsOver_record {state : ActorState} {update : AgentUpdate} {snapshot : AgentSnapshot}
    {deadline : Option Instant} (hadv : Advances state.snapshot ⟨update, snapshot⟩ snapshot)
    (hchange : snapshot.interaction ≠ state.snapshot.interaction) :
    ∃ seq delta, HandsOver state
      (({ state with snapshot }.record update).setDeadline deadline) seq delta := by
  have hinteraction : snapshot.interaction =
      update.interaction?.getD state.snapshot.interaction := by
    rw [hadv.updated]
    exact state.snapshot.updated_interaction update
  cases update with
  | event agentId seq event => exact absurd hinteraction hchange
  | delta seq delta =>
    refine ⟨seq, delta, ?_, hadv, rfl, ?_⟩
    · obtain ⟨agentId, base, revision, change⟩ := delta
      cases change with
      | interactionChanged interaction =>
        show AgentStateChange.interactionChanged interaction = .interactionChanged snapshot.interaction
        rw [hinteraction]
        rfl
      | _ => exact absurd hinteraction hchange
    · intro id hid
      obtain ⟨hbefore, hoffered⟩ := ActorState.mem_record_subscribers _ _ |>.mp hid
      refine ⟨hbefore, ?_⟩
      rw [ActorState.setDeadline_channels, ActorState.record_channels, if_pos hbefore]
      rcases SubscriberChannel.offer_cases (state.channels id) (.delta seq delta)
        state.history.length with ⟨updates, hsend, hoffer⟩ | ⟨-, hoffer⟩ | ⟨-, hoffer⟩
      · show ((state.channels id).offer _ _).2.updates.buffer = _
        rw [hoffer]
        obtain ⟨-, -, rfl⟩ := Mpsc.trySend_sent hsend
        rfl
      · rw [show (({ state with snapshot } : ActorState).channels id).offer _ _ = _ from hoffer]
          at hoffered
        cases hoffered
      · rw [show (({ state with snapshot } : ActorState).channels id).offer _ _ = _ from hoffer]
          at hoffered
        cases hoffered

theorem handsOver_step (w : World) (input : HandleInput)
    (hchange : (w.respond input).2.actor.snapshot.interaction ≠ w.actor.snapshot.interaction) :
    ∃ seq delta, HandsOver w.actor (w.respond input).2.actor seq delta := by
  have hturn : ∀ turned, (w.actor.turn turned).2.snapshot.interaction ≠
      w.actor.snapshot.interaction →
      ∃ seq delta, HandsOver w.actor (w.actor.turn turned).2 seq delta := by
    intro turned hchange
    rcases w.actor.turn_cases turned with ⟨cursor, -, hturn⟩ | ⟨-, heffect⟩
    · rw [hturn] at hchange
      exact absurd rfl hchange
    · generalize (w.actor.turn turned).2 = after at *
      cases heffect with
      | idle deadline => exact absurd rfl hchange
      | halted => exact absurd rfl hchange
      | records update snapshot deadline hadv => exact handsOver_record hadv hchange
  cases input with
  | recv id | poll id | cancel id | drop id =>
    exact absurd (congrArg AgentSnapshot.interaction
      (subscriber_step w _ (by rintro _ ⟨⟩)).1) hchange
  | call | leaseTimer | disconnected =>
    simp only [World.respond, HandleInput.world, World.step, turn_actor] at hchange ⊢
    exact hturn _ hchange

/-- A turn of the actor that changes nothing. -/
theorem respond_same {input : HandleInput} (turned : ActorInput)
    (hinput : input.world = .actor turned)
    (hsame : (w.actor.turn turned).2 = w.actor)
    (hnone : (w.actor.turn turned).1.subscription = none) : (w.respond input).2 = w := by
  unfold World.respond World.step
  rw [hinput]
  unfold World.turn
  dsimp only
  rw [hnone, hsame]

/-- Whoever gets the lease has it. -/
theorem heldBy_of_acquires {input : HandleInput} {holder : LeaseHolderId} {nowMs : UInt64}
    (h : HandleEvent.Acquires (Mealy.event World.respond w input) holder nowMs) :
    (w.respond input).2.actor.snapshot.HeldBy holder := by
  obtain ⟨ttlMs, deadline, lease, hinput, houtput⟩ := h
  replace hinput : input = .call (.acquireInteractionLease holder nowMs ttlMs deadline) := hinput
  subst hinput
  replace houtput : (w.actor.turn (.command (.acquireLease holder nowMs ttlMs deadline))).1 =
    .leased (.ok lease) := houtput
  show (w.turn _).actor.snapshot.HeldBy holder
  rw [turn_actor]
  unfold ActorState.turn at houtput ⊢
  split
  · rename_i hhalted
    rw [if_pos hhalted] at houtput
    cases houtput
  · rename_i hrunning
    rw [if_neg hrunning] at houtput
    rcases w.actor.acquireLease_cases holder nowMs ttlMs deadline with
      ⟨error, hrefused⟩ | ⟨lease', -, hlease, -, hinteraction⟩
    · have hreply : ActorReply.leased (w.actor.acquireLease holder nowMs ttlMs deadline).1 =
          .leased (.ok lease) := houtput
      rw [hrefused] at hreply
      cases hreply
    · exact ⟨lease', hinteraction, hlease⟩

/-- A release by anyone but the holder changes nothing. -/
theorem release_refused {releasing : LeaseHolderId}
    (h : ¬ w.actor.snapshot.HeldBy releasing) :
    (w.respond (.call (.releaseInteractionLease releasing))).2 = w := by
  obtain ⟨error, hrefused⟩ := ActorState.releaseLease_other h
  refine respond_same (.command (.releaseLease releasing)) rfl ?_ ?_
  · unfold ActorState.turn
    split
    · rfl
    · exact congrArg Prod.snd hrefused
  · unfold ActorState.turn
    split <;> rfl

/-- Neither does an acquisition that fails. -/
theorem acquisition_refused {holder : LeaseHolderId} {nowMs : UInt64}
    {ttlMs : { ttl : UInt64 // ttl ≠ 0 }} {deadline : Option Instant}
    (h : ∀ lease, (w.respond (.call (.acquireInteractionLease holder nowMs ttlMs deadline))).1 ≠
      .leased (.ok lease)) :
    (w.respond (.call (.acquireInteractionLease holder nowMs ttlMs deadline))).2 = w := by
  replace h : ∀ lease, (w.actor.turn (.command (.acquireLease holder nowMs ttlMs deadline))).1 ≠
    .leased (.ok lease) := h
  refine respond_same (.command (.acquireLease holder nowMs ttlMs deadline)) rfl ?_ ?_
  · unfold ActorState.turn at h ⊢
    split
    · rfl
    · rename_i hrunning
      rcases w.actor.acquireLease_cases holder nowMs ttlMs deadline with
        ⟨error, hrefused⟩ | ⟨lease, hok, -⟩
      · exact congrArg Prod.snd hrefused
      · refine absurd ?_ (h lease)
        rw [if_neg hrunning]
        exact congrArg ActorReply.leased hok
  · unfold ActorState.turn
    split <;> rfl

end Step

/-! ## Runs -/

/-- The state after a run of an actor that is started with `initial`. -/
def handled (initial : AgentSnapshot) (config : AgentActorConfig) (inputs : List HandleInput) :
    World := Mealy.run World.respond (.start initial config) inputs

def handling (initial : AgentSnapshot) (config : AgentActorConfig) (inputs : List HandleInput) :
    List HandleEvent := Mealy.trace World.respond (.start initial config) inputs

/-- From a state in which the lease is the holder's, until another gets it. -/
theorem held_until {w : World} {holder other : LeaseHolderId} {nowMs : UInt64}
    (hheld : w.actor.snapshot.HeldBy holder) {inputs : List HandleInput}
    {between later : List HandleEvent} {next : HandleEvent}
    (htrace : Mealy.trace World.respond w inputs = between ++ next :: later)
    (hnext : next.Acquires other nowMs) (hother : other ≠ holder) :
    (∃ e ∈ between, HandleEvent.Releases e holder) ∨ (∃ e ∈ between, HandleEvent.Fires e) ∨
      ∃ e ∈ between ++ [next], HandleEvent.TakesOver e holder := by
  induction between generalizing w inputs with
  | nil =>
    obtain ⟨before, after, rfl, hbefore, hevent⟩ := Mealy.trace_split htrace
    cases before with
    | cons input before => cases hbefore
    | nil =>
      replace hevent : next = Mealy.event World.respond w next.input := hevent
      obtain ⟨held, hlease, rfl⟩ := hheld
      have hstep := interaction_step w next.input hlease
      rw [← hevent] at hstep
      obtain ⟨ttlMs, deadline, lease, hinput, houtput⟩ := hnext
      rcases hstep with ⟨kept, hkept, hholder⟩ | ⟨hreleases, -⟩ | ⟨hfires, -⟩ | htakes
      · -- the lease is the other's now
        have hacquires : HandleEvent.Acquires (Mealy.event World.respond w next.input) other nowMs :=
          hevent ▸ ⟨ttlMs, deadline, lease, hinput, houtput⟩
        obtain ⟨got, hgot, hgets⟩ := heldBy_of_acquires hacquires
        rw [hgot] at hkept
        cases hkept
        exact absurd (hgets.symm.trans hholder) hother
      · rw [hinput] at hreleases
        cases hreleases
      · rw [hinput] at hfires
        cases hfires
      · exact .inr (.inr ⟨next, List.mem_singleton_self _, htakes⟩)
  | cons e between ih =>
    cases inputs with
    | nil => cases htrace
    | cons input inputs =>
      obtain ⟨rfl, hrest⟩ := List.cons.inj htrace
      obtain ⟨held, hlease, rfl⟩ := hheld
      rcases interaction_step w input hlease with hkept | hreleases | hfires | htakes
      · rcases ih hkept hrest with ⟨e, he, h⟩ | ⟨e, he, h⟩ | ⟨e, he, h⟩
        · exact .inl ⟨e, List.mem_cons_of_mem _ he, h⟩
        · exact .inr (.inl ⟨e, List.mem_cons_of_mem _ he, h⟩)
        · exact .inr (.inr ⟨e, List.mem_cons_of_mem _ he, h⟩)
      · exact .inl ⟨_, List.mem_cons_self, hreleases⟩
      · exact .inr (.inl ⟨_, List.mem_cons_self, hfires⟩)
      · exact .inr (.inr ⟨_, List.mem_cons_self, htakes⟩)

theorem handled_eq (initial : AgentSnapshot) (config : AgentActorConfig)
    (inputs : List HandleInput) :
    handled initial config inputs = world initial config (inputs.map HandleInput.world) := by
  unfold handled Mealy.run world run
  rw [List.foldl_map]
  rfl

theorem history_respond (w : World) (input : HandleInput) :
    w.actor.history <+: (w.respond input).2.actor.history :=
  history_step w input.world

/-- What is recorded stays recorded. -/
theorem history_handling {initial : AgentSnapshot} {config : AgentActorConfig}
    {inputs : List HandleInput} {e : HandleEvent} (he : e ∈ handling initial config inputs) :
    e.after.actor.history <+: (handled initial config inputs).actor.history := by
  obtain ⟨earlier, later, htrace⟩ := List.append_of_mem he
  obtain ⟨after, -, hrun⟩ := Mealy.trace_rest htrace
  rw [handled, hrun]
  exact run_relates (R := fun w w' => w.actor.history <+: w'.actor.history)
    (fun _ => List.prefix_refl _) List.IsPrefix.trans history_respond e.after after

/-- **Lease exclusivity.** Over every interleaving of the users of a handle, the lease
timer and subscribers: (1) from when a holder got the lease until another gets it, the
holder has released it, the timer has fired, or somebody got it at a time at which the
holder's lease had expired; (2) a release by anyone but the holder, and an acquisition
that fails, change nothing at all; (3) whatever changes the lease is recorded, for good,
as the next delta and queued for every subscriber that is kept; (4) what a subscriber has
received are the updates recorded since it subscribed, in order and without a hole. -/
theorem lease_exclusive (initial : AgentSnapshot) (config : AgentActorConfig)
    (inputs : List HandleInput) :
    (∀ earlier taken between next later holder other takenMs nextMs,
      handling initial config inputs = earlier ++ taken :: (between ++ next :: later) →
      taken.Acquires holder takenMs → next.Acquires other nextMs → other ≠ holder →
      (∃ e ∈ between, HandleEvent.Releases e holder) ∨ (∃ e ∈ between, HandleEvent.Fires e) ∨
        ∃ e ∈ between ++ [next], HandleEvent.TakesOver e holder) ∧
    (∀ e ∈ handling initial config inputs,
      (∀ releasing, e.input = .call (.releaseInteractionLease releasing) →
        ¬ e.before.actor.snapshot.HeldBy releasing → e.after = e.before) ∧
      (∀ holder nowMs ttlMs deadline,
        e.input = .call (.acquireInteractionLease holder nowMs ttlMs deadline) →
        ¬ e.Acquires holder nowMs → e.after = e.before)) ∧
    (∀ e ∈ handling initial config inputs,
      e.after.actor.snapshot.interaction ≠ e.before.actor.snapshot.interaction →
      (∃ seq delta, HandsOver e.before.actor e.after.actor seq delta) ∧
        e.after.actor.history <+: (handled initial config inputs).actor.history) ∧
    ∀ id reader, (handled initial config inputs).readers id = some reader →
      reader.updates <+: (handled initial config inputs).actor.recorded.drop reader.since := by
  refine ⟨?_, ?_, ?_, ?_⟩
  · intro earlier taken between next later holder other takenMs nextMs htrace htaken hnext hother
    obtain ⟨_, _, -, -, hevent⟩ := Mealy.trace_split htrace
    obtain ⟨after, hafter⟩ := Mealy.trace_after htrace
    have hheld : taken.after.actor.snapshot.HeldBy holder := by
      rw [hevent] at htaken ⊢
      exact heldBy_of_acquires htaken
    exact held_until hheld hafter.symm hnext hother
  · intro e he
    have hevent := Mealy.mem_trace he
    have hafter : e.after = (e.before.respond e.input).2 := by rw [hevent]; rfl
    have houtput : e.output = (e.before.respond e.input).1 := by rw [hevent]; rfl
    refine ⟨?_, ?_⟩
    · intro releasing hinput hother
      rw [hafter, hinput]
      exact release_refused hother
    · intro holder nowMs ttlMs deadline hinput hfails
      rw [hafter, hinput]
      refine acquisition_refused fun lease hok => hfails ⟨ttlMs, deadline, lease, hinput, ?_⟩
      rw [houtput, hinput]
      exact hok
  · intro e he hchange
    have hevent := Mealy.mem_trace he
    have hafter : e.after = (e.before.respond e.input).2 := by rw [hevent]; rfl
    refine ⟨?_, history_handling he⟩
    rw [hafter] at hchange ⊢
    exact handsOver_step e.before e.input hchange
  · intro id reader hreader
    rw [handled_eq] at hreader ⊢
    have hstream := (World.Invariant.world initial config _).stream id reader hreader
    exact (List.prefix_append _ _).trans hstream.contiguous

end ControlPlane

end OmpRemote

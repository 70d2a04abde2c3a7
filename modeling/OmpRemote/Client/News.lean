import OmpRemote.Client.Runner
import OmpRemote.ControlPlane.History

/-!
# News of one agent

What the frames on their way to a client say of one agent, and what its replica will
have made of them when they have arrived.

- `notice`: what a frame says of the agent; `Replica.note`: what becomes of the
  replica, and whether the client subscribes to the agent anew. `apply_replica` and
  `mem_resubscribed` say that this is what the reducer does.
- `Replica.Reaches`: the client will ask for the agent again, or its replica gets at
  least as far as a position.
-/

namespace OmpRemote.Client

open Lib Rpc ControlPlane

/-! ## Subscribing anew -/

def frameAgentId : ServerFrame → Option AgentId
  | .delta envelope => some envelope.delta.agentId
  | .event envelope => some envelope.agentId
  | .interactionRequest envelope => some envelope.agentId
  | .replayGap gap => some gap.agentId
  | .snapshot ⟨[agent]⟩ => some agent.agentId
  | _ => none

/-- The agents that a client subscribes to anew on a frame that it applies. -/
def resubscribed (state : ReplicatedState) (frame : ServerFrame) : List AgentId :=
  match (state.apply frame).1 with
  | .ok effects => effects.filterMap fun effect => match effect with
    | .resyncRequired agentId => some agentId
    | _ => none
  | .error _ => (frameAgentId frame).toList

/-! ## Notices -/

/-- What a frame says of an agent. -/
inductive Notice where
  | snapshot (snapshot : AgentSnapshot)
  | update (update : AgentUpdate)
  | gap
  deriving DecidableEq

/-- What a frame says of the agent; of several snapshots the last one counts. -/
def notice (agentId : AgentId) : ServerFrame → Option Notice
  | .snapshot snapshot =>
    (snapshot.agents.filter fun agent => agent.agentId = agentId).getLast?.map .snapshot
  | .replayGap gap => if gap.agentId = agentId then some .gap else none
  | frame => (carriedUpdate frame).bind fun update =>
    if update.agentId = agentId then some (.update update) else none

/-- What a client holds of one agent. -/
structure Replica where
  held : Option AgentSnapshot
  flagged : Bool
  deriving DecidableEq

def ReplicatedState.replica (state : ReplicatedState) (agentId : AgentId) : Replica :=
  ⟨state.agents agentId, state.resyncRequired agentId⟩

namespace Replica

/-- What the change of an update makes of a snapshot, if it applies. -/
def advance (held : AgentSnapshot) : AgentUpdate → Option AgentSnapshot
  | .delta eventSequence delta => (held.applyDelta delta eventSequence).toOption
  | .event _ eventSequence _ => some { held with eventSequence }

/-- What an update that is accepted makes of the replica. -/
def accept (replica : Replica) (update : AgentUpdate) : Option AgentSnapshot :=
  match replica.held with
  | none => none
  | some held =>
    if replica.flagged then none
    else if update.eventSequence.toNat ≠ held.eventSequence.toNat + 1 then none
    else advance held update

/-- The replica after a notice; the first component says whether the client subscribes
to the agent anew. -/
def note (replica : Replica) : Notice → Bool × Replica
  | .snapshot snapshot => (false, ⟨some snapshot, false⟩)
  | .update update =>
    match replica.accept update with
    | some held => (false, ⟨some held, false⟩)
    | none => (true, { replica with flagged := true })
  | .gap => (true, { replica with flagged := true })

/-- The replica after all of the notices. -/
def follow (replica : Replica) (notices : List Notice) : Replica :=
  notices.foldl (fun replica notice => (replica.note notice).2) replica

/-- On one of the notices the client subscribes to the agent anew. -/
def Asks : Replica → List Notice → Prop
  | _, [] => False
  | replica, notice :: notices =>
    (replica.note notice).1 = true ∨ Asks (replica.note notice).2 notices

/-- The replica counts, and stands at the position. -/
def At (replica : Replica) (position : Nat) : Prop :=
  replica.flagged = false ∧
    ∃ held, replica.held = some held ∧ held.eventSequence.toNat = position

/-- When the notices have arrived the client has asked for the agent again, or its
replica has got at least as far as the position. -/
def Reaches (replica : Replica) (notices : List Notice) (position : Nat) : Prop :=
  replica.Asks notices ∨ ∃ reached, position ≤ reached ∧ (replica.follow notices).At reached

variable {replica : Replica} {notices more : List Notice} {update : AgentUpdate}
  {position : Nat}

theorem accept_eq_some {held : AgentSnapshot} (h : replica.accept update = some held) :
    replica.flagged = false ∧ ∃ before, replica.held = some before ∧
      update.eventSequence.toNat = before.eventSequence.toNat + 1 ∧
      held = before.updated update := by
  unfold accept at h
  split at h
  · cases h
  rename_i before hbefore
  split at h
  · cases h
  rename_i hflag
  split at h
  · cases h
  rename_i hnext
  refine ⟨Bool.eq_false_iff.mpr hflag, before, hbefore, not_not.mp hnext, ?_⟩
  unfold advance at h
  cases update with
  | event agentId eventSequence event => exact (Option.some.inj h).symm
  | delta eventSequence delta =>
    dsimp only at h
    cases happly : before.applyDelta delta eventSequence with
    | error error =>
      rw [happly] at h
      cases h
    | ok after =>
      rw [happly] at h
      cases h
      exact (AgentSnapshot.applyDelta_ok.mp happly).2

theorem follow_append : replica.follow (notices ++ more) = (replica.follow notices).follow more :=
  List.foldl_append

@[simp] theorem follow_cons (notice : Notice) :
    replica.follow (notice :: notices) = (replica.note notice).2.follow notices := rfl

theorem asks_append :
    replica.Asks (notices ++ more) ↔ replica.Asks notices ∨ (replica.follow notices).Asks more := by
  induction notices generalizing replica with
  | nil => simp [Asks, follow]
  | cons notice notices ih => simp [Asks, ih, or_assoc]

namespace Reaches

/-- A snapshot takes the replica to its own position. -/
theorem snapshot (replica : Replica) (notices : List Notice) (snapshot : AgentSnapshot) :
    replica.Reaches (notices ++ [.snapshot snapshot]) snapshot.eventSequence.toNat := by
  refine .inr ⟨_, Nat.le_refl _, ?_⟩
  rw [follow_append]
  exact ⟨rfl, snapshot, rfl, rfl⟩

/-- An update moves the replica on, or the client asks. -/
theorem noted (h : replica.Reaches notices position) (update : AgentUpdate) :
    replica.Asks (notices ++ [.update update]) ∨ ∃ reached, position ≤ reached ∧
      update.eventSequence.toNat = reached + 1 ∧
      (replica.follow (notices ++ [.update update])).At (reached + 1) := by
  rcases h with hasks | ⟨reached, hle, hflag, held, hheld, hat⟩
  · exact .inl (asks_append.mpr (.inl hasks))
  cases haccept : (replica.follow notices).accept update with
  | none =>
    refine .inl (asks_append.mpr (.inr (.inl ?_)))
    rw [note, haccept]
  | some after =>
    obtain ⟨-, before, hbefore, hnext, rfl⟩ := accept_eq_some haccept
    cases hheld.symm.trans hbefore
    refine .inr ⟨reached, hle, by rw [hnext, hat], ?_⟩
    rw [follow_append, follow_cons, note, haccept]
    exact ⟨rfl, _, rfl, by rw [AgentSnapshot.updated_eventSequence, hnext, hat]⟩

/-- The next update moves the position on: a replica that is ahead refuses it. -/
theorem next (h : replica.Reaches notices position) {update : AgentUpdate}
    (hnext : update.eventSequence.toNat = position + 1) :
    replica.Reaches (notices ++ [.update update]) (position + 1) :=
  (h.noted update).imp_right fun ⟨reached, _, hreached, hat⟩ =>
    ⟨reached + 1, by omega, hat⟩

/-- A replay that starts behind the replica makes the client ask. -/
theorem replay (h : replica.Reaches notices position) {updates : List AgentUpdate}
    (hnumbered : updates.map (·.eventSequence.toNat) = List.range' (position + 1) updates.length) :
    replica.Reaches (notices ++ updates.map .update) (position + updates.length) := by
  induction updates generalizing notices position with
  | nil => simpa using h
  | cons update updates ih =>
    rw [List.map_cons, List.length_cons, List.range'_succ, List.cons.injEq] at hnumbered
    have hrest := ih (h.next hnumbered.1) hnumbered.2
    rwa [List.append_assoc, List.singleton_append, Nat.add_right_comm, Nat.add_assoc] at hrest

end Reaches

end Replica

/-! ## The reducer -/

namespace ReplicatedState

variable {state : ReplicatedState} {agentId other : AgentId} {frame : ServerFrame}
  {update : AgentUpdate}

theorem notice_of_carried (hcarried : carriedUpdate frame = some update) :
    notice agentId frame = if update.agentId = agentId then some (.update update) else none := by
  cases frame with
  | delta | event | interactionRequest =>
    cases hcarried
    rfl
  | _ => cases hcarried

/-- The reducer's checks accept what a replica accepts. -/
theorem checkIncremental_accept (state : ReplicatedState) (agentId : AgentId)
    {change : AgentSnapshot → Except ReplicationError AgentSnapshot}
    (hchange : ∀ held, (change held).toOption = Replica.advance held update) :
    (state.checkIncremental agentId update.eventSequence change).toOption =
      (state.replica agentId).accept update := by
  unfold checkIncremental Replica.accept replica
  cases hheld : state.agents agentId with
  | none => rfl
  | some held =>
    cases hflag : state.resyncRequired agentId with
    | true => rfl
    | false =>
      simp only [Bool.false_eq_true, if_false]
      split
      · rename_i hnext
        cases hcheck : requireNextSequence held.eventSequence update.eventSequence with
        | error error => rfl
        | ok _ => exact absurd (requireNextSequence_ok.mp hcheck) hnext
      · rename_i hnext
        rw [requireNextSequence_ok.mpr (not_not.mp hnext), ← hchange]
        rfl

/-- What becomes of an incremental frame: its update is accepted, or the agent is
flagged and subscribed to anew. -/
inductive Taken (state : ReplicatedState) (frame : ServerFrame) (update : AgentUpdate) : Prop where
  | accepted (held : AgentSnapshot) :
    (state.replica update.agentId).accept update = some held →
    (state.apply frame).2 = state.replace update.agentId held →
    resubscribed state frame = [] → Taken state frame update
  | refused : (state.replica update.agentId).accept update = none →
    (state.apply frame).2 = state.flag update.agentId →
    resubscribed state frame = [update.agentId] → Taken state frame update

theorem applyIncremental_taken
    {change : AgentSnapshot → Except ReplicationError AgentSnapshot} {effect : ReplicationEffect}
    (heffect : ∀ agentId, effect ≠ .resyncRequired agentId)
    (hchange : ∀ held, (change held).toOption = Replica.advance held update)
    (hagent : frameAgentId frame = some update.agentId)
    (happly : state.apply frame =
      state.applyIncremental update.agentId update.eventSequence change effect) :
    Taken state frame update := by
  have haccept := checkIncremental_accept state update.agentId hchange
  unfold applyIncremental at happly
  cases hcheck : state.checkIncremental update.agentId update.eventSequence change with
  | error error =>
    rw [hcheck] at happly haccept
    refine .refused haccept.symm (by rw [happly]) ?_
    rw [resubscribed, happly, hagent]
    rfl
  | ok held =>
    rw [hcheck] at happly haccept
    refine .accepted held haccept.symm (by rw [happly]) ?_
    rw [resubscribed, happly]
    cases effect with
    | resyncRequired agentId => exact absurd rfl (heffect agentId)
    | stateChanged | event | interaction => rfl

/-- An incremental frame about an agent, as its replica takes it. -/
theorem apply_taken (state : ReplicatedState) (hcarried : carriedUpdate frame = some update) :
    Taken state frame update := by
  cases frame with
  | delta envelope =>
    cases hcarried
    refine applyIncremental_taken (fun _ h => by cases h) (fun held => ?_) rfl rfl
    show _ = (held.applyDelta envelope.delta envelope.eventSequence).toOption
    cases held.applyDelta envelope.delta envelope.eventSequence <;> rfl
  | event envelope =>
    cases hcarried
    exact applyIncremental_taken (fun _ h => by cases h) (fun _ => rfl) rfl rfl
  | interactionRequest envelope =>
    cases hcarried
    exact applyIncremental_taken (fun _ h => by cases h) (fun _ => rfl) rfl rfl
  | welcome | response | snapshot | replayGap | error | pong | serverShutdown => cases hcarried

/-- **What a frame does to a replica** and whether the client subscribes to the agent
anew is what its notice says. -/
theorem apply_notice (state : ReplicatedState) (agentId : AgentId) (frame : ServerFrame) :
    match notice agentId frame with
    | some notice => (state.apply frame).2.replica agentId = ((state.replica agentId).note notice).2 ∧
        (agentId ∈ resubscribed state frame ↔ ((state.replica agentId).note notice).1 = true)
    | none => (state.apply frame).2.replica agentId = state.replica agentId ∧
        agentId ∉ resubscribed state frame := by
  cases hcarried : carriedUpdate frame with
  | some update =>
    rw [notice_of_carried hcarried]
    by_cases hagent : update.agentId = agentId
    · subst hagent
      rw [if_pos rfl]
      dsimp only [Replica.note]
      -- the update is of this agent: the reducer takes it in, or marks the agent and asks
      cases apply_taken state hcarried with
      | accepted held haccept hafter hasks =>
        obtain ⟨hflag, -⟩ := Replica.accept_eq_some haccept
        rw [haccept, hafter, hasks]
        refine ⟨?_, by simp⟩
        rw [replica, replace_agents_self, replace_resyncRequired]
        exact congrArg _ hflag
      | refused haccept hafter hasks =>
        rw [haccept, hafter, hasks]
        refine ⟨?_, by simp⟩
        rw [replica, flag_self, flag_agents]
        rfl
    · -- the update is of another agent, and this one is left alone
      rw [if_neg hagent]
      cases apply_taken state hcarried with
      | accepted held _ hafter hasks =>
        rw [hafter, hasks]
        refine ⟨?_, List.not_mem_nil⟩
        rw [replica, replace_agents_other (Ne.symm hagent), replace_resyncRequired]
        rfl
      | refused _ hafter hasks =>
        rw [hafter, hasks]
        refine ⟨?_, by simpa using Ne.symm hagent⟩
        rw [replica, flag_other (Ne.symm hagent), flag_agents]
        rfl
  | none =>
    cases frame with
    | delta | event | interactionRequest => cases hcarried
    | welcome | response | error | pong | serverShutdown => exact ⟨rfl, List.not_mem_nil⟩
    | replayGap gap =>
      by_cases hagent : gap.agentId = agentId
      · subst hagent
        rw [notice, if_pos rfl]
        refine ⟨?_, by simp [resubscribed, apply, Replica.note]⟩
        show (state.flag gap.agentId).replica gap.agentId = _
        rw [replica, flag_self, flag_agents]
        rfl
      · rw [notice, if_neg hagent]
        refine ⟨?_, by simpa [resubscribed, apply] using Ne.symm hagent⟩
        show (state.flag gap.agentId).replica agentId = _
        rw [replica, flag_other (Ne.symm hagent), flag_agents]
        rfl
    | snapshot snapshot =>
      -- several snapshots of one agent may come in a frame; the last one stands
      have hafter : (state.apply (.snapshot snapshot)).2.replica agentId =
          ⟨((snapshot.agents.filter fun agent => agent.agentId = agentId).getLast?).or
              (state.agents agentId),
            state.resyncRequired agentId &&
              !snapshot.agents.any fun agent => agent.agentId = agentId⟩ := by
        show (snapshot.agents.foldl adopt state).replica agentId = _
        rw [replica, foldl_adopt_agents, foldl_adopt_resyncRequired]
      have hasks : agentId ∉ resubscribed state (.snapshot snapshot) := by
        simp [resubscribed, apply, applySnapshot]
      rw [hafter, notice]
      cases hlast : (snapshot.agents.filter fun agent => agent.agentId = agentId).getLast? with
      | none =>
        have hnone : (snapshot.agents.any fun agent => agent.agentId = agentId) = false := by
          rw [List.getLast?_eq_none_iff, List.filter_eq_nil_iff] at hlast
          simpa using hlast
        rw [hnone]
        exact ⟨by simp [replica], hasks⟩
      | some agent =>
        have hsome : (snapshot.agents.any fun agent => agent.agentId = agentId) = true := by
          have hmem := List.mem_filter.mp (List.mem_of_getLast? hlast)
          exact List.any_eq_true.mpr ⟨agent, hmem⟩
        rw [hsome]
        exact ⟨by simp [Replica.note], by simpa [Replica.note] using hasks⟩

/-- A client subscribes anew exactly where its runner does. -/
theorem resubscribes_iff (state : ReplicatedState) (frame : ServerFrame) :
    ClientRunner.resubscribes state frame = !(resubscribed state frame).isEmpty := by
  unfold ClientRunner.resubscribes resubscribed
  cases hresult : (state.apply frame).1 with
  | ok effects =>
    clear hresult
    dsimp only
    induction effects with
    | nil => rfl
    | cons effect effects ih => cases effect <;> simp_all [List.any_cons]
  | error error =>
    cases frame with
    | delta | event | interactionRequest => rfl
    | _ => cases hresult

end ReplicatedState

end OmpRemote.Client

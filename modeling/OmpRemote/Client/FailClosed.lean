import OmpRemote.Client.Reducer
import OmpRemote.Lib.Machine

/-!
# The reducer fails closed

Frames are not trusted: they may be forged, late, or about agents nobody has heard of.
What a frame can do to what the client holds of an agent is the same for all of them.

- `concerns`, `contains`: the agents a frame is about, and those it has a snapshot of.
- `Rejectable`, `apply_error_iff`: the incremental frames that are rejected.
- `FailsClosed`, `apply_failsClosed`: what one frame does to snapshots, flags and cursors.
- `reducer_fails_closed`: so it is along any sequence of frames, and an agent that is
  flagged stays as it is until a snapshot of it comes.
-/

namespace OmpRemote.Client

open Lib Rpc

/-- The frame has a snapshot of the agent. -/
def contains (frame : ServerFrame) (agentId : AgentId) : Bool :=
  match frame with
  | .snapshot snapshot => snapshot.agents.any fun agent => agent.agentId = agentId
  | _ => false

/-- The frame is about the agent. -/
def concerns (frame : ServerFrame) (agentId : AgentId) : Bool :=
  match frame with
  | .replayGap gap => gap.agentId = agentId
  | frame => contains frame agentId ||
    (carriedUpdate frame).any fun update => update.agentId = agentId

/-- The agent an effect is about. -/
def ReplicationEffect.agentId : ReplicationEffect → AgentId
  | .stateChanged agentId | .resyncRequired agentId => agentId
  | .event envelope => envelope.agentId
  | .interaction envelope => envelope.agentId

namespace ReplicatedState

/-- A frame that has come in. -/
abbrev FrameEvent :=
  Mealy.Event ReplicatedState ServerFrame (Except ReplicationError (List ReplicationEffect))

variable {state : ReplicatedState} {frame : ServerFrame} {update : AgentUpdate} {agentId : AgentId}

/-! ## What is rejected -/

/-- The agent is unknown or flagged, or the update is not the next one of its snapshot. -/
def Rejectable (state : ReplicatedState) (update : AgentUpdate) : Prop :=
  state.agents update.agentId = none ∨ state.resyncRequired update.agentId = true ∨
    ∃ held, state.agents update.agentId = some held ∧
      (update.eventSequence.toNat ≠ held.eventSequence.toNat + 1 ∨
        ∃ seq delta, update = .delta seq delta ∧ (held.agentId ≠ update.agentId ∨
          delta.baseRevision ≠ held.revision ∨
          delta.revision ≠ saturatingAdd delta.baseRevision 1))

/-- An incremental frame is accepted if and only if its own change is, after the checks. -/
theorem applyIncremental_isOk {incoming : EventSequence}
    {change : AgentSnapshot → Except ReplicationError AgentSnapshot} {effect : ReplicationEffect} :
    (∃ effects, (state.applyIncremental agentId incoming change effect).1 = .ok effects) ↔
      ∃ held snapshot, state.agents agentId = some held ∧ state.resyncRequired agentId = false ∧
        incoming.toNat = held.eventSequence.toNat + 1 ∧ change held = .ok snapshot := by
  unfold applyIncremental
  cases hcheck : state.checkIncremental agentId incoming change with
  | error error =>
    constructor
    · rintro ⟨effects, hok⟩
      cases hok
    · rintro ⟨held, snapshot, hall⟩
      rw [checkIncremental_ok.mpr ⟨held, hall⟩] at hcheck
      cases hcheck
  | ok snapshot =>
    obtain ⟨held, hall⟩ := checkIncremental_ok.mp hcheck
    exact ⟨fun _ => ⟨held, snapshot, hall⟩, fun _ => ⟨[effect], rfl⟩⟩

/-- When a carried update is accepted. -/
theorem apply_isOk (hcarried : carriedUpdate frame = some update) :
    (∃ effects, (state.apply frame).1 = .ok effects) ↔
      ∃ held, state.agents update.agentId = some held ∧
        state.resyncRequired update.agentId = false ∧
        update.eventSequence.toNat = held.eventSequence.toNat + 1 ∧
        ∀ seq delta, update = .delta seq delta → held.agentId = update.agentId ∧
          delta.baseRevision = held.revision ∧
          delta.revision = saturatingAdd delta.baseRevision 1 := by
  cases frame with
  | delta envelope =>
    cases hcarried
    refine applyIncremental_isOk.trans ?_
    constructor
    · rintro ⟨held, snapshot, hheld, hflag, hnext, hchange⟩
      refine ⟨held, hheld, hflag, hnext, ?_⟩
      cases happly : held.applyDelta envelope.delta envelope.eventSequence with
      | error error =>
        rw [happly] at hchange
        cases hchange
      | ok snapshot =>
        obtain ⟨⟨hagent, -, hbase, hrevision⟩, -⟩ := AgentSnapshot.applyDelta_ok.mp happly
        intro seq delta heq
        cases heq
        exact ⟨hagent.symm, hbase, hrevision⟩
    · rintro ⟨held, hheld, hflag, hnext, hdelta⟩
      obtain ⟨hagent, hbase, hrevision⟩ := hdelta _ _ rfl
      -- the reducer has checked the sequence number, so `applyDelta` finds it newer
      have hnewer : held.eventSequence < envelope.eventSequence := by
        have hsucc : envelope.eventSequence.toNat = held.eventSequence.toNat + 1 := hnext
        rw [UInt64.lt_iff_toNat_lt]
        omega
      have happly : held.applyDelta envelope.delta envelope.eventSequence =
          .ok (held.updated (.delta envelope.eventSequence envelope.delta)) :=
        AgentSnapshot.applyDelta_ok.mpr ⟨⟨hagent.symm, hnewer, hbase, hrevision⟩, rfl⟩
      refine ⟨held, held.updated (.delta envelope.eventSequence envelope.delta), hheld, hflag,
        hnext, ?_⟩
      rw [happly]
      rfl
  | event envelope | interactionRequest envelope =>
    cases hcarried
    refine applyIncremental_isOk.trans ?_
    constructor
    · rintro ⟨held, snapshot, hheld, hflag, hnext, -⟩
      refine ⟨held, hheld, hflag, hnext, ?_⟩
      intro seq delta heq
      cases heq
    · rintro ⟨held, hheld, hflag, hnext, -⟩
      exact ⟨held, _, hheld, hflag, hnext, rfl⟩
  | welcome _ | response _ | snapshot _ | replayGap _ | error _ | pong _ | serverShutdown _ _ =>
    cases hcarried

theorem apply_error_iff (hcarried : carriedUpdate frame = some update) :
    (∃ error, (state.apply frame).1 = .error error) ↔ state.Rejectable update := by
  have hnot : (∃ error, (state.apply frame).1 = .error error) ↔
      ¬ ∃ effects, (state.apply frame).1 = .ok effects := by
    cases (state.apply frame).1 with
    | error error =>
      refine ⟨?_, fun _ => ⟨error, rfl⟩⟩
      rintro - ⟨effects, hok⟩
      cases hok
    | ok effects =>
      refine ⟨?_, fun hno => absurd ⟨effects, rfl⟩ hno⟩
      rintro ⟨error, herror⟩
      cases herror
  rw [hnot, apply_isOk hcarried]
  constructor
  · intro hno
    cases hheld : state.agents update.agentId with
    | none => exact .inl hheld
    | some held =>
      cases hflag : state.resyncRequired update.agentId with
      | true => exact .inr (.inl hflag)
      | false =>
        refine .inr (.inr ⟨held, hheld, ?_⟩)
        by_contra hnone
        push Not at hnone
        refine hno ⟨held, hheld, hflag, hnone.1, ?_⟩
        intro seq delta hdelta
        exact hnone.2 seq delta hdelta
  · rintro (hunknown | hflagged | ⟨held, hheld, hbad⟩) ⟨held', hheld', hflag, hnext, hdelta⟩
    · rw [hunknown] at hheld'
      cases hheld'
    · rw [hflagged] at hflag
      cases hflag
    · cases hheld.symm.trans hheld'
      rcases hbad with hgap | ⟨seq, delta, heq, hbad⟩
      · exact hgap hnext
      · obtain ⟨hagent, hbase, hrevision⟩ := hdelta seq delta heq
        rcases hbad with hbad | hbad | hbad
        · exact hbad hagent
        · exact hbad hbase
        · exact hbad hrevision

/-! ## One frame -/

/-- What is held of the agent is left alone. -/
structure Leaves (state state' : ReplicatedState) (agentId : AgentId) : Prop where
  agent : state'.agent agentId = state.agent agentId
  flag : state'.isResyncRequired agentId = state.isResyncRequired agentId
  cursor : state'.cursor agentId = state.cursor agentId

theorem leaves_of_eq {state' : ReplicatedState}
    (hagents : state'.agents agentId = state.agents agentId)
    (hflag : state'.resyncRequired agentId = state.resyncRequired agentId) :
    state.Leaves state' agentId := by
  refine ⟨hagents, hflag, ?_⟩
  unfold cursor
  rw [hagents, hflag]

/-- The agent is flagged, and only it; no snapshot is changed. -/
structure Flags (state state' : ReplicatedState) (agentId : AgentId) : Prop where
  agents : state'.agents = state.agents
  flagged : state'.isResyncRequired agentId = true
  others : ∀ other, other ≠ agentId → state'.isResyncRequired other = state.isResyncRequired other

theorem flags_flag (state : ReplicatedState) (agentId : AgentId) :
    state.Flags (state.flag agentId) agentId :=
  ⟨rfl, flag_self, fun _ hother => flag_other hother⟩

/-- What a frame may do. -/
structure FailsClosed (e : FrameEvent) : Prop where
  /-- What is rejected carries an update that should be, and flags its agent. -/
  rejected : ∀ error, e.output = .error error → ∃ update, carriedUpdate e.input = some update ∧
    e.before.Rejectable update ∧ e.before.Flags e.after update.agentId
  /-- What should be rejected is. -/
  rejects : ∀ update, carriedUpdate e.input = some update → e.before.Rejectable update →
    ∃ error, e.output = .error error
  gap : ∀ gap, e.input = .replayGap gap → e.before.Flags e.after gap.agentId
  /-- Only a snapshot of the agent clears its flag. -/
  clears : ∀ agentId, e.before.isResyncRequired agentId = true →
    (e.after.isResyncRequired agentId = false ↔ contains e.input agentId = true)
  flagged : ∀ agentId, e.before.isResyncRequired agentId = true →
    e.before.cursor agentId = none ∧ (contains e.input agentId = false →
      e.after.agent agentId = e.before.agent agentId ∧ ∀ effects, e.output = .ok effects →
        ∀ effect ∈ effects, effect.agentId = agentId → effect = .resyncRequired agentId)
  others : ∀ agentId, concerns e.input agentId = false → e.before.Leaves e.after agentId

theorem cursor_flagged (h : state.isResyncRequired agentId = true) :
    state.cursor agentId = none := by
  unfold cursor
  exact if_pos h

/-- A rejected update flags its agent; an accepted one is about an agent that is not
flagged. -/
theorem failsClosed_carried (hcarried : carriedUpdate frame = some update) :
    FailsClosed (Mealy.event apply state frame) := by
  have hcontains : ∀ agentId, contains frame agentId = false := by
    intro agentId
    cases frame <;> first | rfl | cases hcarried
  have hconcerns : ∀ agentId, concerns frame agentId = false → agentId ≠ update.agentId := by
    rintro agentId hno rfl
    have hconcerned : concerns frame update.agentId = (contains frame update.agentId ||
        (carriedUpdate frame).any fun carried => carried.agentId = update.agentId) := by
      cases frame <;> first | rfl | cases hcarried
    rw [hconcerned, hcarried] at hno
    simp at hno
  have hnogap : ∀ gap, frame ≠ .replayGap gap := by
    rintro gap rfl
    cases hcarried
  have hreject : (∃ error, (state.apply frame).1 = .error error) ↔ _ := apply_error_iff hcarried
  rcases state.apply_carriedUpdate hcarried with ⟨error, happly⟩ |
      ⟨held, effects, hheld, hflag, -, happly⟩
  · -- the update is rejected
    have hafter : (Mealy.event apply state frame).after = state.flag update.agentId :=
      congrArg Prod.snd happly
    have houtput : (Mealy.event apply state frame).output = .error error := congrArg Prod.fst happly
    have hflags := flags_flag state update.agentId
    have hsticky : ∀ agentId, state.isResyncRequired agentId = true →
        (state.flag update.agentId).isResyncRequired agentId = true := by
      intro agentId hflagged
      by_cases hagent : agentId = update.agentId
      · rw [hagent]
        exact hflags.flagged
      · exact (hflags.others agentId hagent).trans hflagged
    refine ⟨?_, ?_, ?_, ?_, ?_, ?_⟩
    · intro error' _
      rw [hafter]
      exact ⟨update, hcarried, hreject.mp ⟨error, houtput⟩, hflags⟩
    · intro carried hcarried' _
      exact ⟨error, houtput⟩
    · exact fun gap hgap => absurd hgap (hnogap gap)
    · intro agentId hflagged
      have hnone : contains (Mealy.event apply state frame).input agentId = false :=
        hcontains agentId
      rw [hafter, hsticky agentId hflagged, hnone]
      exact ⟨nofun, nofun⟩
    · intro agentId hflagged
      refine ⟨cursor_flagged hflagged, fun _ => ⟨?_, ?_⟩⟩
      · rw [hafter]
        rfl
      · intro effects hok
        rw [houtput] at hok
        cases hok
    · intro agentId hno
      rw [hafter]
      exact leaves_of_eq rfl (hflags.others agentId (hconcerns agentId hno))
  · -- it is accepted, so that its agent is not flagged
    have hafter : (Mealy.event apply state frame).after =
        state.replace update.agentId (held.updated update) := congrArg Prod.snd happly
    have houtput : (Mealy.event apply state frame).output = .ok effects := congrArg Prod.fst happly
    have heffects : ∀ effect ∈ effects, effect.agentId = update.agentId := by
      have hone : ∀ effect : ReplicationEffect,
          Except.ok (ε := ReplicationError) [effect] = .ok effects →
          effect.agentId = update.agentId → ∀ effect ∈ effects, effect.agentId = update.agentId := by
        intro effect heq hagent effect' hmem
        cases heq
        rw [List.mem_singleton.mp hmem]
        exact hagent
      have hresult : (state.apply frame).1 = .ok effects := congrArg Prod.fst happly
      cases frame with
      | delta envelope =>
        cases hcarried
        rcases applyIncremental_cases state envelope.delta.agentId envelope.eventSequence _
          (.stateChanged envelope.delta.agentId) with ⟨error, h⟩ | ⟨_, _, -, -, -, -, h⟩
        · exact nomatch (congrArg Prod.fst h).symm.trans hresult
        · exact hone _ ((congrArg Prod.fst h).symm.trans hresult) rfl
      | event envelope =>
        cases hcarried
        rcases applyIncremental_cases state envelope.agentId envelope.eventSequence _
          (.event envelope) with ⟨error, h⟩ | ⟨_, _, -, -, -, -, h⟩
        · exact nomatch (congrArg Prod.fst h).symm.trans hresult
        · exact hone _ ((congrArg Prod.fst h).symm.trans hresult) rfl
      | interactionRequest envelope =>
        cases hcarried
        rcases applyIncremental_cases state envelope.agentId envelope.eventSequence _
          (.interaction envelope) with ⟨error, h⟩ | ⟨_, _, -, -, -, -, h⟩
        · exact nomatch (congrArg Prod.fst h).symm.trans hresult
        · exact hone _ ((congrArg Prod.fst h).symm.trans hresult) rfl
      | welcome _ | response _ | snapshot _ | replayGap _ | error _ | pong _ | serverShutdown _ _ =>
        cases hcarried
    have hother : ∀ agentId, state.isResyncRequired agentId = true → agentId ≠ update.agentId := by
      rintro agentId hflagged rfl
      exact nomatch hflag.symm.trans hflagged
    refine ⟨?_, ?_, ?_, ?_, ?_, ?_⟩
    · intro error herror
      rw [houtput] at herror
      cases herror
    · intro carried hcarried' hrejectable
      cases hcarried.symm.trans hcarried'
      obtain ⟨error, herror⟩ := hreject.mpr hrejectable
      exact nomatch (congrArg Prod.fst happly).symm.trans herror
    · exact fun gap hgap => absurd hgap (hnogap gap)
    · intro agentId hflagged
      have hstill : (state.replace update.agentId (held.updated update)).isResyncRequired
          agentId = true := hflagged
      have hnone : contains (Mealy.event apply state frame).input agentId = false :=
        hcontains agentId
      rw [hafter, hstill, hnone]
      exact ⟨nofun, nofun⟩
    · intro agentId hflagged
      refine ⟨cursor_flagged hflagged, fun _ => ⟨?_, ?_⟩⟩
      · rw [hafter]
        exact replace_agents_other (hother agentId hflagged)
      · intro effects' hok effect hmem hagent
        rw [houtput] at hok
        cases hok
        exact absurd (hagent.symm.trans (heffects effect hmem)) (hother agentId hflagged)
    · intro agentId hno
      rw [hafter]
      exact leaves_of_eq (replace_agents_other (hconcerns agentId hno)) rfl

/-- A snapshot clears the flags of the agents it contains, and replaces what is held of
them. -/
theorem failsClosed_snapshot (snapshot : StateSnapshot) :
    FailsClosed (Mealy.event apply state (.snapshot snapshot)) := by
  have hagents : ∀ agentId, (snapshot.agents.foldl adopt state).agents agentId = _ :=
    fun agentId => foldl_adopt_agents snapshot.agents agentId
  have hflags : ∀ agentId, (snapshot.agents.foldl adopt state).resyncRequired agentId = _ :=
    fun agentId => foldl_adopt_resyncRequired snapshot.agents agentId
  -- what is not contained is left alone
  have hkept : ∀ agentId, contains (.snapshot snapshot) agentId = false →
      state.Leaves (state.apply (.snapshot snapshot)).2 agentId := by
    intro agentId hno
    refine leaves_of_eq ((hagents agentId).trans ?_) ((hflags agentId).trans ?_)
    · have hnone : (snapshot.agents.filter fun agent => agent.agentId = agentId) = [] :=
        List.filter_eq_nil_iff.mpr (List.any_eq_false.mp hno)
      rw [hnone]
      rfl
    · have hany : (snapshot.agents.any fun agent => agent.agentId = agentId) = false := hno
      rw [hany, Bool.not_false, Bool.and_true]
  refine ⟨?_, ?_, ?_, ?_, ?_, ?_⟩
  · intro error herror
    cases herror
  · intro update hcarried
    cases hcarried
  · intro gap hgap
    cases hgap
  · intro agentId hflagged
    have hflag : (state.apply (.snapshot snapshot)).2.resyncRequired agentId =
        !contains (.snapshot snapshot) agentId := by
      refine (hflags agentId).trans ?_
      have htrue : state.resyncRequired agentId = true := hflagged
      rw [htrue]
      rfl
    show (state.apply (.snapshot snapshot)).2.resyncRequired agentId = false ↔ _
    rw [hflag, Bool.not_eq_false']
    exact Iff.rfl
  · intro agentId hflagged
    refine ⟨cursor_flagged hflagged, fun hno => ⟨(hkept agentId hno).agent, ?_⟩⟩
    intro effects hok effect hmem hagent
    cases hok
    obtain ⟨agent, hagentMem, rfl⟩ := List.mem_map.mp hmem
    exact absurd (decide_eq_true hagent) (List.any_eq_false.mp hno agent hagentMem)
  · intro agentId hno
    have hcontains : contains (.snapshot snapshot) agentId = false := by
      have hor : (contains (.snapshot snapshot) agentId || false) = false := hno
      rwa [Bool.or_false] at hor
    exact hkept agentId hcontains

theorem failsClosed_gap (gap : ReplayGap) :
    FailsClosed (Mealy.event apply state (.replayGap gap)) := by
  have hflags := flags_flag state gap.agentId
  refine ⟨?_, ?_, ?_, ?_, ?_, ?_⟩
  · intro error herror
    cases herror
  · intro update hcarried
    cases hcarried
  · intro gap' hgap
    cases hgap
    exact hflags
  · intro agentId hflagged
    have hstill : (state.flag gap.agentId).isResyncRequired agentId = true := by
      by_cases hagent : agentId = gap.agentId
      · rw [hagent]
        exact hflags.flagged
      · exact (hflags.others agentId hagent).trans hflagged
    show (state.flag gap.agentId).isResyncRequired agentId = false ↔ false = true
    rw [hstill]
    exact ⟨nofun, nofun⟩
  · intro agentId hflagged
    refine ⟨cursor_flagged hflagged, fun _ => ⟨rfl, ?_⟩⟩
    intro effects hok effect hmem hagent
    cases hok
    rw [List.mem_singleton.mp hmem] at hagent ⊢
    rw [← hagent]
    rfl
  · intro agentId hno
    refine leaves_of_eq rfl (hflags.others agentId ?_)
    rintro rfl
    exact of_decide_eq_false hno rfl

/-- **One frame**, whatever it is. -/
theorem apply_failsClosed (state : ReplicatedState) (frame : ServerFrame) :
    FailsClosed (Mealy.event apply state frame) := by
  cases frame with
  | snapshot snapshot => exact failsClosed_snapshot snapshot
  | replayGap gap => exact failsClosed_gap gap
  | delta envelope => exact failsClosed_carried rfl
  | event envelope => exact failsClosed_carried rfl
  | interactionRequest envelope => exact failsClosed_carried rfl
  | welcome _ | response _ | error _ | pong _ | serverShutdown _ _ =>
    -- nothing is done
    refine ⟨nofun, nofun, nofun, ?_, ?_, fun _ _ => ⟨rfl, rfl, rfl⟩⟩
    · intro agentId hflagged
      replace hflagged : state.isResyncRequired agentId = true := hflagged
      show state.isResyncRequired agentId = false ↔ false = true
      rw [hflagged]
      exact ⟨nofun, nofun⟩
    · intro agentId hflagged
      refine ⟨cursor_flagged hflagged, fun _ => ⟨rfl, ?_⟩⟩
      intro effects hok effect hmem
      cases hok
      cases hmem

/-! ## Sequences of frames -/

/-- Until a snapshot of a flagged agent comes, it stays flagged, and what is held of it
stays as it is. -/
theorem flagged_run (frames : List ServerFrame) (agentId : AgentId)
    (hflagged : state.isResyncRequired agentId = true)
    (hnone : ∀ frame ∈ frames, contains frame agentId = false) :
    (Mealy.run apply state frames).isResyncRequired agentId = true ∧
      (Mealy.run apply state frames).agent agentId = state.agent agentId := by
  induction frames generalizing state with
  | nil => exact ⟨hflagged, rfl⟩
  | cons frame frames ih =>
    rw [List.forall_mem_cons] at hnone
    have hclosed := apply_failsClosed state frame
    have hstill : (state.apply frame).2.isResyncRequired agentId = true := by
      cases hcleared : (state.apply frame).2.isResyncRequired agentId with
      | true => rfl
      | false => exact nomatch hnone.1.symm.trans ((hclosed.clears agentId hflagged).mp hcleared)
    obtain ⟨hlast, hsame⟩ := ih hstill hnone.2
    exact ⟨hlast, hsame.trans ((hclosed.flagged agentId hflagged).2 hnone.1).1⟩

/-- **The reducer fails closed and in isolation**, in every state and for all frames. -/
theorem reducer_fails_closed (state : ReplicatedState) (frames : List ServerFrame) :
    (∀ e ∈ Mealy.trace apply state frames, FailsClosed e) ∧
    ∀ agentId, state.isResyncRequired agentId = true →
      (∀ frame ∈ frames, contains frame agentId = false) →
      (Mealy.run apply state frames).isResyncRequired agentId = true ∧
        (Mealy.run apply state frames).agent agentId = state.agent agentId ∧
        (Mealy.run apply state frames).cursor agentId = none := by
  constructor
  · intro e he
    rw [Mealy.mem_trace he]
    exact apply_failsClosed e.before e.input
  · intro agentId hflagged hnone
    obtain ⟨hlast, hsame⟩ := flagged_run frames agentId hflagged hnone
    exact ⟨hlast, hsame, cursor_flagged hlast⟩

end ReplicatedState

end OmpRemote.Client

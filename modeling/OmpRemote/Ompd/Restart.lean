import OmpRemote.Ompd.Incarnation

/-!
# What a restart restores

The controller restores an agent from its row and, for the session and the
counters, from its row in `sessions`. That table is written by `upsert_session`
alone, and nothing in the daemon calls it.

- `World`: the actors of one agent id and the database, with a log of what
  clients were handed.
- `restores_iff`: when a restart restores what they know, which is before they
  know anything.
- `restored_behind`: an agent that was launched and seen.
-/

namespace OmpRemote.Ompd.Restart

open Lib ControlPlane

/-- What a client is handed of an agent. -/
inductive Publication where
  | snapshot (snapshot : AgentSnapshot)
  | update (update : AgentUpdate)
  deriving DecidableEq, Repr

namespace Publication

def revision : Publication → Option StateRevision
  | .snapshot shown => some shown.revision
  | .update (.delta _ delta) => some delta.revision
  | .update (.event ..) => none

def eventSequence : Publication → EventSequence
  | .snapshot shown => shown.eventSequence
  | .update sent => sent.eventSequence

/-- The snapshot of an actor that has recorded nothing, and was not restored with
counters. -/
def blank : Publication → Bool
  | .snapshot shown => shown.revision = 0 && shown.eventSequence = 0
  | .update _ => false

end Publication

def startPublications : SubscriptionStart → List Publication
  | .snapshot snapshot | .resyncRequired snapshot => [.snapshot snapshot]
  | .replay updates => updates.map .update

/-- What a turn of the actor hands to clients: the start of a subscription, and an
update if a subscriber is there to take it. -/
def turnPublications (state : ActorState) (input : ActorInput) : List Publication :=
  let (reply, after) := state.turn input
  (reply.subscription.elim [] fun subscription => startPublications subscription.start) ++
    if after.subscribers = [] then []
    else (after.recorded.drop state.history.length).map .update

structure World (δ : Type) (agentId : AgentId) where
  host : Host δ agentId
  published : List Publication

inductive Input where
  | host (input : HostInput)
  /-- `ListAgents` or `GetAgent` answers with the agent's snapshot. -/
  | show

/-- The daemon performs the operation somewhere: all but `upsert_session`. -/
def uses (operation : StoreOperation) : Bool := .sessions ∉ operation.tables

namespace World

variable {δ : Type} [DecidableEq δ] {agentId : AgentId}

omit [DecidableEq δ] in
/-- The daemon before it is first started, on a new database. -/
def create (agentId : AgentId) (config : AgentActorConfig) (serverId : ServerId) :
    World δ agentId :=
  ⟨.create agentId config (.create serverId), []⟩

def step (backend : Backend δ) (world : World δ agentId) : Input → World δ agentId
  | .show =>
    { world with published := world.published ++
        (world.host.current.map fun actor => .snapshot actor.state.snapshot).toList }
  | .host (.actor input) =>
    { host := world.host.step backend (.actor input)
      published := world.published ++
        world.host.current.elim [] fun actor => turnPublications actor.state input }
  | .host (.store operation) =>
    if uses operation then { world with host := world.host.step backend (.store operation) }
    else world
  | .host input => { world with host := world.host.step backend input }

/-- The world after a history of the agent id. -/
def history (backend : Backend δ) (agentId : AgentId) (config : AgentActorConfig)
    (serverId : ServerId) (inputs : List Input) : World δ agentId :=
  run (step backend) (create agentId config serverId) inputs

omit [DecidableEq δ] in
/-- The session id and file of the agent's actor, or of the last one it had. -/
def lastSession (world : World δ agentId) : Option (String × Option String) :=
  ((world.host.current <|> world.host.past.getLast?).bind fun actor =>
    actor.state.snapshot.session).map fun session => (session.sessionId, session.sessionFile)

omit [DecidableEq δ] in
/-- The snapshot has the agent's session and is not behind what clients know. -/
def Restores (world : World δ agentId) (snapshot : AgentSnapshot) : Prop :=
  (snapshot.session.map fun session => (session.sessionId, session.sessionFile)) =
      world.lastSession ∧
    ∀ publication ∈ world.published,
      (∀ revision ∈ publication.revision, revision ≤ snapshot.revision) ∧
        publication.eventSequence ≤ snapshot.eventSequence

omit [DecidableEq δ] in
/-- The agent has had no session, and clients know nothing of it but that it is
there. -/
def Unseen (world : World δ agentId) : Prop :=
  world.lastSession = none ∧ ∀ publication ∈ world.published, publication.blank = true

/-! ## The sessions table stays empty -/

omit [DecidableEq δ] in
theorem sessions_start (host : Host δ agentId) (nowMs : UInt64) (fault : Option Nat) :
    (host.start nowMs fault).store.sessions = host.store.sessions := by
  obtain ⟨agents, operations, hwrites⟩ := host.store.recoverInterrupted_writes nowMs fault
  have hsame := congrArg Store.sessions hwrites
  unfold Host.start
  split <;> rename_i store hrecover <;> rw [hrecover] at hsame
  · exact hsame
  · dsimp only
    split <;> exact hsame

/-- No operation of the daemon, and no start of it, writes the table. -/
theorem sessions_step {backend : Backend δ} {world : World δ agentId} (input : Input)
    (h : world.host.store.sessions = .empty) :
    (world.step backend input).host.store.sessions = .empty := by
  cases input with
  | «show» => exact h
  | host input =>
    cases input with
    | actor input => exact h
    | launch =>
      show (if world.host.up && world.host.current.isNone then _ else world.host).store.sessions = _
      split <;> exact h
    | remove => exact h
    | persist processId activeRunId nowMs fault =>
      show (world.host.step backend (.persist processId activeRunId nowMs fault)).store.sessions = _
      unfold Host.step
      dsimp only
      split
      · exact h
      · rename_i actor _
        obtain ⟨agents, hwrites⟩ := world.host.store.upsertAgent_writes
          ⟨agentId, actor.state.snapshot.lifecycle, processId, activeRunId,
            (world.host.store.agent agentId).elim nowMs AgentRecord.createdAtMs, nowMs⟩ fault
        show (world.host.store.upsertAgent _ fault).2.sessions = _
        rw [hwrites]
        exact h
    | store operation =>
      simp only [step]
      split
      · rename_i huses
        have hframe := world.host.store.execute_frame backend operation
        exact (hframe.sessions (by simpa [uses] using huses)).trans h
      · exact h
    | restart nowMs fault =>
      exact (sessions_start (world.host.retire id) nowMs fault).trans h

theorem sessions_history (backend : Backend δ) (agentId : AgentId) (config : AgentActorConfig)
    (serverId : ServerId) (inputs : List Input) :
    (history backend agentId config serverId inputs).host.store.sessions = .empty :=
  run_invariant (P := fun world : World δ agentId => world.host.store.sessions = .empty)
    (fun _ input h => sessions_step input h) rfl inputs

omit [DecidableEq δ] in
/-- So every agent is restored without a session and with its counters at zero. -/
theorem restored_initial {host : Host δ agentId} (hempty : host.store.sessions = .empty)
    {nowMs : UInt64} {fault : Option Nat} {restored : Incarnation agentId}
    (hrestored : ((host.retire id).start nowMs fault).current = some restored) :
    restored.initial.session = none ∧ restored.initial.revision = 0 ∧
      restored.initial.eventSequence = 0 := by
  have hsessions := (sessions_start (host.retire id) nowMs fault).trans hempty
  unfold Host.start at hrestored hsessions
  split at hrestored
  · cases hrestored
  rename_i store hrecover
  simp only [hrecover] at hsessions
  dsimp only at hrestored
  split at hrestored
  · cases hrestored
  rename_i record hrecord
  simp only [hrecord] at hsessions
  have hnone : store.session agentId = none := by
    have hstore : store.sessions = .empty := hsessions
    rw [Store.session, hstore, Table.lookup_empty]
  cases hrestored
  simp only [Incarnation.spawn, restoredSnapshot, hnone, Option.elim_none, Option.map_none,
    and_self]

/-! ## What clients know -/

/-- A recorded update has a sequence above zero. -/
theorem recorded_pos {state after : ActorState} (heffect : ActorState.TurnEffect state after) :
    ∀ update ∈ after.recorded.drop state.history.length, 0 < update.eventSequence.toNat := by
  intro update hupdate
  cases heffect with
  | idle deadline | halted =>
    have hnothing : state.recorded.drop state.history.length = [] := by
      simp [ActorState.recorded]
    have hmem : update ∈ state.recorded.drop state.history.length := hupdate
    rw [hnothing] at hmem
    cases hmem
  | records recorded snapshot deadline hadv =>
    simp only [ActorState.recorded, ActorState.setDeadline_history, ActorState.record_history,
      List.map_append, List.map_cons, List.map_nil] at hupdate
    rw [← List.length_map (f := Recorded.update), List.drop_left, List.mem_singleton] at hupdate
    rw [hupdate]
    have hnext := hadv.next
    dsimp only at hnext
    omega

/-- Updates are published with a sequence above zero. -/
def Numbered (publication : Publication) : Prop :=
  ∀ update, publication = .update update → 0 < update.eventSequence.toNat

theorem numbered_start (state : ActorState) (cursor : Option SubscriptionCursor) :
    ∀ publication ∈ startPublications (state.subscribe cursor).1.start, Numbered publication := by
  have hreplay : ∀ cursor updates, state.subscriptionStart cursor = .replay updates →
      ∀ update ∈ updates, 0 < update.eventSequence.toNat := by
    intro cursor updates hstart update hupdate
    unfold ActorState.subscriptionStart at hstart
    split at hstart
    · cases hstart
    split at hstart
    · cases hstart
      cases hupdate
    dsimp only at hstart
    split at hstart
    · cases hstart
      have hnewer := (List.mem_filter.mp hupdate).2
      rw [decide_eq_true_eq] at hnewer
      have hlt := UInt64.lt_iff_toNat_lt.mp hnewer
      omega
    · cases hstart
  intro publication hpublication update heq
  subst heq
  cases cursor with
  | none =>
    cases List.mem_singleton.mp hpublication
  | some cursor =>
    have hstart : (state.subscribe (some cursor)).1.start = state.subscriptionStart cursor := rfl
    rw [hstart] at hpublication
    cases hcase : state.subscriptionStart cursor with
    | snapshot shown | resyncRequired shown =>
      rw [hcase] at hpublication
      cases List.mem_singleton.mp hpublication
    | replay updates =>
      rw [hcase] at hpublication
      obtain ⟨sent, hsent, hsame⟩ := List.mem_map.mp hpublication
      cases hsame
      exact hreplay cursor updates hcase _ hsent

theorem numbered_turn (state : ActorState) (input : ActorInput) :
    ∀ publication ∈ turnPublications state input, Numbered publication := by
  intro publication hpublication
  unfold turnPublications at hpublication
  rcases state.turn_cases input with ⟨cursor, -, hturn⟩ | ⟨hnone, heffect⟩
  · rw [hturn] at hpublication
    simp only [ActorReply.subscription, Option.elim_some] at hpublication
    rcases List.mem_append.mp hpublication with hstart | hupdate
    · exact numbered_start state cursor publication hstart
    · -- a subscription records nothing
      split at hupdate
      · cases hupdate
      · have hnothing : (state.subscribe cursor).2.recorded.drop state.history.length = [] := by
          refine List.drop_eq_nil_of_le ?_
          simp [ActorState.recorded, ActorState.subscribe]
        rw [hnothing] at hupdate
        cases hupdate
  · simp only [hnone, Option.elim_none, List.nil_append] at hpublication
    split at hpublication
    · cases hpublication
    · obtain ⟨sent, hsent, rfl⟩ := List.mem_map.mp hpublication
      intro update heq
      cases heq
      exact recorded_pos heffect _ hsent

theorem numbered_history (backend : Backend δ) (agentId : AgentId) (config : AgentActorConfig)
    (serverId : ServerId) (inputs : List Input) :
    ∀ publication ∈ (history backend agentId config serverId inputs).published,
      Numbered publication := by
  refine run_invariant (P := fun world : World δ agentId =>
    ∀ publication ∈ world.published, Numbered publication) ?_ (by intro _ h; cases h) inputs
  intro world input h publication hpublication
  cases input with
  | «show» =>
    rcases List.mem_append.mp hpublication with hold | hshown
    · exact h publication hold
    · intro update heq
      obtain ⟨actor, -, hsame⟩ := Option.map_eq_some_iff.mp (Option.mem_toList.mp hshown)
      rw [heq] at hsame
      cases hsame
  | host input =>
    cases input with
    | actor input =>
      rcases List.mem_append.mp hpublication with hold | hturn
      · exact h publication hold
      · cases hcurrent : world.host.current with
        | none =>
          rw [hcurrent] at hturn
          cases hturn
        | some actor =>
          rw [hcurrent] at hturn
          exact numbered_turn actor.state input publication hturn
    | store operation =>
      simp only [step] at hpublication
      split at hpublication <;> exact h publication hpublication
    | launch | remove | persist | restart => exact h publication hpublication

/-! ## What a restart restores -/

/-- **Restarts.** After every history of an agent id on a new database, a restart
that finds the agent there restores its session and counters that are not behind
what clients know if and only if the agent has had no session and clients know
nothing of it. -/
theorem restores_iff (backend : Backend δ) (agentId : AgentId) (config : AgentActorConfig)
    (serverId : ServerId) (inputs : List Input) (nowMs : UInt64) (fault : Option Nat)
    (restored : Incarnation agentId)
    (hrestored : ((history backend agentId config serverId inputs).step backend
      (.host (.restart nowMs fault))).host.current = some restored) :
    (history backend agentId config serverId inputs).Restores restored.initial ↔
      (history backend agentId config serverId inputs).Unseen := by
  obtain ⟨hsession, hrevision, hsequence⟩ :=
    restored_initial (sessions_history backend agentId config serverId inputs) hrestored
  have hnumbered := numbered_history backend agentId config serverId inputs
  rw [Restores, Unseen, hsession, hrevision, hsequence]
  constructor
  · rintro ⟨hlast, hbehind⟩
    refine ⟨hlast.symm, ?_⟩
    intro publication hpublication
    obtain ⟨hrevisions, hseq⟩ := hbehind publication hpublication
    cases publication with
    | snapshot shown =>
      have hzero := hrevisions shown.revision rfl
      simp only [Publication.blank, Bool.and_eq_true, decide_eq_true_eq]
      exact ⟨UInt64.le_zero_iff.mp hzero, UInt64.le_zero_iff.mp hseq⟩
    | update sent =>
      have hpos := hnumbered _ hpublication sent rfl
      have hzero : sent.eventSequence = 0 := UInt64.le_zero_iff.mp hseq
      rw [hzero] at hpos
      cases hpos
  · rintro ⟨hlast, hblank⟩
    refine ⟨hlast.symm, ?_⟩
    intro publication hpublication
    have hshown := hblank publication hpublication
    cases publication with
    | snapshot shown =>
      simp only [Publication.blank, Bool.and_eq_true, decide_eq_true_eq] at hshown
      refine ⟨?_, UInt64.le_zero_iff.mpr hshown.2⟩
      rintro revision ⟨⟩
      exact UInt64.le_zero_iff.mpr hshown.1
    | update sent => cases hshown

/-- An agent is launched, its OMP process reports a session, the controller writes
its row, and a client is shown it. -/
def launched : List Input :=
  [.host (.restart 0 none), .host .launch,
    .host (.actor (.command (.change (.lifecycleChanged .idle)))),
    .host (.actor (.command (.change (.sessionChanged ⟨"session", some "file", none, 0⟩)))),
    .host (.persist (some 7) none 1 none), .show]

/-- The equivalence for the launched agent. -/
theorem restores_iff_launched :
    ∃ restored, ((history Host.idleBackend ⟨"agent"⟩ .default ⟨"server"⟩ launched).step
        Host.idleBackend (.host (.restart 2 none))).host.current = some restored ∧
      ((history Host.idleBackend ⟨"agent"⟩ .default ⟨"server"⟩ launched).Restores
          restored.initial ↔
        (history Host.idleBackend ⟨"agent"⟩ .default ⟨"server"⟩ launched).Unseen) :=
  ⟨_, rfl, restores_iff Host.idleBackend ⟨"agent"⟩ .default ⟨"server"⟩ launched 2 none _ rfl⟩

/-- The launched agent is restored without its session, and behind what the client
was shown. -/
theorem restored_behind :
    ∃ restored, ((history Host.idleBackend ⟨"agent"⟩ .default ⟨"server"⟩ launched).step
        Host.idleBackend (.host (.restart 2 none))).host.current = some restored ∧
      restored.initial.session = none ∧ restored.initial.revision = 0 ∧
      (history Host.idleBackend ⟨"agent"⟩ .default ⟨"server"⟩ launched).lastSession =
        some ("session", some "file") ∧
      ¬ (history Host.idleBackend ⟨"agent"⟩ .default ⟨"server"⟩ launched).Restores
        restored.initial := by
  refine ⟨_, rfl, rfl, rfl, by decide, ?_⟩
  rintro ⟨hsession, -⟩
  revert hsession
  decide

end World

end OmpRemote.Ompd.Restart

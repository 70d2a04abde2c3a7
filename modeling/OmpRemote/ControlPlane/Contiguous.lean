import OmpRemote.ControlPlane.Exclusion

/-!
# Updates that follow a cursor

Whether a client that stands at a cursor accepts an update depends on the cursor alone, not
on the snapshot it holds.

- `cursors`: cursors as a sequenced log.
- `exec_cursors`, `walk_exec`: the history of an actor, and every replay, lead from cursor to
  cursor.
- `World.step_readers`: what a step does to a subscription.
- `World.Leads`: every subscription, for whatever cursor it was asked, leads from its start
  to where the actor was.
-/

namespace OmpRemote.ControlPlane

open Lib Rpc

/-- The update is the next one at the cursor, and leads to the other one. -/
structure Follows (cursor : SubscriptionCursor) (update : AgentUpdate)
    (after : SubscriptionCursor) : Prop where
  agentId : update.agentId = cursor.agentId
  next : update.eventSequence.toNat = cursor.eventSequence.toNat + 1
  base : ∀ seq delta, update = .delta seq delta → delta.baseRevision = cursor.revision
  consecutive : Consecutive update
  after_eq : after =
    ⟨cursor.agentId, revisionAfter cursor.revision update, update.eventSequence⟩

/-- Cursors as a sequenced log. -/
def cursors : Sequenced SubscriptionCursor AgentUpdate where
  advances := Follows
  pos cursor := cursor.eventSequence.toNat
  number update := update.eventSequence.toNat
  det h h' := h.after_eq.trans h'.after_eq.symm
  number_eq h := h.next
  pos_eq h := by
    rw [h.after_eq]
    exact h.next

/-- What leads from cursor to cursor is about one agent. -/
theorem exec_agentId {cursor after : SubscriptionCursor} {updates : List AgentUpdate}
    (h : cursors.Exec cursor updates after) :
    after.agentId = cursor.agentId ∧ ∀ update ∈ updates, update.agentId = cursor.agentId := by
  induction h with
  | nil => exact ⟨rfl, List.forall_mem_nil _⟩
  | cons hadv _ ih =>
    obtain ⟨hafter, hupdates⟩ := ih
    rw [hadv.after_eq] at hafter hupdates
    exact ⟨hafter, List.forall_mem_cons.mpr ⟨hadv.agentId, hupdates⟩⟩

/-- A snapshot accepts what follows its cursor. -/
theorem Follows.accepts {held : AgentSnapshot} {update : AgentUpdate} {after : SubscriptionCursor}
    (h : Follows (cursorOf held) update after) :
    held.Accepts update ∧ cursorOf (held.updated update) = after := by
  have hnewer : held.eventSequence < update.eventSequence := by
    rw [UInt64.lt_iff_toNat_lt, h.next]
    exact Nat.lt_succ_self _
  rw [h.after_eq]
  cases update with
  | event agentId seq event => exact ⟨⟨h.agentId, hnewer⟩, rfl⟩
  | delta seq delta =>
    refine ⟨⟨h.agentId, hnewer, h.base seq delta rfl, h.consecutive⟩, ?_⟩
    rw [cursorOf, AgentSnapshot.updated_agentId]
    rfl

theorem Advances.follows {s t : AgentSnapshot} {r : Recorded} (h : Advances s r t) :
    Follows (cursorOf s) r.update (cursorOf t) := by
  have haccepts := h.accepts
  have hagent := haccepts.agentId
  have hnext := h.next
  rw [h.updated]
  cases hupdate : r.update with
  | event agentId seq event =>
    rw [hupdate] at hagent hnext
    exact ⟨hagent, hnext, nofun, trivial, rfl⟩
  | delta seq delta =>
    rw [hupdate] at haccepts hagent hnext
    refine ⟨hagent, hnext, ?_, haccepts.2.2.2, ?_⟩
    · rintro _ _ ⟨⟩
      exact haccepts.2.2.1
    · rw [cursorOf, AgentSnapshot.updated_agentId]
      rfl

/-- The history of an actor leads from cursor to cursor. -/
theorem exec_cursors {s t : AgentSnapshot} {log : List Recorded} (h : snapshots.Exec s log t) :
    cursors.Exec (cursorOf s) (log.map (·.update)) (cursorOf t) := by
  induction h with
  | nil s => exact .nil _
  | cons hadv _ ih => exact .cons (Advances.follows hadv) ih

/-- What passes the walk leads to the snapshot. -/
theorem walk_exec {cursor : SubscriptionCursor} {snapshot : AgentSnapshot} {expected : UInt64}
    {revision : StateRevision} {updates : List AgentUpdate} {reached : EventSequence}
    (hconsecutive : ∀ update ∈ updates, Consecutive update)
    (hagent : cursor.agentId = snapshot.agentId)
    (h : replayReachesSnapshotLoop cursor snapshot expected revision updates = true)
    (hexpected : expected.toNat = reached.toNat + 1) :
    cursors.Exec ⟨cursor.agentId, revision, reached⟩ updates (cursorOf snapshot) := by
  induction updates generalizing expected revision reached with
  | nil =>
    obtain ⟨rfl, hseq⟩ := walk_nil.mp h
    obtain rfl : reached = snapshot.eventSequence := UInt64.toNat_inj.mp (by omega)
    rw [hagent]
    exact .nil _
  | cons update updates ih =>
    obtain ⟨hseq, hupdate, hbase, next, hnext, hrest⟩ := walk_cons.mp h
    obtain ⟨hfirst, hlater⟩ := List.forall_mem_cons.mp hconsecutive
    refine .cons (t := ⟨cursor.agentId, revisionAfter revision update, update.eventSequence⟩)
      ⟨hupdate, ?_, hbase, hfirst, rfl⟩ (ih hlater hrest ?_)
    · rw [hseq]
      exact hexpected
    · rw [hseq]
      exact checkedAdd_one_eq_some.mp hnext

/-! ## Subscriptions -/

/-- The start leads to where the actor was when `log` had been recorded. -/
def StartLeads (initial : AgentSnapshot) (log : List Recorded)
    (cursor : Option SubscriptionCursor) (start : SubscriptionStart) : Prop :=
  ∃ current, snapshots.Exec initial log current ∧
    match start with
    | .snapshot snapshot | .resyncRequired snapshot => snapshot = current
    | .replay updates => ∃ supplied, cursor = some supplied ∧
        cursors.Exec supplied updates (cursorOf current)

theorem startLeads {initial : AgentSnapshot} {state : ActorState} (h : Invariant initial state)
    (cursor : Option SubscriptionCursor) :
    StartLeads initial state.history cursor (state.subscribe cursor).1.start := by
  refine ⟨state.snapshot, h.exec, ?_⟩
  cases cursor with
  | none => rfl
  | some cursor =>
    show match state.subscriptionStart cursor with
      | .snapshot snapshot | .resyncRequired snapshot => snapshot = state.snapshot
      | .replay updates => _
    rcases subscriptionStart_cases state cursor with hstart | ⟨updates, hstart⟩
    · rw [hstart]
    · rw [hstart]
      refine ⟨cursor, rfl, ?_⟩
      obtain ⟨⟨hagent, -, -⟩, hcases⟩ := subscriptionStart_replay.mp hstart
      split at hcases
      · rename_i hequal
        subst hcases
        obtain rfl : cursor = cursorOf state.snapshot := by
          rw [cursorOf, ← hagent, ← hequal.1, ← hequal.2]
        exact .nil _
      · obtain ⟨rfl, hreaches⟩ := hcases
        unfold replayReachesSnapshot at hreaches
        split at hreaches
        · cases hreaches
        · rename_i expected hexpected
          refine walk_exec (fun update hu => ?_) hagent hreaches
            (checkedAdd_one_eq_some.mp hexpected)
          obtain ⟨r, hr, rfl⟩ := List.mem_map.mp (mem_replay h (List.mem_filter.mp hu).1)
          exact Exec.consecutive h.exec r hr

/-- The same subscription, later. -/
structure Reader.Extends (reader later : Reader) : Prop where
  cursor : later.cursor = reader.cursor
  start : later.start = reader.start
  since : later.since = reader.since
  received : reader.received <+: later.received

namespace Reader

theorem Extends.refl (reader : Reader) : reader.Extends reader :=
  ⟨rfl, rfl, rfl, List.prefix_refl _⟩

theorem Extends.trans {reader later last : Reader} (h : reader.Extends later)
    (h' : later.Extends last) : reader.Extends last :=
  ⟨h'.cursor.trans h.cursor, h'.start.trans h.start, h'.since.trans h.since,
    h.received.trans h'.received⟩

theorem updates_append {reader later : Reader}
    {results : List (Except SubscriptionError AgentUpdate)}
    (h : later.received = reader.received ++ results) :
    later.updates = reader.updates ++ results.filterMap Except.toOption := by
  rw [updates, h, List.filterMap_append]
  rfl

theorem Extends.updates {reader later : Reader} (h : reader.Extends later) :
    reader.updates <+: later.updates := by
  obtain ⟨more, hmore⟩ := h.received
  rw [updates_append hmore.symm]
  exact List.prefix_append _ _

theorem extends_returns (reader : Reader) (result : Except SubscriptionError AgentUpdate) :
    reader.Extends (reader.returns result) :=
  ⟨rfl, rfl, rfl, List.prefix_append _ _⟩

theorem extends_checked (reader : Reader) (checked : Bool) :
    reader.Extends { reader with checked } := ⟨rfl, rfl, rfl, List.prefix_refl _⟩

theorem extends_dropped (reader : Reader) : reader.Extends { reader with dropped := true } :=
  ⟨rfl, rfl, rfl, List.prefix_refl _⟩

end Reader

/-- Whose subscription a step is of. -/
def WorldInput.subscriber : WorldInput → Option SubscriptionId
  | .actor _ => none
  | .recv id | .poll id | .cancel id | .drop id => some id

namespace World

variable {initial : AgentSnapshot} {w : World} {input : WorldInput} {id other : SubscriptionId}
  {reader reader' : Reader}

/-- A step of a subscription leaves the others alone, and its own is continued. -/
theorem readers_setReader (hreader : w.readers id = some reader) (hextends : reader.Extends reader')
    {found : Reader} (hfound : (w.setReader id reader').readers other = some found) :
    ∃ before, w.readers other = some before ∧ before.Extends found ∧
      (some id ≠ some other → found = before) := by
  rcases (setReader_eq_some ..).mp hfound with ⟨rfl, rfl⟩ | ⟨-, hold⟩
  · exact ⟨reader, hreader, hextends, fun h => absurd rfl h⟩
  · exact ⟨found, hold, .refl found, fun _ => rfl⟩

/-- Who is not served has no step. -/
theorem readers_same (hfound : w.readers other = some reader) :
    ∃ before, w.readers other = some before ∧ before.Extends reader ∧
      (some id ≠ some other → reader = before) :=
  ⟨reader, hfound, .refl reader, fun _ => rfl⟩

/-- **What a step does to a subscription.** It is continued, by its own steps alone, or the
actor hands it out. -/
theorem step_readers (hfound : (w.step input).readers other = some reader') :
    (∃ before, w.readers other = some before ∧ before.Extends reader' ∧
      (input.subscriber ≠ some other → reader' = before)) ∨
      ∃ cursor, input = .actor (.command (.subscribe cursor)) ∧ other = w.actor.nextChannel ∧
        reader' = .new cursor (w.actor.subscribe cursor).1.start w.actor.history.length := by
  cases input with
  | actor turned =>
    replace hfound : (w.turn turned).readers other = some reader' := hfound
    unfold World.turn at hfound
    -- of the turns of the actor only `subscribe` makes a reader
    rcases w.actor.turn_cases turned with ⟨cursor, rfl, hturn⟩ | ⟨hreply, -⟩
    · rw [hturn] at hfound
      rcases (setReader_eq_some ..).mp hfound with ⟨rfl, rfl⟩ | ⟨-, hold⟩
      · exact .inr ⟨cursor, rfl, rfl, rfl⟩
      · exact .inl ⟨reader', hold, .refl reader', fun _ => rfl⟩
    · dsimp only at hfound
      rw [hreply] at hfound
      exact .inl ⟨reader', hfound, .refl reader', fun _ => rfl⟩
  | recv id =>
    refine .inl ?_
    replace hfound : (w.recv id).readers other = some reader' := hfound
    unfold World.recv at hfound
    split at hfound
    · exact readers_same hfound
    rename_i reader hreader
    split at hfound
    · exact readers_same hfound
    split at hfound
    · exact readers_setReader hreader (reader.extends_returns _) hfound
    · exact readers_setReader hreader (reader.extends_checked _) hfound
  | poll id =>
    refine .inl ?_
    replace hfound : (w.poll id).readers other = some reader' := hfound
    unfold World.poll at hfound
    split at hfound
    · exact readers_same hfound
    rename_i reader hreader
    -- only a call that has seen the end of the replay polls the channel
    split at hfound
    · exact readers_same hfound
    split at hfound
    · exact readers_setReader (w := w.setChannel id _) hreader (reader.extends_returns _) hfound
    · split at hfound
      · exact readers_setReader hreader (reader.extends_returns _) hfound
      · exact readers_setReader hreader (reader.extends_returns _) hfound
    · exact readers_same hfound
  | cancel id =>
    refine .inl ?_
    replace hfound : (w.cancel id).readers other = some reader' := hfound
    unfold World.cancel at hfound
    split at hfound
    · exact readers_same hfound
    rename_i reader hreader
    exact readers_setReader hreader (reader.extends_checked _) hfound
  | drop id =>
    refine .inl ?_
    replace hfound : (w.drop id).readers other = some reader' := hfound
    unfold World.drop at hfound
    split at hfound
    · exact readers_same hfound
    rename_i reader hreader
    exact readers_setReader (w := w.setChannel id _) hreader reader.extends_dropped hfound

theorem isSome_setReader (reader : Reader) (h : (w.readers other).isSome) :
    ((w.setReader id reader).readers other).isSome := by
  show (Function.update w.readers id (some reader) other).isSome
  by_cases hother : other = id
  · rw [hother, Function.update_self]
    rfl
  · rwa [Function.update_of_ne hother]

/-- Subscriptions are not taken away. -/
theorem isSome_step (h : (w.readers other).isSome) (input : WorldInput) :
    ((w.step input).readers other).isSome := by
  cases input with
  | actor turned =>
    show ((w.turn turned).readers other).isSome
    unfold World.turn
    dsimp only
    split
    · exact isSome_setReader _ h
    · exact h
  | recv id =>
    show ((w.recv id).readers other).isSome
    unfold World.recv
    split
    · exact h
    split
    · exact h
    split <;> exact isSome_setReader _ h
  | poll id =>
    show ((w.poll id).readers other).isSome
    unfold World.poll
    split
    · exact h
    split
    · exact h
    split
    · exact isSome_setReader (w := w.setChannel id _) _ h
    · split <;> exact isSome_setReader _ h
    · exact h
  | cancel id =>
    show ((w.cancel id).readers other).isSome
    unfold World.cancel
    split
    · exact h
    · exact isSome_setReader _ h
  | drop id =>
    show ((w.drop id).readers other).isSome
    unfold World.drop
    split
    · exact h
    · exact isSome_setReader (w := w.setChannel id _) _ h

/-- A subscription that is there goes on. -/
theorem step_reader (hw : World.Invariant initial w) (hreader : w.readers id = some reader)
    (input : WorldInput) : ∃ later, (w.step input).readers id = some later ∧
      reader.Extends later ∧ (input.subscriber ≠ some id → later = reader) := by
  have hsome := isSome_step (Option.isSome_iff_exists.mpr ⟨reader, hreader⟩) input
  obtain ⟨later, hlater⟩ := Option.isSome_iff_exists.mp hsome
  refine ⟨later, hlater, ?_⟩
  rcases step_readers hlater with ⟨before, hbefore, hextends⟩ | ⟨cursor, -, hnew, -⟩
  · cases hreader.symm.trans hbefore
    exact hextends
  · rw [hw.allocated id (Nat.le_of_eq hnew.symm)] at hreader
    cases hreader

/-- The subscription that the actor hands out. -/
theorem step_subscribe (hrunning : w.actor.running = true) (cursor : Option SubscriptionCursor) :
    (w.step (.actor (.command (.subscribe cursor)))).readers w.actor.nextChannel =
      some (.new cursor (w.actor.subscribe cursor).1.start w.actor.history.length) := by
  have hturn : w.actor.turn (.command (.subscribe cursor)) =
      (.subscribed (w.actor.subscribe cursor).1, (w.actor.subscribe cursor).2) := by
    unfold ActorState.turn
    rw [hrunning]
    rfl
  show (w.turn (.command (.subscribe cursor))).readers w.actor.nextChannel = _
  unfold World.turn
  rw [hturn]
  exact setReader_self ..

/-- A step of `recv` returns once, if at all. -/
theorem step_received (hreader : w.readers id = some reader)
    (hinput : input = .recv id ∨ input = .poll id)
    (hlater : (w.step input).readers id = some reader') :
    ∃ result : Option (Except SubscriptionError AgentUpdate),
      reader'.received = reader.received ++ result.toList := by
  have hsame {found : Reader} (hfound : (w.setReader id found).readers id = some reader') :
      reader' = found := by
    rw [setReader_self] at hfound
    exact (Option.some.inj hfound).symm
  have hkept (hfound : w.readers id = some reader') : ∃ result : Option _,
      reader'.received = reader.received ++ Option.toList result := by
    cases hreader.symm.trans hfound
    exact ⟨none, (List.append_nil _).symm⟩
  rcases hinput with rfl | rfl
  · replace hlater : (w.recv id).readers id = some reader' := hlater
    unfold World.recv at hlater
    rw [hreader] at hlater
    dsimp only at hlater
    split at hlater
    · exact hkept hlater
    split at hlater
    · obtain rfl := hsame hlater
      exact ⟨some _, rfl⟩
    · obtain rfl := hsame hlater
      exact ⟨none, (List.append_nil _).symm⟩
  · replace hlater : (w.poll id).readers id = some reader' := hlater
    unfold World.poll at hlater
    rw [hreader] at hlater
    dsimp only at hlater
    split at hlater
    · exact hkept hlater
    split at hlater
    · obtain rfl := hsame hlater
      exact ⟨some _, rfl⟩
    · split at hlater
      · obtain rfl := hsame hlater
        exact ⟨some _, rfl⟩
      · obtain rfl := hsame hlater
        exact ⟨some _, rfl⟩
    · exact hkept hlater

/-- Every subscription's start leads to where the actor was. -/
def Leads (initial : AgentSnapshot) (w : World) : Prop :=
  ∀ id reader, w.readers id = some reader →
    StartLeads initial (w.actor.history.take reader.since) reader.cursor reader.start

theorem Leads.step (h : w.Leads initial) (hw : World.Invariant initial w) (input : WorldInput) :
    (w.step input).Leads initial := by
  intro id reader hreader
  obtain ⟨more, hmore⟩ := history_step w input
  rw [← hmore]
  rcases step_readers hreader with ⟨before, hbefore, hextends, -⟩ | ⟨cursor, rfl, rfl, rfl⟩
  · rw [hextends.cursor, hextends.start, hextends.since, List.take_append_of_le_length
      (hw.stream id before hbefore).since_le]
    exact h id before hbefore
  · show StartLeads initial ((w.actor.history ++ more).take w.actor.history.length) cursor _
    rw [List.take_left']
    · exact startLeads hw.actor cursor
    · rfl

theorem Leads.begin (initial : AgentSnapshot) (config : AgentActorConfig) :
    Leads initial (.start initial config) := fun _ _ h => absurd h (Option.some_ne_none _).symm

theorem Leads.world (initial : AgentSnapshot) (config : AgentActorConfig)
    (inputs : List WorldInput) : (world initial config inputs).Leads initial := by
  have hboth := run_invariant (P := fun w : World => World.Invariant initial w ∧ w.Leads initial)
    (fun w input h => ⟨h.1.step input, h.2.step h.1 input⟩)
    ⟨.begin initial config, .begin initial config⟩ inputs
  exact hboth.2

/-- **What a subscription gives leads on from its start**: the replay first, from the cursor
asked for, then what has been received. -/
theorem Leads.received (h : w.Leads initial) (hw : World.Invariant initial w)
    (hreader : w.readers id = some reader) :
    ∃ current reached : AgentSnapshot, current.agentId = initial.agentId ∧
      cursors.Exec (cursorOf current) reader.updates (cursorOf reached) ∧
        match reader.start with
        | .snapshot snapshot | .resyncRequired snapshot => snapshot = current
        | .replay updates => ∃ supplied, reader.cursor = some supplied ∧
            cursors.Exec supplied updates (cursorOf current) := by
  obtain ⟨current, hcurrent, hstart⟩ := h id reader hreader
  have hexec := hw.actor.exec
  rw [← List.take_append_drop reader.since w.actor.history] at hexec
  obtain ⟨m, hm, hrest⟩ := hexec.split
  obtain rfl := hm.det hcurrent
  have hprefix : reader.updates <+: (w.actor.history.drop reader.since).map (·.update) := by
    rw [List.map_drop]
    exact (List.prefix_append _ _).trans (hw.stream id reader hreader).contiguous
  obtain ⟨taken, left, hsplit, htaken⟩ := exists_of_prefix_map hprefix
  rw [hsplit] at hrest
  obtain ⟨reached, hreached, -⟩ := hrest.split
  have hleads := exec_cursors hreached
  rw [htaken] at hleads
  exact ⟨m, reached, Exec.agentId hm, hleads, hstart⟩

end World

end OmpRemote.ControlPlane

import OmpRemote.ControlPlane.Replay

/-!
# Subscriptions

An actor and its subscribers, interleaved at will. A subscriber holds a start and
the receiving end of a channel; each call of `recv` is two atomic steps, the
check of the flag and the wait for the queue.

- `World`: the actor and everything its subscribers hold.
- `Stream`: what one subscriber has received and what is still queued are the
  updates recorded since it subscribed, without a hole.
- `World.Invariant`: every subscriber's stream and start are right.
- `World.Attended`: whoever listens is served, or has been flagged.
- `subscription_correct`: what that means for a subscriber that applies what it
  is given.
-/

namespace OmpRemote.ControlPlane

open Lib Rpc

inductive SubscriptionError where
  | resyncRequired | closed
  deriving DecidableEq, Repr

/-- A subscription in the hands of a subscriber. `since` (how many updates had
been recorded when it subscribed) and `received` (what its calls of `recv`
returned, oldest first) are ghosts. -/
structure Reader where
  cursor : Option SubscriptionCursor
  start : SubscriptionStart
  since : Nat
  /-- A call of `recv` has seen the flag unset and waits for the queue. -/
  checked : Bool
  received : List (Except SubscriptionError AgentUpdate)
  dropped : Bool

namespace Reader

def new (cursor : Option SubscriptionCursor) (start : SubscriptionStart) (since : Nat) : Reader :=
  ⟨cursor, start, since, false, [], false⟩

/-- A call of `recv` returns. -/
def returns (reader : Reader) (result : Except SubscriptionError AgentUpdate) : Reader :=
  { reader with checked := false, received := reader.received ++ [result] }

/-- The updates received, oldest first. -/
def updates (reader : Reader) : List AgentUpdate :=
  reader.received.filterMap Except.toOption

@[simp] theorem updates_new (cursor : Option SubscriptionCursor) (start : SubscriptionStart)
    (since : Nat) : (new cursor start since).updates = [] := rfl

@[simp] theorem updates_returns_ok (reader : Reader) (update : AgentUpdate) :
    (reader.returns (.ok update)).updates = reader.updates ++ [update] := by
  simp [updates, returns, List.filterMap_append, Except.toOption]

@[simp] theorem updates_returns_error (reader : Reader) (error : SubscriptionError) :
    (reader.returns (.error error)).updates = reader.updates := by
  simp [updates, returns, List.filterMap_append, Except.toOption]

end Reader

/-- An actor, and its subscriptions by channel. -/
structure World where
  actor : ActorState
  readers : SubscriptionId → Option Reader

/-- A turn of the actor, or a step of a subscriber: call `recv`, let a waiting
call take from the queue, abandon a waiting call, drop the subscription. -/
inductive WorldInput where
  | actor (input : ActorInput)
  | recv (id : SubscriptionId)
  | poll (id : SubscriptionId)
  | cancel (id : SubscriptionId)
  | drop (id : SubscriptionId)

/-- The cursor a subscriber supplied. -/
def suppliedCursor : ActorInput → Option SubscriptionCursor
  | .command (.subscribe cursor) => cursor
  | _ => none

namespace World

def start (initial : AgentSnapshot) (config : AgentActorConfig) : World :=
  ⟨.spawn initial config, fun _ => none⟩

def setReader (w : World) (id : SubscriptionId) (reader : Reader) : World :=
  { w with readers := Function.update w.readers id (some reader) }

def setChannel (w : World) (id : SubscriptionId) (updates : Mpsc AgentUpdate) : World :=
  { w with actor := { w.actor with
      channels := Function.update w.actor.channels id { w.actor.channels id with updates } } }

section Fields

variable (w : World) (id other : SubscriptionId) (reader reader' : Reader)
  (updates : Mpsc AgentUpdate)

@[simp] theorem setReader_actor : (w.setReader id reader).actor = w.actor := rfl

@[simp] theorem setReader_self : (w.setReader id reader).readers id = some reader :=
  Function.update_self ..

theorem setReader_eq_some :
    (w.setReader id reader).readers other = some reader' ↔
      other = id ∧ reader' = reader ∨ other ≠ id ∧ w.readers other = some reader' := by
  by_cases h : other = id
  · subst h
    simp [eq_comm]
  · simp [setReader, h]

@[simp] theorem setChannel_readers : (w.setChannel id updates).readers = w.readers := rfl

@[simp] theorem setChannel_history :
    (w.setChannel id updates).actor.history = w.actor.history := rfl

@[simp] theorem setChannel_subscribers :
    (w.setChannel id updates).actor.subscribers = w.actor.subscribers := rfl

@[simp] theorem setChannel_nextChannel :
    (w.setChannel id updates).actor.nextChannel = w.actor.nextChannel := rfl

@[simp] theorem setChannel_self :
    (w.setChannel id updates).actor.channels id = { w.actor.channels id with updates } :=
  Function.update_self ..

theorem setChannel_other (h : other ≠ id) :
    (w.setChannel id updates).actor.channels other = w.actor.channels other :=
  Function.update_of_ne h ..

end Fields

def turn (w : World) (input : ActorInput) : World :=
  let (reply, actor) := w.actor.turn input
  match reply.subscription with
  | some subscription =>
    { w with actor }.setReader subscription.channel
      (.new (suppliedCursor input) subscription.start w.actor.history.length)
  | none => { w with actor }

/-- The first load of the flag in `AgentSubscription::recv`. -/
def recv (w : World) (id : SubscriptionId) : World :=
  match w.readers id with
  | none => w
  | some reader =>
    if reader.dropped || reader.checked then w
    else if (w.actor.channels id).resyncRequired then
      w.setReader id (reader.returns (.error .resyncRequired))
    else w.setReader id { reader with checked := true }

/-- The rest of `AgentSubscription::recv`. The flag no longer changes once the
sender is gone, so its second load belongs to the same step. -/
def poll (w : World) (id : SubscriptionId) : World :=
  match w.readers id with
  | none => w
  | some reader =>
    if reader.dropped || !reader.checked then w
    else match (w.actor.channels id).updates.poll with
      | .item update updates => (w.setChannel id updates).setReader id (reader.returns (.ok update))
      | .disconnected =>
        if (w.actor.channels id).resyncRequired then
          w.setReader id (reader.returns (.error .resyncRequired))
        else w.setReader id (reader.returns (.error .closed))
      | .pending => w

def cancel (w : World) (id : SubscriptionId) : World :=
  match w.readers id with
  | none => w
  | some reader => w.setReader id { reader with checked := false }

def drop (w : World) (id : SubscriptionId) : World :=
  match w.readers id with
  | none => w
  | some reader =>
    (w.setChannel id (w.actor.channels id).updates.dropReceiver).setReader id
      { reader with dropped := true }

def step (w : World) : WorldInput → World
  | .actor input => w.turn input
  | .recv id => w.recv id
  | .poll id => w.poll id
  | .cancel id => w.cancel id
  | .drop id => w.drop id

end World

/-! ## One subscriber's stream -/

/-- What a subscriber received and what its channel holds, given the history and
whether the actor still serves it. -/
structure Stream (history : List Recorded) (subscribed : Bool) (channel : SubscriberChannel)
    (reader : Reader) : Prop where
  since_le : reader.since ≤ history.length
  /-- No hole, no repetition: received and queued updates continue the history. -/
  contiguous : (reader.updates ++ channel.updates.buffer) <+:
    (history.map (·.update)).drop reader.since
  /-- While the actor serves a listening subscriber, nothing is missing. -/
  complete : subscribed = true → channel.updates.receiverOpen = true →
    reader.updates ++ channel.updates.buffer = (history.map (·.update)).drop reader.since
  sender : channel.updates.senderOpen = subscribed
  flag : channel.resyncRequired = channel.missed.isSome
  /-- A subscriber that missed an update is served no more. -/
  missed : ∀ position ∈ channel.missed, subscribed = false ∧
    reader.since + reader.updates.length + channel.updates.buffer.length ≤ position
  /-- Errors come last: after one, there is nothing left to take. -/
  errors : ∃ errors : List SubscriptionError,
    reader.received = reader.updates.map .ok ++ errors.map .error ∧
    (errors ≠ [] → subscribed = false ∧
      (channel.updates.buffer = [] ∨ channel.resyncRequired = true ∧ reader.checked = false)) ∧
    (.closed ∈ errors → channel.resyncRequired = false)

namespace SubscriberChannel

/-- What offering an update does to a channel. -/
theorem offer_cases (channel : SubscriberChannel) (update : AgentUpdate) (position : Nat) :
    (∃ updates, channel.updates.trySend update = .sent updates ∧
      channel.offer update position = (true, { channel with updates })) ∨
    (channel.updates.trySend update = .full ∧ channel.offer update position =
      (false, ⟨channel.updates.dropSender, true, channel.missed <|> some position⟩)) ∨
    (channel.updates.trySend update = .closed ∧ channel.offer update position =
      (false, { channel with updates := channel.updates.dropSender })) := by
  unfold offer
  cases hsend : channel.updates.trySend update with
  | sent updates => exact .inl ⟨updates, rfl, rfl⟩
  | full => exact .inr (.inl ⟨rfl, rfl⟩)
  | closed => exact .inr (.inr ⟨rfl, rfl⟩)

end SubscriberChannel

namespace Stream

variable {history : List Recorded} {subscribed : Bool} {channel : SubscriberChannel}
  {reader : Reader}

theorem new (history : List Recorded) (capacity : Nat) (cursor : Option SubscriptionCursor)
    (start : SubscriptionStart) :
    Stream history true (.new capacity) (.new cursor start history.length) where
  since_le := Nat.le_refl _
  contiguous := List.nil_prefix
  complete _ _ := by
    show [] = _
    rw [Reader.new, List.drop_eq_nil_of_le (by rw [List.length_map])]
  sender := rfl
  flag := rfl
  missed _ h := by cases h
  errors := ⟨[], rfl, fun h => absurd rfl h, nofun⟩

/-- Once unserved, a stream does not notice later updates. -/
theorem unserved (h : Stream history false channel reader) (r : Recorded) :
    Stream (history ++ [r]) false channel reader where
  since_le := by
    rw [List.length_append]
    exact Nat.le_add_right_of_le h.since_le
  contiguous := by
    rw [List.map_append, List.drop_append_of_le_length (by simpa using h.since_le)]
    exact h.contiguous.trans (List.prefix_append _ _)
  complete h' := by cases h'
  sender := h.sender
  flag := h.flag
  missed := h.missed
  errors := h.errors

/-- A served subscriber has not been flagged, and has seen no error. -/
theorem served (h : Stream history true channel reader) :
    channel.missed = none ∧ reader.received = reader.updates.map .ok := by
  constructor
  · cases hmissed : channel.missed with
    | none => rfl
    | some position => exact absurd (h.missed position hmissed).1 (by decide)
  · obtain ⟨errors, hreceived, hend, -⟩ := h.errors
    cases errors with
    | nil => simpa using hreceived
    | cons error errors => exact absurd (hend (List.cons_ne_nil _ _)).1 (by decide)

/-- A flagged subscriber is served no more. -/
theorem flagged (h : Stream history subscribed channel reader)
    (hflag : channel.resyncRequired = true) : subscribed = false := by
  rw [h.flag] at hflag
  obtain ⟨position, hmissed⟩ := Option.isSome_iff_exists.mp hflag
  exact (h.missed position hmissed).1

/-- **One update offered** to a served subscriber: it is queued, or the stream
ends before it. -/
theorem offer (h : Stream history true channel reader) (r : Recorded) :
    Stream (history ++ [r]) (channel.offer r.update history.length).1
      (channel.offer r.update history.length).2 reader := by
  obtain ⟨hmissed, hreceived⟩ := h.served
  have hsince : reader.since ≤ (history.map (·.update)).length := by
    simpa using h.since_le
  have hsince' : reader.since ≤ (history ++ [r]).length := by
    rw [List.length_append]
    exact Nat.le_add_right_of_le h.since_le
  have hprefix : (reader.updates ++ channel.updates.buffer) <+:
      ((history ++ [r]).map (·.update)).drop reader.since := by
    rw [List.map_append, List.drop_append_of_le_length hsince]
    exact h.contiguous.trans (List.prefix_append _ _)
  have hflag : channel.resyncRequired = false := by
    rw [h.flag, hmissed]
    rfl
  rcases channel.offer_cases r.update history.length with
    ⟨updates, hsend, hoffer⟩ | ⟨hsend, hoffer⟩ | ⟨hsend, hoffer⟩
  · rw [hoffer]
    obtain ⟨hopen, -, rfl⟩ := Mpsc.trySend_sent hsend
    have hall : reader.updates ++ (channel.updates.buffer ++ [r.update]) =
        ((history ++ [r]).map (·.update)).drop reader.since := by
      rw [← List.append_assoc, h.complete rfl hopen, List.map_append,
        List.drop_append_of_le_length hsince, List.map_singleton]
    exact
      { since_le := hsince'
        contiguous := hall ▸ List.prefix_refl _
        complete := fun _ _ => hall
        sender := h.sender
        flag := h.flag
        missed := fun position hp => absurd (hmissed.symm.trans hp) (Option.some_ne_none _).symm
        errors := ⟨[], by simpa using hreceived, fun h => absurd rfl h, nofun⟩ }
  · rw [hoffer, hmissed]
    have hopen : channel.updates.receiverOpen = true := Mpsc.receiverOpen_of_full hsend
    refine ⟨hsince', hprefix, nofun, rfl, rfl, fun position hp => ⟨rfl, ?_⟩,
      ⟨[], by simpa using hreceived, fun h => absurd rfl h, nofun⟩⟩
    cases hp
    have hlength := congrArg List.length (h.complete rfl hopen)
    simp only [List.length_append, List.length_drop, List.length_map] at hlength
    have := h.since_le
    simp only [Mpsc.buffer_dropSender]
    omega
  · rw [hoffer]
    exact ⟨hsince', hprefix, nofun, rfl, h.flag,
      fun position hp => absurd (hmissed.symm.trans hp) (Option.some_ne_none _).symm,
      ⟨[], by simpa using hreceived, fun h => absurd rfl h, nofun⟩⟩

/-- The actor drops its end. -/
theorem dropSender (h : Stream history true channel reader) :
    Stream history false { channel with updates := channel.updates.dropSender } reader := by
  obtain ⟨hmissed, hreceived⟩ := h.served
  exact ⟨h.since_le, h.contiguous, nofun, rfl, h.flag,
    fun position hp => absurd (hmissed.symm.trans hp) (Option.some_ne_none _).symm,
    ⟨[], by simpa using hreceived, fun h => absurd rfl h, nofun⟩⟩

/-- Whether a call of `recv` waits matters only after an error. -/
theorem wait (h : Stream history subscribed channel reader) (checked : Bool)
    (hchecked : checked = true → channel.resyncRequired = false) :
    Stream history subscribed channel { reader with checked } where
  since_le := h.since_le
  contiguous := h.contiguous
  complete := h.complete
  sender := h.sender
  flag := h.flag
  missed := h.missed
  errors := by
    obtain ⟨errors, hreceived, hend, hclosed⟩ := h.errors
    refine ⟨errors, hreceived, fun herrors => ?_, hclosed⟩
    obtain ⟨hsub, hbuffer | ⟨hflag, -⟩⟩ := hend herrors
    · exact ⟨hsub, .inl hbuffer⟩
    · refine ⟨hsub, .inr ⟨hflag, ?_⟩⟩
      cases hc : checked with
      | false => rfl
      | true => exact absurd (hflag.symm.trans (hchecked hc)) (by decide)

/-- `recv` reports an error when the actor serves the subscriber no more and
there is nothing to take, or the flag is up before it looks. -/
theorem returnsError (h : Stream history false channel reader) (error : SubscriptionError)
    (hend : channel.updates.buffer = [] ∨ channel.resyncRequired = true)
    (hclosed : error = .closed → channel.resyncRequired = false) :
    Stream history false channel (reader.returns (.error error)) where
  since_le := h.since_le
  contiguous := by
    rw [Reader.updates_returns_error]
    exact h.contiguous
  complete := nofun
  sender := h.sender
  flag := h.flag
  missed := by
    rw [Reader.updates_returns_error]
    exact h.missed
  errors := by
    obtain ⟨errors, hreceived, -, hclosed'⟩ := h.errors
    refine ⟨errors ++ [error], ?_, fun _ => ⟨rfl, ?_⟩, fun hmem => ?_⟩
    · rw [Reader.updates_returns_error, List.map_append, ← List.append_assoc, ← hreceived]
      rfl
    · exact hend.imp id fun hflag => ⟨hflag, rfl⟩
    · rcases List.mem_append.mp hmem with hmem | hmem
      · exact hclosed' hmem
      · exact hclosed (List.mem_singleton.mp hmem).symm

/-- A waiting call takes the oldest queued update. -/
theorem returnsOk (h : Stream history subscribed channel reader) (hchecked : reader.checked = true)
    {update : AgentUpdate} {updates : Mpsc AgentUpdate}
    (hpoll : channel.updates.poll = .item update updates) :
    Stream history subscribed { channel with updates } (reader.returns (.ok update)) := by
  obtain ⟨hbuffer, hupdates⟩ := Mpsc.poll_item hpoll
  obtain ⟨errors, hreceived, hend, -⟩ := h.errors
  have hnone : errors = [] := by
    by_contra herrors
    rcases (hend herrors).2 with hempty | ⟨-, hno⟩
    · rw [hbuffer] at hempty
      cases hempty
    · rw [hchecked] at hno
      cases hno
  have hshift : (reader.returns (.ok update)).updates ++ updates.buffer =
      reader.updates ++ channel.updates.buffer := by
    rw [Reader.updates_returns_ok, hbuffer, List.append_assoc, List.singleton_append]
  refine
    { since_le := h.since_le
      contiguous := hshift ▸ h.contiguous
      complete := fun hsub hopen => ?_
      sender := ?_
      flag := h.flag
      missed := fun position hp => ?_
      errors := ⟨[], ?_, fun h => absurd rfl h, nofun⟩ }
  · rw [hupdates] at hopen
    exact hshift.trans (h.complete hsub hopen)
  · rw [hupdates]
    exact h.sender
  · obtain ⟨hsub, hle⟩ := h.missed position hp
    refine ⟨hsub, ?_⟩
    have := congrArg List.length hshift
    simp only [List.length_append] at this
    show _ + _ + updates.buffer.length ≤ position
    have hsince : (reader.returns (.ok update)).since = reader.since := rfl
    omega
  · rw [hnone, List.map_nil, List.append_nil] at hreceived
    rw [Reader.updates_returns_ok, List.map_append, ← hreceived, List.map_nil, List.append_nil]
    rfl

/-- The subscriber goes away, with what was queued for it. -/
theorem dropReceiver (h : Stream history subscribed channel reader) :
    Stream history subscribed { channel with updates := channel.updates.dropReceiver }
      { reader with dropped := true } where
  since_le := h.since_le
  contiguous := by
    show (reader.updates ++ []) <+: _
    rw [List.append_nil]
    exact (List.prefix_append _ _).trans h.contiguous
  complete _ hopen := by cases hopen
  sender := h.sender
  flag := h.flag
  missed position hp := by
    obtain ⟨hsub, hle⟩ := h.missed position hp
    refine ⟨hsub, ?_⟩
    show reader.since + reader.updates.length + 0 ≤ position
    omega
  errors := by
    obtain ⟨errors, hreceived, hend, hclosed⟩ := h.errors
    exact ⟨errors, hreceived, fun herrors => ⟨(hend herrors).1, .inl rfl⟩, hclosed⟩

end Stream

/-! ## Starts -/

/-- The start handed out when `log` had been recorded: the current snapshot, or
a replay that takes a snapshot the actor had to the current one. -/
def StartSound (initial : AgentSnapshot) (log : List Recorded)
    (cursor : Option SubscriptionCursor) (start : SubscriptionStart) : Prop :=
  ∃ current, snapshots.Exec initial log current ∧
    match start with
    | .snapshot snapshot => snapshot = current ∧ cursor = none
    | .resyncRequired snapshot => snapshot = current ∧ cursor ≠ none
    | .replay updates => ∃ supplied, cursor = some supplied ∧
        supplied.eventSequence ≤ current.eventSequence ∧
        ∀ s, snapshots.Passed initial log s → supplied = cursorOf s →
          updates = (log.map (·.update)).drop
            (s.eventSequence.toNat - initial.eventSequence.toNat)

theorem startSound {initial : AgentSnapshot} {state : ActorState} (h : Invariant initial state)
    (cursor : Option SubscriptionCursor) :
    StartSound initial state.history cursor (state.subscribe cursor).1.start := by
  refine ⟨state.snapshot, h.exec, ?_⟩
  cases cursor with
  | none => exact ⟨rfl, rfl⟩
  | some cursor =>
    show match state.subscriptionStart cursor with
      | .snapshot snapshot => snapshot = state.snapshot ∧ some cursor = none
      | .resyncRequired snapshot => snapshot = state.snapshot ∧ some cursor ≠ none
      | .replay updates => _
    rcases subscriptionStart_cases state cursor with hstart | ⟨updates, hstart⟩
    · rw [hstart]
      exact ⟨rfl, Option.some_ne_none cursor⟩
    · rw [hstart]
      refine ⟨cursor, rfl, (subscriptionStart_replay.mp hstart).1.2.2, fun s hs hcursor => ?_⟩
      subst hcursor
      exact replay_of_passed h (Invariant.mem_of_passed hs) hstart

/-! ## All subscribers, over whole runs -/

/-- Every subscriber of a world was given a right start and has a right stream. -/
structure World.Invariant (initial : AgentSnapshot) (w : World) : Prop where
  actor : ControlPlane.Invariant initial w.actor
  allocated : ∀ id, w.actor.nextChannel ≤ id → w.readers id = none
  stream : ∀ id reader, w.readers id = some reader →
    Stream w.actor.history (decide (id ∈ w.actor.subscribers)) (w.actor.channels id) reader
  start : ∀ id reader, w.readers id = some reader →
    StartSound initial (w.actor.history.take reader.since) reader.cursor reader.start

namespace World.Invariant

variable {initial : AgentSnapshot} {w : World}

theorem begin (initial : AgentSnapshot) (config : AgentActorConfig) :
    World.Invariant initial (.start initial config) where
  actor := .spawn initial config
  allocated _ _ := rfl
  stream _ _ h := absurd h (Option.some_ne_none _).symm
  start _ _ h := absurd h (Option.some_ne_none _).symm

/-- A turn that hands out no subscription. -/
theorem effect (h : World.Invariant initial w) {actor : ActorState}
    (heffect : ActorState.TurnEffect w.actor actor) :
    World.Invariant initial { w with actor } := by
  have hactor := h.actor.step heffect
  cases heffect with
  | idle deadline => exact ⟨hactor, h.allocated, h.stream, h.start⟩
  | halted =>
    refine ⟨hactor, h.allocated, fun id reader hreader => ?_, h.start⟩
    have hstream := h.stream id reader hreader
    -- after a halt nobody is served
    have hnone : decide (id ∈ w.actor.halt.subscribers) = false := rfl
    show Stream w.actor.history (decide (id ∈ w.actor.halt.subscribers))
      (w.actor.halt.channels id) reader
    rw [hnone, ActorState.halt_channels]
    by_cases hid : id ∈ w.actor.subscribers
    · rw [if_pos hid]
      rw [decide_eq_true hid] at hstream
      exact hstream.dropSender
    · rw [if_neg hid]
      rwa [decide_eq_false hid] at hstream
  | records update snapshot deadline hadv =>
    refine ⟨hactor, h.allocated, fun id reader hreader => ?_, fun id reader hreader => ?_⟩
    · have hstream := h.stream id reader hreader
      show Stream (w.actor.history ++ [Recorded.mk update snapshot])
        (decide (id ∈ ({ w.actor with snapshot }.record update).subscribers))
        (({ w.actor with snapshot }.record update).channels id) reader
      rw [ActorState.record_channels]
      by_cases hid : id ∈ w.actor.subscribers
      · -- whoever is offered the update and takes it is served further on
        have hkept : decide (id ∈ ({ w.actor with snapshot }.record update).subscribers) =
            ((w.actor.channels id).offer update w.actor.history.length).1 := by
          rw [Bool.eq_iff_iff, decide_eq_true_iff, ActorState.mem_record_subscribers]
          exact and_iff_right hid
        rw [if_pos hid, hkept]
        rw [decide_eq_true hid] at hstream
        exact hstream.offer ⟨update, snapshot⟩
      · -- whoever was not served is not served now
        have hgone : decide (id ∈ ({ w.actor with snapshot }.record update).subscribers) =
            false := by
          rw [decide_eq_false_iff_not, ActorState.mem_record_subscribers]
          exact fun hmem => hid hmem.1
        rw [if_neg hid, hgone]
        rw [decide_eq_false hid] at hstream
        exact hstream.unserved ⟨update, snapshot⟩
    · have hle := (h.stream id reader hreader).since_le
      -- what a reader started from lies before the new record
      have htake : (w.actor.history ++ [Recorded.mk update snapshot]).take reader.since =
          w.actor.history.take reader.since := List.take_append_of_le_length hle
      show StartSound initial ((w.actor.history ++ [Recorded.mk update snapshot]).take reader.since)
        reader.cursor reader.start
      rw [htake]
      exact h.start id reader hreader

theorem subscribe (h : World.Invariant initial w) (cursor : Option SubscriptionCursor) :
    World.Invariant initial ({ w with actor := (w.actor.subscribe cursor).2 }.setReader
      (w.actor.subscribe cursor).1.channel
      (.new cursor (w.actor.subscribe cursor).1.start w.actor.history.length)) := by
  refine ⟨h.actor.subscribe cursor, fun id hid => ?_, fun id reader hreader => ?_,
    fun id reader hreader => ?_⟩
  · have hlt : w.actor.nextChannel < id := hid
    show Function.update w.readers w.actor.nextChannel _ id = none
    rw [Function.update_of_ne (Nat.ne_of_gt hlt)]
    exact h.allocated id (Nat.le_of_lt hlt)
  · rcases (setReader_eq_some ..).mp hreader with ⟨rfl, rfl⟩ | ⟨hid, hold⟩
    · have hmem : decide ((w.actor.subscribe cursor).1.channel ∈
          (w.actor.subscribe cursor).2.subscribers) = true :=
        decide_eq_true (List.mem_append_right _ List.mem_cons_self)
      have hchannel : (w.actor.subscribe cursor).2.channels (w.actor.subscribe cursor).1.channel =
          .new w.actor.subscriberCapacity := Function.update_self ..
      rw [setReader_actor, hmem, hchannel]
      exact Stream.new w.actor.history _ cursor _
    · have hmem : decide (id ∈ (w.actor.subscribe cursor).2.subscribers) =
          decide (id ∈ w.actor.subscribers) := by
        refine decide_eq_decide.mpr (List.mem_append.trans (or_iff_left ?_))
        exact fun hmem => hid (List.mem_singleton.mp hmem)
      have hchannel : (w.actor.subscribe cursor).2.channels id = w.actor.channels id :=
        Function.update_of_ne hid ..
      rw [setReader_actor, hmem, hchannel]
      exact h.stream id reader hold
  · rcases (setReader_eq_some ..).mp hreader with ⟨rfl, rfl⟩ | ⟨hid, hold⟩
    · have hsound := startSound h.actor cursor
      show StartSound initial (w.actor.history.take w.actor.history.length) cursor _
      rw [List.take_length]
      exact hsound
    · exact h.start id reader hold

theorem turn (h : World.Invariant initial w) (input : ActorInput) :
    World.Invariant initial (w.turn input) := by
  unfold World.turn
  rcases w.actor.turn_cases input with ⟨cursor, rfl, hturn⟩ | ⟨hreply, heffect⟩
  · rw [hturn]
    exact h.subscribe cursor
  · dsimp only
    rw [hreply]
    exact h.effect heffect

/-- A step of one subscriber, on its own channel and state. -/
theorem subscriber (h : World.Invariant initial w) {id : SubscriptionId} {reader reader' : Reader}
    {updates : Mpsc AgentUpdate} (hreader : w.readers id = some reader)
    (hstream : Stream w.actor.history (decide (id ∈ w.actor.subscribers))
      { w.actor.channels id with updates } reader')
    (hsince : reader'.since = reader.since) (hcursor : reader'.cursor = reader.cursor)
    (hstart : reader'.start = reader.start) :
    World.Invariant initial ((w.setChannel id updates).setReader id reader') := by
  refine ⟨⟨h.actor.exec, h.actor.capacity_pos, h.actor.replay⟩, fun other hother => ?_,
    fun other r hr => ?_, fun other r hr => ?_⟩
  · have hne : other ≠ id := by
      rintro rfl
      rw [h.allocated _ hother] at hreader
      cases hreader
    exact (Function.update_of_ne hne ..).trans (h.allocated other hother)
  · rcases (setReader_eq_some ..).mp hr with ⟨rfl, rfl⟩ | ⟨hid, hold⟩
    · rw [setReader_actor, setChannel_self]
      exact hstream
    · rw [setReader_actor, setChannel_other _ _ _ _ hid]
      exact h.stream other r hold
  · rcases (setReader_eq_some ..).mp hr with ⟨rfl, rfl⟩ | ⟨hid, hold⟩
    · rw [hsince, hcursor, hstart]
      exact h.start other reader hreader
    · exact h.start other r hold

/-- A step of one subscriber that leaves its channel alone. -/
theorem reader (h : World.Invariant initial w) {id : SubscriptionId} {reader reader' : Reader}
    (hreader : w.readers id = some reader)
    (hstream : Stream w.actor.history (decide (id ∈ w.actor.subscribers))
      (w.actor.channels id) reader')
    (hsince : reader'.since = reader.since) (hcursor : reader'.cursor = reader.cursor)
    (hstart : reader'.start = reader.start) :
    World.Invariant initial (w.setReader id reader') := by
  have hsame : w.setChannel id (w.actor.channels id).updates = w := by
    simp [setChannel]
  rw [← hsame]
  exact h.subscriber hreader hstream hsince hcursor hstart

theorem recv (h : World.Invariant initial w) (id : SubscriptionId) :
    World.Invariant initial (w.recv id) := by
  unfold World.recv
  cases hreader : w.readers id with
  | none => exact h
  | some reader =>
    have hstream := h.stream id reader hreader
    dsimp only
    split
    · exact h
    split
    · rename_i hflag
      have hserved := hstream.flagged hflag
      rw [hserved] at hstream
      refine h.reader hreader ?_ rfl rfl rfl
      rw [hserved]
      exact hstream.returnsError _ (.inr hflag) nofun
    · rename_i hflag
      exact h.reader hreader (hstream.wait true fun _ => by simpa using hflag) rfl rfl rfl

theorem poll (h : World.Invariant initial w) (id : SubscriptionId) :
    World.Invariant initial (w.poll id) := by
  unfold World.poll
  cases hreader : w.readers id with
  | none => exact h
  | some reader =>
    have hstream := h.stream id reader hreader
    dsimp only
    split
    · exact h
    rename_i hwaits
    have hchecked : reader.checked = true := by
      cases hc : reader.checked with
      | true => rfl
      | false => simp [hc] at hwaits
    split
    · rename_i update updates hpoll
      exact h.subscriber hreader (hstream.returnsOk hchecked hpoll) rfl rfl rfl
    · rename_i hpoll
      obtain ⟨hempty, hclosed⟩ := Mpsc.poll_disconnected hpoll
      have hserved : decide (id ∈ w.actor.subscribers) = false := hstream.sender.symm.trans hclosed
      rw [hserved] at hstream
      split
      · refine h.reader hreader ?_ rfl rfl rfl
        rw [hserved]
        exact hstream.returnsError _ (.inl hempty) nofun
      · rename_i hflag
        refine h.reader hreader ?_ rfl rfl rfl
        rw [hserved]
        exact hstream.returnsError _ (.inl hempty) fun _ => by simpa using hflag
    · exact h

theorem cancel (h : World.Invariant initial w) (id : SubscriptionId) :
    World.Invariant initial (w.cancel id) := by
  unfold World.cancel
  cases hreader : w.readers id with
  | none => exact h
  | some reader =>
    exact h.reader hreader ((h.stream id reader hreader).wait false nofun) rfl rfl rfl

theorem drop (h : World.Invariant initial w) (id : SubscriptionId) :
    World.Invariant initial (w.drop id) := by
  unfold World.drop
  cases hreader : w.readers id with
  | none => exact h
  | some reader =>
    exact h.subscriber hreader (h.stream id reader hreader).dropReceiver rfl rfl rfl

theorem step (h : World.Invariant initial w) (input : WorldInput) :
    World.Invariant initial (w.step input) := by
  cases input with
  | actor input => exact h.turn input
  | recv id => exact h.recv id
  | poll id => exact h.poll id
  | cancel id => exact h.cancel id
  | drop id => exact h.drop id

end World.Invariant

/-- An actor and its subscribers, after any interleaving of their steps. -/
def world (initial : AgentSnapshot) (config : AgentActorConfig) (inputs : List WorldInput) :
    World :=
  run World.step (.start initial config) inputs

theorem World.Invariant.world (initial : AgentSnapshot) (config : AgentActorConfig)
    (inputs : List WorldInput) :
    World.Invariant initial (world initial config inputs) :=
  run_invariant (fun _ input h => h.step input) (.begin initial config) inputs

/-! ## Subscribers that listen -/

/-- As long as the actor runs, whoever listens is served, or has been flagged. -/
def World.Attended (w : World) : Prop :=
  ∀ id reader, w.readers id = some reader → reader.dropped = false →
    (w.actor.channels id).updates.receiverOpen = true ∧
      (w.actor.running = true →
        id ∈ w.actor.subscribers ∨ (w.actor.channels id).resyncRequired = true)

namespace World.Attended

variable {initial : AgentSnapshot} {w : World}

theorem begin (initial : AgentSnapshot) (config : AgentActorConfig) :
    World.Attended (.start initial config) := fun _ _ h => absurd h (Option.some_ne_none _).symm

/-- A turn that hands out no subscription. -/
theorem effect (h : w.Attended) {actor : ActorState}
    (heffect : ActorState.TurnEffect w.actor actor) : World.Attended { w with actor } := by
  cases heffect with
  | idle deadline => exact h
  | halted =>
    intro id reader hreader hlistens
    refine ⟨?_, nofun⟩
    show (w.actor.halt.channels id).updates.receiverOpen = true
    rw [ActorState.halt_channels]
    split
    · exact (h id reader hreader hlistens).1
    · exact (h id reader hreader hlistens).1
  | records update snapshot deadline hadv =>
    intro id reader hreader hlistens
    obtain ⟨hopen, hserved⟩ := h id reader hreader hlistens
    show (({ w.actor with snapshot }.record update).channels id).updates.receiverOpen = true ∧
      (w.actor.running = true → id ∈ ({ w.actor with snapshot }.record update).subscribers ∨
        (({ w.actor with snapshot }.record update).channels id).resyncRequired = true)
    rw [ActorState.record_channels, ActorState.mem_record_subscribers]
    by_cases hid : id ∈ w.actor.subscribers
    · rw [if_pos hid]
      show ((w.actor.channels id).offer update w.actor.history.length).2.updates.receiverOpen =
          true ∧ (w.actor.running = true → (id ∈ w.actor.subscribers ∧
            ((w.actor.channels id).offer update w.actor.history.length).1 = true) ∨
          ((w.actor.channels id).offer update w.actor.history.length).2.resyncRequired = true)
      rcases (w.actor.channels id).offer_cases update w.actor.history.length with
        ⟨updates, hsend, hoffer⟩ | ⟨-, hoffer⟩ | ⟨hsend, hoffer⟩
      · rw [hoffer]
        obtain ⟨-, -, rfl⟩ := Mpsc.trySend_sent hsend
        exact ⟨hopen, fun _ => .inl ⟨hid, rfl⟩⟩
      · rw [hoffer]
        exact ⟨hopen, fun _ => .inr rfl⟩
      · -- the channel of whoever listens is not closed
        unfold Mpsc.trySend at hsend
        rw [hopen] at hsend
        simp only [Bool.not_true, Bool.false_eq_true, if_false] at hsend
        split at hsend <;> cases hsend
    · rw [if_neg hid]
      exact ⟨hopen, fun hrunning => .inr ((hserved hrunning).resolve_left hid)⟩

theorem subscribe (h : w.Attended) (cursor : Option SubscriptionCursor) :
    World.Attended ({ w with actor := (w.actor.subscribe cursor).2 }.setReader
      (w.actor.subscribe cursor).1.channel
      (.new cursor (w.actor.subscribe cursor).1.start w.actor.history.length)) := by
  intro id reader hreader hlistens
  show ((w.actor.subscribe cursor).2.channels id).updates.receiverOpen = true ∧
    (w.actor.running = true → id ∈ (w.actor.subscribe cursor).2.subscribers ∨
      ((w.actor.subscribe cursor).2.channels id).resyncRequired = true)
  rcases (setReader_eq_some ..).mp hreader with ⟨rfl, rfl⟩ | ⟨hid, hold⟩
  · have hchannel : (w.actor.subscribe cursor).2.channels (w.actor.subscribe cursor).1.channel =
        .new w.actor.subscriberCapacity := Function.update_self ..
    rw [hchannel]
    exact ⟨rfl, fun _ => .inl (List.mem_append_right _ List.mem_cons_self)⟩
  · have hchannel : (w.actor.subscribe cursor).2.channels id = w.actor.channels id :=
      Function.update_of_ne hid ..
    obtain ⟨hopen, hserved⟩ := h id reader hold hlistens
    rw [hchannel]
    exact ⟨hopen, fun hrunning => (hserved hrunning).imp_left (List.mem_append_left _)⟩

/-- A step of one subscriber, which keeps its end of the channel or goes away. -/
theorem subscriber (h : w.Attended) {id : SubscriptionId} {reader reader' : Reader}
    {updates : Mpsc AgentUpdate} (hreader : w.readers id = some reader)
    (hopen : reader'.dropped = false → reader.dropped = false ∧
      updates.receiverOpen = (w.actor.channels id).updates.receiverOpen) :
    World.Attended ((w.setChannel id updates).setReader id reader') := by
  intro other r hr hlistens
  rw [setReader_actor]
  rcases (setReader_eq_some ..).mp hr with ⟨rfl, rfl⟩ | ⟨hid, hold⟩
  · obtain ⟨hbefore, hsame⟩ := hopen hlistens
    rw [setChannel_self]
    exact ⟨hsame.trans (h other reader hreader hbefore).1, (h other reader hreader hbefore).2⟩
  · rw [setChannel_other _ _ _ _ hid]
    exact h other r hold hlistens

theorem reader (h : w.Attended) {id : SubscriptionId} {reader reader' : Reader}
    (hreader : w.readers id = some reader) (hdropped : reader'.dropped = reader.dropped) :
    World.Attended (w.setReader id reader') := by
  have hsame : w.setChannel id (w.actor.channels id).updates = w := by
    simp [setChannel]
  rw [← hsame]
  exact h.subscriber hreader fun hlistens => ⟨hdropped.symm.trans hlistens, rfl⟩

theorem step (h : w.Attended) (input : WorldInput) : (w.step input).Attended := by
  cases input with
  | actor input =>
    show (w.turn input).Attended
    unfold World.turn
    rcases w.actor.turn_cases input with ⟨cursor, rfl, hturn⟩ | ⟨hreply, heffect⟩
    · rw [hturn]
      exact h.subscribe cursor
    · dsimp only
      rw [hreply]
      exact h.effect heffect
  | recv id =>
    show (w.recv id).Attended
    unfold World.recv
    split
    · exact h
    rename_i reader hreader
    split
    · exact h
    split
    · exact h.reader hreader rfl
    · exact h.reader hreader rfl
  | poll id =>
    show (w.poll id).Attended
    unfold World.poll
    split
    · exact h
    rename_i reader hreader
    split
    · exact h
    split
    · rename_i update updates hpoll
      obtain ⟨-, hupdates⟩ := Mpsc.poll_item hpoll
      exact h.subscriber hreader fun hlistens => ⟨hlistens, by rw [hupdates]⟩
    · split
      · exact h.reader hreader rfl
      · exact h.reader hreader rfl
    · exact h
  | cancel id =>
    show (w.cancel id).Attended
    unfold World.cancel
    split
    · exact h
    · rename_i reader hreader
      exact h.reader hreader rfl
  | drop id =>
    show (w.drop id).Attended
    unfold World.drop
    split
    · exact h
    · rename_i reader hreader
      exact h.subscriber hreader nofun

end World.Attended

theorem World.Attended.world (initial : AgentSnapshot) (config : AgentActorConfig)
    (inputs : List WorldInput) : (world initial config inputs).Attended :=
  run_invariant (fun _ input h => h.step input) (.begin initial config) inputs

/-! ## A subscriber that applies what it is given -/

/-- The updates a start replays. -/
def startUpdates : SubscriptionStart → List AgentUpdate
  | .snapshot _ | .resyncRequired _ => []
  | .replay updates => updates

/-- The snapshot a subscriber starts from: the one it is given, or the one it
holds. -/
def startBase (held : AgentSnapshot) : SubscriptionStart → AgentSnapshot
  | .snapshot snapshot | .resyncRequired snapshot => snapshot
  | .replay _ => held

/-- A prefix of a mapped list is the image of a prefix. -/
theorem exists_of_prefix_map {α β : Type} {f : α → β} {ys : List β} {xs : List α}
    (h : ys <+: xs.map f) : ∃ us vs, xs = us ++ vs ∧ us.map f = ys := by
  refine ⟨xs.take ys.length, xs.drop ys.length, (List.take_append_drop ..).symm, ?_⟩
  rw [List.map_take]
  exact (List.prefix_iff_eq_take.mp h).symm

namespace World.Invariant

variable {initial held : AgentSnapshot} {w : World} {id : SubscriptionId} {reader : Reader}

/-- The start leads from a snapshot the actor had to where the live updates begin. -/
theorem start_slice (h : World.Invariant initial w) (hreader : w.readers id = some reader)
    (hheld : reader.cursor = none ∨
      held ∈ w.actor.passed initial ∧ reader.cursor = some (cursorOf held)) :
    startBase held reader.start ∈ w.actor.passed initial ∧
      (startBase held reader.start).eventSequence.toNat - initial.eventSequence.toNat ≤
        reader.since ∧
      startUpdates reader.start = (w.actor.recorded.take reader.since).drop
        ((startBase held reader.start).eventSequence.toNat - initial.eventSequence.toNat) := by
  have hsince := (h.stream id reader hreader).since_le
  obtain ⟨current, hcurrent, hstart⟩ := h.start id reader hreader
  have hexec : snapshots.Exec initial
      (w.actor.history.take reader.since ++ w.actor.history.drop reader.since)
      w.actor.snapshot := by
    rw [List.take_append_drop]
    exact h.actor.exec
  have hpassed : snapshots.Passed initial
      (w.actor.history.take reader.since ++ w.actor.history.drop reader.since) current :=
    .mono (.last hcurrent) _
  have hmem : current ∈ w.actor.passed initial := by
    rw [List.take_append_drop] at hpassed
    exact Invariant.mem_of_passed hpassed
  have hpos : current.eventSequence.toNat = initial.eventSequence.toNat + reader.since := by
    have hlength := hcurrent.pos_eq
    rw [List.length_take, Nat.min_eq_left hsince] at hlength
    exact hlength
  -- a start that carries the current snapshot replays nothing
  have hcarried : current ∈ w.actor.passed initial ∧
      current.eventSequence.toNat - initial.eventSequence.toNat ≤ reader.since ∧
      [] = (w.actor.recorded.take reader.since).drop
        (current.eventSequence.toNat - initial.eventSequence.toNat) := by
    have hat : current.eventSequence.toNat - initial.eventSequence.toNat = reader.since := by
      omega
    rw [hat]
    exact ⟨hmem, Nat.le_refl _, (List.drop_eq_nil_of_le (List.length_take_le ..)).symm⟩
  cases hkind : reader.start with
  | snapshot snapshot =>
    rw [hkind] at hstart
    obtain ⟨rfl, -⟩ := hstart
    exact hcarried
  | resyncRequired snapshot =>
    rw [hkind] at hstart
    obtain ⟨rfl, -⟩ := hstart
    exact hcarried
  | replay updates =>
    rw [hkind] at hstart
    obtain ⟨supplied, hsupplied, hle, hreplay⟩ := hstart
    obtain hnone | ⟨hheld, hcursor⟩ := hheld
    · rw [hsupplied] at hnone
      cases hnone
    · obtain rfl : supplied = cursorOf held := Option.some.inj (hsupplied.symm.trans hcursor)
      have hle' : held.eventSequence.toNat ≤ current.eventSequence.toNat :=
        UInt64.le_iff_toNat_le.mp hle
      have hbefore : snapshots.Passed initial (w.actor.history.take reader.since) held := by
        have hwhole := h.actor.passed_of_mem hheld
        rw [← List.take_append_drop reader.since w.actor.history] at hwhole
        exact hwhole.shorten hcurrent hle'
      refine ⟨hheld, ?_, ?_⟩
      · show held.eventSequence.toNat - _ ≤ _
        omega
      · show updates = (w.actor.recorded.take reader.since).drop
          (held.eventSequence.toNat - initial.eventSequence.toNat)
        rw [hreplay held hbefore rfl, ActorState.recorded, List.map_take]

/-- **What a subscriber applies is a slice of the history.** -/
theorem taken (h : World.Invariant initial w) (hreader : w.readers id = some reader)
    (hheld : reader.cursor = none ∨
      held ∈ w.actor.passed initial ∧ reader.cursor = some (cursorOf held)) :
    ∃ before slice after, w.actor.history = before ++ slice ++ after ∧
      (w.actor.passed initial)[before.length]? = some (startBase held reader.start) ∧
      slice.map (·.update) = startUpdates reader.start ++ reader.updates ∧
      applyEach (startBase held reader.start) (startUpdates reader.start ++ reader.updates) =
        .ok (slice.map (·.after)) := by
  obtain ⟨hbase, hle, hupdates⟩ := h.start_slice hreader hheld
  have hstream := h.stream id reader hreader
  have hpassed := h.actor.passed_of_mem hbase
  have hindex := h.actor.passed_getElem hbase
  obtain ⟨-, hlength, -⟩ := hpassed.exec_take
  have hsuffix := hpassed.suffix h.actor.exec
  change (startBase held reader.start).eventSequence.toNat - initial.eventSequence.toNat ≤ _
    at hlength
  change snapshots.Exec _ (w.actor.history.drop
    ((startBase held reader.start).eventSequence.toNat - initial.eventSequence.toNat)) _ at hsuffix
  generalize (startBase held reader.start).eventSequence.toNat -
    initial.eventSequence.toNat = n at hle hupdates hindex hlength hsuffix
  have hprefix : startUpdates reader.start ++ reader.updates <+:
      (w.actor.history.drop n).map (·.update) := by
    have hsplit : (w.actor.history.drop n).map (·.update) =
        startUpdates reader.start ++ w.actor.recorded.drop reader.since := by
      have hlen : n ≤ (w.actor.recorded.take reader.since).length := by
        have := hstream.since_le
        rw [List.length_take, ActorState.recorded, List.length_map]
        omega
      rw [hupdates, ← List.drop_append_of_le_length hlen, List.take_append_drop,
        List.map_drop, ActorState.recorded]
    rw [hsplit]
    exact (List.prefix_append_right_inj _).mpr
      ((List.prefix_append _ _).trans hstream.contiguous)
  obtain ⟨slice, after, hslice, hmap⟩ := exists_of_prefix_map hprefix
  refine ⟨w.actor.history.take n, slice, after, ?_, ?_, hmap, ?_⟩
  · rw [List.append_assoc, ← hslice, List.take_append_drop]
  · rw [List.length_take, Nat.min_eq_left hlength]
    exact hindex
  · rw [hslice] at hsuffix
    obtain ⟨m, hexec, -⟩ := hsuffix.split
    rw [← hmap]
    exact Exec.applyEach hexec

end World.Invariant

/-- A subscriber that missed an update: it holds nothing recorded from there on,
is never told that the agent is gone, and its next call of `recv` that starts
after the miss returns `ResyncRequired`. -/
theorem World.Invariant.missed {initial : AgentSnapshot} {w : World} {id : SubscriptionId}
    {reader : Reader} {position : Nat} (h : World.Invariant initial w)
    (hreader : w.readers id = some reader)
    (hmissed : (w.actor.channels id).missed = some position) :
    reader.since + reader.updates.length ≤ position ∧
      .error .closed ∉ reader.received ∧
      (reader.dropped = false → reader.checked = false →
        (w.recv id).readers id = some (reader.returns (.error .resyncRequired))) ∧
      (reader.dropped = false → reader.checked = true →
        ∃ result, result ≠ .error .closed ∧
          (w.poll id).readers id = some (reader.returns result)) := by
  have hstream := h.stream id reader hreader
  obtain ⟨hserved, hle⟩ := hstream.missed position hmissed
  have hflag : (w.actor.channels id).resyncRequired = true := by
    rw [hstream.flag, hmissed]
    rfl
  refine ⟨by omega, ?_, fun hdropped hchecked => ?_, fun hdropped hchecked => ?_⟩
  · obtain ⟨errors, hreceived, -, hclosed⟩ := hstream.errors
    rw [hreceived]
    intro hmem
    have herror : .closed ∈ errors := by
      simpa using hmem
    rw [hflag] at hclosed
    exact absurd (hclosed herror) (by decide)
  · simp [World.recv, hreader, hdropped, hchecked, hflag]
  · have hsender : (w.actor.channels id).updates.senderOpen = false :=
      hstream.sender.trans hserved
    cases hbuffer : (w.actor.channels id).updates.buffer with
    | nil =>
      refine ⟨.error .resyncRequired, by simp, ?_⟩
      simp [World.poll, Mpsc.poll, hreader, hdropped, hchecked, hflag, hbuffer, hsender]
    | cons update rest =>
      refine ⟨.ok update, by simp, ?_⟩
      simp [World.poll, Mpsc.poll, hreader, hdropped, hchecked, hbuffer]

/-- **Subscription correctness.** Over every interleaving of an actor and its
subscribers: (1) a subscriber with no cursor, or with the cursor of a snapshot
the actor had and the subscriber holds, that applies its start and then what it
receives never meets an error, follows the actor snapshot by snapshot and skips
nothing; (2) errors end what it receives; (3) a missed update ends it with
`ResyncRequired`, before the hole; (4) whatever the cursor, a replay applies to
every snapshot with its counters and ends at the actor's. -/
theorem subscription_correct (initial : AgentSnapshot) (config : AgentActorConfig)
    (inputs : List WorldInput) :
    let w := world initial config inputs
    (∀ id reader, w.readers id = some reader →
      (∀ held, (reader.cursor = none ∨
          held ∈ w.actor.passed initial ∧ reader.cursor = some (cursorOf held)) →
        ∃ before slice after, w.actor.history = before ++ slice ++ after ∧
          (w.actor.passed initial)[before.length]? = some (startBase held reader.start) ∧
          slice.map (·.update) = startUpdates reader.start ++ reader.updates ∧
          applyEach (startBase held reader.start)
            (startUpdates reader.start ++ reader.updates) = .ok (slice.map (·.after))) ∧
      (∃ errors : List SubscriptionError,
        reader.received = reader.updates.map .ok ++ errors.map .error) ∧
      (∀ position, (w.actor.channels id).missed = some position →
        reader.since + reader.updates.length ≤ position ∧
        .error .closed ∉ reader.received ∧
        (reader.dropped = false → reader.checked = false →
          (w.recv id).readers id = some (reader.returns (.error .resyncRequired))) ∧
        (reader.dropped = false → reader.checked = true →
          ∃ result, result ≠ .error .closed ∧
            (w.poll id).readers id = some (reader.returns result)))) ∧
    (∀ cursor updates s, w.actor.subscriptionStart cursor = .replay updates →
      s.agentId = cursor.agentId → s.revision = cursor.revision →
      s.eventSequence = cursor.eventSequence →
      ∃ results, applyEach s updates = .ok results ∧
        (results.getLastD s).revision = w.actor.snapshot.revision ∧
        (results.getLastD s).eventSequence = w.actor.snapshot.eventSequence) := by
  have h := World.Invariant.world initial config inputs
  refine ⟨fun id reader hreader => ⟨fun held hheld => h.taken hreader hheld, ?_,
    fun position hmissed => h.missed hreader hmissed⟩, ?_⟩
  · obtain ⟨errors, hreceived, -⟩ := (h.stream id reader hreader).errors
    exact ⟨errors, hreceived⟩
  · intro cursor updates s hstart hagent hrevision hseq
    exact replay_applies h.actor hstart hagent hrevision hseq

end OmpRemote.ControlPlane

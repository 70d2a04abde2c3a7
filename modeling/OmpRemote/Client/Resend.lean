import OmpRemote.Client.RequestTable

/-!
# What is sent again

A request without an operation id is a read, which the daemon cannot tell from an
earlier sending of it. The runner keeps such a request like any other when its
connection is lost, and sends it again on the next one.

- `loses`: the steps that lose the connection.
- `onTheWire`: what is waited for on the connection, with what the step sends.
- `Careful`: no connection is lost while a read is on the wire.
- `ReadOnce`: a read is sent on one connection, and does not outlive it.
- `reads_not_resent`: along careful steps reads are sent once; `read_sent_twice`:
  one lost connection is enough for the other case.
-/

namespace OmpRemote.Client

open Lib Rpc

def PendingPayload.operationId? : PendingPayload → Option OperationId
  | .request _ operationId => operationId
  | .uiResponse _ _ _ operationId => some operationId

namespace ClientRunner

variable {runner : ClientRunner}

/-! ## Losing a connection -/

/-- The step loses the connection: the socket fails under it, no id is left to send
with, or the server shuts down. -/
def loses (runner : ClientRunner) : Input → Bool
  | .take ok => match runner.phase, runner.commands with
    | .connected, .request _ _ :: _ => !ok || (runner.ids.next "request").isNone
    | .connected, .subscribe agentId :: _ =>
      decide (agentId ∉ runner.desiredSubscriptions) && !ok
    | .connected, .unsubscribe agentId :: _ =>
      decide (agentId ∈ runner.desiredSubscriptions) && !ok
    | _, _ => false
  | .initializeConnection ok => match runner.phase with
    | .initializing (_ :: _) _ => !ok
    | .initializing [] (_ :: _) => !ok || (runner.ids.next "request").isNone
    | _ => false
  | .frame frame ok => decide (runner.phase = .connected) && match frame with
    | .serverShutdown _ _ => true
    | .response _ | .error _ | .pong _ | .welcome _ => false
    | replicated => resubscribes runner.state replicated && !ok
  | .lose => decide (runner.phase = .connected)
  | _ => false

/-- The request that the step hands to the socket. -/
def handsOver (runner : ClientRunner) : Input → Option PendingPayload
  | .take _ => match runner.phase, runner.commands with
    | .connected, .request payload _ :: _ => (runner.ids.next "request").map fun _ => payload
    | _, _ => none
  | .initializeConnection _ => match runner.phase with
    | .initializing [] (key :: _) =>
      (runner.ids.next "request").bind fun _ => (runner.pending.lookup key).map (·.payload)
    | _ => none
  | _ => none

/-- The requests that are waited for on the connection once the step has sent. -/
def onTheWire (runner : ClientRunner) (input : Input) : List PendingPayload :=
  (runner.pending.rows.filter fun row => row.2.sentRequestId.isSome).map (·.2.payload) ++
    (runner.handsOver input).toList

/-- No connection is lost while a read is on the wire. -/
def Careful (runner : ClientRunner) (input : Input) : Prop :=
  runner.loses input = true → ∀ payload ∈ runner.onTheWire input, payload.operationId? ≠ none

instance (runner : ClientRunner) (input : Input) : Decidable (Careful runner input) :=
  inferInstanceAs (Decidable (_ → _))

/-! ## Reads -/

/-- The connection is there, if only to be closed. -/
def Held (runner : ClientRunner) : Prop := runner.phase ≠ .offline ∧ runner.phase ≠ .stopped

/-- A read is sent on one connection, and waits no longer than that connection lasts. -/
structure ReadOnce (runner : ClientRunner) : Prop where
  one_connection : ∀ sent ∈ runner.requests, ∀ sent' ∈ runner.requests,
    sent.response = sent'.response → sent.payload.operationId? = none →
      sent.connection = sent'.connection
  waits : ∀ sent ∈ runner.requests, sent.payload.operationId? = none →
    sent.response ∈ runner.waiting → sent.connection = runner.connection ∧ runner.Held

theorem readOnce_new (random : String) : ReadOnce (new random) where
  one_connection _ h := absurd h List.not_mem_nil
  waits _ h := absurd h List.not_mem_nil

/-- A step that sends nothing and keeps the connection. -/
theorem ReadOnce.keep (h : ReadOnce runner) {after : ClientRunner}
    (hrequests : after.requests = runner.requests)
    (hconnection : after.connection = runner.connection)
    (hwaiting : ∀ sent ∈ runner.requests, sent.response ∈ after.waiting →
      sent.response ∈ runner.waiting)
    (hheld : runner.Held → after.Held) : ReadOnce after := by
  constructor
  · rw [hrequests]
    exact h.one_connection
  · rw [hrequests, hconnection]
    intro sent hsent hread hwaits
    obtain ⟨hnow, hholds⟩ := h.waits sent hsent hread (hwaiting sent hsent hwaits)
    exact ⟨hnow, hheld hholds⟩

/-- Nothing waits any more. -/
theorem ReadOnce.settle (h : ReadOnce runner) {after : ClientRunner}
    (hrequests : after.requests = runner.requests) (hwaiting : after.waiting = []) :
    ReadOnce after := by
  constructor
  · rw [hrequests]
    exact h.one_connection
  · intro sent _ _ hwaits
    rw [hwaiting] at hwaits
    cases hwaits

/-- The connection is lost, and no read waits that was sent. -/
theorem ReadOnce.disconnected (h : ReadOnce runner)
    (hnone : ∀ sent ∈ runner.requests, sent.payload.operationId? = none →
      sent.response ∉ runner.waiting) : ReadOnce runner.disconnected := by
  constructor
  · exact h.one_connection
  · intro sent hsent hread hwaits
    have hwaiting : runner.disconnected.waiting = runner.waiting := by
      simp [waiting, ClientRunner.disconnected, markPendingDisconnected, Table.mapRows]
    rw [hwaiting] at hwaits
    exact absurd hwaits (hnone sent hsent hread)

/-- When every read that is marked is excluded, none waits that was sent. -/
theorem ReadOnce.none_waits (h : ReadOnce runner) (hT : Tables runner) (hexact : Exact runner)
    (hmarked : ∀ key entry, runner.pending.lookup key = some entry →
      entry.payload.operationId? = none → entry.sentRequestId = none) :
    ∀ sent ∈ runner.requests, sent.payload.operationId? = none →
      sent.response ∉ runner.waiting := by
  intro sent hsent hread hwaits
  obtain ⟨hnow, -⟩ := h.waits sent hsent hread hwaits
  obtain ⟨key, entry, hentry, hsame⟩ := mem_waiting.mp hwaits
  have hmark := hexact sent hsent hnow key entry hentry hsame
  have hpayload := hT.contentPending sent hsent key entry hentry hsame
  rw [hmarked key entry hentry (hpayload ▸ hread)] at hmark
  cases hmark

/-- A pending request is handed to the socket, whatever becomes of it. -/
theorem ReadOnce.hand (h : ReadOnce runner) (hT : Tables runner) (hheld : runner.Held)
    {key : UInt64} {entry : PendingRequest} (hentry : runner.pending.lookup key = some entry)
    {after : ClientRunner} (id : RequestId)
    (hrequests : after.requests =
      runner.requests ++ [⟨entry.response, runner.connection, id, entry.payload⟩])
    (hconnection : after.connection = runner.connection) (hphase : after.phase = runner.phase)
    (hwaiting : ∀ ticket, ticket ∈ after.waiting → ticket ∈ runner.waiting) : ReadOnce after := by
  have hwaits : entry.response ∈ runner.waiting := mem_waiting.mpr ⟨key, entry, hentry, rfl⟩
  -- an earlier sending of the same read was on this connection
  have hearlier : ∀ sent ∈ runner.requests, sent.response = entry.response →
      entry.payload.operationId? = none → sent.connection = runner.connection := by
    intro sent hsent hsame hread
    have hpayload := hT.contentPending sent hsent key entry hentry hsame.symm
    exact (h.waits sent hsent (hpayload ▸ hread) (hsame ▸ hwaits)).1
  have hheld' : after.Held := by rwa [Held, hphase]
  constructor
  · rw [hrequests]
    intro sent hsent sent' hsent' hsame hread
    rcases List.mem_append.mp hsent with hold | hnew <;>
      rcases List.mem_append.mp hsent' with hold' | hnew'
    · exact h.one_connection sent hold sent' hold' hsame hread
    · rw [List.mem_singleton.mp hnew'] at hsame ⊢
      have hpayload := hT.contentPending sent hold key entry hentry hsame.symm
      exact hearlier sent hold hsame (hpayload ▸ hread)
    · rw [List.mem_singleton.mp hnew] at hsame hread ⊢
      exact (hearlier sent' hold' hsame.symm hread).symm
    · rw [List.mem_singleton.mp hnew, List.mem_singleton.mp hnew']
  · rw [hrequests, hconnection]
    intro sent hsent hread hsentWaits
    rcases List.mem_append.mp hsent with hold | hnew
    · exact ⟨(h.waits sent hold hread (hwaiting _ hsentWaits)).1, hheld'⟩
    · rw [List.mem_singleton.mp hnew]
      exact ⟨rfl, hheld'⟩

/-! ## Steps -/

/-- What `send_pending` does with a request that is pending. -/
theorem sendPending_outcome {key : UInt64} {entry : PendingRequest}
    (hentry : runner.pending.lookup key = some entry) (ok : Bool) :
    (runner.ids.next "request" = none ∧ runner.sendPending key ok = (false, runner)) ∨
      ∃ text ids, runner.ids.next "request" = some (text, ids) ∧
        (runner.sendPending key ok).1 = ok ∧
        (runner.sendPending key ok).2.requests =
          runner.requests ++ [⟨entry.response, runner.connection, ⟨text⟩, entry.payload⟩] ∧
        (runner.sendPending key ok).2.connection = runner.connection ∧
        (runner.sendPending key ok).2.phase = runner.phase ∧
        (runner.sendPending key ok).2.pending =
          if ok then runner.pending.put key { entry with sentRequestId := some ⟨text⟩ }
          else runner.pending := by
  unfold sendPending
  cases hnext : runner.ids.next "request" with
  | none => exact .inl ⟨rfl, rfl⟩
  | some drawn =>
    obtain ⟨text, ids⟩ := drawn
    refine .inr ⟨text, ids, rfl, ?_⟩
    simp only [hentry]
    cases ok
    · exact ⟨rfl, rfl, rfl, rfl, rfl⟩
    · exact ⟨rfl, rfl, rfl, rfl, rfl⟩

/-- Sending a pending request, and losing the connection when that fails. -/
theorem ReadOnce.send (h : ReadOnce runner) (hT : Tables runner) (hexact : Exact runner)
    (hheld : runner.Held) {key : UInt64} {entry : PendingRequest}
    (hentry : runner.pending.lookup key = some entry) (ok : Bool)
    (hcareful : (!ok || (runner.ids.next "request").isNone) = true →
      (∀ key entry, runner.pending.lookup key = some entry →
        entry.payload.operationId? = none → entry.sentRequestId = none) ∧
      ((runner.ids.next "request").isSome → entry.payload.operationId? ≠ none)) :
    ReadOnce (runner.sendPending key ok).2 ∧
      ((runner.sendPending key ok).1 = false →
        ReadOnce (runner.sendPending key ok).2.disconnected) := by
  have hsame : ∀ ticket, ∀ id, ticket ∈ ({ runner with
      pending := runner.pending.put key { entry with sentRequestId := id } } :
        ClientRunner).waiting → ticket ∈ runner.waiting := by
    intro ticket id hmem
    obtain ⟨key', entry', hentry', hticket⟩ := mem_waiting.mp hmem
    replace hentry' := (runner.pending.lookup_put _ _ key').symm.trans hentry'
    split at hentry'
    · cases hentry'
      exact mem_waiting.mpr ⟨key, entry, hentry, hticket⟩
    · exact mem_waiting.mpr ⟨key', entry', hentry', hticket⟩
  rcases sendPending_outcome hentry ok with
    ⟨hnext, hfailed⟩ | ⟨text, ids, hnext, hok, hrequests, hconnection, hphase, hpending⟩
  · rw [hfailed]
    refine ⟨h, fun _ => h.disconnected (h.none_waits hT hexact ?_)⟩
    exact (hcareful (by simp [hnext])).1
  · have hwaiting : ∀ ticket, ticket ∈ (runner.sendPending key ok).2.waiting →
        ticket ∈ runner.waiting := by
      intro ticket hmem
      rw [waiting, hpending] at hmem
      cases ok
      · exact hmem
      · exact hsame ticket _ hmem
    have hhanded := h.hand hT hheld hentry ⟨text⟩ hrequests hconnection hphase hwaiting
    refine ⟨hhanded, fun hlost => hhanded.disconnected ?_⟩
    rw [hok] at hlost
    obtain ⟨hmarked, hthis⟩ := hcareful (by simp [hlost])
    rw [hrequests]
    intro sent hsent hread hwaits
    rcases List.mem_append.mp hsent with hold | hnew
    · exact h.none_waits hT hexact hmarked sent hold hread (hwaiting _ hwaits)
    · rw [List.mem_singleton.mp hnew] at hread
      exact hthis (by simp [hnext]) hread

/-- What a careful step excludes on the wire. -/
theorem Careful.unmarked {input : Input} (h : Careful runner input)
    (hloses : runner.loses input = true) (key : UInt64) (entry : PendingRequest)
    (hentry : runner.pending.lookup key = some entry) (hread : entry.payload.operationId? = none) :
    entry.sentRequestId = none := by
  cases hmark : entry.sentRequestId with
  | none => rfl
  | some id =>
    refine absurd hread (h hloses _
      (List.mem_append_left _ (List.mem_map.mpr ⟨(key, entry), ?_, rfl⟩)))
    rw [List.mem_filter]
    exact ⟨Table.lookup_eq_some.mp hentry, by simp [hmark]⟩

/-- A connection that is lost by other means than by sending a request. -/
theorem ReadOnce.lose (h : ReadOnce runner) (hI : Invariant runner) (hexact : Exact runner)
    {input : Input} (hcareful : Careful runner input) (hloses : runner.loses input = true)
    (commands : List ClientCommand) (state : ReplicatedState)
    (desiredSubscriptions : List AgentId) :
    ReadOnce { runner with commands, state, desiredSubscriptions }.disconnected := by
  have hnone := h.none_waits hI.tables hexact (hcareful.unmarked hloses)
  have hkept : ReadOnce { runner with commands, state, desiredSubscriptions } :=
    h.keep rfl rfl (fun _ _ hwaits => hwaits) id
  exact hkept.disconnected hnone

/-- The handle's calls send nothing. -/
theorem ReadOnce.call (h : ReadOnce runner) (input : Input) : ReadOnce (runner.call input) := by
  have hqueue : ∀ ids commands accepted, ReadOnce { runner with ids, commands, accepted } :=
    fun _ _ _ => h.keep rfl rfl (fun _ _ hwaits => hwaits) id
  cases input with
  | request request operationId =>
    simp only [ClientRunner.call]
    split
    · exact h
    · exact hqueue _ _ _
  | freshRequest request =>
    simp only [ClientRunner.call]
    split
    · split
      · exact h
      · exact hqueue _ _ _
    · exact hqueue _ _ _
  | respondToUi agentId holder response =>
    simp only [ClientRunner.call]
    split
    · exact h
    · exact hqueue _ _ _
  | command command =>
    simp only [ClientRunner.call]
    split
    · exact h
    · exact hqueue runner.ids _ runner.accepted
  | dropHandles => exact h.keep rfl rfl (fun _ _ hwaits => hwaits) id
  | take | welcome | initializeConnection | frame | lose | fail | closed => exact h

/-- A queued request becomes pending; it was not sent before. -/
theorem ReadOnce.insertPending (h : ReadOnce runner) (hT : Tables runner) {payload : PendingPayload}
    {response : Ticket} {commands : List ClientCommand}
    (hcommands : runner.commands = .request payload response :: commands) :
    ReadOnce ({ runner with commands }.insertPending payload response) := by
  have hnew := hT.not_sent response (by simp [queued, hcommands, ClientCommand.ticket?])
  refine h.keep rfl rfl ?_ id
  intro sent hsent hwaits
  obtain ⟨key, entry, hentry, hsame⟩ := mem_waiting.mp hwaits
  replace hentry := (runner.pending.lookup_put _ _ key).symm.trans hentry
  split at hentry
  · cases hentry
    exact absurd hsame.symm (hnew sent hsent)
  · exact mem_waiting.mpr ⟨key, entry, hentry, hsame⟩

theorem ReadOnce.connected (h : ReadOnce runner) (hI : Invariant runner) {command : ClientCommand}
    {commands : List ClientCommand} (hphase : runner.phase = .connected)
    (hcommands : runner.commands = command :: commands) {ok : Bool}
    (hcareful : Careful runner (.take ok)) :
    ReadOnce ({ runner with commands }.handleConnectedCommand ok command) := by
  have hmarks : Exact runner ∧
      ∀ key entry, runner.pending.lookup key = some entry → entry.sentRequestId ≠ none := by
    have := hI.marks
    rwa [Marks, hphase] at this
  have hC := hI.counted (by simp [hphase]) (by simp [hphase])
  have hkept : ∀ desiredSubscriptions,
      ReadOnce { runner with commands, desiredSubscriptions } :=
    fun _ => h.keep rfl rfl (fun _ _ hwaits => hwaits) id
  cases command with
  | subscribe agentId =>
    simp only [handleConnectedCommand]
    split
    · exact hkept _
    rename_i hdesired
    split
    · exact hkept _
    rename_i hok
    refine h.lose hI hmarks.1 hcareful ?_ commands runner.state _
    simp [loses, hphase, hcommands, hdesired, hok]
  | unsubscribe agentId =>
    simp only [handleConnectedCommand]
    split
    · exact hkept _
    rename_i hdesired
    split
    · exact hkept _
    rename_i hok
    refine h.lose hI hmarks.1 hcareful ?_ commands runner.state _
    simpa [loses, hphase, hcommands, hok] using hdesired
  | shutdown => exact (hkept runner.desiredSubscriptions).settle rfl rfl
  | request payload response =>
    have hnew := hI.tables.not_sent response (by simp [queued, hcommands, ClientCommand.ticket?])
    have hT := hI.tables.insertPending hcommands (by simp [hC.next_free hmarks.2])
    have htaken : Exact { runner with commands } := hmarks.1
    have hexact := htaken.insertPending payload hnew
    have hlookup := runner.pending.lookup_put runner.nextPending ⟨payload, none, response⟩
    have hentry : ({ runner with commands }.insertPending payload response).pending.lookup
        runner.nextPending = some ⟨payload, none, response⟩ := (hlookup _).trans (if_pos rfl)
    have hheld : ({ runner with commands }.insertPending payload response).Held := by
      show runner.phase ≠ .offline ∧ runner.phase ≠ .stopped
      simp [hphase]
    have hstep := (h.insertPending hI.tables hcommands).send hT hexact hheld hentry ok ?_
    · simp only [handleConnectedCommand]
      split
      · exact hstep.1
      · rename_i hfailed
        exact hstep.2 (Bool.not_eq_true _ ▸ hfailed)
    · intro hfails
      have hloses : runner.loses (.take ok) = true := by
        simp only [loses, hphase, hcommands]
        exact hfails
      constructor
      · -- the new request is not marked, the others were pending before
        intro key entry hpending hread
        replace hpending := (hlookup key).symm.trans hpending
        split at hpending
        · cases hpending
          rfl
        · exact hcareful.unmarked hloses key entry hpending hread
      · intro hids
        obtain ⟨drawn, hnext⟩ := Option.isSome_iff_exists.mp hids
        have hnext' : runner.ids.next "request" = some drawn := hnext
        refine hcareful hloses payload (List.mem_append_right _ ?_)
        simp [handsOver, hphase, hcommands, hnext']

theorem ReadOnce.initializeConnection (h : ReadOnce runner) (hI : Invariant runner) {ok : Bool}
    (hcareful : Careful runner (.initializeConnection ok)) :
    ReadOnce (runner.step (.initializeConnection ok)) := by
  have hmarks := hI.marks
  simp only [step]
  split
  · rename_i agentId subscriptions keys hphase
    rw [Marks, hphase] at hmarks
    split
    · exact h.keep rfl rfl (fun _ _ hwaits => hwaits) fun _ => ⟨by rintro ⟨⟩, by rintro ⟨⟩⟩
    · rename_i hok
      refine h.lose hI hmarks.1 hcareful ?_ runner.commands runner.state runner.desiredSubscriptions
      simpa [loses, hphase] using hok
  · rename_i key keys hphase
    rw [Marks, hphase] at hmarks
    obtain ⟨hexact, -, hunsent, -⟩ := hmarks
    obtain ⟨entry, hentry, -⟩ := hunsent key List.mem_cons_self
    have hstep := h.send hI.tables hexact (by simp [Held, hphase]) hentry ok ?_
    · split
      · exact hstep.1.keep rfl rfl (fun _ _ hwaits => hwaits) fun _ => ⟨by rintro ⟨⟩, by rintro ⟨⟩⟩
      · rename_i hfailed
        exact hstep.2 (Bool.not_eq_true _ ▸ hfailed)
    · intro hfails
      have hloses : runner.loses (.initializeConnection ok) = true := by
        simp only [loses, hphase]
        exact hfails
      refine ⟨hcareful.unmarked hloses, ?_⟩
      intro hids
      obtain ⟨drawn, hnext⟩ := Option.isSome_iff_exists.mp hids
      refine hcareful hloses entry.payload (List.mem_append_right _ ?_)
      simp [handsOver, hphase, hnext, hentry]
  · exact h.keep rfl rfl (fun _ _ hwaits => hwaits) fun _ => ⟨by rintro ⟨⟩, by rintro ⟨⟩⟩
  · exact h

theorem ReadOnce.handleServerFrame (h : ReadOnce runner) (hI : Invariant runner)
    (hphase : runner.phase = .connected) {frame : ServerFrame} {ok : Bool}
    (hcareful : Careful runner (.frame frame ok)) :
    ReadOnce (runner.handleServerFrame frame ok) := by
  have hexact : Exact runner := by
    have hmarks := hI.marks
    rw [Marks, hphase] at hmarks
    exact hmarks.1
  have hreplicated : (resubscribes runner.state frame && !ok) = runner.loses (.frame frame ok) →
      ReadOnce (
        let next := { runner with state := (runner.state.apply frame).2 }
        if resubscribes runner.state frame && !ok then next.disconnected else next) := by
    intro hloses
    dsimp only
    split
    · rename_i hlost
      rw [hloses] at hlost
      exact h.lose hI hexact hcareful hlost runner.commands _ runner.desiredSubscriptions
    · exact h.keep rfl rfl (fun _ _ hwaits => hwaits) id
  cases frame with
  | response response =>
    show ReadOnce (runner.completeResponse response)
    rcases completeResponse_cases hI.tables response with ⟨-, hsame⟩ | ⟨key, entry, -, -, hdone⟩
    · rw [hsame]
      exact h
    · rw [hdone]
      refine h.keep rfl rfl ?_ id
      intro sent _ hwaits
      obtain ⟨key', entry', hentry', hticket⟩ := mem_waiting.mp hwaits
      replace hentry' := (runner.pending.lookup_erase key key').symm.trans hentry'
      split at hentry'
      · cases hentry'
      · exact mem_waiting.mpr ⟨key', entry', hentry', hticket⟩
  | error | pong => exact h
  | serverShutdown =>
    refine h.lose hI hexact hcareful ?_ runner.commands runner.state runner.desiredSubscriptions
    simp [loses, hphase]
  | welcome => exact h.keep rfl rfl (fun _ _ hwaits => hwaits) fun _ => ⟨by rintro ⟨⟩, by rintro ⟨⟩⟩
  | snapshot | delta | event | interactionRequest | replayGap =>
    exact hreplicated (by simp [loses, hphase])

/-- A new connection: no read that was sent waits for it. -/
theorem ReadOnce.welcome (h : ReadOnce runner) : ReadOnce (runner.step .welcome) := by
  simp only [step]
  split
  · rename_i hoffline
    refine ⟨h.one_connection, ?_⟩
    intro sent hsent hread hwaits
    exact absurd hoffline (h.waits sent hsent hread hwaits).2.1
  · exact h

theorem ReadOnce.step (h : ReadOnce runner) (hI : Invariant runner) {input : Input}
    (hcareful : Careful runner input) : ReadOnce (runner.step input) := by
  have hcall : ReadOnce (if runner.listening then runner.call input else runner) := by
    split
    · exact h.call input
    · exact h
  cases input with
  | request | freshRequest | respondToUi | command | dropHandles => exact hcall
  | take ok =>
    show ReadOnce (runner.take ok)
    unfold take
    split
    · rename_i command commands hphase hcommands
      -- a subscription command is no request, so nothing is read
      have hkept : ∀ desiredSubscriptions,
          ReadOnce { runner with commands, desiredSubscriptions } :=
        fun _ => h.keep rfl rfl (fun _ _ hwaits => hwaits) id
      cases command with
      | request payload response => exact h.insertPending hI.tables hcommands
      | subscribe | unsubscribe => exact hkept _
      | shutdown => exact (hkept runner.desiredSubscriptions).settle rfl rfl
    · exact h.connected hI ‹_› ‹_› hcareful
    · split
      · exact h
      · exact h.settle rfl rfl
    · split
      · exact h
      · exact h.settle rfl rfl
    · exact h
  | welcome => exact h.welcome
  | initializeConnection ok => exact h.initializeConnection hI hcareful
  | frame frame ok =>
    simp only [ClientRunner.step]
    split
    · exact h.handleServerFrame hI ‹_› hcareful
    · exact h
  | lose =>
    simp only [ClientRunner.step]
    split
    · rename_i hphase
      -- the loss is careful: what it makes pending again has not been answered
      have hmarks := hI.marks
      rw [Marks, hphase] at hmarks
      refine h.lose hI hmarks.1 hcareful ?_ runner.commands runner.state runner.desiredSubscriptions
      simp [loses, hphase]
    · exact h
  | fail =>
    simp only [ClientRunner.step]
    split
    · exact h.keep rfl rfl (fun _ _ hwaits => hwaits) fun _ => ⟨by rintro ⟨⟩, by rintro ⟨⟩⟩
    · exact h
  | closed =>
    simp only [ClientRunner.step]
    split
    · exact h.settle rfl rfl
    · exact h

/-! ## Runs -/

/-- **Reads are not resent**, as long as no connection is lost while one is on the
wire: a request without an operation id is sent at most once, and is settled when its
connection is gone. -/
theorem reads_not_resent (random : String) (inputs : List Input)
    (hcareful : Along step Careful (new random) inputs) :
    let runner := Lib.run step (new random) inputs
    (runner.requests.Pairwise fun sent sent' =>
      sent.payload.operationId? = none → sent.response ≠ sent'.response) ∧
    ∀ sent ∈ runner.requests, sent.payload.operationId? = none →
      sent.connection ≠ runner.connection ∨ runner.phase = .offline ∨ runner.phase = .stopped →
      sent.response ∈ runner.replied ∧ sent.response ∉ runner.waiting := by
  have hrun : Invariant (Lib.run step (new random) inputs) ∧
      ReadOnce (Lib.run step (new random) inputs) :=
    run_invariant_along (P := fun runner => Invariant runner ∧ ReadOnce runner)
      (fun _ input h hcareful => ⟨h.1.step input, h.2.step h.1 hcareful⟩)
      ⟨invariant_new random, readOnce_new random⟩ hcareful
  intro runner
  obtain ⟨hI, hreads⟩ := hrun
  constructor
  · refine hI.tables.once.imp_of_mem ?_
    intro sent sent' hsent hsent' honce hread hsame
    exact honce ⟨hsame, hreads.one_connection sent hsent sent' hsent' hsame hread⟩
  · intro sent hsent hread hgone
    have hwaits : sent.response ∉ runner.waiting := by
      intro hwaits
      obtain ⟨hnow, hoffline, hstopped⟩ := hreads.waits sent hsent hread hwaits
      rcases hgone with hother | hphase | hphase
      · exact hother hnow
      · exact hoffline hphase
      · exact hstopped hphase
    exact ⟨(List.mem_append.mp (hI.tables.known sent hsent)).resolve_left hwaits, hwaits⟩

/-- A connection is lost with a read on the wire, and the next one comes. -/
def readLost : List Input :=
  [.welcome, .initializeConnection true, .freshRequest .listAgents, .take true, .lose,
    .welcome, .initializeConnection true]

/-- The read is kept when its connection is lost, and sent again. -/
theorem read_sent_twice :
    ¬ ((Lib.run step (new "") readLost).requests.Pairwise fun sent sent' =>
      sent.payload.operationId? = none → sent.response ≠ sent'.response) ∧
    ∃ sent ∈ (Lib.run step (new "") (readLost.take 5)).requests,
      sent.payload.operationId? = none ∧
      (Lib.run step (new "") (readLost.take 5)).phase = .offline ∧
      sent.response ∈ (Lib.run step (new "") (readLost.take 5)).waiting := by
  decide +kernel

/-- A read that is answered, and another one that is queued when the connection is lost. -/
def readAnswered : List Input :=
  [.welcome, .initializeConnection true, .freshRequest .listAgents, .take true,
    .frame (.response ⟨⟨"request--0"⟩, .success (.agents [])⟩) true,
    .freshRequest .listDevices, .lose, .take true, .welcome, .initializeConnection true]

theorem reads_not_resent_answered :
    let runner := Lib.run step (new "") readAnswered
    (runner.requests.map Sent.response = [0, 1] ∧ runner.replied = [0]) ∧
    (runner.requests.Pairwise fun sent sent' =>
      sent.payload.operationId? = none → sent.response ≠ sent'.response) ∧
    ∀ sent ∈ runner.requests, sent.payload.operationId? = none →
      sent.connection ≠ runner.connection ∨ runner.phase = .offline ∨ runner.phase = .stopped →
      sent.response ∈ runner.replied ∧ sent.response ∉ runner.waiting :=
  ⟨by decide +kernel, reads_not_resent "" readAnswered (by decide +kernel)⟩

end ClientRunner

end OmpRemote.Client

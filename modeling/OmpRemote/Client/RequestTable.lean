import OmpRemote.Lib.Machine
import OmpRemote.Client.Runner

/-!
# The client's request table

Two tables say where a request is: `pending` has every request the runner waits
for, `responseIndex` those that were sent on the connection there is. A request
leaves the runner with its reply, so requests that are queued, pending or replied
to are together the requests that were accepted, each of them once.

- `Tables`: how the tables and the logs agree, whatever the connection does.
- `Marks`: which pending requests have been sent, by phase.
- `Counts`: keys do not come up again while they are in use, because every
  request that is pending or completed has drawn an id of its own.
- `request_table`: the law over whole runs.
-/

namespace OmpRemote.Client

open Lib Rpc

/-! ## Identifiers -/

theorem toString_injective {m n : Nat} (h : toString m = toString n) : m = n := by
  have hdigits : Nat.toDigits 10 m = Nat.toDigits 10 n := by
    simpa [Nat.toString_eq_repr, Nat.repr] using congrArg String.toList h
  rw [← Nat.ofDigitChars_ten_toDigits (n := m), hdigits, Nat.ofDigitChars_ten_toDigits]

theorem IdGenerator.text_injective {ids : IdGenerator} {kind : String} {m n : UInt64}
    (h : ids.text kind m = ids.text kind n) : m = n := by
  have hcounter := (String.append_right_inj _).mp h
  exact UInt64.toNat_inj.mp (toString_injective hcounter)

theorem IdGenerator.next_some {ids ids' : IdGenerator} {kind text : String}
    (h : ids.next kind = some (text, ids')) :
    text = ids.text kind ids.counter ∧ ids'.random = ids.random ∧
      ids'.counter.toNat = ids.counter.toNat + 1 := by
  obtain ⟨counter, hcounter, heq⟩ := Option.map_eq_some_iff.mp h
  cases heq
  exact ⟨rfl, rfl, checkedAdd_one_eq_some.mp hcounter⟩

namespace ClientRunner

variable {runner : ClientRunner}

/-! ## Where the requests are -/

def queued (runner : ClientRunner) : List Ticket := runner.commands.filterMap ClientCommand.ticket?

def waiting (runner : ClientRunner) : List Ticket := runner.pending.rows.map (·.2.response)

def replied (runner : ClientRunner) : List Ticket := runner.replies.map Prod.fst

theorem mem_waiting {ticket : Ticket} :
    ticket ∈ runner.waiting ↔
      ∃ key entry, runner.pending.lookup key = some entry ∧ entry.response = ticket := by
  simp only [waiting, List.mem_map, Table.lookup_eq_some, Prod.exists]

/-- How the tables and the logs agree. -/
structure Tables (runner : ClientRunner) : Prop where
  accounts : (runner.queued ++ (runner.waiting ++ runner.replied)).Perm (List.range runner.accepted)
  drawn : ∀ sent ∈ runner.requests, ∃ counter : UInt64, counter.toNat < runner.ids.counter.toNat ∧
    sent.requestId = ⟨runner.ids.text "request" counter⟩
  ids_once : (runner.requests.map Sent.requestId).Nodup
  known : ∀ sent ∈ runner.requests, sent.response ∈ runner.waiting ++ runner.replied
  content : ∀ sent ∈ runner.requests, ∀ sent' ∈ runner.requests,
    sent.response = sent'.response → sent.payload = sent'.payload
  contentPending : ∀ sent ∈ runner.requests, ∀ key entry,
    runner.pending.lookup key = some entry → entry.response = sent.response →
      sent.payload = entry.payload
  connections : ∀ sent ∈ runner.requests, sent.connection ≤ runner.connection
  once : runner.requests.Pairwise fun sent sent' =>
    ¬ (sent.response = sent'.response ∧ sent.connection = sent'.connection)
  /-- The index is the inverse of the marks of the pending requests. -/
  index : ∀ id key, runner.responseIndex.lookup id = some key ↔
    ∃ entry, runner.pending.lookup key = some entry ∧ entry.sentRequestId = some id
  marked : ∀ key entry id, runner.pending.lookup key = some entry →
    entry.sentRequestId = some id →
      (⟨entry.response, runner.connection, id, entry.payload⟩ : Sent) ∈ runner.requests

/-- Nothing has been sent on a connection that is there. -/
def Unmarked (runner : ClientRunner) : Prop :=
  ∀ key entry, runner.pending.lookup key = some entry → entry.sentRequestId = none

/-- What was sent on the connection and is pending is marked as such. -/
def Exact (runner : ClientRunner) : Prop :=
  ∀ sent ∈ runner.requests, sent.connection = runner.connection → ∀ key entry,
    runner.pending.lookup key = some entry → entry.response = sent.response →
      entry.sentRequestId = some sent.requestId

/-- The marks, by phase. -/
def Marks (runner : ClientRunner) : Prop :=
  match runner.phase with
  | .offline | .stopped => runner.Unmarked
  | .initializing _ keys =>
    runner.Exact ∧ keys.Nodup ∧
      (∀ key ∈ keys, ∃ entry, runner.pending.lookup key = some entry ∧ entry.sentRequestId = none) ∧
      ∀ key entry, runner.pending.lookup key = some entry → entry.sentRequestId = none → key ∈ keys
  | .connected =>
    runner.Exact ∧ ∀ key entry, runner.pending.lookup key = some entry → entry.sentRequestId ≠ none
  | .closing => True

/-- How often ids and keys have been drawn. -/
def Counts (runner : ClientRunner) : Prop :=
  ∃ inserted completed : Nat, runner.nextPending.toNat = inserted % 2 ^ 64 ∧
    (inserted < 2 ^ 64 → ∀ key entry, runner.pending.lookup key = some entry →
      key.toNat < inserted) ∧
    min inserted (2 ^ 64) ≤ runner.pending.rows.length + completed ∧
    completed + runner.pending.rows.countP (fun row => row.2.sentRequestId.isSome) ≤
      runner.ids.counter.toNat

/-- A queued request was never sent. -/
theorem Tables.not_sent (h : Tables runner) (ticket : Ticket) (hqueued : ticket ∈ runner.queued) :
    ∀ sent ∈ runner.requests, sent.response ≠ ticket := by
  intro sent hsent heq
  have hnodup := h.accounts.nodup_iff.mpr List.nodup_range
  rw [List.nodup_append] at hnodup
  exact hnodup.2.2 ticket hqueued sent.response (h.known sent hsent) heq.symm

/-- A request is pending under one key. -/
theorem Tables.key_unique (h : Tables runner) {key key' : UInt64} {entry entry' : PendingRequest}
    (hentry : runner.pending.lookup key = some entry)
    (hentry' : runner.pending.lookup key' = some entry')
    (hsame : entry.response = entry'.response) : key = key' := by
  have hnodup := h.accounts.nodup_iff.mpr List.nodup_range
  have hwaiting : runner.waiting.Nodup := (List.nodup_append.mp (List.nodup_append.mp hnodup).2.1).1
  have hrow := List.inj_on_of_nodup_map hwaiting (Table.lookup_eq_some.mp hentry)
    (Table.lookup_eq_some.mp hentry') hsame
  exact congrArg Prod.fst hrow

/-- While connected, the next key is free. -/
theorem Counts.next_free (h : Counts runner)
    (hmarked : ∀ key entry, runner.pending.lookup key = some entry → entry.sentRequestId ≠ none) :
    runner.pending.lookup runner.nextPending = none := by
  obtain ⟨inserted, completed, hnext, hkeys, hinserted, hdrawn⟩ := h
  have hall : runner.pending.rows.countP (fun row => row.2.sentRequestId.isSome) =
      runner.pending.rows.length := by
    rw [List.countP_eq_length]
    intro row hrow
    exact Option.isSome_iff_ne_none.mpr (hmarked row.1 row.2 (Table.lookup_eq_some.mpr hrow))
  have hcounter := runner.ids.counter.toNat_lt
  -- every key that was given out is pending or completed, and has drawn an id
  have hlt : inserted < 2 ^ 64 := by omega
  cases hlookup : runner.pending.lookup runner.nextPending with
  | none => rfl
  | some entry =>
    have hused := hkeys hlt _ entry hlookup
    rw [hnext, Nat.mod_eq_of_lt hlt] at hused
    exact absurd hused (Nat.lt_irrefl _)

/-! ## What the operations preserve -/

/-- The phase, the handles and the replicas are not in the tables. -/
theorem Tables.frame (h : Tables runner) (phase : Phase) (handles : Bool) (state : ReplicatedState)
    (desiredSubscriptions : List AgentId) :
    Tables { runner with phase, handles, state, desiredSubscriptions } :=
  ⟨h.accounts, h.drawn, h.ids_once, h.known, h.content, h.contentPending, h.connections, h.once,
    h.index, h.marked⟩

/-- Drawing an id for something else changes nothing. -/
theorem Tables.draw (h : Tables runner) {ids : IdGenerator}
    (hrandom : ids.random = runner.ids.random)
    (hcounter : runner.ids.counter.toNat ≤ ids.counter.toNat) : Tables { runner with ids } := by
  refine ⟨h.accounts, ?_, h.ids_once, h.known, h.content, h.contentPending, h.connections, h.once,
    h.index, h.marked⟩
  intro sent hsent
  obtain ⟨counter, hlt, hid⟩ := h.drawn sent hsent
  refine ⟨counter, Nat.lt_of_lt_of_le hlt hcounter, hid.trans ?_⟩
  simp only [IdGenerator.text, hrandom]

/-- A command without a reply comes or goes. -/
theorem Tables.commands (h : Tables runner) {commands : List ClientCommand}
    (hsame : commands.filterMap ClientCommand.ticket? = runner.queued) :
    Tables { runner with commands } := by
  refine ⟨?_, h.drawn, h.ids_once, h.known, h.content, h.contentPending, h.connections, h.once,
    h.index, h.marked⟩
  have haccounts := h.accounts
  rw [← hsame] at haccounts
  exact haccounts

theorem Tables.accept (h : Tables runner) (payload : PendingPayload) :
    Tables (runner.accept payload) := by
  refine ⟨?_, h.drawn, h.ids_once, h.known, h.content, h.contentPending, h.connections, h.once,
    h.index, h.marked⟩
  have haccounts := h.accounts
  have hqueued : (runner.accept payload).queued = runner.queued ++ [runner.accepted] := by
    simp [queued, ClientRunner.accept, ClientCommand.ticket?]
  show ((runner.accept payload).queued ++ (runner.waiting ++ runner.replied)).Perm
    (List.range (runner.accepted + 1))
  rw [hqueued, List.range_succ]
  rw [List.perm_iff_count] at haccounts ⊢
  intro ticket
  have hcount := haccounts ticket
  simp only [List.count_append] at hcount ⊢
  omega

/-- What is pending after a request was inserted. -/
theorem waiting_put (runner : ClientRunner) (key : UInt64) (entry : PendingRequest)
    (ticket : Ticket) :
    ((runner.pending.put key entry).rows.map (·.2.response)).count ticket +
        ((runner.pending.lookup key).toList.map (·.response)).count ticket =
      runner.waiting.count ticket + [entry.response].count ticket := by
  have hperm := ((runner.pending.rows_perm_erase key).map (·.2.response)).count_eq ticket
  show (((runner.pending.erase key).rows ++ [(key, entry)]).map _).count ticket + _ =
    (runner.pending.rows.map _).count ticket + _
  simp only [List.map_append, List.count_append, List.map_map, Function.comp_def, List.map_cons,
    List.map_nil] at hperm ⊢
  omega

theorem Tables.insertPending (h : Tables runner) {payload : PendingPayload} {response : Ticket}
    {commands : List ClientCommand}
    (hcommands : runner.commands = .request payload response :: commands)
    (hfree : ∀ entry, runner.pending.lookup runner.nextPending = some entry →
      entry.sentRequestId = none) :
    Tables ({ runner with commands }.insertPending payload response) := by
  have hqueued : runner.queued = response :: commands.filterMap ClientCommand.ticket? := by
    simp [queued, hcommands, ClientCommand.ticket?]
  have hnew := h.not_sent response (by rw [hqueued]; exact List.mem_cons_self)
  have hlookup : ∀ key, (runner.pending.put runner.nextPending ⟨payload, none, response⟩).lookup key =
      if key = runner.nextPending then some ⟨payload, none, response⟩
      else runner.pending.lookup key := runner.pending.lookup_put _ _
  -- a marked request has another key
  have hmark : ∀ key id, (∃ entry, (runner.pending.put runner.nextPending
      ⟨payload, none, response⟩).lookup key = some entry ∧ entry.sentRequestId = some id) ↔
      ∃ entry, runner.pending.lookup key = some entry ∧ entry.sentRequestId = some id := by
    intro key id
    rw [hlookup]
    by_cases hkey : key = runner.nextPending
    · rw [if_pos hkey, hkey]
      constructor
      · rintro ⟨entry, rfl | hentry, hid⟩
        cases hid
      · rintro ⟨entry, hentry, hid⟩
        rw [hfree entry hentry] at hid
        cases hid
    · rw [if_neg hkey]
  refine ⟨?_, h.drawn, h.ids_once, ?_, h.content, ?_, h.connections, h.once, ?_, ?_⟩
  · have haccounts := h.accounts
    rw [hqueued] at haccounts
    rw [List.perm_iff_count] at haccounts ⊢
    intro ticket
    have hcount := haccounts ticket
    have hwaiting := waiting_put runner runner.nextPending ⟨payload, none, response⟩
      ticket
    simp only [queued, waiting, replied, ClientRunner.insertPending, List.count_append,
      List.count_cons, List.map_append, List.map_map, Function.comp_def] at hcount hwaiting ⊢
    simp only [List.count_nil, Nat.zero_add] at hwaiting
    omega
  · intro sent hsent
    have hknown := List.count_pos_iff.mpr (h.known sent hsent)
    have hwaiting := waiting_put runner runner.nextPending ⟨payload, none, response⟩
      sent.response
    rw [← List.count_pos_iff]
    simp only [waiting, replied, ClientRunner.insertPending, List.count_append, List.map_append,
      List.map_map, Function.comp_def] at hknown hwaiting ⊢
    omega
  · intro sent hsent key entry hentry hresponse
    replace hentry := (hlookup key).symm.trans hentry
    split at hentry
    · cases hentry
      exact absurd hresponse.symm (hnew sent hsent)
    · exact h.contentPending sent hsent key entry hentry hresponse
  · intro id key
    exact (h.index id key).trans (hmark key id).symm
  · intro key entry id hentry hid
    replace hentry := (hlookup key).symm.trans hentry
    split at hentry
    · cases hentry
      cases hid
    · exact h.marked key entry id hentry hid

/-- The connection is gone, and with it the index and the marks. -/
theorem lookup_unmarked (key : UInt64) :
    runner.markPendingDisconnected.pending.lookup key =
      (runner.pending.lookup key).map fun entry => { entry with sentRequestId := none } :=
  runner.pending.lookup_mapRows _ key

theorem Unmarked.disconnect : Unmarked runner.markPendingDisconnected := by
  intro key entry hentry
  rw [lookup_unmarked] at hentry
  obtain ⟨before, -, rfl⟩ := Option.map_eq_some_iff.mp hentry
  rfl

theorem Tables.disconnect (h : Tables runner) : Tables runner.markPendingDisconnected := by
  have hwaiting : runner.markPendingDisconnected.waiting = runner.waiting := by
    simp [waiting, markPendingDisconnected, Table.mapRows]
  refine ⟨?_, h.drawn, h.ids_once, ?_, h.content, ?_, h.connections, h.once, ?_, ?_⟩
  · show (runner.queued ++ (runner.markPendingDisconnected.waiting ++ runner.replied)).Perm _
    rw [hwaiting]
    exact h.accounts
  · intro sent hsent
    show sent.response ∈ runner.markPendingDisconnected.waiting ++ runner.replied
    rw [hwaiting]
    exact h.known sent hsent
  · intro sent hsent key entry hentry hresponse
    rw [lookup_unmarked] at hentry
    obtain ⟨before, hbefore, rfl⟩ := Option.map_eq_some_iff.mp hentry
    exact h.contentPending sent hsent key before hbefore hresponse
  · intro id key
    constructor
    · intro hindex
      cases hindex
    · rintro ⟨entry, hentry, hid⟩
      rw [Unmarked.disconnect key entry hentry] at hid
      cases hid
  · intro key entry id hentry hid
    rw [Unmarked.disconnect key entry hentry] at hid
    cases hid

/-- Everything pending is replied to. -/
theorem Tables.failPending (h : Tables runner) (error : RequestError) :
    Tables (runner.failPending error) := by
  have hreplied : (runner.failPending error).replied = runner.replied ++ runner.waiting := by
    simp [replied, waiting, ClientRunner.failPending, Function.comp_def]
  have hnone : ∀ key, (runner.failPending error).pending.lookup key = none := fun _ => rfl
  refine ⟨?_, h.drawn, h.ids_once, ?_, h.content, ?_, h.connections, h.once, ?_, ?_⟩
  · have haccounts := h.accounts
    show (runner.queued ++ ([] ++ (runner.failPending error).replied)).Perm _
    rw [hreplied, List.nil_append]
    exact (List.perm_append_comm.append_left _).trans haccounts
  · intro sent hsent
    show sent.response ∈ [] ++ (runner.failPending error).replied
    rw [hreplied, List.nil_append, List.mem_append, or_comm, ← List.mem_append]
    exact h.known sent hsent
  · intro sent _ key entry hentry
    rw [hnone] at hentry
    cases hentry
  · intro id key
    constructor
    · intro hindex
      cases hindex
    · rintro ⟨entry, hentry, -⟩
      rw [hnone] at hentry
      cases hentry
  · intro key entry id hentry
    rw [hnone] at hentry
    cases hentry

/-- `run` returns: the queued requests are replied to as well. -/
theorem Tables.stop (h : Tables runner) : Tables runner.stop := by
  have hfailed := h.failPending .clientStopped
  have hreplied : runner.stop.replied =
      (runner.failPending .clientStopped).replied ++ runner.queued := by
    simp [replied, queued, ClientRunner.stop, ClientRunner.failPending, Function.comp_def]
  refine ⟨?_, hfailed.drawn, hfailed.ids_once, ?_, hfailed.content, hfailed.contentPending,
    hfailed.connections, hfailed.once, hfailed.index, hfailed.marked⟩
  · have haccounts := hfailed.accounts
    show ([] ++ ([] ++ runner.stop.replied)).Perm _
    rw [hreplied, List.nil_append, List.nil_append]
    exact List.perm_append_comm.trans haccounts
  · intro sent hsent
    show sent.response ∈ [] ++ runner.stop.replied
    rw [hreplied, List.nil_append]
    exact List.mem_append_left _ (hfailed.known sent hsent)

/-- A new connection has a new number, so nothing was sent on it. -/
theorem Tables.connect (h : Tables runner) (hunmarked : Unmarked runner) :
    Tables { runner with connection := runner.connection + 1 } ∧
      Exact { runner with connection := runner.connection + 1 } := by
  refine ⟨⟨h.accounts, h.drawn, h.ids_once, h.known, h.content, h.contentPending, ?_, h.once,
    h.index, ?_⟩, ?_⟩
  · intro sent hsent
    exact Nat.le_succ_of_le (h.connections sent hsent)
  · intro key entry id hentry hid
    rw [hunmarked key entry hentry] at hid
    cases hid
  · intro sent hsent hconnection
    have hold := h.connections sent hsent
    have hnow : sent.connection = runner.connection + 1 := hconnection
    omega

/-- An unmarked request is handed to the socket under a new id. -/
theorem Tables.send (h : Tables runner) (hexact : Exact runner) {key : UInt64}
    {entry : PendingRequest} {text : String} {ids : IdGenerator}
    (hentry : runner.pending.lookup key = some entry) (hunmarked : entry.sentRequestId = none)
    (hnext : runner.ids.next "request" = some (text, ids)) :
    Tables { runner with
      ids
      requests := runner.requests ++
          [⟨entry.response, runner.connection, ⟨text⟩, entry.payload⟩] } := by
  obtain ⟨rfl, hrandom, hcounter⟩ := IdGenerator.next_some hnext
  have htext : ∀ counter, ids.text "request" counter = runner.ids.text "request" counter := by
    intro counter
    simp only [IdGenerator.text, hrandom]
  have hwaiting : entry.response ∈ runner.waiting := mem_waiting.mpr ⟨key, entry, hentry, rfl⟩
  refine ⟨h.accounts, ?_, ?_, ?_, ?_, ?_, ?_, ?_, h.index, ?_⟩
  · intro sent hsent
    rcases List.mem_append.mp hsent with hold | hnew
    · obtain ⟨counter, hlt, hid⟩ := h.drawn sent hold
      refine ⟨counter, ?_, by rw [htext]; exact hid⟩
      show counter.toNat < ids.counter.toNat
      omega
    · rw [List.mem_singleton.mp hnew]
      refine ⟨runner.ids.counter, ?_, by rw [htext]⟩
      show runner.ids.counter.toNat < ids.counter.toNat
      omega
  · show ((runner.requests ++ [_]).map Sent.requestId).Nodup
    rw [List.map_append, List.nodup_append]
    refine ⟨h.ids_once, List.nodup_singleton _, ?_⟩
    -- earlier ids were made of smaller counts
    intro id hid id' hid' hsame
    obtain ⟨sent, hsent, rfl⟩ := List.mem_map.mp hid
    obtain ⟨counter, hlt, hdrawn⟩ := h.drawn sent hsent
    rw [List.map_singleton, List.mem_singleton] at hid'
    rw [hdrawn, hid'] at hsame
    have heq := IdGenerator.text_injective (RequestId.mk.inj hsame)
    rw [heq] at hlt
    exact Nat.lt_irrefl _ hlt
  · intro sent hsent
    rcases List.mem_append.mp hsent with hold | hnew
    · exact h.known sent hold
    · rw [List.mem_singleton.mp hnew]
      exact List.mem_append_left _ hwaiting
  · intro sent hsent sent' hsent' hsame
    rcases List.mem_append.mp hsent with hold | hnew <;>
      rcases List.mem_append.mp hsent' with hold' | hnew'
    · exact h.content sent hold sent' hold' hsame
    · rw [List.mem_singleton.mp hnew'] at hsame ⊢
      exact h.contentPending sent hold key entry hentry hsame.symm
    · rw [List.mem_singleton.mp hnew] at hsame ⊢
      exact (h.contentPending sent' hold' key entry hentry hsame).symm
    · rw [List.mem_singleton.mp hnew, List.mem_singleton.mp hnew']
  · intro sent hsent key' entry' hentry' hsame
    rcases List.mem_append.mp hsent with hold | hnew
    · exact h.contentPending sent hold key' entry' hentry' hsame
    · rw [List.mem_singleton.mp hnew] at hsame ⊢
      obtain rfl := h.key_unique hentry' hentry hsame
      have : some entry' = some entry := hentry'.symm.trans hentry
      rw [Option.some.inj this]
  · intro sent hsent
    rcases List.mem_append.mp hsent with hold | hnew
    · exact h.connections sent hold
    · exact Nat.le_of_eq (congrArg Sent.connection (List.mem_singleton.mp hnew))
  · show (runner.requests ++ [_]).Pairwise _
    rw [List.pairwise_append]
    refine ⟨h.once, List.pairwise_singleton _ _, ?_⟩
    intro sent hsent sent' hsent' hboth
    rw [List.mem_singleton.mp hsent'] at hboth
    -- a request that was sent on this connection is marked
    have hmarked := hexact sent hsent hboth.2 key entry hentry hboth.1.symm
    rw [hunmarked] at hmarked
    cases hmarked
  · intro key' entry' id hentry' hid
    exact List.mem_append_left _ (h.marked key' entry' id hentry' hid)

/-- The socket has taken the frame: mark the request and index its id. -/
theorem Tables.mark (h : Tables runner) {key : UInt64} {entry : PendingRequest} {id : RequestId}
    (hentry : runner.pending.lookup key = some entry) (hunmarked : entry.sentRequestId = none)
    (hfresh : runner.responseIndex.lookup id = none)
    (hsent : (⟨entry.response, runner.connection, id, entry.payload⟩ : Sent) ∈ runner.requests) :
    Tables { runner with
      pending := runner.pending.put key { entry with sentRequestId := some id }
      responseIndex := runner.responseIndex.put id key } := by
  have hlookup := runner.pending.lookup_put key { entry with sentRequestId := some id }
  have hcount : ∀ ticket, ((runner.pending.put key { entry with sentRequestId := some id }).rows.map
      (·.2.response)).count ticket = runner.waiting.count ticket := by
    intro ticket
    have := waiting_put runner key { entry with sentRequestId := some id } ticket
    simp only [hentry, Option.toList_some, List.map_cons, List.map_nil] at this
    omega
  refine ⟨?_, h.drawn, h.ids_once, ?_, h.content, ?_, h.connections, h.once, ?_, ?_⟩
  · have haccounts := h.accounts
    rw [List.perm_iff_count] at haccounts ⊢
    intro ticket
    rw [← haccounts ticket]
    simp only [List.count_append]
    show _ + (((runner.pending.put key _).rows.map _).count ticket + _) = _
    rw [hcount]
    rfl
  · intro sent hsent
    have hknown := List.count_pos_iff.mpr (h.known sent hsent)
    rw [← List.count_pos_iff]
    rw [List.count_append] at hknown ⊢
    show 0 < ((runner.pending.put key _).rows.map _).count _ + _
    rw [hcount]
    exact hknown
  · intro sent hsent key' entry' hentry' hsame
    replace hentry' := (hlookup key').symm.trans hentry'
    split at hentry'
    · cases hentry'
      exact h.contentPending sent hsent key entry hentry hsame
    · exact h.contentPending sent hsent key' entry' hentry' hsame
  · intro id' key'
    show (runner.responseIndex.put id key).lookup id' = some key' ↔ ∃ entry',
      (runner.pending.put key { entry with sentRequestId := some id }).lookup key' = some entry' ∧ _
    rw [Table.lookup_put, hlookup]
    by_cases hid : id' = id
    · rw [if_pos hid, hid]
      constructor
      · intro hkey
        cases hkey
        exact ⟨_, if_pos rfl, rfl⟩
      · rintro ⟨entry', hentry', hmark⟩
        split at hentry'
        · rename_i hkey
          rw [hkey]
        · rw [(h.index id key').mpr ⟨entry', hentry', hmark⟩] at hfresh
          cases hfresh
    · rw [if_neg hid, h.index]
      by_cases hkey : key' = key
      · -- the request was not marked before, and is marked with the other id now
        rw [if_pos hkey, hkey]
        constructor
        · rintro ⟨entry', hentry', hmark⟩
          rw [hentry] at hentry'
          cases hentry'
          rw [hunmarked] at hmark
          cases hmark
        · rintro ⟨entry', hentry', hmark⟩
          cases hentry'
          exact absurd (Option.some.inj hmark).symm hid
      · rw [if_neg hkey]
  · intro key' entry' id' hentry' hmark
    replace hentry' := (hlookup key').symm.trans hentry'
    split at hentry'
    · cases hentry'
      cases hmark
      exact hsent
    · exact h.marked key' entry' id' hentry' hmark

/-- A pending request is replied to, and its id leaves the index. -/
theorem Tables.complete (h : Tables runner) {key : UInt64} {entry : PendingRequest} {id : RequestId}
    (hentry : runner.pending.lookup key = some entry) (hmark : entry.sentRequestId = some id)
    (outcome : Except RequestError ControlResponse) :
    Tables ({ runner with
      responseIndex := runner.responseIndex.erase id
      pending := runner.pending.erase key }.reply entry.response outcome) := by
  have hlookup := runner.pending.lookup_erase key
  -- what is still in the table was there, under another key
  have hsub : ∀ key' entry', (runner.pending.erase key).lookup key' = some entry' →
      key' ≠ key ∧ runner.pending.lookup key' = some entry' := by
    intro key' entry' hentry'
    rw [hlookup] at hentry'
    split at hentry'
    · cases hentry'
    · rename_i hne
      exact ⟨hne, hentry'⟩
  -- the ticket leaves the waiting ones here, and joins the replied ones below
  have hcount : ∀ ticket, ((runner.pending.erase key).rows.map (·.2.response)).count ticket +
      [entry.response].count ticket = runner.waiting.count ticket := by
    intro ticket
    have hperm := ((runner.pending.rows_perm_erase key).map (·.2.response)).count_eq ticket
    rw [hentry] at hperm
    simp only [Option.toList_some, List.map_cons, List.map_nil, List.map_append,
      List.count_append] at hperm
    exact (Nat.add_comm _ _).trans hperm.symm
  refine ⟨?_, h.drawn, h.ids_once, ?_, h.content, ?_, h.connections, h.once, ?_, ?_⟩
  · have haccounts := h.accounts
    rw [List.perm_iff_count] at haccounts ⊢
    intro ticket
    have hbefore := haccounts ticket
    have hticket := hcount ticket
    simp only [queued, waiting, replied, reply, List.count_append, List.map_append, List.map_cons,
      List.map_nil] at hbefore hticket ⊢
    omega
  · intro sent hsent
    have hknown := List.count_pos_iff.mpr (h.known sent hsent)
    have hticket := hcount sent.response
    rw [← List.count_pos_iff]
    simp only [waiting, replied, reply, List.count_append, List.map_append, List.map_cons,
      List.map_nil] at hknown hticket ⊢
    omega
  · intro sent hsent key' entry' hentry' hsame
    exact h.contentPending sent hsent key' entry' (hsub key' entry' hentry').2 hsame
  · intro id' key'
    show (runner.responseIndex.erase id).lookup id' = some key' ↔ ∃ entry',
      (runner.pending.erase key).lookup key' = some entry' ∧ _
    rw [Table.lookup_erase]
    have hindexed := (h.index id key).mpr ⟨entry, hentry, hmark⟩
    -- the mark of `id` goes with its entry; no other entry bears it
    by_cases hid : id' = id
    · rw [if_pos hid, hid]
      constructor
      · intro hnone
        cases hnone
      · rintro ⟨entry', hentry', hmark'⟩
        obtain ⟨hne, hbefore⟩ := hsub key' entry' hentry'
        have hindexed' := (h.index id key').mpr ⟨entry', hbefore, hmark'⟩
        rw [hindexed] at hindexed'
        exact absurd (Option.some.inj hindexed').symm hne
    · rw [if_neg hid, h.index, hlookup]
      by_cases hkey : key' = key
      · rw [if_pos hkey, hkey]
        constructor
        · rintro ⟨entry', hentry', hmark'⟩
          rw [hentry] at hentry'
          cases hentry'
          rw [hmark] at hmark'
          exact absurd (Option.some.inj hmark').symm hid
        · rintro ⟨entry', hnone, -⟩
          cases hnone
      · rw [if_neg hkey]
  · intro key' entry' id' hentry' hmark'
    exact h.marked key' entry' id' (hsub key' entry' hentry').2 hmark'

/-! ## Marks and counts -/

/-- What is pending and logged less is exact. -/
theorem Exact.mono {runner' : ClientRunner} (h : Exact runner)
    (hrequests : runner'.requests = runner.requests)
    (hconnection : runner'.connection = runner.connection)
    (hpending : ∀ key entry, runner'.pending.lookup key = some entry →
      runner.pending.lookup key = some entry) : Exact runner' := by
  intro sent hsent hnow key entry hentry hsame
  rw [hrequests] at hsent
  rw [hconnection] at hnow
  exact h sent hsent hnow key entry (hpending key entry hentry) hsame

theorem Exact.insertPending (h : Exact runner) (payload : PendingPayload) {response : Ticket}
    (hnew : ∀ sent ∈ runner.requests, sent.response ≠ response) :
    Exact (runner.insertPending payload response) := by
  intro sent hsent hnow key entry hentry hsame
  replace hentry := (runner.pending.lookup_put _ _ key).symm.trans hentry
  split at hentry
  · cases hentry
    exact absurd hsame.symm (hnew sent hsent)
  · exact h sent hsent hnow key entry hentry hsame

/-- A request that was sent and marked is exact. -/
theorem Exact.mark (hT : Tables runner) (h : Exact runner) {key : UInt64} {entry : PendingRequest}
    (hentry : runner.pending.lookup key = some entry) (ids : IdGenerator) (id : RequestId)
    (hunmarked : entry.sentRequestId = none) (index : Table RequestId UInt64) :
    Exact { runner with
      ids
      requests := runner.requests ++ [⟨entry.response, runner.connection, id, entry.payload⟩]
      pending := runner.pending.put key { entry with sentRequestId := some id }
      responseIndex := index } := by
  intro sent hsent hnow key' entry' hentry' hsame
  replace hentry' := (runner.pending.lookup_put _ _ key').symm.trans hentry'
  split at hentry' <;> rename_i hkey
  · cases hentry'
    rcases List.mem_append.mp hsent with hold | hnew
    · have hmarked := h sent hold hnow key entry hentry hsame
      rw [hunmarked] at hmarked
      cases hmarked
    · rw [List.mem_singleton.mp hnew]
  · rcases List.mem_append.mp hsent with hold | hnew
    · exact h sent hold hnow key' entry' hentry' hsame
    · rw [List.mem_singleton.mp hnew] at hsame
      exact absurd (hT.key_unique hentry' hentry hsame) hkey

theorem put_length (t : Table UInt64 PendingRequest) (key : UInt64) (entry : PendingRequest) :
    (t.put key entry).rows.length + (t.lookup key).toList.length = t.rows.length + 1 := by
  have hlength := (t.rows_perm_erase key).length_eq
  show ((t.erase key).rows ++ [(key, entry)]).length + _ = _
  simp only [List.length_append, List.length_map, List.length_singleton] at hlength ⊢
  omega

theorem put_marked (t : Table UInt64 PendingRequest) (key : UInt64) (entry : PendingRequest) :
    (t.put key entry).rows.countP (fun row => row.2.sentRequestId.isSome) +
        (t.lookup key).toList.countP (fun old => old.sentRequestId.isSome) =
      t.rows.countP (fun row => row.2.sentRequestId.isSome) +
        [entry].countP (fun entry => entry.sentRequestId.isSome) := by
  have hperm := (t.rows_perm_erase key).countP_eq fun row => row.2.sentRequestId.isSome
  show ((t.erase key).rows ++ [(key, entry)]).countP _ + _ = _
  rw [List.countP_append, List.countP_map] at hperm
  rw [List.countP_append]
  simp only [List.countP_singleton, Function.comp_def] at hperm ⊢
  omega

/-- One more key was given out: its row is new, or the keys have wrapped. -/
theorem min_succ_le {inserted bound before after completed : Nat}
    (h : min inserted bound ≤ before + completed) (hle : before ≤ after)
    (hnew : after = before + 1 ∨ bound ≤ inserted) :
    min (inserted + 1) bound ≤ after + completed := by
  omega

theorem Counts.insertPending (h : Counts runner) (payload : PendingPayload) (response : Ticket) :
    Counts (runner.insertPending payload response) := by
  obtain ⟨inserted, completed, hnext, hkeys, hinserted, hdrawn⟩ := h
  have hlength := put_length runner.pending runner.nextPending ⟨payload, none, response⟩
  have hmarked := put_marked runner.pending runner.nextPending ⟨payload, none, response⟩
  have hreplaced : runner.pending.lookup runner.nextPending = none ∨ 2 ^ 64 ≤ inserted := by
    by_cases hlt : inserted < 2 ^ 64
    · cases hlookup : runner.pending.lookup runner.nextPending with
      | none => exact .inl rfl
      | some entry =>
        have hused := hkeys hlt _ entry hlookup
        rw [hnext, Nat.mod_eq_of_lt hlt] at hused
        exact absurd hused (Nat.lt_irrefl _)
    · exact .inr (Nat.not_lt.mp hlt)
  refine ⟨inserted + 1, completed, ?_, ?_, ?_, ?_⟩
  · show (runner.nextPending + 1).toNat = _
    rw [UInt64.toNat_add, hnext, Nat.mod_add_mod]
    rfl
  · intro hlt key entry hentry
    replace hentry := (runner.pending.lookup_put _ _ key).symm.trans hentry
    split at hentry <;> rename_i hkey
    · rw [hkey, hnext, Nat.mod_eq_of_lt (Nat.lt_of_succ_lt hlt)]
      exact Nat.lt_succ_self _
    · exact Nat.lt_succ_of_lt (hkeys (Nat.lt_of_succ_lt hlt) key entry hentry)
  · show min (inserted + 1) (2 ^ 64) ≤ (runner.pending.put _ _).rows.length + completed
    have hold : (runner.pending.lookup runner.nextPending).toList.length ≤ 1 :=
      Option.length_toList_le
    refine min_succ_le hinserted (by omega) (hreplaced.imp_left fun hnone => ?_)
    rwa [hnone] at hlength
  · show completed + (runner.pending.put _ _).rows.countP _ ≤ runner.ids.counter.toNat
    simp only [List.countP_singleton, Option.isSome_none, Bool.false_eq_true, if_false] at hmarked
    omega

theorem Counts.draw (h : Counts runner) {ids : IdGenerator}
    (hcounter : runner.ids.counter.toNat ≤ ids.counter.toNat) (requests : List Sent) :
    Counts { runner with ids, requests } := by
  obtain ⟨inserted, completed, hnext, hkeys, hinserted, hdrawn⟩ := h
  exact ⟨inserted, completed, hnext, hkeys, hinserted, Nat.le_trans hdrawn hcounter⟩

theorem Counts.mark (h : Counts runner) {key : UInt64} {entry : PendingRequest}
    (hentry : runner.pending.lookup key = some entry) {ids : IdGenerator} (id : RequestId)
    (hcounter : ids.counter.toNat = runner.ids.counter.toNat + 1) (requests : List Sent)
    (index : Table RequestId UInt64) :
    Counts { runner with
      ids
      requests
      pending := runner.pending.put key { entry with sentRequestId := some id }
      responseIndex := index } := by
  obtain ⟨inserted, completed, hnext, hkeys, hinserted, hdrawn⟩ := h
  have hlength := put_length runner.pending key { entry with sentRequestId := some id }
  have hmarked := put_marked runner.pending key { entry with sentRequestId := some id }
  rw [hentry] at hlength
  refine ⟨inserted, completed, hnext, ?_, ?_, ?_⟩
  · intro hlt key' entry' hentry'
    replace hentry' := (runner.pending.lookup_put _ _ key').symm.trans hentry'
    split at hentry' <;> rename_i hkey
    · rw [hkey]
      exact hkeys hlt key entry hentry
    · exact hkeys hlt key' entry' hentry'
  · show _ ≤ (runner.pending.put _ _).rows.length + completed
    simp only [Option.toList_some, List.length_singleton] at hlength
    omega
  · show completed + (runner.pending.put _ _).rows.countP _ ≤ ids.counter.toNat
    simp only [List.countP_singleton, Option.isSome_some, if_true] at hmarked
    omega

theorem Counts.complete (h : Counts runner) {key : UInt64} {entry : PendingRequest} {id : RequestId}
    (hentry : runner.pending.lookup key = some entry) (hmark : entry.sentRequestId = some id)
    (index : Table RequestId UInt64)
    (replies : List (Ticket × Except RequestError ControlResponse)) :
    Counts { runner with
      responseIndex := index
      pending := runner.pending.erase key
      replies } := by
  obtain ⟨inserted, completed, hnext, hkeys, hinserted, hdrawn⟩ := h
  have hlength := (runner.pending.rows_perm_erase key).length_eq
  have hmarked := (runner.pending.rows_perm_erase key).countP_eq
    fun row => row.2.sentRequestId.isSome
  rw [hentry] at hlength hmarked
  simp only [Option.toList_some, List.map_cons, List.map_nil, List.length_append,
    List.length_singleton, List.countP_append, List.countP_singleton, hmark, Option.isSome_some,
    if_true] at hlength hmarked
  refine ⟨inserted, completed + 1, hnext, ?_, ?_, ?_⟩
  · intro hlt key' entry' hentry'
    replace hentry' := (runner.pending.lookup_erase key key').symm.trans hentry'
    split at hentry'
    · cases hentry'
    · exact hkeys hlt key' entry' hentry'
  · show _ ≤ (runner.pending.erase key).rows.length + (completed + 1)
    omega
  · show completed + 1 + (runner.pending.erase key).rows.countP _ ≤ runner.ids.counter.toNat
    omega

theorem Counts.disconnect (h : Counts runner) : Counts runner.markPendingDisconnected := by
  obtain ⟨inserted, completed, hnext, hkeys, hinserted, hdrawn⟩ := h
  refine ⟨inserted, completed, hnext, ?_, ?_, ?_⟩
  · intro hlt key entry hentry
    rw [lookup_unmarked] at hentry
    obtain ⟨before, hbefore, -⟩ := Option.map_eq_some_iff.mp hentry
    exact hkeys hlt key before hbefore
  · show _ ≤ (runner.pending.rows.map _).length + completed
    rwa [List.length_map]
  · have hnone : runner.markPendingDisconnected.pending.rows.countP
        (fun row => row.2.sentRequestId.isSome) = 0 := by
      rw [List.countP_eq_zero]
      intro row hrow
      have hunmarked := Unmarked.disconnect row.1 row.2 (Table.lookup_eq_some.mpr hrow)
      simp [hunmarked]
    rw [hnone]
    show completed + 0 ≤ runner.ids.counter.toNat
    omega

/-! ## Steps -/

structure Invariant (runner : ClientRunner) : Prop where
  tables : Tables runner
  marks : Marks runner
  counts : runner.phase = .closing ∨ runner.phase = .stopped ∨ Counts runner
  ended : runner.phase = .stopped → runner.commands = [] ∧ runner.pending.rows = []

theorem invariant_new (random : String) : Invariant (new random) where
  tables := by
    have hnone : ∀ sent, sent ∉ (new random).requests := fun _ => List.not_mem_nil
    refine ⟨List.Perm.refl _, fun sent h => absurd h (hnone sent), List.nodup_nil,
      fun sent h => absurd h (hnone sent), fun sent h => absurd h (hnone sent),
      fun sent h => absurd h (hnone sent), fun sent h => absurd h (hnone sent),
      List.Pairwise.nil, ?_, ?_⟩
    · intro id key
      constructor
      · intro h
        cases h
      · rintro ⟨entry, h, -⟩
        cases h
    · intro key entry id h
      cases h
  marks := by
    intro key entry h
    cases h
  counts := by
    refine .inr (.inr ⟨0, 0, rfl, ?_, Nat.zero_le _, Nat.le_refl _⟩)
    intro _ key entry h
    cases h
  ended := nofun

/-- Once the connection is gone, nothing is marked. -/
theorem Invariant.disconnected (hT : Tables runner) (hC : Counts runner) :
    Invariant runner.disconnected where
  tables := hT.disconnect.frame .offline runner.handles runner.state runner.desiredSubscriptions
  marks := show Unmarked runner.markPendingDisconnected from Unmarked.disconnect
  counts := .inr (.inr hC.disconnect)
  ended := nofun

theorem Invariant.shutdown (hT : Tables runner) : Invariant runner.shutdown where
  tables := (hT.failPending .clientStopped).frame .closing runner.handles runner.state
    runner.desiredSubscriptions
  marks := trivial
  counts := .inl rfl
  ended := nofun

/-- In a phase with counts they hold. -/
theorem Invariant.counted (h : Invariant runner) (hclosing : runner.phase ≠ .closing)
    (hstopped : runner.phase ≠ .stopped) : Counts runner :=
  (h.counts.resolve_left hclosing).resolve_left hstopped

/-- The handle's calls queue a command and may draw an id. -/
theorem Invariant.queue (h : Invariant runner) (hlistening : runner.phase ≠ .stopped)
    {ids : IdGenerator} (hrandom : ids.random = runner.ids.random)
    (hcounter : runner.ids.counter.toNat ≤ ids.counter.toNat) (payload : PendingPayload) :
    Invariant ({ runner with ids }.accept payload) where
  tables := (h.tables.draw hrandom hcounter).accept payload
  marks := h.marks
  counts := h.counts.imp_right (Or.imp_right fun hC => hC.draw hcounter runner.requests)
  ended := fun hstopped => absurd hstopped hlistening

theorem Invariant.call (h : Invariant runner) (hlistening : runner.phase ≠ .stopped)
    (input : Input) : Invariant (runner.call input) := by
  have hsame := h.queue hlistening rfl (Nat.le_refl runner.ids.counter.toNat)
  have hdrawn : ∀ text ids payload, runner.ids.next "operation" = some (text, ids) →
      Invariant ({ runner with ids }.accept payload) := by
    intro text ids payload hnext
    obtain ⟨-, hrandom, hcounter⟩ := IdGenerator.next_some hnext
    exact h.queue hlistening hrandom (by omega) payload
  cases input with
  | request request operationId =>
    simp only [ClientRunner.call]
    split
    · exact h
    · exact hsame _
  | freshRequest request =>
    simp only [ClientRunner.call]
    split
    · split
      · exact h
      · rename_i text ids hnext
        exact hdrawn text ids _ hnext
    · exact hsame _
  | respondToUi agentId holder response =>
    simp only [ClientRunner.call]
    split
    · exact h
    · rename_i text ids hnext
      exact hdrawn text ids _ hnext
  | command command =>
    simp only [ClientRunner.call]
    split
    · exact h
    · rename_i hticket
      refine ⟨h.tables.commands ?_, h.marks, h.counts, fun hstopped => absurd hstopped hlistening⟩
      rw [List.filterMap_append]
      simp [queued, Option.not_isSome_iff_eq_none.mp hticket]
  | dropHandles =>
    exact ⟨h.tables.frame runner.phase false runner.state runner.desiredSubscriptions, h.marks,
      h.counts, h.ended⟩
  | take | welcome | initializeConnection | frame | lose | fail | closed => exact h

/-- A command without a reply is taken off the queue. -/
theorem Invariant.skip (h : Invariant runner) {command : ClientCommand}
    {commands : List ClientCommand} (hcommands : runner.commands = command :: commands)
    (hticket : command.ticket? = none) : Invariant { runner with commands } := by
  refine ⟨h.tables.commands ?_, h.marks, h.counts, ?_⟩
  · rw [queued, hcommands, List.filterMap_cons_none hticket]
  · intro hstopped
    have := (h.ended hstopped).1
    rw [hcommands] at this
    cases this

theorem Invariant.subscriptions (h : Invariant runner) (desiredSubscriptions : List AgentId) :
    Invariant { runner with desiredSubscriptions } :=
  ⟨h.tables.frame runner.phase runner.handles runner.state desiredSubscriptions, h.marks, h.counts,
    h.ended⟩

theorem Invariant.offline (h : Invariant runner) {command : ClientCommand}
    {commands : List ClientCommand} (hphase : runner.phase = .offline)
    (hcommands : runner.commands = command :: commands) :
    Invariant ({ runner with commands }.handleOfflineCommand command) := by
  have hunmarked : Unmarked runner := by
    have := h.marks
    rwa [Marks, hphase] at this
  have hC := h.counted (by rw [hphase]; nofun) (by rw [hphase]; nofun)
  cases command with
  | request payload response =>
    have hoffline : ({ runner with commands }.insertPending payload response).phase = .offline :=
      hphase
    refine ⟨h.tables.insertPending hcommands (fun entry => hunmarked _ entry), ?_,
      .inr (.inr (Counts.insertPending hC payload response)), ?_⟩
    · show Marks ({ runner with commands }.insertPending payload response)
      rw [Marks, hoffline]
      intro key entry hentry
      replace hentry := (runner.pending.lookup_put _ _ key).symm.trans hentry
      split at hentry
      · cases hentry
        rfl
      · exact hunmarked key entry hentry
    · intro hstopped
      exact absurd (hoffline.symm.trans hstopped) nofun
  | subscribe agentId => exact (h.skip hcommands rfl).subscriptions _
  | unsubscribe agentId => exact (h.skip hcommands rfl).subscriptions _
  | shutdown => exact Invariant.shutdown (h.skip hcommands rfl).tables

/-- What `send_pending` does with a pending request that was not sent on the
connection. -/
theorem sendPending_cases (hT : Tables runner) (hexact : Exact runner) (hC : Counts runner)
    {key : UInt64} {entry : PendingRequest} (hentry : runner.pending.lookup key = some entry)
    (hunmarked : entry.sentRequestId = none) (ok : Bool) :
    ((runner.sendPending key ok).1 = false ∧ Tables (runner.sendPending key ok).2 ∧
        Counts (runner.sendPending key ok).2) ∨
      (runner.sendPending key ok).1 = true ∧ Tables (runner.sendPending key ok).2 ∧
        Counts (runner.sendPending key ok).2 ∧ Exact (runner.sendPending key ok).2 ∧
        (runner.sendPending key ok).2.phase = runner.phase ∧
        ∃ id, (runner.sendPending key ok).2.pending =
          runner.pending.put key { entry with sentRequestId := some id } := by
  unfold sendPending
  cases hnext : runner.ids.next "request" with
  | none => exact .inl ⟨rfl, hT, hC⟩
  | some drawn =>
    obtain ⟨text, ids⟩ := drawn
    obtain ⟨htext, -, hcounter⟩ := IdGenerator.next_some hnext
    have hsent := hT.send hexact hentry hunmarked hnext
    simp only [hentry]
    cases ok with
    | false =>
      refine .inl ⟨rfl, hsent, ?_⟩
      exact hC.draw (by omega) _
    | true =>
      have hfresh : runner.responseIndex.lookup ⟨text⟩ = none := by
        cases hindex : runner.responseIndex.lookup ⟨text⟩ with
        | none => rfl
        | some key' =>
          -- an indexed id was drawn before
          obtain ⟨entry', hentry', hmark⟩ := (hT.index _ _).mp hindex
          obtain ⟨counter, hlt, hid⟩ := hT.drawn _ (hT.marked key' entry' _ hentry' hmark)
          have htexts := RequestId.mk.inj hid
          rw [htext] at htexts
          rw [← IdGenerator.text_injective htexts] at hlt
          exact absurd hlt (Nat.lt_irrefl _)
      refine .inr ⟨rfl, ?_, ?_, ?_, rfl, ⟨text⟩, rfl⟩
      · exact hsent.mark hentry hunmarked hfresh (List.mem_append_right _ List.mem_cons_self)
      · exact hC.mark hentry ⟨text⟩ hcounter _ _
      · exact hexact.mark hT hentry ids ⟨text⟩ hunmarked _

theorem Invariant.connected (h : Invariant runner) {command : ClientCommand}
    {commands : List ClientCommand} (hphase : runner.phase = .connected)
    (hcommands : runner.commands = command :: commands) (ok : Bool) :
    Invariant ({ runner with commands }.handleConnectedCommand ok command) := by
  have hmarks : Exact runner ∧
      ∀ key entry, runner.pending.lookup key = some entry → entry.sentRequestId ≠ none := by
    have := h.marks
    rwa [Marks, hphase] at this
  have hC := h.counted (by simp [hphase]) (by simp [hphase])
  -- a subscription that cannot be written loses the connection, but no request
  have hlost : ∀ desiredSubscriptions, command.ticket? = none →
      Invariant { runner with commands, desiredSubscriptions }.disconnected := by
    intro desiredSubscriptions hticket
    have hskip := (h.skip hcommands hticket).subscriptions desiredSubscriptions
    exact Invariant.disconnected hskip.tables hC
  cases command with
  | subscribe agentId =>
    simp only [handleConnectedCommand]
    split
    · exact h.skip hcommands rfl
    split
    · exact (h.skip hcommands rfl).subscriptions _
    · exact hlost _ rfl
  | unsubscribe agentId =>
    simp only [handleConnectedCommand]
    split
    · exact h.skip hcommands rfl
    split
    · exact (h.skip hcommands rfl).subscriptions _
    · exact hlost _ rfl
  | shutdown => exact Invariant.shutdown (h.skip hcommands rfl).tables
  | request payload response =>
    -- the key is fresh because each marked entry counts towards those drawn
    have hfree := hC.next_free hmarks.2
    have hnew := h.tables.not_sent response (by simp [queued, hcommands,
      ClientCommand.ticket?])
    have hT := h.tables.insertPending hcommands (by simp [hfree])
    have htaken : Exact { runner with commands } := hmarks.1
    have hexact := htaken.insertPending payload hnew
    have hentry : ({ runner with commands }.insertPending payload response).pending.lookup
        runner.nextPending = some ⟨payload, none, response⟩ :=
      (runner.pending.lookup_put _ _ _).trans (if_pos rfl)
    have hqueue : Counts { runner with commands } := hC
    have hcounts := hqueue.insertPending payload response
    simp only [handleConnectedCommand]
    rcases sendPending_cases hT hexact hcounts hentry rfl ok with
      ⟨hfailed, htables, hcounted⟩ | ⟨hsent, htables, hcounted, hexact', hsame, id, hpending⟩
    · rw [hfailed]
      exact Invariant.disconnected htables hcounted
    · rw [hsent]
      have hconnected : (({ runner with commands }.insertPending payload response).sendPending
          runner.nextPending ok).2.phase = .connected := hsame.trans hphase
      refine ⟨htables, ?_, .inr (.inr hcounted), ?_⟩
      · rw [if_pos rfl, Marks, hconnected]
        refine ⟨hexact', ?_⟩
        intro key entry hlookup
        -- the new entry has been sent, hence marked; the others were marked before
        rw [hpending, Table.lookup_put] at hlookup
        split at hlookup
        · cases hlookup
          rintro ⟨⟩
        · rename_i hkey
          replace hlookup := (runner.pending.lookup_put _ _ key).symm.trans hlookup
          rw [if_neg hkey] at hlookup
          exact hmarks.2 key entry hlookup
      · intro hstopped
        rw [if_pos rfl, hconnected] at hstopped
        cases hstopped

/-- The next key is sent, and is then no key to be sent any more. -/
theorem Invariant.initializeConnection (h : Invariant runner) (ok : Bool) :
    Invariant (runner.step (.initializeConnection ok)) := by
  simp only [step]
  split
  · rename_i agentId subscriptions keys hphase
    have hC := h.counted (by simp [hphase]) (by simp [hphase])
    split
    · refine ⟨h.tables.frame _ runner.handles runner.state runner.desiredSubscriptions, ?_,
        .inr (.inr hC), by rintro ⟨⟩⟩
      have hmarks := h.marks
      rw [Marks, hphase] at hmarks
      exact hmarks
    · exact Invariant.disconnected h.tables hC
  · rename_i key keys hphase
    have hC := h.counted (by simp [hphase]) (by simp [hphase])
    have hmarks := h.marks
    rw [Marks, hphase] at hmarks
    obtain ⟨hexact, hnodup, hunsent, hall⟩ := hmarks
    obtain ⟨entry, hentry, hunmarked⟩ := hunsent key List.mem_cons_self
    rcases sendPending_cases h.tables hexact hC hentry hunmarked ok with
      ⟨hfailed, htables, hcounts⟩ | ⟨hsent, htables, hcounts, hexact', -, id, hpending⟩
    · rw [hfailed]
      exact Invariant.disconnected htables hcounts
    · rw [hsent]
      refine ⟨htables.frame _ _ _ _, ⟨hexact', (List.nodup_cons.mp hnodup).2, ?_, ?_⟩,
        .inr (.inr hcounts), by rintro ⟨⟩⟩
      · intro key' hkey'
        have hne : key' ≠ key := fun heq => (List.nodup_cons.mp hnodup).1 (heq ▸ hkey')
        obtain ⟨entry', hentry', hunmarked'⟩ := hunsent key' (List.mem_cons_of_mem _ hkey')
        refine ⟨entry', ?_, hunmarked'⟩
        show (runner.sendPending key ok).2.pending.lookup key' = some entry'
        rw [hpending, Table.lookup_put, if_neg hne]
        exact hentry'
      · intro key' entry' hentry' hunmarked'
        replace hentry' : (runner.sendPending key ok).2.pending.lookup key' = some entry' := hentry'
        rw [hpending, Table.lookup_put] at hentry'
        split at hentry'
        · cases hentry'
          cases hunmarked'
        · rename_i hne
          exact (List.mem_cons.mp (hall key' entry' hentry' hunmarked')).resolve_left hne
  · rename_i hphase
    have hC := h.counted (by simp [hphase]) (by simp [hphase])
    have hmarks := h.marks
    rw [Marks, hphase] at hmarks
    obtain ⟨hexact, -, -, hall⟩ := hmarks
    refine ⟨h.tables.frame _ runner.handles runner.state runner.desiredSubscriptions,
      ⟨hexact, ?_⟩, .inr (.inr hC), by rintro ⟨⟩⟩
    -- no key is left to be sent
    intro key entry hentry hunmarked
    exact absurd (hall key entry hentry hunmarked) List.not_mem_nil
  · exact h

/-- The keys of a new connection are those of all pending requests. -/
theorem Invariant.welcome (h : Invariant runner) : Invariant (runner.step .welcome) := by
  simp only [step]
  split
  · rename_i hphase
    have hunmarked : Unmarked runner := by
      have hmarks := h.marks
      rwa [Marks, hphase] at hmarks
    have hC := h.counted (by rw [hphase]; nofun) (by rw [hphase]; nofun)
    obtain ⟨htables, hexact⟩ := h.tables.connect hunmarked
    have hperm : ((runner.pending.rows.map Prod.fst).mergeSort (· ≤ ·)).Perm
        (runner.pending.rows.map Prod.fst) := List.mergeSort_perm _ _
    refine ⟨htables.frame _ runner.handles runner.state runner.desiredSubscriptions,
      ⟨hexact, hperm.nodup_iff.mpr runner.pending.unique, ?_, ?_⟩, .inr (.inr hC), nofun⟩
    · intro key hkey
      obtain ⟨⟨key, entry⟩, hrow, rfl⟩ := List.mem_map.mp (hperm.mem_iff.mp hkey)
      have hentry := Table.lookup_eq_some.mpr hrow
      exact ⟨entry, hentry, hunmarked key entry hentry⟩
    · intro key entry hentry _
      exact hperm.mem_iff.mpr (List.mem_map_of_mem (Table.lookup_eq_some.mp hentry))
  · exact h

/-- What the application gets of a response. -/
def outcome (response : ResponseEnvelope) : Except RequestError ControlResponse :=
  match response.outcome with
  | .success response => .ok response
  | .error error => .error (.protocol error)

/-- A response completes the pending request that is indexed under its id. -/
theorem completeResponse_cases (hT : Tables runner) (response : ResponseEnvelope) :
    (runner.responseIndex.lookup response.requestId = none ∧
        runner.completeResponse response = runner) ∨
      ∃ key entry, runner.pending.lookup key = some entry ∧
        entry.sentRequestId = some response.requestId ∧
        runner.completeResponse response = { runner with
          responseIndex := runner.responseIndex.erase response.requestId
          pending := runner.pending.erase key }.reply entry.response (outcome response) := by
  unfold completeResponse
  cases hindex : runner.responseIndex.lookup response.requestId with
  | none => exact .inl ⟨rfl, rfl⟩
  | some key =>
    obtain ⟨entry, hentry, hmark⟩ := (hT.index _ _).mp hindex
    refine .inr ⟨key, entry, hentry, hmark, ?_⟩
    simp only [hentry]
    rfl

theorem Invariant.completeResponse (h : Invariant runner) (hphase : runner.phase = .connected)
    (response : ResponseEnvelope) : Invariant (runner.completeResponse response) := by
  have hmarks := h.marks
  rw [Marks, hphase] at hmarks
  have hC := h.counted (by rw [hphase]; nofun) (by rw [hphase]; nofun)
  rcases completeResponse_cases h.tables response with ⟨-, hsame⟩ | ⟨key, entry, hentry, hmark, hdone⟩
  · rw [hsame]
    exact h
  · rw [hdone]
    have hsub : ∀ key' entry', (runner.pending.erase key).lookup key' = some entry' →
        runner.pending.lookup key' = some entry' := by
      intro key' entry' hentry'
      rw [Table.lookup_erase] at hentry'
      split at hentry'
      · cases hentry'
      · exact hentry'
    refine ⟨h.tables.complete hentry hmark _, ?_, .inr (.inr (hC.complete hentry hmark _ _)), ?_⟩
    · rw [Marks]
      simp only [reply, hphase]
      refine ⟨hmarks.1.mono rfl rfl hsub, ?_⟩
      intro key' entry' hentry'
      exact hmarks.2 key' entry' (hsub key' entry' hentry')
    · intro hstopped
      exact absurd (hphase.symm.trans hstopped) nofun

theorem Invariant.handleServerFrame (h : Invariant runner) (hphase : runner.phase = .connected)
    (frame : ServerFrame) (ok : Bool) : Invariant (runner.handleServerFrame frame ok) := by
  have hC := h.counted (by rw [hphase]; nofun) (by rw [hphase]; nofun)
  have hreplica : ∀ state, Invariant { runner with state } := fun state =>
    ⟨h.tables.frame runner.phase runner.handles state runner.desiredSubscriptions, h.marks,
      h.counts, h.ended⟩
  have hreplicated : ∀ replicated, Invariant (
      let next := { runner with state := (runner.state.apply replicated).2 }
      if resubscribes runner.state replicated && !ok then next.disconnected else next) := by
    intro replicated
    have hnext := hreplica (runner.state.apply replicated).2
    dsimp only
    split
    · exact Invariant.disconnected hnext.tables hC
    · exact hnext
  cases frame with
  | response response => exact h.completeResponse hphase response
  | error | pong => exact h
  | serverShutdown => exact Invariant.disconnected h.tables hC
  | welcome =>
    exact ⟨h.tables.frame .closing runner.handles runner.state runner.desiredSubscriptions, trivial,
      .inl rfl, nofun⟩
  | snapshot | delta | event | interactionRequest | replayGap => exact hreplicated _

theorem Invariant.step (h : Invariant runner) (input : Input) : Invariant (runner.step input) := by
  have hcall : Invariant (if runner.listening then runner.call input else runner) := by
    split
    · rename_i hlistening
      simp only [listening, Bool.and_eq_true, decide_eq_true_eq] at hlistening
      exact h.call hlistening.2 input
    · exact h
  cases input with
  | request | freshRequest | respondToUi | command | dropHandles => exact hcall
  | take ok =>
    show Invariant (runner.take ok)
    unfold take
    split
    · exact h.offline ‹_› ‹_›
    · exact h.connected ‹_› ‹_› ok
    -- while closing or stopped a command is dropped; an empty queue whose handles are gone stops
    all_goals try exact h
    all_goals
      split
      · exact h
      · exact Invariant.shutdown h.tables
  | welcome => exact h.welcome
  | initializeConnection ok => exact h.initializeConnection ok
  | frame frame ok =>
    simp only [ClientRunner.step]
    split
    · exact h.handleServerFrame ‹_› frame ok
    · exact h
  | lose =>
    simp only [ClientRunner.step]
    split
    · rename_i hphase
      exact Invariant.disconnected h.tables
        (h.counted (by rw [hphase]; nofun) (by rw [hphase]; nofun))
    · exact h
  | fail =>
    simp only [ClientRunner.step]
    split
    · exact ⟨h.tables.frame .closing runner.handles runner.state runner.desiredSubscriptions,
        trivial, .inl rfl, nofun⟩
    · exact h
  | closed =>
    simp only [ClientRunner.step]
    split
    · refine ⟨h.tables.stop.frame .stopped runner.handles runner.state runner.desiredSubscriptions,
        ?_, .inr (.inl rfl), fun _ => ⟨rfl, rfl⟩⟩
      intro key entry hentry
      cases hentry
    · exact h

/-! ## The request table -/

/-- The law of the two tables, in a state of the runner. -/
structure RequestTable (runner : ClientRunner) : Prop where
  ids_once : (runner.requests.map Sent.requestId).Nodup
  /-- A request is sent at most once on a connection. -/
  once_per_connection : runner.requests.Pairwise fun sent sent' =>
    sent.response = sent'.response → sent.connection ≠ sent'.connection
  /-- A request is sent anew with the operation id and the payload it had. -/
  same_content : ∀ sent ∈ runner.requests, ∀ sent' ∈ runner.requests,
    sent.response = sent'.response → sent.payload = sent'.payload
  index_disconnected : runner.phase = .offline ∨ runner.phase = .stopped →
    ∀ id, runner.responseIndex.lookup id = none
  /-- With a connection, the index has what was sent on it and is not completed. -/
  index_connected : (∃ subscriptions keys, runner.phase = .initializing subscriptions keys) ∨
      runner.phase = .connected →
    ∀ id key, runner.responseIndex.lookup id = some key ↔
      ∃ entry, runner.pending.lookup key = some entry ∧
        (⟨entry.response, runner.connection, id, entry.payload⟩ : Sent) ∈ runner.requests
  /-- A response completes the request its id was sent for on the connection, and
  does nothing when there is none. -/
  responses : ∀ response ok,
    (∃ sent ∈ runner.requests, sent.connection = runner.connection ∧
        sent.requestId = response.requestId ∧ sent.response ∈ runner.waiting ∧
        (runner.step (.frame (.response response) ok)).replies =
          runner.replies ++ [(sent.response, outcome response)] ∧
        runner.waiting.Perm
          (sent.response :: (runner.step (.frame (.response response) ok)).waiting)) ∨
      (runner.phase = .connected → ∀ sent ∈ runner.requests,
        sent.connection = runner.connection → sent.requestId = response.requestId →
          sent.response ∉ runner.waiting) ∧
        runner.step (.frame (.response response) ok) = runner
  replied_once : runner.replied.Nodup
  replied_all : runner.phase = .stopped → ∀ ticket < runner.accepted, ticket ∈ runner.replied

/-- With a connection, the mark of a pending request is what was sent on it. -/
theorem Tables.index_exact (h : Tables runner) (hexact : Exact runner) (id : RequestId)
    (key : UInt64) : runner.responseIndex.lookup id = some key ↔
      ∃ entry, runner.pending.lookup key = some entry ∧
        (⟨entry.response, runner.connection, id, entry.payload⟩ : Sent) ∈ runner.requests := by
  rw [h.index]
  constructor
  · rintro ⟨entry, hentry, hmark⟩
    exact ⟨entry, hentry, h.marked key entry id hentry hmark⟩
  · rintro ⟨entry, hentry, hsent⟩
    exact ⟨entry, hentry, hexact _ hsent rfl key entry hentry rfl⟩

theorem Invariant.requestTable (h : Invariant runner) : RequestTable runner where
  ids_once := h.tables.ids_once
  once_per_connection := by
    refine h.tables.once.imp ?_
    intro sent sent' hnot hresponse hconnection
    exact hnot ⟨hresponse, hconnection⟩
  same_content := h.tables.content
  index_disconnected := by
    intro hphase id
    have hunmarked : Unmarked runner := by
      have hmarks := h.marks
      rcases hphase with hphase | hphase <;> rwa [Marks, hphase] at hmarks
    cases hindex : runner.responseIndex.lookup id with
    | none => rfl
    | some key =>
      obtain ⟨entry, hentry, hmark⟩ := (h.tables.index id key).mp hindex
      rw [hunmarked key entry hentry] at hmark
      cases hmark
  index_connected := by
    intro hphase
    have hmarks := h.marks
    rcases hphase with ⟨subscriptions, keys, hphase⟩ | hphase
    · rw [Marks, hphase] at hmarks
      exact h.tables.index_exact hmarks.1
    · rw [Marks, hphase] at hmarks
      exact h.tables.index_exact hmarks.1
  responses := by
    intro response ok
    by_cases hphase : runner.phase = .connected
    · have hmarks := h.marks
      rw [Marks, hphase] at hmarks
      have hstep : runner.step (.frame (.response response) ok) =
          runner.completeResponse response := if_pos hphase
      rw [hstep]
      rcases completeResponse_cases h.tables response with
        ⟨hnone, hsame⟩ | ⟨key, entry, hentry, hmark, hdone⟩
      · refine .inr ⟨fun _ => ?_, hsame⟩
        intro sent hsent hconnection hid hwaiting
        -- a request that was sent and waits is marked, and so indexed
        obtain ⟨key, entry, hentry, hresponse⟩ := mem_waiting.mp hwaiting
        have hmark := hmarks.1 sent hsent hconnection key entry hentry hresponse
        rw [hid] at hmark
        rw [(h.tables.index _ key).mpr ⟨entry, hentry, hmark⟩] at hnone
        cases hnone
      · refine .inl ⟨_, h.tables.marked key entry _ hentry hmark, rfl, rfl,
          mem_waiting.mpr ⟨key, entry, hentry, rfl⟩, ?_, ?_⟩
        · rw [hdone]
          rfl
        · rw [hdone]
          have hperm := (runner.pending.rows_perm_erase key).map (·.2.response)
          rw [hentry] at hperm
          exact hperm
    · exact .inr ⟨fun hconnected => absurd hconnected hphase, if_neg hphase⟩
  replied_once := by
    have hnodup := h.tables.accounts.nodup_iff.mpr List.nodup_range
    exact (List.nodup_append.mp (List.nodup_append.mp hnodup).2.1).2.1
  replied_all := by
    intro hstopped ticket hticket
    obtain ⟨hcommands, hpending⟩ := h.ended hstopped
    have hmem := h.tables.accounts.mem_iff.mpr (List.mem_range.mpr hticket)
    simpa [queued, waiting, hcommands, hpending] using hmem

/-- **The request table**: whatever the application, the server and the socket do,
in whatever order, a new runner keeps the law of its tables. -/
theorem request_table (random : String) (inputs : List Input) :
    RequestTable (Lib.run step (new random) inputs) := by
  have hinvariant : Invariant (Lib.run step (new random) inputs) :=
    run_invariant (fun _ input h => h.step input) (invariant_new random) inputs
  exact hinvariant.requestTable

end ClientRunner

end OmpRemote.Client

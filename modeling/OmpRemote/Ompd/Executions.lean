import OmpRemote.Ompd.Sources

/-!
# What a success says

A connection is told that its request has succeeded only after the controller has
executed it and returned so: in this run of the daemon or in one before, on this
connection or on another of the same device.

- `Act`, `act_of_output`: what the daemon does for a request in a step of the server.
- `Explained`: why a request has its outcome.
- `success_executed`: the law over whole runs of the server.
-/

namespace OmpRemote.Ompd

open Lib

variable {δ : Type} [DecidableEq δ] {backend : Backend δ}

namespace Server

variable {config : ServerSessionConfig} {server : Server δ} {history : List (Event δ)}

/-! ## Why a request has its outcome -/

omit [DecidableEq δ] in
/-- What the controller makes of a request; a revocation is executed in the store. -/
def returned (store : Store δ) (request : ControlRequest) (result : Except ControllerError Returned)
    (nowMs : UInt64) (fault : Option Nat) : ResponseOutcome :=
  match request with
  | .revokeDevice deviceId => revoke store deviceId nowMs fault
  | request => execute request result

/-- The controller returns for the request that a connection executes, or for none. -/
theorem answer_cases (backend : Backend δ) (server : Server δ) (connection : Nat)
    (result : Except ControllerError Returned) (nowMs : UInt64) (fault : Option Nat) :
    server.answer backend connection result nowMs fault = (none, server) ∨
      ∃ device key request, ∃ daemon : Daemon δ,
        server.daemon.connections connection = some ⟨device, some (.executing key request)⟩ ∧
        daemon.connections = server.daemon.connections ∧ daemon.up = server.daemon.up ∧
        server.answer backend connection result nowMs fault = server.answered connection
          (daemon.step backend (.return connection
            (returned server.daemon.store request result nowMs fault))) := by
  unfold Server.answer
  split
  · rename_i device key deviceId hexecuting
    exact .inr ⟨device, key, _, _, hexecuting, connections_store server.daemon _,
      up_store server.daemon _, rfl⟩
  · rename_i device key request hnot hexecuting
    refine .inr ⟨device, key, request, server.daemon, hexecuting, rfl, rfl, ?_⟩
    have hreturned : returned server.daemon.store request result nowMs fault =
        execute request result := by
      cases request with
      | revokeDevice deviceId => exact (hnot deviceId rfl).elim
      | _ => rfl
    rw [hreturned]
  · exact .inl rfl

/-- What the daemon does for a request, as part of a step of the server. -/
inductive Act (server : Server δ) (connection : Nat) (input : ServerInput) :
    Daemon δ → DaemonInput → Prop where
  | claim (nowMs : UInt64) (fault : Option Nat) :
      Act server connection input server.daemon (.claim connection nowMs fault)
  | call : Act server connection input server.daemon (.call connection)
  | answer (device : DeviceRecord) (key : Option OperationKey) (request : ControlRequest)
      (result : Except ControllerError Returned) (nowMs : UInt64) (fault : Option Nat)
      (daemon : Daemon δ) : input = .answer connection result nowMs fault →
      server.daemon.connections connection = some ⟨device, some (.executing key request)⟩ →
      daemon.connections = server.daemon.connections → daemon.up = server.daemon.up →
      Act server connection input daemon (.return connection
        (returned server.daemon.store request result nowMs fault))
  | complete (nowMs : UInt64) (fault : Option Nat) :
      Act server connection input server.daemon (.complete connection nowMs fault)

/-- **An effect is that of a request**: the step handles it and answers its connection. -/
theorem act_of_output {config : ServerSessionConfig} {backend : Backend δ} {server : Server δ}
    {input : ServerInput} {connection : Nat} {effect : Effect}
    (h : (server.step config backend input).1 = some (connection, effect)) :
    ∃ daemon daemonInput, Act server connection input daemon daemonInput ∧
      (daemon.step backend daemonInput).1 = some effect ∧
      server.step config backend input =
        server.answered connection (daemon.step backend daemonInput) := by
  have heffect {other : Nat} {result : Option Effect × Daemon δ}
      (houtput : (server.answered other result).1 = some (connection, effect)) :
      other = connection ∧ result.1 = some effect := by
    rw [answered_output] at houtput
    obtain ⟨effect', heffect', hpair⟩ := Option.map_eq_some_iff.mp houtput
    cases hpair
    exact ⟨rfl, heffect'⟩
  cases input with
  | claim other nowMs fault =>
    obtain ⟨rfl, hresult⟩ := heffect h
    exact ⟨_, _, .claim nowMs fault, hresult, rfl⟩
  | call other =>
    obtain ⟨rfl, hresult⟩ := heffect h
    exact ⟨_, _, .call, hresult, rfl⟩
  | complete other nowMs fault =>
    obtain ⟨rfl, hresult⟩ := heffect h
    exact ⟨_, _, .complete nowMs fault, hresult, rfl⟩
  | answer other result nowMs fault =>
    have h : (server.answer backend other result nowMs fault).1 = some (connection, effect) := h
    rcases answer_cases backend server other result nowMs fault with
      hnone | ⟨device, key, request, daemon, hexecuting, hsame, hup, hstep⟩
    · rw [hnone] at h
      cases h
    · rw [hstep] at h
      obtain ⟨rfl, hresult⟩ := heffect h
      exact ⟨daemon, _, .answer device key request result nowMs fault daemon rfl hexecuting hsame
        hup, hresult, hstep⟩
  | accept =>
    dsimp only [step] at h
    split at h <;> cases h
  | first | receive =>
    dsimp only [step] at h
    repeat' split at h
    all_goals cases h
  | session =>
    dsimp only [step] at h
    split at h <;> cases h
  | store | crash | start => cases h

omit [DecidableEq δ] in
theorem Act.connections {server : Server δ} {connection : Nat} {input : ServerInput}
    {daemon : Daemon δ} {daemonInput : DaemonInput}
    (h : Act server connection input daemon daemonInput) :
    daemon.connections = server.daemon.connections := by
  cases h with
  | answer _ _ _ _ _ _ _ _ _ hsame => exact hsame
  | claim | call | complete => rfl

theorem Act.handling {backend : Backend δ} {server : Server δ} {connection : Nat}
    {input : ServerInput} {daemon : Daemon δ} {daemonInput : DaemonInput}
    (h : Act server connection input daemon daemonInput) :
    server.daemon.Handling connection (daemon.step backend daemonInput) := by
  cases h with
  | claim nowMs fault => exact Daemon.handling_claim backend server.daemon connection nowMs fault
  | call => exact Daemon.handling_call backend server.daemon connection
  | complete nowMs fault =>
    exact Daemon.handling_complete backend server.daemon connection nowMs fault
  | answer _ _ _ _ _ _ _ _ _ hsame hup =>
    obtain ⟨hup', hothers, hsilent, hgoes⟩ :=
      Daemon.handling_return backend daemon connection (returned server.daemon.store _ _ _ _)
    rw [hsame] at hothers hsilent hgoes
    rw [hup] at hup'
    exact ⟨hup', hothers, hsilent, hgoes⟩

/-- The controller has been called with the request, and has returned the outcome. -/
def Executed (history : List (Event δ)) (key : Option OperationKey) (request : ControlRequest)
    (outcome : ResponseOutcome) : Prop :=
  .called key request ∈ effects history ∧
    ∃ e ∈ history, ∃ connection result nowMs fault device,
      e.input = .answer connection result nowMs fault ∧
      e.before.daemon.connections connection = some ⟨device, some (.executing key request)⟩ ∧
      outcome = returned e.before.daemon.store request result nowMs fault

/-- The daemon takes the requests for the same. -/
def Alike (backend : Backend δ) (request request' : ControlRequest) : Prop :=
  request = request' ∨ ∃ encoded encoded', backend.encodeRequest request = .ok encoded ∧
    backend.encodeRequest request' = .ok encoded' ∧
    backend.sha256 encoded = backend.sha256 encoded'

/-- The outcome is given back as it was, or as the ledger has it. -/
def GivesBack (backend : Backend δ) (executed outcome : ResponseOutcome) : Prop :=
  executed = outcome ∨ ∃ bytes, backend.encodeOutcome executed = .ok bytes ∧
    backend.decodeOutcome bytes = .ok outcome

/-- Why a request of the device has the outcome. -/
inductive Explained (backend : Backend δ) (history : List (Event δ)) (device : DeviceRecord)
    (envelope : RequestEnvelope) (outcome : ResponseOutcome) : Prop where
  | refused (error : ProtocolError) : outcome = .error error →
      Explained backend history device envelope outcome
  | read : envelope.operationId = none → Executed history none envelope.request outcome →
      Explained backend history device envelope outcome
  | operation (key : OperationKey) (request : ControlRequest) (executed : ResponseOutcome) :
      operationKey device envelope = some key → Executed history (some key) request executed →
      Alike backend envelope.request request → GivesBack backend executed outcome →
      Explained backend history device envelope outcome

omit [DecidableEq δ] in
theorem Executed.append {key : Option OperationKey} {request : ControlRequest}
    {outcome : ResponseOutcome} (h : Executed history key request outcome) (e : Event δ) :
    Executed (history ++ [e]) key request outcome := by
  obtain ⟨hcalled, e', he', hreturned⟩ := h
  refine ⟨?_, e', List.mem_append_left _ he', hreturned⟩
  rw [effects_append]
  exact List.mem_append_left _ hcalled

omit [DecidableEq δ] in
theorem Explained.append {device : DeviceRecord} {envelope : RequestEnvelope}
    {outcome : ResponseOutcome} (h : Explained backend history device envelope outcome)
    (e : Event δ) : Explained backend (history ++ [e]) device envelope outcome := by
  cases h with
  | refused error herror => exact .refused error herror
  | read hnone hexecuted => exact .read hnone (hexecuted.append e)
  | operation key request executed hkey hexecuted halike hback =>
    exact .operation key request executed hkey (hexecuted.append e) halike hback

/-- The requests of a connection that have outcomes, each with its own. -/
def exchanges (history : List (Event δ)) (server : Server δ) (connection : Nat) :
    List (RequestEnvelope × ResponseOutcome) :=
  match server.session connection with
  | some session => (requests session.received).zip (outcomes history connection)
  | none => []

/-- Outcomes are explained, as far as the steps so far go. -/
structure Explaining (backend : Backend δ) (serverId : ServerId) (history : List (Event δ))
    (server : Server δ) : Prop where
  answering : Answering history server
  goes : Goes backend (.create serverId) (effects history) server.daemon
  executing : ∀ connection device key request,
    server.daemon.connections connection = some ⟨device, some (.executing key request)⟩ →
      .called key request ∈ effects history
  executed : ∀ connection session device key outcome,
    server.session connection = some session →
    server.daemon.connections connection = some ⟨device, some (.executed key outcome)⟩ →
      ∃ envelope, (requests session.received).getLast? = some envelope ∧
        Executed history (some key) envelope.request outcome
  recorded : ∀ key outcome, .recorded key outcome ∈ effects history →
    ∃ request, Executed history (some key) request outcome
  explained : ∀ connection session device, server.session connection = some session →
    session.device = some device → ∀ pair ∈ exchanges history server connection,
      Explained backend history device pair.1 pair.2

theorem explaining_create (serverId : ServerId) :
    Explaining backend serverId [] (create (δ := δ) serverId) where
  answering := answering_create serverId
  goes := goes_refl _
  executing _ _ _ _ h := by cases h
  executed _ _ _ _ _ h := by cases h
  recorded _ _ h := by cases h
  explained _ _ _ h := by cases h

end Server

/-- A message adds at most one request. -/
theorem Session.requests_receive (config : ServerSessionConfig) (session : Session)
    (device : DeviceRecord) (message : Message) : ∃ more,
    requests (session.receive config device message).received =
      requests session.received ++ more := by
  unfold Session.receive
  split
  · rename_i frame _
    have hadded : requests (session.received ++ [frame]) =
        requests session.received ++ requests [frame] := List.filterMap_append
    refine ⟨requests [frame], ?_⟩
    rw [← hadded]
    cases frame with
    | request | uiResponse | ping | hello => rfl
    | subscribe =>
      simp only [Session.handleClientFrame]
      split <;> rfl
    | unsubscribe agentId =>
      simp only [Session.handleClientFrame]
      split
      · rfl
      · exact congrArg requests (Session.turned_abort _ agentId).received
  · refine ⟨[], ?_⟩
    rw [List.append_nil]
    split <;> rfl

namespace Server

variable {config : ServerSessionConfig} {server : Server δ} {history : List (Event δ)}

/-- What a step leaves of a connection's requests and device. -/
theorem requests_step (h : Answering history server) {input : ServerInput} {connection : Nat}
    {found : Session}
    (hfound : (server.step config backend input).2.session connection = some found) :
    (server.session connection = none ∧ requests found.received = []) ∨
      ∃ session more, server.session connection = some session ∧
        requests found.received = requests session.received ++ more ∧
        (found.device = session.device ∨ requests found.received = []) := by
  rcases session_step hfound with ⟨-, -, rfl, rfl⟩ | ⟨session, hsession, hturn⟩
  · exact .inl ⟨h.unborn server.accepted (Nat.le_refl _), rfl⟩
  · refine .inr ⟨session, ?_⟩
    cases hturn with
    | step i =>
      have hturned : Session.Turned session (session.step config i) := Session.turned_step session i
      refine ⟨[], hsession, ?_, .inl hturned.device⟩
      rw [hturned.received, List.append_nil]
    | same => exact ⟨[], hsession, (List.append_nil _).symm, .inl rfl⟩
    | receive device message _ _ =>
      obtain ⟨more, hmore⟩ := Session.requests_receive config session device message
      exact ⟨more, hsession, hmore, .inl (Session.steady_receive device message).device⟩
    | reject | finish => exact ⟨[], hsession, (List.append_nil _).symm, .inl rfl⟩
    | answer requestId outcome => exact ⟨[], hsession, (List.append_nil _).symm, .inl rfl⟩
    | welcome device welcome sent _ hfirst =>
      obtain ⟨-, hempty, -⟩ := h.first_agrees hsession hfirst
      exact ⟨[], hsession, (List.append_nil _).symm, .inr hempty⟩

omit [DecidableEq δ] in
theorem Answering.length_le (h : Answering history server) {connection : Nat} {session : Session}
    (hsession : server.session connection = some session) :
    (outcomes history connection).length ≤ (requests session.received).length := by
  have hagrees := h.agrees connection session hsession
  generalize server.daemon.connections connection = entry at hagrees
  cases hagrees with
  | unopened _ _ _ hzero => omega
  | idle _ _ _ hlength => omega
  | busy _ _ _ _ _ _ hrequests hlength =>
    rw [hrequests, List.length_append]
    omega
  | done _ hle => exact hle

omit [DecidableEq δ] in
theorem answerTo_some {connection : Nat} {e : Event δ} {outcome : ResponseOutcome}
    (h : answerTo connection e = some outcome) :
    ∃ effect, e.output = some (connection, effect) ∧ effect.outcome? = some outcome := by
  unfold answerTo at h
  split at h
  · rename_i other effect houtput
    split at h
    · rename_i hsame
      exact ⟨effect, hsame ▸ houtput, h⟩
    · cases h
  · cases h

/-- An effect is that of a request on the way. -/
theorem busy_of_output {input : ServerInput} {connection : Nat} {effect : Effect}
    (h : (server.step config backend input).1 = some (connection, effect)) :
    ∃ device task, server.daemon.connections connection = some ⟨device, some task⟩ := by
  obtain ⟨daemon, daemonInput, hact, heffect, -⟩ := act_of_output h
  by_contra hnone
  have hsilent := (@Act.handling δ _ backend _ _ _ _ _ hact).silent
    fun device task hsome => hnone ⟨device, task, hsome⟩
  cases heffect.symm.trans hsilent.1

/-- **The outcomes of a connection only grow**, and a new one is that of the request
that was on the way. -/
theorem exchanges_step (h : Answering history server) (input : ServerInput) (connection : Nat)
    {e : Event δ} (he : e = Mealy.event (step config backend) server input) :
    exchanges (history ++ [e]) (server.step config backend input).2 connection =
        exchanges history server connection ∨
      ∃ session device envelope task effect outcome,
        server.session connection = some session ∧ session.device = some device ∧
        server.daemon.connections connection = some ⟨device, some task⟩ ∧
        (requests session.received).getLast? = some envelope ∧
        task.Serves device envelope ∧
        (server.step config backend input).1 = some (connection, effect) ∧
        effect.outcome? = some outcome ∧
        exchanges (history ++ [e]) (server.step config backend input).2 connection =
          exchanges history server connection ++ [(envelope, outcome)] := by
  have houtput : e.output = (server.step config backend input).1 := by rw [he]; rfl
  have hafter := answering_step h input houtput
  cases hfound : (server.step config backend input).2.session connection with
  | none =>
    left
    have hempty := (hafter.absent connection hfound).2
    rw [outcomes_append, List.append_eq_nil_iff] at hempty
    cases hsession : server.session connection with
    | none =>
      unfold exchanges
      rw [hfound, hsession]
    | some session =>
      unfold exchanges
      rw [hfound, hsession]
      dsimp only
      rw [hempty.1, List.zip_nil_right]
  | some found =>
    rcases requests_step h hfound with ⟨hnone, hempty⟩ | ⟨session, more, hsession, hmore, -⟩
    · left
      unfold exchanges
      rw [hfound, hnone]
      dsimp only
      rw [hempty, List.zip_nil_left]
    have hle := h.length_le hsession
    have hle' := hafter.length_le hfound
    have hbefore : exchanges history server connection =
        (requests session.received).zip (outcomes history connection) := by
      unfold exchanges
      rw [hsession]
    have hnow : exchanges (history ++ [e]) (server.step config backend input).2 connection =
        (requests session.received ++ more).zip (outcomes (history ++ [e]) connection) := by
      unfold exchanges
      rw [hfound, ← hmore]
    rw [hbefore, hnow]
    cases hanswer : answerTo connection e with
    | none =>
      left
      rw [outcomes_append, hanswer, Option.toList_none, List.append_nil]
      exact zip_append_of_le hle more
    | some outcome =>
      right
      obtain ⟨effect, heffect, houtcome⟩ := answerTo_some hanswer
      rw [houtput] at heffect
      obtain ⟨device, task, hconnection⟩ := busy_of_output heffect
      have hagrees := h.agrees connection session hsession
      rw [hconnection] at hagrees
      cases hagrees with
      | busy _ envelope earlier _ hdevice _ hrequests hlength hserves =>
        refine ⟨session, device, envelope, task, effect, outcome, hsession, hdevice, hconnection,
          ?_, hserves, heffect, houtcome, ?_⟩
        · rw [hrequests, List.getLast?_concat]
        · rw [outcomes_append, hanswer, Option.toList_some, hrequests,
            zip_append_of_le (by
              rw [List.length_append, List.length_append, hlength]
              exact Nat.le_refl _),
            List.zip_append hlength, zip_append_of_le (Nat.le_of_eq hlength.symm)]
          rfl

/-- What the ledger replays was executed before, for a request that is alike. -/
theorem replayed_executed {serverId : ServerId} (h : Explaining backend serverId history server)
    {key : OperationKey} {request : ControlRequest} {nowMs : UInt64} {fault : Option Nat}
    {outcome : ResponseOutcome}
    (hclaim : (server.daemon.store.claimOperation backend key request nowMs fault).1 =
      .ok (.completed outcome)) :
    ∃ request' executed, Executed history (some key) request' executed ∧
      Alike backend request request' ∧ GivesBack backend executed outcome := by
  obtain ⟨row, bytes, encoded, hrow, hstatus, hbytes, hdecoded, hencoded, hhash⟩ :=
    Store.claimOperation_replays hclaim
  obtain ⟨inputs, hdaemon, heffects⟩ := h.goes
  obtain ⟨hremembers, hclaimed⟩ := @Daemon.called_claimed_run δ _ backend serverId inputs
  rw [← hdaemon] at hremembers
  have hhappened (effect : Effect) :
      Daemon.Happened (Daemon.history backend serverId inputs) effect ↔ effect ∈ effects history := by
    rw [← heffects, List.mem_filterMap]
    rfl
  obtain ⟨bytes', recorded, hbytes', hrecorded, hsaved⟩ :=
    hremembers.completed key row hrow hstatus
  cases hbytes.symm.trans hbytes'
  obtain ⟨request', hexecuted⟩ := h.recorded key recorded ((hhappened _).mp hrecorded)
  obtain ⟨row', encoded', hrow', hencoded', hhash'⟩ := hremembers.claimed key request'
    (hclaimed key request' ((hhappened _).mpr hexecuted.1))
  cases hrow.symm.trans hrow'
  exact ⟨request', recorded, hexecuted, .inr ⟨encoded, encoded', hencoded, hencoded',
    hhash.symm.trans hhash'⟩, .inr ⟨bytes, hsaved, hdecoded⟩⟩

/-- An outcome is explained by what the daemon drew it from. -/
theorem explained_source {serverId : ServerId} (h : Explaining backend serverId history server)
    {connection : Nat} {session : Session} {device : DeviceRecord} {envelope : RequestEnvelope}
    {task : Task} {outcome : ResponseOutcome} {input : DaemonInput} {effect : Option Effect}
    (hsession : server.session connection = some session)
    (hconnection : server.daemon.connections connection = some ⟨device, some task⟩)
    (hlast : (requests session.received).getLast? = some envelope)
    (hserves : task.Serves device envelope)
    (hsource : Daemon.Source backend server.daemon connection outcome input effect) {e : Event δ}
    (hreturned : ∀ key request, input = .return connection outcome →
      server.daemon.connections connection = some ⟨device, some (.executing key request)⟩ →
      Executed (history ++ [e]) key request outcome) :
    Explained backend (history ++ [e]) device envelope outcome := by
  cases hsource with
  | refused _ _ error herror => exact .refused error herror
  | returned device' request _ hexecuting =>
    cases hconnection.symm.trans hexecuting
    obtain ⟨hkey, rfl⟩ : operationKey device envelope = none ∧ request = envelope.request := hserves
    exact .read (Option.map_eq_none_iff.mp hkey) (hreturned none _ rfl hexecuting)
  | recorded device' key _ hexecuted =>
    cases hconnection.symm.trans hexecuted
    obtain ⟨envelope', hlast', hdone⟩ :=
      h.executed connection session device key outcome hsession hexecuted
    cases hlast.symm.trans hlast'
    have hkey : operationKey device envelope = some key := hserves
    exact .operation key envelope.request outcome hkey (hdone.append e) (.inl rfl) (.inl rfl)
  | replayed device' envelope' operationId nowMs fault _ hreceived hoperation hclaim =>
    cases hconnection.symm.trans hreceived
    cases (show envelope' = envelope from hserves)
    obtain ⟨request, executed, hexecuted, halike, hback⟩ := replayed_executed h hclaim
    refine .operation ⟨device.deviceId, operationId⟩ request executed ?_ (hexecuted.append e) halike
      hback
    rw [operationKey, hoperation]
    rfl

/-- A new outcome is explained. -/
theorem explained_step {serverId : ServerId} (h : Explaining backend serverId history server)
    {input : ServerInput} {connection : Nat} {session : Session} {device : DeviceRecord}
    {envelope : RequestEnvelope} {task : Task} {effect : Effect} {outcome : ResponseOutcome}
    (hsession : server.session connection = some session)
    (hconnection : server.daemon.connections connection = some ⟨device, some task⟩)
    (hlast : (requests session.received).getLast? = some envelope)
    (hserves : task.Serves device envelope)
    (heffect : (server.step config backend input).1 = some (connection, effect))
    (houtcome : effect.outcome? = some outcome) :
    Explained backend (history ++ [Mealy.event (step config backend) server input]) device
      envelope outcome := by
  obtain ⟨daemon, daemonInput, hact, hresult, -⟩ := act_of_output heffect
  have hbind : (daemon.step backend daemonInput).1.bind Effect.outcome? = some outcome := by
    rw [hresult]
    exact houtcome
  have hnot {key : Option OperationKey} {request : ControlRequest}
      (hinput : daemonInput ≠ .return connection outcome) :
      daemonInput = .return connection outcome →
        server.daemon.connections connection = some ⟨device, some (.executing key request)⟩ →
        Executed (history ++ [Mealy.event (step config backend) server input]) key request
          outcome := fun heq => absurd heq hinput
  cases hact with
  | claim nowMs fault =>
    exact explained_source h hsession hconnection hlast hserves
      (Daemon.source_step (.inl ⟨nowMs, fault, rfl⟩) hbind) fun _ _ => hnot nofun
  | call =>
    exact explained_source h hsession hconnection hlast hserves
      (Daemon.source_step (.inr (.inl rfl)) hbind) fun _ _ => hnot nofun
  | complete nowMs fault =>
    exact explained_source h hsession hconnection hlast hserves
      (Daemon.source_step (.inr (.inr (.inr ⟨nowMs, fault, rfl⟩))) hbind) fun _ _ => hnot nofun
  | answer device' key request result nowMs fault _ hinput hexecuting hsame =>
    have hsource := Daemon.source_step (.inr (.inr (.inl ⟨_, rfl⟩))) hbind
    refine explained_source h hsession hconnection hlast hserves (hsource.of_return hsame) ?_
    intro key' request' hreturn hexecuting'
    cases hexecuting.symm.trans hexecuting'
    -- this step is the return
    refine ⟨?_, _, List.mem_append_right _ (List.mem_singleton_self _), connection, result, nowMs,
      fault, device, hinput, hexecuting, (DaemonInput.return.inj hreturn).2.symm⟩
    rw [effects_append]
    exact List.mem_append_left _ (h.executing connection device key request hexecuting)

/-! ### Steps -/

/-- The task that a step of the server leaves on a connection. -/
inductive Left (config : ServerSessionConfig) (backend : Backend δ) (server : Server δ)
    (input : ServerInput) (connection : Nat) (device : DeviceRecord) : Task → Prop where
  | same (task : Task) : server.daemon.connections connection = some ⟨device, some task⟩ →
      Left config backend server input connection device task
  | received (envelope : RequestEnvelope) :
      Left config backend server input connection device (.received envelope)
  | claimed (key : OperationKey) (request : ControlRequest) :
      Left config backend server input connection device (.claimed key request)
  | called (key : Option OperationKey) (request : ControlRequest) (other : Nat) :
      (server.step config backend input).1 = some (other, .called key request) →
      Left config backend server input connection device (.executing key request)
  | returned (key : OperationKey) (request : ControlRequest)
      (result : Except ControllerError Returned) (nowMs : UInt64) (fault : Option Nat) :
      input = .answer connection result nowMs fault →
      server.daemon.connections connection = some ⟨device, some (.executing (some key) request)⟩ →
      Left config backend server input connection device
        (.executed key (returned server.daemon.store request result nowMs fault))

/-- What a step of the daemon leaves is left by the step of the server. -/
theorem left_answered {input : ServerInput} {connection other : Nat} {device : DeviceRecord}
    {task : Task} {daemon : Daemon δ} {daemonInput : DaemonInput}
    (hstep : server.step config backend input =
      server.answered other (daemon.step backend daemonInput))
    (hsame : daemon.connections = server.daemon.connections)
    (hreturn : ∀ outcome, daemonInput = .return connection outcome → ∃ result nowMs fault,
      input = .answer connection result nowMs fault ∧ ∀ key request,
        server.daemon.connections connection = some ⟨device, some (.executing key request)⟩ →
        outcome = returned server.daemon.store request result nowMs fault)
    (h : (server.step config backend input).2.daemon.connections connection =
      some ⟨device, some task⟩) : Left config backend server input connection device task := by
  rw [hstep, answered_daemon] at h
  have hleft := Daemon.left_step h
  generalize heffect : (daemon.step backend daemonInput).1 = effect at hleft
  cases hleft with
  | same _ hold => exact .same task (hsame ▸ hold)
  | received envelope => exact .received envelope
  | claimed key request => exact .claimed key request
  | called key request hcalled =>
    refine .called key request other ?_
    rw [hstep, answered_output, heffect, hcalled]
    rfl
  | returned key request outcome hinput hexecuting =>
    obtain ⟨result, nowMs, fault, hanswer, houtcome⟩ := hreturn outcome hinput
    rw [hsame] at hexecuting
    rw [houtcome (some key) request hexecuting]
    exact .returned key request result nowMs fault hanswer hexecuting

theorem kept_settle {connection other : Nat} {session : Session} {entry : Connection}
    (h : (server.settle backend other session).daemon.connections connection = some entry) :
    server.daemon.connections connection = some entry := by
  obtain ⟨-, hothers, hself⟩ := settle_daemon backend server other session
  by_cases hsame : connection = other
  · subst hsame
    rw [hself] at h
    split at h
    · cases h
    · exact h
  · rwa [hothers connection hsame] at h

theorem kept_first {connection other : Nat} {session : Session} {message : Option Message}
    {handshake : Handshake} {device : DeviceRecord} {task : Task}
    (h : (server.first config backend other session message handshake).daemon.connections
      connection = some ⟨device, some task⟩) :
    server.daemon.connections connection = some ⟨device, some task⟩ := by
  unfold Server.first at h
  split at h
  · exact h
  rename_i hello version _
  obtain ⟨hsame, -⟩ := authenticate_keeps backend server.daemon hello.authentication handshake
  split at h
  · rename_i daemon heq
    rw [heq] at hsame
    exact hsame ▸ h
  rename_i authenticated daemon heq
  rw [heq] at hsame
  dsimp only at h hsame
  split at h
  · exact hsame ▸ h
  · have h : (if handshake.sent then
        (daemon.step backend (.connect other authenticated.device)).2 else daemon).connections
        connection = some ⟨device, some task⟩ := h
    split at h
    · dsimp only [Daemon.step] at h
      split at h
      · rcases Daemon.task_of_setTask h with ⟨-, -, hnone⟩ | hold
        · cases hnone
        · exact hsame ▸ hold
      · exact hsame ▸ h
    · exact hsame ▸ h

theorem left_step {input : ServerInput} {connection : Nat} {device : DeviceRecord} {task : Task}
    (h : (server.step config backend input).2.daemon.connections connection =
      some ⟨device, some task⟩) : Left config backend server input connection device task := by
  cases input with
  | accept =>
    dsimp only [step] at h
    split at h <;> exact .same task h
  | first other message handshake =>
    dsimp only [step] at h
    split at h
    · split at h
      · exact .same task (kept_first h)
      · exact .same task h
    · exact .same task h
  | receive other message =>
    dsimp only [step] at h
    split at h
    · split at h
      · unfold Server.receive at h
        dsimp only at h
        split at h
        · dsimp only [Daemon.step] at h
          split at h
          · rcases Daemon.task_of_setTask h with ⟨-, -, heq⟩ | hold
            · cases heq
              exact .received _
            · exact .same task (kept_settle hold)
          · exact .same task (kept_settle h)
        · exact .same task (kept_settle h)
      · exact .same task h
    · exact .same task h
  | session other input =>
    dsimp only [step] at h
    split at h
    · exact .same task (kept_settle h)
    · exact .same task h
  | claim | call | complete => exact left_answered rfl rfl (fun _ heq => nomatch heq) h
  | answer other result nowMs fault =>
    rcases answer_cases backend server other result nowMs fault with
      hnone | ⟨device', key, request, daemon, hexecuting, hsame, -, hstep⟩
    · have h : (server.answer backend other result nowMs fault).2.daemon.connections connection =
        some ⟨device, some task⟩ := h
      rw [hnone] at h
      exact .same task h
    · refine left_answered hstep hsame ?_ h
      rintro outcome ⟨⟩
      refine ⟨result, nowMs, fault, rfl, ?_⟩
      intro key' request' hexecuting'
      cases hexecuting.symm.trans hexecuting'
      rfl
  | store operation =>
    refine .same task ?_
    rw [← @connections_store δ backend _ server.daemon operation]
    exact h
  | crash => cases h
  | start nowMs fault =>
    have h : (server.daemon.step backend (.start nowMs fault)).2.connections connection =
      some ⟨device, some task⟩ := h
    dsimp only [Daemon.step] at h
    split at h <;> exact .same task h

/-- What is recorded has been returned. -/
theorem recorded_step {serverId : ServerId} (h : Explaining backend serverId history server)
    {input : ServerInput} {key : OperationKey} {outcome : ResponseOutcome} {connection : Nat}
    (heffect : (server.step config backend input).1 = some (connection, .recorded key outcome)) :
    ∃ request, Executed history (some key) request outcome := by
  obtain ⟨daemon, daemonInput, hact, hrecorded, -⟩ := act_of_output heffect
  obtain ⟨other, device, hexecuted⟩ := Daemon.recorded_step hrecorded
  rw [hact.connections] at hexecuted
  cases hsession : server.session other with
  | none =>
    rw [(h.answering.absent other hsession).1] at hexecuted
    cases hexecuted
  | some session =>
    obtain ⟨envelope, -, hreturned⟩ :=
      h.executed other session device key outcome hsession hexecuted
    exact ⟨envelope.request, hreturned⟩

/-- While a request is on the way no other is received. -/
theorem requests_busy {input : ServerInput} (h : Answering history server) {connection : Nat}
    {session found : Session} {device device' : DeviceRecord} {task task' : Task}
    (hsession : server.session connection = some session)
    (hconnection : server.daemon.connections connection = some ⟨device, some task⟩)
    (hfound : (server.step config backend input).2.session connection = some found)
    (hconnection' : (server.step config backend input).2.daemon.connections connection =
      some ⟨device', some task'⟩) : requests found.received = requests session.received := by
  have hafter : Answering (history ++ [Mealy.event (step config backend) server input])
      (server.step config backend input).2 := answering_step h input rfl
  rcases requests_step h hfound with ⟨hnone, -⟩ | ⟨session', more, hsession', hmore, -⟩
  · cases hsession.symm.trans hnone
  cases hsession.symm.trans hsession'
  have hagrees := h.agrees connection session hsession
  have hagrees' := hafter.agrees connection found hfound
  rw [hconnection] at hagrees
  rw [hconnection', outcomes_append, List.length_append] at hagrees'
  cases hagrees with
  | busy _ envelope earlier _ hdevice _ hrequests hlength hserves =>
    cases hanswer : answerTo connection (Mealy.event (step config backend) server input) with
    | some outcome =>
      -- an answered request leaves no task
      exfalso
      obtain ⟨effect, heffect, houtcome⟩ := answerTo_some hanswer
      obtain ⟨daemon, daemonInput, hact, hresult, hstep⟩ := act_of_output heffect
      rw [hstep, answered_daemon] at hconnection'
      rcases (@Act.handling δ _ backend _ _ _ _ _ hact).goes device task envelope hconnection hserves with
        ⟨-, -, -, hsilent⟩ | ⟨hnone, -⟩
      · rw [hresult, Option.bind_some, houtcome] at hsilent
        cases hsilent
      · cases hnone.symm.trans hconnection'
    | none =>
      rw [hanswer] at hagrees'
      cases hagrees' with
      | busy _ envelope' earlier' _ _ _ hrequests' hlength' =>
        have hcount := congrArg List.length (hmore.symm.trans hrequests')
        rw [List.length_append, List.length_append, hrequests, List.length_append] at hcount
        simp only [List.length_singleton, Option.toList_none, List.length_nil] at hcount hlength'
        have hnil : more = [] := List.eq_nil_of_length_eq_zero (by omega)
        rw [hmore, hnil, List.append_nil]

/-- **Every step leaves the outcomes explained.** -/
theorem explaining_step {serverId : ServerId} (h : Explaining backend serverId history server)
    (input : ServerInput) :
    Explaining backend serverId (history ++ [Mealy.event (step config backend) server input])
      (server.step config backend input).2 := by
  have hafter : Answering (history ++ [Mealy.event (step config backend) server input])
      (server.step config backend input).2 := answering_step h.answering input rfl
  have heffects : effects (history ++ [Mealy.event (step config backend) server input]) =
      effects history ++ ((server.step config backend input).1.map Prod.snd).toList :=
    effects_append history _
  constructor
  case answering => exact hafter
  case goes =>
    rw [heffects]
    exact h.goes.trans (goes_of_step server input)
  case executing =>
    intro connection device key request hexecuting
    rw [heffects]
    have hleft := left_step hexecuting
    cases hleft with
    | same _ hold => exact List.mem_append_left _ (h.executing connection device key request hold)
    | called _ _ other hcalled =>
      rw [hcalled]
      exact List.mem_append_right _ (List.mem_singleton_self _)
  case executed =>
    intro connection found device key outcome hfound hexecuted
    have hleft := left_step hexecuted
    obtain ⟨task, hconnection⟩ : ∃ task,
        server.daemon.connections connection = some ⟨device, some task⟩ := by
      cases hleft with
      | same _ hold => exact ⟨_, hold⟩
      | returned _ _ _ _ _ _ hexecuting => exact ⟨_, hexecuting⟩
    cases hsession : server.session connection with
    | none =>
      rw [(h.answering.absent connection hsession).1] at hconnection
      cases hconnection
    | some session =>
      rw [requests_busy h.answering hsession hconnection hfound hexecuted]
      cases hleft with
      | same _ hold =>
        obtain ⟨envelope, hlast, hdone⟩ :=
          h.executed connection session device key outcome hsession hold
        exact ⟨envelope, hlast, hdone.append _⟩
      | returned _ request result nowMs fault hinput hexecuting =>
        have hagrees := h.answering.agrees connection session hsession
        rw [hexecuting] at hagrees
        cases hagrees with
        | busy _ envelope earlier _ _ _ hrequests _ hserves =>
          obtain ⟨-, rfl⟩ : operationKey device envelope = some key ∧ request = envelope.request :=
            hserves
          refine ⟨envelope, by rw [hrequests, List.getLast?_concat], ?_, _,
            List.mem_append_right _ (List.mem_singleton_self _), connection, result, nowMs, fault,
            device, hinput, hexecuting, rfl⟩
          rw [heffects]
          exact List.mem_append_left _ (h.executing connection device _ _ hexecuting)
  case recorded =>
    intro key outcome hrecorded
    rw [heffects] at hrecorded
    rcases List.mem_append.mp hrecorded with hold | hnew
    · obtain ⟨request, hdone⟩ := h.recorded key outcome hold
      exact ⟨request, hdone.append _⟩
    · obtain ⟨effect, heffect, heq⟩ := Option.map_eq_some_iff.mp (Option.mem_toList.mp hnew)
      obtain ⟨connection, effect⟩ := effect
      cases heq
      obtain ⟨request, hdone⟩ := recorded_step h heffect
      exact ⟨request, hdone.append _⟩
  case explained =>
    intro connection found device hfound hdevice pair hpair
    rcases requests_step h.answering hfound with
      ⟨-, hempty⟩ | ⟨session, more, hsession, hmore, hsame | hempty⟩
    · unfold exchanges at hpair
      rw [hfound] at hpair
      dsimp only at hpair
      rw [hempty, List.zip_nil_left] at hpair
      cases hpair
    · rw [hsame] at hdevice
      rcases exchanges_step h.answering input connection rfl with hkept |
        ⟨session', device', envelope, task, effect, outcome, hsession', hdevice', hconnection, hlast,
          hserves, heffect, houtcome, hgrown⟩
      · rw [hkept] at hpair
        exact (h.explained connection session device hsession hdevice pair hpair).append _
      · rw [hgrown] at hpair
        rcases List.mem_append.mp hpair with hold | hnew
        · exact (h.explained connection session device hsession hdevice pair hold).append _
        · obtain rfl := List.mem_singleton.mp hnew
          cases hsession.symm.trans hsession'
          cases hdevice.symm.trans hdevice'
          exact explained_step h hsession hconnection hlast hserves heffect houtcome
    · unfold exchanges at hpair
      rw [hfound] at hpair
      dsimp only at hpair
      rw [hempty, List.zip_nil_left] at hpair
      cases hpair

theorem explaining_run (config : ServerSessionConfig) (backend : Backend δ) (serverId : ServerId)
    (inputs : List ServerInput) :
    Explaining backend serverId (Server.history config backend serverId inputs)
      (Mealy.run (step config backend) (create serverId) inputs) :=
  Mealy.history_invariant (explaining_create serverId) (fun _ _ input h => explaining_step h input)
    inputs

/-! ## The law -/

/-- The controller is called for the operation. -/
def Effect.isCall (key : OperationKey) : Effect → Bool
  | .called (some key') _ => key' = key
  | _ => false

def calls (key : OperationKey) (e : Event δ) : Bool :=
  match e.output with
  | some (_, effect) => Effect.isCall key effect
  | none => false

/-- Whatever the connections, the controller is called at most once for an operation. -/
theorem calls_le_one (config : ServerSessionConfig) (backend : Backend δ) (serverId : ServerId)
    (inputs : List ServerInput) (key : OperationKey) :
    (Server.history config backend serverId inputs).countP (calls key) ≤ 1 := by
  obtain ⟨daemonInputs, -, heffects⟩ := daemon_run config backend serverId inputs
  have honce := @Daemon.calls_once δ _ backend serverId daemonInputs key
  have hserver : (Server.history config backend serverId inputs).countP (calls key) =
      (effects (Server.history config backend serverId inputs)).countP (Effect.isCall key) := by
    unfold effects
    rw [List.countP_filterMap]
    congr 1
    funext e
    unfold calls
    cases e.output <;> rfl
  have hdaemon : (Daemon.history backend serverId daemonInputs).countP (Daemon.calls key) =
      ((Daemon.history backend serverId daemonInputs).filterMap (·.output)).countP
        (Effect.isCall key) := by
    rw [List.countP_filterMap]
    congr 1
    funext e
    unfold Daemon.calls
    cases e.output with
    | none => rfl
    | some effect =>
      cases effect with
      | called key' request => cases key' <;> rfl
      | claimed | recorded | answered => rfl
  rw [hserver, ← heffects]
  rw [hdaemon] at honce
  exact honce

omit [DecidableEq δ] in
theorem countP_calls_pos (history : List (Event δ)) (key : OperationKey) (request : ControlRequest)
    (h : .called (some key) request ∈ effects history) : 0 < history.countP (calls key) := by
  obtain ⟨e, he, heffect⟩ := List.mem_filterMap.mp h
  refine List.countP_pos_iff.mpr ⟨e, he, ?_⟩
  obtain ⟨⟨connection, effect⟩, houtput, rfl⟩ := Option.map_eq_some_iff.mp heffect
  unfold calls
  rw [houtput]
  exact decide_eq_true rfl

/-- The outcome of a success: the controller was called with the request, or with one
that is alike under the operation's key, and once for the operation. -/
def Success (backend : Backend δ) (history : List (Event δ)) (device : DeviceRecord)
    (envelope : RequestEnvelope) (response : ControlResponse) : Prop :=
  match operationKey device envelope with
  | none => Executed history none envelope.request (.success response)
  | some key => history.countP (calls key) = 1 ∧ ∃ request executed,
      Executed history (some key) request executed ∧ Alike backend envelope.request request ∧
        GivesBack backend executed (.success response)

theorem success_of_explained {config : ServerSessionConfig} {serverId : ServerId}
    {inputs : List ServerInput} {device : DeviceRecord} {envelope : RequestEnvelope}
    {response : ControlResponse}
    (h : Explained backend (Server.history config backend serverId inputs) device envelope
      (.success response)) :
    Success backend (Server.history config backend serverId inputs) device envelope response := by
  cases h with
  | refused error herror => cases herror
  | read hnone hexecuted =>
    unfold Success
    rw [operationKey, hnone]
    exact hexecuted
  | operation key request executed hkey hexecuted halike hback =>
    unfold Success
    rw [hkey]
    have hle := calls_le_one config backend serverId inputs key
    have hpos := countP_calls_pos _ key request hexecuted.1
    exact ⟨by omega, request, executed, hexecuted, halike, hback⟩

omit [DecidableEq δ] in
theorem mem_exchanges_of_response {connection : Nat} {session : Session} {response : ResponseEnvelope}
    (h : Answering history server) (hsession : server.session connection = some session)
    (hresponse : response ∈ responses session.written) :
    ∃ envelope, (envelope, response.outcome) ∈ exchanges history server connection ∧
      envelope.requestId = response.requestId := by
  have hgiven := (h.orderly connection session hsession).written.subset hresponse
  unfold respond at hgiven
  obtain ⟨⟨envelope, outcome⟩, hpair, rfl⟩ := List.mem_map.mp hgiven
  refine ⟨envelope, ?_, rfl⟩
  unfold exchanges
  rw [hsession]
  exact hpair

/-- **A success is one execution.**

In every run of the server, when a device is told that its request has succeeded: the
controller was called with the request and has returned this; and if the request has an
operation id, the controller was called exactly once for it, over all connections of the
device and all restarts of the daemon. -/
theorem success_executed (config : ServerSessionConfig) (backend : Backend δ)
    (serverId : ServerId) (inputs : List ServerInput) (connection : Nat) (session : Session)
    (device : DeviceRecord)
    (hsession : (Mealy.run (step config backend) (create serverId) inputs).session connection =
      some session)
    (hdevice : session.device = some device) :
    ∀ response ∈ responses session.written, ∀ value, response.outcome = .success value →
      ∃ envelope ∈ requests session.received, envelope.requestId = response.requestId ∧
        Success backend (Server.history config backend serverId inputs) device envelope value := by
  intro response hresponse value houtcome
  have h := explaining_run config backend serverId inputs
  obtain ⟨envelope, hpair, hid⟩ := mem_exchanges_of_response h.answering hsession hresponse
  have hexplained := h.explained connection session device hsession hdevice _ hpair
  unfold exchanges at hpair
  rw [hsession] at hpair
  rw [houtcome] at hexplained
  exact ⟨envelope, (List.of_mem_zip hpair).1, hid, success_of_explained hexplained⟩

/-- A database whose encodings are short. -/
def shortBackend : Backend ByteArray :=
  ⟨id, fun _ => .ok ⟨#[1]⟩, fun _ => .ok ⟨#[2]⟩, fun _ => .ok (.success .accepted)⟩

theorem lifetime_ne : (100 : UInt64) ≠ 0 := by decide

/-- A device exchanges, revokes itself, and is told so. -/
def revoked : List ServerInput :=
  [.start 0 none,
    .store (.createPairing "phone" ⟨true, false, false, false, false, true⟩ 0 ⟨100, lifetime_ne⟩
      ⟨"grant"⟩ ⟨"secret"⟩ none),
    .accept,
    .first 0 (some (binary (.hello ⟨[1], [], .pair ⟨"grant"⟩ ⟨"secret"⟩ ⟨"", .mobile⟩⟩)))
      ⟨50, ⟨"device"⟩, ⟨"token"⟩, ⟨"connection"⟩, none, true, true⟩,
    .receive 0 (binary (.request ⟨⟨"1"⟩, some ⟨"operation"⟩, .revokeDevice ⟨"device"⟩⟩)),
    .claim 0 60 none, .call 0, .answer 0 (.error (.runtime "")) 61 none, .complete 0 62 none,
    .session 0 .resume, .session 0 (.write true)]

theorem success_executed_revoked : ∃ session device,
    (Mealy.run (step byteConfig shortBackend) (create ⟨"server"⟩) revoked).session 0 =
      some session ∧ session.device = some device ∧
      ⟨⟨"1"⟩, .success (.deviceRevoked ⟨"device"⟩)⟩ ∈ responses session.written ∧
      ∃ envelope ∈ requests session.received, envelope.requestId = ⟨"1"⟩ ∧
        Success shortBackend (Server.history byteConfig shortBackend ⟨"server"⟩ revoked) device
          envelope (.deviceRevoked ⟨"device"⟩) := by
  have hsome : ((Mealy.run (step byteConfig shortBackend) (create ⟨"server"⟩) revoked).session
      0).isSome = true := rfl
  obtain ⟨session, hsession⟩ := Option.isSome_iff_exists.mp hsome
  have hstate : ((Mealy.run (step byteConfig shortBackend) (create ⟨"server"⟩) revoked).session
      0).any (fun found => found.device.isSome && (responses found.written).contains
        ⟨⟨"1"⟩, .success (.deviceRevoked ⟨"device"⟩)⟩) = true := rfl
  rw [hsession, Option.any_some, Bool.and_eq_true, List.contains_iff_mem] at hstate
  obtain ⟨device, hdevice⟩ := Option.isSome_iff_exists.mp hstate.1
  exact ⟨session, device, hsession, hdevice, hstate.2,
    success_executed byteConfig shortBackend ⟨"server"⟩ revoked 0 session device hsession hdevice _
      hstate.2 _ rfl⟩

end Server

end OmpRemote.Ompd

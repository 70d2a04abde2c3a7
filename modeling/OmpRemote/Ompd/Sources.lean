import OmpRemote.Ompd.Responses

/-!
# Where outcomes come from

The outcome of a request is an error, what the controller returns, or what the ledger
replays. A run of the server is a run of its daemon, so what holds of the ledger in every
run of the daemon holds here.

- `Source`, `source_step`: where the daemon draws an outcome from.
- `Left`, `left_step`: how the task of a connection came about.
- `daemon_run`: a run of the server, as a run of its daemon.
-/

namespace OmpRemote.Ompd

open Lib

variable {δ : Type} [DecidableEq δ] {backend : Backend δ}

/-- A claim that is answered by an outcome finds the row of a request with the same
hash. -/
theorem Store.claimOperation_replays {store : Store δ} {key : OperationKey}
    {request : ControlRequest} {nowMs : UInt64} {fault : Option Nat} {outcome : ResponseOutcome}
    (h : (store.claimOperation backend key request nowMs fault).1 = .ok (.completed outcome)) :
    ∃ row bytes encoded, store.operations.lookup key = some row ∧ row.status = .completed ∧
      row.outcomeCbor = some bytes ∧ backend.decodeOutcome bytes = .ok outcome ∧
      backend.encodeRequest request = .ok encoded ∧ row.requestHash = backend.sha256 encoded := by
  obtain ⟨row, bytes, hrow, hstatus, hbytes, hdecoded⟩ := claimOperation_completed h
  unfold claimOperation at h
  split at h
  · cases h
  rename_i encoded hencoded
  refine ⟨row, bytes, encoded, hrow, hstatus, hbytes, hdecoded, hencoded, ?_⟩
  by_contra hne
  dsimp only at h
  split at h
  · cases h
  split at h
  · cases h
  rw [hrow] at h
  dsimp only at h
  rw [if_pos (by simpa using hne)] at h
  cases h

namespace Daemon

variable {daemon : Daemon δ}

/-- Where the outcome of a request comes from. -/
inductive Source (backend : Backend δ) (daemon : Daemon δ) (connection : Nat)
    (outcome : ResponseOutcome) : DaemonInput → Option Effect → Prop where
  | refused (input : DaemonInput) (effect : Option Effect) (error : ProtocolError) :
      outcome = .error error → Source backend daemon connection outcome input effect
  | returned (device : DeviceRecord) (request : ControlRequest) (effect : Option Effect) :
      daemon.connections connection = some ⟨device, some (.executing none request)⟩ →
      Source backend daemon connection outcome (.return connection outcome) effect
  | recorded (device : DeviceRecord) (key : OperationKey) (input : DaemonInput) :
      daemon.connections connection = some ⟨device, some (.executed key outcome)⟩ →
      Source backend daemon connection outcome input (some (.recorded key outcome))
  | replayed (device : DeviceRecord) (envelope : RequestEnvelope) (operationId : OperationId)
      (nowMs : UInt64) (fault : Option Nat) (effect : Option Effect) :
      daemon.connections connection = some ⟨device, some (.received envelope)⟩ →
      envelope.operationId = some operationId →
      (daemon.store.claimOperation backend ⟨device.deviceId, operationId⟩ envelope.request nowMs
        fault).1 = .ok (.completed outcome) →
      Source backend daemon connection outcome (.claim connection nowMs fault) effect

theorem source_claim {connection : Nat} {nowMs : UInt64} {fault : Option Nat}
    {outcome : ResponseOutcome}
    (h : (daemon.step backend (.claim connection nowMs fault)).1.bind Effect.outcome? =
      some outcome) :
    Source backend daemon connection outcome (.claim connection nowMs fault)
      (daemon.step backend (.claim connection nowMs fault)).1 := by
  dsimp only [step] at h ⊢
  split at h
  · rename_i device envelope hconnection
    dsimp only [Prod.map_fst] at h ⊢
    unfold claim at h
    split at h
    · cases h
      exact .refused _ _ _ rfl
    split at h
    · cases h
      exact .refused _ _ _ rfl
    split at h
    · cases h
    rename_i operationId hoperation
    dsimp only at h
    split at h
    · cases h
    · rename_i answer hanswer
      cases h
      generalize hclaim : (daemon.store.claimOperation backend ⟨device.deviceId, operationId⟩
        envelope.request nowMs fault).1 = claimed at hanswer
      cases claimed with
      | error error =>
        cases hanswer
        exact .refused _ _ _ rfl
      | ok claim =>
        cases claim with
        | execute => cases hanswer
        | inProgress | indeterminate =>
          cases hanswer
          exact .refused _ _ _ rfl
        | completed replayed =>
          cases hanswer
          exact .replayed device envelope operationId nowMs fault _ hconnection hoperation hclaim
  · cases h

omit [DecidableEq δ] in
theorem complete_fst (backend : Backend δ) (daemon : Daemon δ) (connection : Nat)
    (device : DeviceRecord) (key : OperationKey) (outcome : ResponseOutcome) (nowMs : UInt64)
    (fault : Option Nat) :
    (∃ error, (daemon.complete backend connection device key outcome nowMs fault).1 =
      .answered (.error error)) ∨
      (daemon.complete backend connection device key outcome nowMs fault).1 =
        .recorded key outcome := by
  unfold complete
  dsimp only
  split
  · exact .inl ⟨_, rfl⟩
  · exact .inr rfl

/-- **An outcome is an error, or what the controller has returned**, now or before. -/
theorem source_step {connection : Nat} {input : DaemonInput} {outcome : ResponseOutcome}
    (hinput : (∃ nowMs fault, input = .claim connection nowMs fault) ∨ input = .call connection ∨
      (∃ returned, input = .return connection returned) ∨
      ∃ nowMs fault, input = .complete connection nowMs fault)
    (h : (daemon.step backend input).1.bind Effect.outcome? = some outcome) :
    Source backend daemon connection outcome input (daemon.step backend input).1 := by
  rcases hinput with ⟨nowMs, fault, rfl⟩ | rfl | ⟨returned, rfl⟩ | ⟨nowMs, fault, rfl⟩
  · exact source_claim h
  · dsimp only [step] at h
    split at h <;> cases h
  · dsimp only [step] at h ⊢
    split at h
    · cases h
    · rename_i device request hconnection
      cases h
      exact .returned device request _ hconnection
    · cases h
  · dsimp only [step] at h ⊢
    split at h
    · rename_i device key executed hconnection
      dsimp only [Prod.map_fst] at h ⊢
      rcases complete_fst backend daemon connection device key executed nowMs fault with
        ⟨error, heffect⟩ | heffect
      · rw [heffect] at h ⊢
        cases h
        exact .refused _ _ _ rfl
      · rw [heffect] at h ⊢
        cases h
        exact .recorded device key _ hconnection
    · cases h

/-- What is returned does not depend on the store. -/
theorem Source.of_return {daemon' : Daemon δ} {connection other : Nat}
    {outcome returned : ResponseOutcome} {effect : Option Effect}
    (h : Source backend daemon connection outcome (.return other returned) effect)
    (hsame : daemon.connections = daemon'.connections) :
    Source backend daemon' connection outcome (.return other returned) effect := by
  cases h with
  | refused _ _ error herror => exact .refused _ _ error herror
  | returned device request _ hconnection =>
    exact .returned device request _ (hsame ▸ hconnection)
  | recorded device key _ hconnection => exact .recorded device key _ (hsame ▸ hconnection)

/-! ## How tasks come about -/

omit [DecidableEq δ] in
/-- A task that was set by a step, or was there. -/
theorem task_of_setTask {connection other : Nat} {device device' : DeviceRecord}
    {task : Option Task} {found : Task}
    (h : (daemon.setTask other device task).connections connection =
      some ⟨device', some found⟩) :
    (connection = other ∧ device = device' ∧ task = some found) ∨
      daemon.connections connection = some ⟨device', some found⟩ := by
  rw [setTask_connections] at h
  by_cases hsame : connection = other
  · subst hsame
    rw [Function.update_self] at h
    cases h
    exact .inl ⟨rfl, rfl, rfl⟩
  · rw [Function.update_of_ne hsame] at h
    exact .inr h

/-- The task that a step leaves on a connection: the old one, a received request, one
that is called by the step or is about to be, or one that has just returned. -/
inductive Left (daemon : Daemon δ) (connection : Nat) (device : DeviceRecord)
    (input : DaemonInput) (effect : Option Effect) : Task → Prop where
  | same (task : Task) : daemon.connections connection = some ⟨device, some task⟩ →
      Left daemon connection device input effect task
  | received (envelope : RequestEnvelope) :
      Left daemon connection device input effect (.received envelope)
  | claimed (key : OperationKey) (request : ControlRequest) :
      Left daemon connection device input effect (.claimed key request)
  | called (key : Option OperationKey) (request : ControlRequest) :
      effect = some (.called key request) →
      Left daemon connection device input effect (.executing key request)
  | returned (key : OperationKey) (request : ControlRequest) (outcome : ResponseOutcome) :
      input = .return connection outcome →
      daemon.connections connection = some ⟨device, some (.executing (some key) request)⟩ →
      Left daemon connection device input effect (.executed key outcome)

theorem left_claim {connection other : Nat} {device device' : DeviceRecord}
    {envelope : RequestEnvelope} {nowMs : UInt64} {fault : Option Nat} {task : Task}
    {input : DaemonInput}
    (h : (daemon.claim backend other device' envelope nowMs fault).2.connections connection =
      some ⟨device, some task⟩) :
    Left daemon connection device input
      (some (daemon.claim backend other device' envelope nowMs fault).1) task := by
  unfold claim at h ⊢
  split at h
  · rcases task_of_setTask h with ⟨-, -, hnone⟩ | hold
    · cases hnone
    · exact .same task hold
  split at h
  · rcases task_of_setTask h with ⟨-, -, hnone⟩ | hold
    · cases hnone
    · exact .same task hold
  rename_i hauthorized
  rw [if_neg hauthorized]
  split at h
  · rcases task_of_setTask h with ⟨-, -, heq⟩ | hold
    · cases heq
      exact .called none envelope.request rfl
    · exact .same task hold
  · dsimp only at h
    split at h
    · rcases @task_of_setTask δ { daemon with store := _ } _ _ _ _ _ _ h with ⟨-, -, heq⟩ | hold
      · cases heq
        exact .claimed _ _
      · exact .same task hold
    · rcases @task_of_setTask δ { daemon with store := _ } _ _ _ _ _ _ h with ⟨-, -, hnone⟩ | hold
      · cases hnone
      · exact .same task hold

/-- **What a step leaves on a connection.** -/
theorem left_step {connection : Nat} {device : DeviceRecord} {input : DaemonInput} {task : Task}
    (h : (daemon.step backend input).2.connections connection = some ⟨device, some task⟩) :
    Left daemon connection device input (daemon.step backend input).1 task := by
  cases input with
  | connect other device' =>
    dsimp only [step] at h
    split at h
    · rcases task_of_setTask h with ⟨-, -, hnone⟩ | hold
      · cases hnone
      · exact .same task hold
    · exact .same task h
  | receive other frame =>
    dsimp only [step] at h
    split at h
    · rcases task_of_setTask h with ⟨-, -, heq⟩ | hold
      · cases heq
        exact .received _
      · exact .same task hold
    · exact .same task h
  | claim other nowMs fault =>
    dsimp only [step] at h ⊢
    split at h
    · exact left_claim h
    · exact .same task h
  | call other =>
    dsimp only [step] at h ⊢
    split at h
    · rcases task_of_setTask h with ⟨-, -, heq⟩ | hold
      · cases heq
        exact .called _ _ rfl
      · exact .same task hold
    · exact .same task h
  | «return» other outcome =>
    dsimp only [step] at h ⊢
    split at h
    · rename_i hconnection
      rcases task_of_setTask h with ⟨rfl, rfl, heq⟩ | hold
      · cases heq
        exact .returned _ _ outcome rfl hconnection
      · exact .same task hold
    · rcases task_of_setTask h with ⟨-, -, hnone⟩ | hold
      · cases hnone
      · exact .same task hold
    · exact .same task h
  | complete other nowMs fault =>
    dsimp only [step] at h
    split at h
    · rename_i device' key outcome _
      unfold complete at h
      dsimp only at h
      split at h
      all_goals
        rcases @task_of_setTask δ { daemon with store := _ } _ _ _ _ _ _ h with ⟨-, -, hnone⟩ | hold
        · cases hnone
        · exact .same task hold
    · exact .same task h
  | disconnect other =>
    have h : Function.update daemon.connections other none connection = _ := h
    by_cases hsame : connection = other
    · subst hsame
      rw [Function.update_self] at h
      cases h
    · rw [Function.update_of_ne hsame] at h
      exact .same task h
  | store operation =>
    dsimp only [step] at h
    split at h <;> exact .same task h
  | crash => cases h
  | start nowMs fault =>
    dsimp only [step] at h
    split at h <;> exact .same task h

/-- A recorded outcome is that of a task. -/
theorem recorded_step {input : DaemonInput} {key : OperationKey} {outcome : ResponseOutcome}
    (h : (daemon.step backend input).1 = some (.recorded key outcome)) :
    ∃ connection device, daemon.connections connection = some ⟨device, some (.executed key outcome)⟩ := by
  cases input with
  | complete connection nowMs fault =>
    dsimp only [step] at h
    split at h
    · rename_i device key' outcome' hconnection
      have heffect := Option.some.inj h
      rcases complete_fst backend daemon connection device key' outcome' nowMs fault with
        ⟨error, hanswer⟩ | hrecorded
      · cases heffect.symm.trans hanswer
      · cases heffect.symm.trans hrecorded
        exact ⟨connection, device, hconnection⟩
    · cases h
  | claim connection nowMs fault =>
    dsimp only [step] at h
    split at h
    · rename_i device envelope _
      have heffect := Option.some.inj h
      split at heffect
      · cases heffect
      split at heffect
      · cases heffect
      split at heffect
      · cases heffect
      · dsimp only at heffect
        split at heffect <;> cases heffect
    · cases h
  | connect | receive | call | «return» | store | start =>
    dsimp only [step] at h
    split at h <;> cases h
  | disconnect | crash => cases h

/-- What is called has been claimed. -/
theorem called_claimed_run (serverId : ServerId) (inputs : List DaemonInput) :
    Remembers backend (history backend serverId inputs)
      (Mealy.run (step backend) (create serverId) inputs) ∧
    ∀ key request, Happened (history backend serverId inputs) (.called (some key) request) →
      Happened (history backend serverId inputs) (.claimed key request) := by
  refine Mealy.history_invariant (P := fun history daemon => Remembers backend history daemon ∧
    ∀ key request, Happened history (.called (some key) request) →
      Happened history (.claimed key request)) ⟨remembers_create serverId, ?_⟩ ?_ inputs
  · intro key request h
    obtain ⟨e, he, -⟩ := h
    cases he
  · intro history daemon input h
    refine ⟨remembers_step input h.1, ?_⟩
    intro key request hcalled
    rcases happened_append.mp hcalled with hold | hnew
    · exact (h.2 key request hold).append _
    · exact (called_claimed rfl h.1 hnew).append _

/-- **At most one call for an operation.** -/
theorem calls_once (serverId : ServerId) (inputs : List DaemonInput) (key : OperationKey) :
    (history backend serverId inputs).countP (calls key) ≤ 1 :=
  Mealy.countP_le_one (fun daemon input h => exclusive_step (daemon.step_effect backend input) h)
    (fun daemon input _ h => called_step (daemon.step_effect backend input) h)
    (fun daemon input hI h => calls_spends daemon hI input key h)
    (fun _ _ _ h => by obtain ⟨device, h⟩ := h; cases h) inputs

end Daemon

namespace Server

variable {config : ServerSessionConfig} {server : Server δ} {history : List (Event δ)}

/-! ## The daemon of the server -/

omit [DecidableEq δ] in
/-- The effects of a run, without their connections. -/
def effects (history : List (Event δ)) : List Effect :=
  history.filterMap fun e => e.output.map Prod.snd

/-- The daemon goes through these steps, with these effects. -/
def Goes (backend : Backend δ) (daemon : Daemon δ) (effects : List Effect) (daemon' : Daemon δ) :
    Prop :=
  ∃ inputs, daemon' = Mealy.run (Daemon.step backend) daemon inputs ∧
    (Mealy.trace (Daemon.step backend) daemon inputs).filterMap (·.output) = effects

theorem goes_refl (daemon : Daemon δ) : Goes backend daemon [] daemon := ⟨[], rfl, rfl⟩

theorem goes_step (daemon : Daemon δ) (input : DaemonInput) :
    Goes backend daemon (daemon.step backend input).1.toList (daemon.step backend input).2 := by
  refine ⟨[input], rfl, ?_⟩
  show List.filterMap _ [Mealy.event (Daemon.step backend) daemon input] = _
  rw [List.filterMap_cons]
  cases h : (daemon.step backend input).1 with
  | none =>
    have houtput : (Mealy.event (Daemon.step backend) daemon input).output = none := h
    rw [houtput]
    rfl
  | some effect =>
    have houtput : (Mealy.event (Daemon.step backend) daemon input).output = some effect := h
    rw [houtput]
    rfl

theorem Goes.trans {daemon daemon' daemon'' : Daemon δ} {effects effects' : List Effect}
    (h : Goes backend daemon effects daemon') (h' : Goes backend daemon' effects' daemon'') :
    Goes backend daemon (effects ++ effects') daemon'' := by
  obtain ⟨inputs, rfl, rfl⟩ := h
  obtain ⟨inputs', rfl, rfl⟩ := h'
  refine ⟨inputs ++ inputs', ?_, ?_⟩
  · exact (run_append _ daemon inputs inputs').symm
  · rw [Mealy.trace_append, List.filterMap_append]

/-- A step that has no effect others can see. -/
theorem goes_quietly (daemon : Daemon δ) {input : DaemonInput}
    (hsilent : (daemon.step backend input).1 = none) :
    Goes backend daemon [] (daemon.step backend input).2 := by
  have hgoes : Goes backend daemon (daemon.step backend input).1.toList _ :=
    goes_step daemon input
  rwa [hsilent] at hgoes

theorem goes_settle (server : Server δ) (connection : Nat) (session : Session) :
    Goes backend server.daemon [] (server.settle backend connection session).daemon := by
  unfold Server.settle
  dsimp only
  split
  · exact @goes_quietly δ _ backend server.daemon (.disconnect connection) rfl
  · exact goes_refl server.daemon

theorem goes_connect (daemon : Daemon δ) (connection : Nat) (device : DeviceRecord) :
    Goes backend daemon [] (daemon.step backend (.connect connection device)).2 := by
  refine goes_quietly daemon ?_
  dsimp only [Daemon.step]
  split <;> rfl

theorem goes_first (server : Server δ) (connection : Nat) (session : Session)
    (message : Option Message) (handshake : Handshake) :
    Goes backend server.daemon []
      (server.first config backend connection session message handshake).daemon := by
  unfold Server.first
  split
  · exact goes_refl server.daemon
  rename_i hello version _
  obtain ⟨operation, hstore⟩ :=
    authenticate_store backend server.daemon hello.authentication handshake
  have hauthenticated : Goes backend server.daemon []
      (server.daemon.step backend (.store operation)).2 :=
    goes_quietly server.daemon (output_store server.daemon operation)
  rw [← hstore] at hauthenticated
  split
  · rename_i daemon heq
    rwa [heq] at hauthenticated
  rename_i authenticated daemon heq
  rw [heq] at hauthenticated
  dsimp only
  split
  · exact hauthenticated
  show Goes backend server.daemon [] (if handshake.sent then _ else daemon)
  split
  · exact hauthenticated.trans (goes_connect daemon connection authenticated.device)
  · exact hauthenticated

omit [DecidableEq δ] in
theorem answered_daemon (server : Server δ) (connection : Nat)
    (result : Option Effect × Daemon δ) :
    (server.answered connection result).2.daemon = result.2 := by
  unfold Server.answered
  dsimp only
  repeat' split
  all_goals rfl

theorem goes_answered (server : Server δ) (connection : Nat) {daemon : Daemon δ}
    {input : DaemonInput} (hgoes : Goes backend server.daemon [] daemon) :
    Goes backend server.daemon
      ((server.answered connection (daemon.step backend input)).1.map Prod.snd).toList
      (server.answered connection (daemon.step backend input)).2.daemon := by
  rw [answered_output, answered_daemon, Option.map_map]
  have hsame : (daemon.step backend input).1.map
      (Prod.snd ∘ fun effect => (connection, effect)) = (daemon.step backend input).1 := by
    cases (daemon.step backend input).1 <;> rfl
  rw [hsame]
  exact hgoes.trans (goes_step daemon input)

/-- **A step of the server is steps of its daemon**, with the same effect. -/
theorem goes_of_step (server : Server δ) (input : ServerInput) :
    Goes backend server.daemon ((server.step config backend input).1.map Prod.snd).toList
      (server.step config backend input).2.daemon := by
  cases input with
  | accept =>
    dsimp only [step]
    split <;> exact goes_refl server.daemon
  | first connection message handshake =>
    dsimp only [step]
    split
    · split
      · exact goes_first server connection _ message handshake
      · exact goes_refl server.daemon
    · exact goes_refl server.daemon
  | receive connection message =>
    dsimp only [step]
    split
    · rename_i session _
      split
      · rename_i device _ _
        unfold Server.receive
        have hsettled : Goes backend server.daemon [] _ :=
          goes_settle server connection (session.receive config device message)
        dsimp only
        split
        · rename_i frame _
          refine hsettled.trans (goes_quietly _ ?_)
          dsimp only [Daemon.step]
          split <;> rfl
        · exact hsettled
      · exact goes_refl server.daemon
    · exact goes_refl server.daemon
  | session connection input =>
    dsimp only [step]
    split
    · exact goes_settle server connection _
    · exact goes_refl server.daemon
  | claim connection | call connection | complete connection =>
    exact goes_answered server connection (goes_refl server.daemon)
  | answer connection result nowMs fault =>
    dsimp only [step, Server.answer]
    split
    · exact goes_answered server connection (goes_quietly server.daemon (output_store _ _))
    · exact goes_answered server connection (goes_refl server.daemon)
    · exact goes_refl server.daemon
  | store operation => exact goes_quietly server.daemon (output_store server.daemon operation)
  | crash => exact @goes_quietly δ _ backend server.daemon .crash rfl
  | start nowMs fault =>
    refine goes_quietly server.daemon ?_
    dsimp only [Daemon.step]
    split <;> rfl

omit [DecidableEq δ] in
theorem effects_append (history : List (Event δ)) (e : Event δ) :
    effects (history ++ [e]) = effects history ++ (e.output.map Prod.snd).toList := by
  unfold effects
  rw [List.filterMap_append, List.filterMap_cons]
  cases e.output <;> rfl

/-- **A run of the server is a run of its daemon**, with the same effects. -/
theorem daemon_run (config : ServerSessionConfig) (backend : Backend δ) (serverId : ServerId)
    (inputs : List ServerInput) :
    Goes backend (.create serverId) (effects (Server.history config backend serverId inputs))
      (Mealy.run (step config backend) (create serverId) inputs).daemon := by
  refine Mealy.history_invariant
    (P := fun history server => Goes backend (.create serverId) (effects history) server.daemon)
    (goes_refl _) ?_ inputs
  intro history server input h
  rw [effects_append]
  exact h.trans (goes_of_step server input)

end Server

end OmpRemote.Ompd

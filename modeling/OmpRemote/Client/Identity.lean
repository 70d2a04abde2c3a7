import OmpRemote.Client.Lifecycle

/-!
# As whom the client connects

A client that pairs presents the pairing until a welcome has issued it a credential, and
that credential from then on, on every connection of the run; a client with a stored
credential presents that one. It is connected as one device, to the server it was
configured for, or not at all.

- `Identified`: what an action says about the client's identity.
- `one_identity`: the law over whole runs.
-/

namespace OmpRemote.Client

open Lib

/-- The credential saved last. -/
def known (saved : Option DeviceCredential) : Action → Option DeviceCredential
  | .saved credential => some credential
  | _ => saved

/-- What the client presents: the credential it was issued, or what it began with. -/
def presents (first : Option ClientAuthentication) (saved : Option DeviceCredential) :
    Option ClientAuthentication :=
  (saved.map deviceAuthentication).or first

def Identified (config : RunConfig) (first : Option ClientAuthentication)
    (saved : Option DeviceCredential) : Action → Prop
  | .hello hello => presents first saved = some hello.authentication
  | .saved credential => saved = none ∧ credential.serverId = config.serverId ∧
    ∃ pairingId secret device, first = some (.pair pairingId secret device)
  | .status (.connected serverId deviceId version) =>
    serverId = config.serverId ∧ version = 1 ∧
      ∃ token, presents first saved = some (.device deviceId token)
  | _ => True

/-- What the client can begin with. -/
def Offers (config : RunConfig) (authentication : ClientAuthentication) : Prop :=
  match config.authentication with
  | .pair offered => authentication = offered
  | .storedCredential => ∃ credential : DeviceCredential,
    credential.serverId = config.serverId ∧ authentication = deviceAuthentication credential

/-! ## The device of a run -/

section

variable {config : RunConfig} {first : Option ClientAuthentication}

/-- A client that presents a device goes on presenting it. -/
theorem presents_stays {saved : Option DeviceCredential} {actions : List Action}
    {deviceId : DeviceId} {token : DeviceToken}
    (halong : Along known (Identified config first) saved actions)
    (h : presents first saved = some (.device deviceId token)) :
    presents first (run known saved actions) = some (.device deviceId token) := by
  induction actions generalizing saved with
  | nil => exact h
  | cons action actions ih =>
    obtain ⟨hidentified, hrest⟩ := halong
    refine ih hrest ?_
    cases action with
    | saved credential =>
      -- only a client that pairs is issued a credential
      obtain ⟨rfl, -, _, _, _, rfl⟩ := hidentified
      cases h
    | status | hello | sleep => exact h

theorem connected_presents {saved : Option DeviceCredential} {actions : List Action}
    {serverId : ServerId} {deviceId : DeviceId} {version : ProtocolVersion}
    (halong : Along known (Identified config first) saved actions)
    (h : .status (.connected serverId deviceId version) ∈ actions) :
    serverId = config.serverId ∧ version = 1 ∧
      ∃ token, presents first (run known saved actions) = some (.device deviceId token) := by
  induction actions generalizing saved with
  | nil => cases h
  | cons action actions ih =>
    obtain ⟨hidentified, hrest⟩ := halong
    rcases List.mem_cons.mp h with rfl | hmem
    · obtain ⟨hserver, hversion, token, hpresents⟩ := hidentified
      refine ⟨hserver, hversion, token, ?_⟩
      rw [run_cons]
      exact presents_stays hrest hpresents
    · exact ih hrest hmem

/-- Before it has a credential, the client does nothing as anybody. -/
theorem Identified.mono {saved : Option DeviceCredential} {action : Action}
    {authentication : ClientAuthentication} (hnone : saved = none)
    (h : Identified config none saved action) :
    Identified config (some authentication) saved action := by
  subst hnone
  cases action with
  | hello hello => cases h
  | saved credential =>
    obtain ⟨-, -, _, _, _, heq⟩ := h
    cases heq
  | sleep => exact trivial
  | status status =>
    cases status with
    | connected serverId deviceId version =>
      obtain ⟨-, -, token, heq⟩ := h
      cases heq
    | disconnected | connecting | stopped => exact trivial

theorem along_mono {authentication : ClientAuthentication} {actions : List Action}
    (h : Along known (Identified config none) none actions) :
    Along known (Identified config (some authentication)) none actions ∧
      run known none actions = none := by
  induction actions with
  | nil => exact ⟨trivial, rfl⟩
  | cons action actions ih =>
    obtain ⟨hidentified, hrest⟩ := h
    have hknown : known none action = none := by
      cases action with
      | saved credential =>
        obtain ⟨-, -, _, _, _, heq⟩ := hidentified
        cases heq
      | status | hello | sleep => rfl
    rw [hknown] at hrest
    obtain ⟨halong, hnone⟩ := ih hrest
    refine ⟨⟨hidentified.mono rfl, by rw [hknown]; exact halong⟩, ?_⟩
    rw [run_cons, hknown]
    exact hnone

end

/-! ## What a first answer says -/

theorem ClientConfig.acceptCredential_ok {config : ClientConfig}
    {authentication : ClientAuthentication} {welcome : ServerWelcome}
    {saved : Except String Unit} {issued : Option DeviceCredential}
    (h : config.acceptCredential authentication welcome saved = .ok issued) :
    (∃ token, authentication = .device welcome.deviceId token ∧ issued = none) ∨
      ∃ pairingId secret device credential, authentication = .pair pairingId secret device ∧
        issued = some credential ∧ credential.serverId = config.serverId ∧
        credential.deviceId = welcome.deviceId := by
  unfold acceptCredential at h
  split at h
  · rename_i pairingId secret device
    split at h
    · cases h
    · rename_i credential _
      split at h
      · cases h
      · rename_i hmatches
        split at h
        · cases h
        · cases h
          rw [not_or, not_not, not_not] at hmatches
          exact .inr ⟨pairingId, secret, device, credential, rfl, rfl, hmatches⟩
  · rename_i deviceId token
    split at h
    · cases h
    · rename_i hsame
      cases h
      exact .inl ⟨token, by rw [not_not.mp hsame], rfl⟩

namespace Lifecycle

theorem issued_some {config : RunConfig} {authentication : ClientAuthentication}
    {saved : Except String Unit} {message : WireMessage ServerFrame} {credential : DeviceCredential}
    (h : issued config authentication saved message = some credential) :
    credential.serverId = config.serverId ∧
      ∃ pairingId secret device, authentication = .pair pairingId secret device := by
  unfold issued at h
  split at h
  · rename_i welcome _
    split at h
    · cases h
    · split at h
      · rename_i accepted haccepted
        subst h
        rcases ClientConfig.acceptCredential_ok haccepted with
          ⟨-, -, heq⟩ | ⟨pairingId, secret, device, _, hpair, heq, hserver, -⟩
        · cases heq
        · cases heq
          exact ⟨hserver, pairingId, secret, device, hpair⟩
      · cases h
  · cases h

theorem issued_of_handshake {config : RunConfig} {authentication : ClientAuthentication}
    {saved : Except String Unit} {message : WireMessage ServerFrame} {welcome : ServerWelcome}
    {credential : Option DeviceCredential} {codec : CborCodec}
    (h : config.handshake authentication saved message = .ok (welcome, credential, codec)) :
    issued config authentication saved message = credential ∧ welcome.protocolVersion = 1 ∧
      welcome.serverId = config.serverId ∧
      ((∃ token, authentication = .device welcome.deviceId token ∧ credential = none) ∨
        ∃ issued, credential = some issued ∧ issued.deviceId = welcome.deviceId) := by
  obtain ⟨sent, hdecoded, hversion, hserver, haccepted, rfl⟩ := ClientConfig.handshake_ok h
  refine ⟨?_, hversion, hserver, ?_⟩
  · unfold issued
    rw [hdecoded]
    dsimp only
    rw [if_neg (by rw [not_or, not_not, not_not]; exact ⟨hversion, hserver⟩), haccepted]
  · rcases ClientConfig.acceptCredential_ok haccepted with
      hdevice | ⟨_, _, _, issued, -, heq, -, hdevice⟩
    · exact .inl hdevice
    · exact .inr ⟨issued, heq, hdevice⟩

/-! ## The law -/

/-- What the client connects as at a stage. -/
def stageAuthentication : Stage → Option ClientAuthentication
  | .connecting authentication | .greeting authentication | .authenticating authentication =>
    some authentication
  | _ => none

structure Identity (config : RunConfig) (first : Option ClientAuthentication)
    (client : Lifecycle) : Prop where
  offered : ∀ authentication, first = some authentication → Offers config authentication
  along : Along known (Identified config first) none client.actions
  paired : ∀ authentication, config.authentication = .pair authentication →
    first = some authentication ∧ client.activeCredential = run known none client.actions
  stored : config.authentication = .storedCredential →
    first = client.activeCredential.map deviceAuthentication ∧
      run known none client.actions = none
  stage : ∀ authentication, stageAuthentication client.stage = some authentication →
    presents first (run known none client.actions) = some authentication

variable {client client' : Lifecycle} {config : RunConfig} {first : Option ClientAuthentication}

theorem identity_new (config : RunConfig) (random : String) :
    ∃ first, Identity config first (new config random) := by
  cases hsource : config.authentication with
  | pair authentication =>
    refine ⟨some authentication, ?_, trivial, ?_, ?_, ?_⟩
    · rintro _ ⟨⟩
      unfold Offers
      rw [hsource]
    · intro other heq
      cases hsource.symm.trans heq
      exact ⟨rfl, rfl⟩
    · intro heq
      cases hsource.symm.trans heq
    · intro _ heq
      cases heq
  | storedCredential =>
    refine ⟨none, ?_, trivial, ?_, fun _ => ⟨rfl, rfl⟩, ?_⟩
    · intro _ heq
      cases heq
    · intro _ heq
      cases hsource.symm.trans heq
    · intro _ heq
      cases heq

/-- The client goes on. -/
theorem Identity.congr (h : Identity config first client) (hactions : client'.actions = client.actions)
    (hactive : client'.activeCredential = client.activeCredential)
    (hstage : stageAuthentication client'.stage = none ∨
      stageAuthentication client'.stage = stageAuthentication client.stage) :
    Identity config first client' := by
  refine ⟨h.offered, by rw [hactions]; exact h.along, by rw [hactions, hactive]; exact h.paired,
    by rw [hactions, hactive]; exact h.stored, ?_⟩
  intro authentication heq
  rw [hactions]
  rcases hstage with hnone | hsame
  · cases hnone.symm.trans heq
  · exact h.stage authentication (hsame ▸ heq)

/-- The client does something and saves nothing. -/
theorem Identity.act (h : Identity config first client) {action : Action}
    (hactions : client'.actions = client.actions ++ [action])
    (hactive : client'.activeCredential = client.activeCredential)
    (hidentified : Identified config first (run known none client.actions) action)
    (hkept : known (run known none client.actions) action = run known none client.actions)
    (hstage : stageAuthentication client'.stage = none ∨
      stageAuthentication client'.stage = stageAuthentication client.stage) :
    Identity config first client' := by
  have hsame : run known none client'.actions = run known none client.actions := by
    rw [hactions, run_append]
    exact hkept
  refine ⟨h.offered, ?_, by rw [hsame, hactive]; exact h.paired,
    by rw [hsame, hactive]; exact h.stored, ?_⟩
  · rw [hactions, along_append]
    exact ⟨h.along, hidentified, trivial⟩
  · intro authentication heq
    rw [hsame]
    rcases hstage with hnone | hstays
    · cases hnone.symm.trans heq
    · exact h.stage authentication (hstays ▸ heq)

theorem Identity.setBack (h : Identity config first client) (reason : Option String)
    (setback : Setback) : Identity config first (client.setBack config reason setback) := by
  have hstatus : Identity config first (client.setStatus (.disconnected reason)) :=
    h.act rfl rfl trivial rfl (.inr rfl)
  exact hstatus.act rfl rfl trivial rfl (.inl rfl)

/-- The client is issued a credential. -/
theorem Identity.keep (h : Identity config first client) {authentication : ClientAuthentication}
    (hstage : client.stage = .authenticating authentication) {saved : Except String Unit}
    {message : WireMessage ServerFrame} {credential : DeviceCredential}
    (hissued : issued config authentication saved message = some credential) :
    Identity config first
      { client.keep (some credential) with stage := .leaving } := by
  obtain ⟨hserver, pairingId, secret, device, rfl⟩ := issued_some hissued
  have hpresents := h.stage _ (congrArg stageAuthentication hstage)
  -- a client that presents a pairing has not been issued a credential
  have hnone : run known none client.actions = none := by
    cases hknown : run known none client.actions with
    | none => rfl
    | some issued =>
      rw [hknown] at hpresents
      cases hpresents
  have hfirst : first = some (.pair pairingId secret device) := by
    rw [hnone] at hpresents
    exact hpresents
  have hsaved : run known none (client.actions ++ [.saved credential]) = some credential := by
    rw [run_append]
    rfl
  refine ⟨h.offered, ?_, ?_, ?_, ?_⟩
  · show Along known _ none (client.actions ++ [.saved credential])
    rw [along_append]
    exact ⟨h.along, ⟨hnone, hserver, pairingId, secret, device, hfirst⟩, trivial⟩
  · intro authentication hsource
    exact ⟨(h.paired authentication hsource).1, hsaved.symm⟩
  · intro hsource
    obtain ⟨hsame, -⟩ := h.stored hsource
    rw [hfirst] at hsame
    cases hactive : client.activeCredential with
    | none =>
      rw [hactive] at hsame
      cases hsame
    | some active =>
      rw [hactive] at hsame
      cases hsame
  · intro _ heq
    cases heq

theorem identity_start (h : Identity config first client) (hstage : client.stage = .starting)
    (loaded : Except String (Option DeviceCredential)) :
    ∃ first, Identity config first (client.step config (.start loaded)) := by
  have hconnecting : Identity config first (client.setStatus .connecting) :=
    h.act rfl rfl trivial rfl (.inr rfl)
  dsimp only [step]
  rw [hstage]
  dsimp only
  rcases authentication_cases (client.setStatus .connecting) config loaded with
    ⟨error, heq, -⟩ | ⟨authentication, heq, hsource⟩ | ⟨credential, hactive, hsource, -, hserver, heq⟩
  · rw [heq]
    exact ⟨first, hconnecting.act rfl rfl trivial rfl (.inl rfl)⟩
  · rw [heq]
    refine ⟨first, hconnecting.offered, hconnecting.along, hconnecting.paired, hconnecting.stored, ?_⟩
    rintro _ ⟨⟩
    rcases hsource with ⟨credential, hactive, rfl⟩ | ⟨hactive, hpair⟩
    · cases hconfig : config.authentication with
      | pair offered =>
        obtain ⟨-, hknown⟩ := hconnecting.paired offered hconfig
        show presents first (run known none (client.setStatus .connecting).actions) = _
        rw [← hknown, hactive]
        rfl
      | storedCredential =>
        obtain ⟨hfirst, hnone⟩ := hconnecting.stored hconfig
        show presents first (run known none (client.setStatus .connecting).actions) = _
        rw [hnone, hfirst, hactive]
        rfl
    · obtain ⟨hfirst, hknown⟩ := hconnecting.paired authentication hpair
      show presents first (run known none (client.setStatus .connecting).actions) = _
      rw [← hknown, hactive, hfirst]
      rfl
  · -- the stored credential is what the client begins with
    rw [heq]
    obtain ⟨hfirst, hnone⟩ := hconnecting.stored hsource
    have halong := hconnecting.along
    rw [hfirst, hactive] at halong
    refine ⟨some (deviceAuthentication credential), ?_, (along_mono halong).1, ?_, ?_, ?_⟩
    · rintro _ ⟨⟩
      unfold Offers
      rw [hsource]
      exact ⟨credential, hserver, rfl⟩
    · intro _ hpair
      cases hsource.symm.trans hpair
    · intro _
      exact ⟨rfl, hnone⟩
    · rintro _ ⟨⟩
      show presents _ (run known none (client.setStatus .connecting).actions) = _
      rw [hnone]
      rfl

theorem identity_answered (h : Identity config first client) {authentication : ClientAuthentication}
    (hstage : client.stage = .authenticating authentication) (event : Except String SocketEvent)
    (saved : Except String Unit) :
    Identity config first (client.step config (.answered event saved)) := by
  have hpresents := h.stage authentication (congrArg stageAuthentication hstage)
  dsimp only [step]
  rw [hstage]
  dsimp only
  split
  · exact h.setBack _ _
  · exact h.setBack _ _
  · rename_i message
    split
    · rename_i error _
      cases hissued : issued config authentication saved message with
      | none => exact h.congr rfl rfl (.inl rfl)
      | some credential => exact (h.keep hstage hissued).congr rfl rfl (.inl rfl)
    · rename_i welcome accepted codec hwelcome
      obtain ⟨hissued, hversion, hserver, hdevice⟩ := issued_of_handshake hwelcome
      rw [hissued]
      rcases hdevice with ⟨token, rfl, rfl⟩ | ⟨credential, rfl, hsame⟩
      · exact h.act rfl rfl ⟨hserver, hversion, token, hpresents⟩ rfl (.inl rfl)
      · have hkept := h.keep hstage hissued
        refine hkept.act rfl rfl ⟨hserver, hversion, credential.token, ?_⟩ rfl (.inl rfl)
        show presents first (run known none (client.actions ++ [.saved credential])) = _
        rw [run_append, ← hsame]
        rfl

theorem identity_step (h : Identity config first client) (input : LifecycleInput) :
    ∃ first, Identity config first (client.step config input) := by
  cases input with
  | start loaded =>
    cases hstage : client.stage with
    | starting => exact identity_start h hstage loaded
    | _ =>
      dsimp only [step]
      rw [hstage]
      exact ⟨first, h⟩
  | answered event saved =>
    cases hstage : client.stage with
    | authenticating authentication => exact ⟨first, identity_answered h hstage event saved⟩
    | _ =>
      dsimp only [step]
      rw [hstage]
      exact ⟨first, h⟩
  | application input =>
    refine ⟨first, ?_⟩
    dsimp only [step]
    split
    · exact h.congr rfl rfl (.inr rfl)
    · exact h
  | take sent =>
    have hkept : Identity config first
        { client with runner := client.runner.step (.take (sends sent)) } := h.congr rfl rfl (.inr rfl)
    refine ⟨first, ?_⟩
    dsimp only [step]
    split
    · split
      · exact h.act rfl rfl trivial rfl (.inl rfl)
      · exact hkept
    · split
      · exact h.act rfl rfl trivial rfl (.inl rfl)
      · exact hkept
    · split
      · exact h.act rfl rfl trivial rfl (.inl rfl)
      · exact hkept
    · split
      · exact hkept.setBack _ _
      · exact h.congr rfl rfl (.inl rfl)
      · exact hkept
    · exact h
  | connected result =>
    refine ⟨first, ?_⟩
    dsimp only [step]
    split
    · rename_i authentication hstage
      exact h.congr rfl rfl (.inr (by rw [hstage]; rfl))
    · exact h.setBack _ _
    · exact h
  | greeted sent =>
    refine ⟨first, ?_⟩
    dsimp only [step]
    split
    · rename_i authentication hstage
      have hpresents := h.stage authentication (congrArg stageAuthentication hstage)
      split
      · exact h.setBack _ _
      · have hlogged : Identity config first { client with actions := client.actions ++
            [.hello (client.runner.hello config.toClientConfig authentication)] } :=
          h.act rfl rfl hpresents rfl (.inr rfl)
        split
        · exact hlogged.setBack _ _
        · exact hlogged.congr rfl rfl (.inr (by rw [hstage]; rfl))
    · exact h
  | initialization sent =>
    have hkept : Identity config first { client with
        runner := client.runner.step (.initializeConnection (sends sent)) } :=
      h.congr rfl rfl (.inr rfl)
    refine ⟨first, ?_⟩
    dsimp only [step]
    split
    · split
      · exact hkept.setBack _ _
      · exact h.congr rfl rfl (.inl rfl)
      · exact hkept
    · exact h
  | received event sent =>
    have hkept (runner : ClientRunner) : Identity config first { client with runner } :=
      h.congr rfl rfl (.inr rfl)
    refine ⟨first, ?_⟩
    dsimp only [step]
    split
    · split
      · exact (hkept (client.runner.step .lose)).setBack _ _
      · exact (hkept (client.runner.step .lose)).setBack _ _
      · split
        · exact h.congr rfl rfl (.inl rfl)
        · unfold receive
          dsimp only
          split
          · exact (hkept (client.runner.step (.frame _ (sends sent)))).setBack _ _
          · exact (hkept (client.runner.step (.frame _ (sends sent)))).setBack _ _
          · exact h.congr rfl rfl (.inl rfl)
          · exact hkept _
    · exact h
  | wake =>
    refine ⟨first, ?_⟩
    dsimp only [step]
    split
    · exact h.congr rfl rfl (.inl rfl)
    · exact h
  | closed =>
    refine ⟨first, ?_⟩
    dsimp only [step]
    split
    · exact h.act rfl rfl trivial rfl (.inl rfl)
    · exact h.congr rfl rfl (.inl rfl)
    · exact h

/-- **One identity.**

Whatever the servers, the sockets and the credential store do: the client presents what it
was configured with until it is issued a credential, which happens at most once and only
if it pairs, and that credential from then on; and whenever it is connected, it is so to
the server it was configured for, and as one and the same device. -/
theorem one_identity (config : RunConfig) (random : String) (inputs : List LifecycleInput) :
    let client := run (step config) (new config random) inputs
    (∃ first, (∀ authentication, first = some authentication → Offers config authentication) ∧
      Along known (Identified config first) none client.actions) ∧
    ∃ device, ∀ serverId deviceId version,
      .connected serverId deviceId version ∈ client.statuses →
        serverId = config.serverId ∧ deviceId = device ∧ version = 1 := by
  intro client
  have hidentity : ∃ first, Identity config first client :=
    run_invariant (P := fun client => ∃ first, Identity config first client)
      (fun _ input ⟨_, h⟩ => identity_step h input) (identity_new config random) inputs
  obtain ⟨first, h⟩ := hidentity
  refine ⟨⟨first, h.offered, h.along⟩, ?_⟩
  have hshown {status : ConnectionStatus} (hmem : status ∈ client.statuses) :
      status = .disconnected none ∨ .status status ∈ client.actions := by
    rcases List.mem_cons.mp hmem with heq | htold
    · exact .inl heq
    · obtain ⟨action, haction, hstatus⟩ := List.mem_filterMap.mp htold
      cases action with
      | status told =>
        cases hstatus
        exact .inr haction
      | hello | saved | sleep => cases hstatus
  cases hpresents : presents first (run known none client.actions) with
  | none =>
    refine ⟨⟨""⟩, ?_⟩
    intro serverId deviceId version hmem
    rcases hshown hmem with heq | haction
    · cases heq
    · obtain ⟨-, -, token, hdevice⟩ := connected_presents h.along haction
      cases hpresents.symm.trans hdevice
  | some authentication =>
    cases authentication with
    | pair =>
      refine ⟨⟨""⟩, ?_⟩
      intro serverId deviceId version hmem
      rcases hshown hmem with heq | haction
      · cases heq
      · obtain ⟨-, -, token, hdevice⟩ := connected_presents h.along haction
        cases hpresents.symm.trans hdevice
    | device device token =>
      refine ⟨device, ?_⟩
      intro serverId deviceId version hmem
      rcases hshown hmem with heq | haction
      · cases heq
      · obtain ⟨hserver, hversion, token', hdevice⟩ := connected_presents h.along haction
        cases hpresents.symm.trans hdevice
        exact ⟨hserver, rfl, hversion⟩

end Lifecycle

end OmpRemote.Client

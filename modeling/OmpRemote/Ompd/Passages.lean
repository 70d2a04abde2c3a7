import OmpRemote.Ompd.Responses

/-!
# What a step leaves of a connection

- `Server.Passage`: where the connection after a step comes from, with the input that
  made it.
- `passage_step`: every step is one of these.
-/

namespace OmpRemote.Ompd

open Lib

variable {δ : Type} [DecidableEq δ]

namespace Server

/-- Where the connection that is found after a step comes from. -/
inductive Passage (config : ServerSessionConfig) (backend : Backend δ) (server : Server δ)
    (input : ServerInput) (connection : Nat) (found : Session) : Prop where
  | opened : connection = server.accepted → found = .new config.outboundCapacity →
      Passage config backend server input connection found
  | kept : server.session connection = some found →
      Passage config backend server input connection found
  | stepped (session : Session) (i : SessionInput) : server.session connection = some session →
      found = session.step config i → Passage config backend server input connection found
  | received (session : Session) (device : DeviceRecord) (message : Message) :
      input = .receive connection message → server.session connection = some session →
      session.loop = .receiving → session.device = some device →
      found = session.receive config device message →
      Passage config backend server input connection found
  | rejected (session : Session) : server.session connection = some session →
      session.loop = .first → found = session.reject →
      Passage config backend server input connection found
  | welcomed (session : Session) (message : Option Message) (handshake : Handshake)
      (hello : ClientHello) (version : ProtocolVersion) (authenticated : Authenticated)
      (daemon : Daemon δ) : input = .first connection message handshake →
      server.session connection = some session → session.loop = .first →
      message.bind (firstHello config) = some (hello, version) →
      authenticate backend server.daemon hello.authentication handshake =
        (some authenticated, daemon) →
      found = session.welcome authenticated.device
        (welcome config daemon hello version authenticated handshake.connectionId) handshake.sent →
      Passage config backend server input connection found
  | answered (session : Session) (requestId : RequestId) (outcome : ResponseOutcome) :
      server.session connection = some session → session.loop = .executing requestId →
      found = { session with
        loop := .sending .response (.protocol (.response ⟨requestId, outcome⟩)) true false } →
      Passage config backend server input connection found
  | finished (session : Session) : server.session connection = some session →
      found = session.finish → Passage config backend server input connection found

variable {config : ServerSessionConfig} {backend : Backend δ} {server : Server δ}
  {connection other : Nat} {session found : Session}

/-- The first message of a connection. -/
theorem passage_first {message : Option Message} {handshake : Handshake}
    (hsession : server.session other = some session) (hfirst : session.loop = .first)
    (hfound : (server.first config backend other session message handshake).session connection =
      some found) :
    Passage config backend server (.first other message handshake) connection found := by
  have hset {next : Server δ} (session' : Session) (hsame : next.session = server.session)
      (hpassage : connection = other → Passage config backend server
        (.first other message handshake) connection session')
      (hfound : (next.setSession other session').session connection = some found) :
      Passage config backend server (.first other message handshake) connection found := by
    rcases setSession_cases hfound with ⟨heq, rfl⟩ | hold
    · exact hpassage heq
    · exact .kept (hsame ▸ hold)
  have hrejected : connection = other → Passage config backend server
      (.first other message handshake) connection session.reject := by
    rintro rfl
    exact .rejected session hsession hfirst rfl
  unfold Server.first at hfound
  split at hfound
  · exact hset session.reject rfl hrejected hfound
  rename_i hello version hhello
  split at hfound
  · exact hset session.reject rfl hrejected hfound
  rename_i authenticated daemon hauthenticated
  dsimp only at hfound
  split at hfound
  · exact hset session.reject rfl hrejected hfound
  · refine hset (session.welcome _ _ _) rfl ?_ hfound
    rintro rfl
    exact .welcomed session message handshake hello version authenticated daemon rfl hsession hfirst
      hhello hauthenticated rfl

/-- **Every step of the server leaves a connection in one of these ways.** -/
theorem passage_step {input : ServerInput}
    (hfound : (server.step config backend input).2.session connection = some found) :
    Passage config backend server input connection found := by
  have hanswered {step : Option Effect × Daemon δ} {other : Nat}
      (hfound : (server.answered other step).2.session connection = some found) :
      Passage config backend server input connection found := by
    rcases answered_cases hfound with hold | ⟨session, requestId, outcome, hold, hloop, rfl⟩
    · exact .kept hold
    · exact .answered session requestId outcome hold hloop rfl
  cases input with
  | accept =>
    dsimp only [step] at hfound
    split at hfound
    · rcases setSession_cases hfound with ⟨heq, rfl⟩ | hold
      · exact .opened heq rfl
      · exact .kept hold
    · exact .kept hfound
  | first other message handshake =>
    dsimp only [step] at hfound
    split at hfound
    · rename_i session hsession
      split at hfound
      · rename_i hfirst
        exact passage_first hsession hfirst hfound
      · exact .kept hfound
    · exact .kept hfound
  | receive other message =>
    dsimp only [step] at hfound
    split at hfound
    · rename_i session hsession
      split at hfound
      · rename_i device hloop hdevice
        have hsettled : (server.setSession other
            (session.receive config device message)).session connection = some found := by
          unfold Server.receive at hfound
          dsimp only at hfound
          split at hfound <;> exact settle_session server other _ ▸ hfound
        rcases setSession_cases hsettled with ⟨rfl, rfl⟩ | hold
        · exact .received session device message rfl hsession hloop hdevice rfl
        · exact .kept hold
      · exact .kept hfound
    · exact .kept hfound
  | session other i =>
    dsimp only [step] at hfound
    split at hfound
    · rename_i session hsession
      rw [settle_session] at hfound
      rcases setSession_cases hfound with ⟨rfl, rfl⟩ | hold
      · exact .stepped session i hsession rfl
      · exact .kept hold
    · exact .kept hfound
  | claim | call | complete => exact hanswered hfound
  | answer other result nowMs fault =>
    dsimp only [step] at hfound
    unfold Server.answer at hfound
    split at hfound
    · exact hanswered hfound
    · exact hanswered hfound
    · exact .kept hfound
  | store | start => exact .kept hfound
  | crash =>
    obtain ⟨session, hsession, rfl⟩ := Option.map_eq_some_iff.mp hfound
    exact .finished session hsession rfl

omit [DecidableEq δ] in
theorem isSome_setSession (h : (server.session connection).isSome) :
    ((server.setSession other session).session connection).isSome := by
  show (Function.update server.session other (some session) connection).isSome
  by_cases hsame : connection = other
  · rw [hsame, Function.update_self]
    rfl
  · rwa [Function.update_of_ne hsame]

/-- A connection is never forgotten. -/
theorem session_persists (h : (server.session connection).isSome) (input : ServerInput) :
    ((server.step config backend input).2.session connection).isSome := by
  have hanswered {step : Option Effect × Daemon δ} {other : Nat} :
      ((server.answered other step).2.session connection).isSome := by
    unfold answered
    dsimp only
    repeat' split
    all_goals first | exact isSome_setSession h | exact h
  have hsettled (other : Nat) (session : Session) :
      ((server.settle backend other session).session connection).isSome := by
    rw [settle_session]
    exact isSome_setSession h
  cases input with
  | accept =>
    dsimp only [step]
    split
    · exact isSome_setSession h
    · exact h
  | first other message handshake =>
    dsimp only [step, Server.first]
    repeat' split
    all_goals first | exact isSome_setSession h | exact h
  | receive other message =>
    dsimp only [step, Server.receive]
    repeat' split
    all_goals first | exact hsettled _ _ | exact h
  | session other i =>
    dsimp only [step]
    split
    · exact hsettled _ _
    · exact h
  | claim | call | complete => exact hanswered
  | answer other result nowMs fault =>
    dsimp only [step, Server.answer]
    split
    · exact hanswered
    · exact hanswered
    · exact h
  | store | start => exact h
  | crash =>
    show ((server.session connection).map Session.finish).isSome
    rw [Option.isSome_map]
    exact h

end Server

end OmpRemote.Ompd

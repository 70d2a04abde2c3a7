import OmpRemote.Client.Lifecycle

/-!
# How long the client waits

The client waits before it connects again, twice as long after every further failure, up
to the longest delay of its policy. A welcome makes it start anew, and the server can say
how long to wait.

- `Paced`: what the client has waited, and what it is to wait the next time.
- `sleeps_back_off`: the law over whole runs.
-/

namespace OmpRemote.Client

open Lib

/-- The failures since the last welcome. What could not be sent after a welcome is not
counted. -/
def streak (failures : Nat) : Action → Nat
  | .status (.connected ..) => 0
  | .sleep .uninitialized _ => failures
  | .sleep _ _ => failures + 1
  | _ => failures

def Due (policy : ReconnectPolicy) (failures : Nat) : Action → Prop
  | .sleep (.ended (some after)) duration => duration = after
  | .sleep _ duration => duration = policy.backoff.delay failures
  | _ => True

/-- What the client is to wait the next time, if it goes on. -/
def Stage.Next (reconnectDelay : Duration) : Stage → Duration → Prop
  | .waiting delay, due => delay = due
  | .closing _, _ | .leaving, _ | .returned _, _ => True
  | _, due => reconnectDelay = due

namespace Lifecycle

structure Paced (config : RunConfig) (client : Lifecycle) : Prop where
  due : Along streak (Due config.reconnect) 0 client.actions
  next : client.stage.Next client.reconnectDelay
    (config.reconnect.backoff.delay (run streak 0 client.actions))

variable {client client' : Lifecycle} {config : RunConfig}

theorem paced_new (config : RunConfig) (random : String) : Paced config (new config random) :=
  ⟨trivial, rfl⟩

/-- The client goes on without a setback. -/
theorem Paced.congr (h : Paced config client) (hactions : client'.actions = client.actions)
    (hnext : client'.stage.Next client'.reconnectDelay
      (config.reconnect.backoff.delay (run streak 0 client.actions))) : Paced config client' :=
  ⟨by rw [hactions]; exact h.due, by rw [hactions]; exact hnext⟩

/-- The client does something that is neither a welcome nor a setback. -/
theorem Paced.act (h : Paced config client) {action : Action}
    (hactions : client'.actions = client.actions ++ [action])
    (hdue : ∀ failures, Due config.reconnect failures action ∧ streak failures action = failures)
    (hnext : client'.stage.Next client'.reconnectDelay
      (config.reconnect.backoff.delay (run streak 0 client.actions))) : Paced config client' := by
  constructor
  · rw [hactions, along_append]
    exact ⟨h.due, (hdue _).1, trivial⟩
  · rw [hactions, run_append]
    show client'.stage.Next _ (config.reconnect.backoff.delay (streak _ action))
    rw [(hdue _).2]
    exact hnext

/-- The client is set back, at a stage at which it knows the next delay. -/
theorem Paced.setBack (h : Paced config client)
    (hdelay : client.reconnectDelay =
      config.reconnect.backoff.delay (run streak 0 client.actions))
    (reason : Option String) (setback : Setback) :
    Paced config (client.setBack config reason setback) := by
  have hstatus : Along streak (Due config.reconnect) 0
      (client.actions ++ [.status (.disconnected reason)]) :=
    along_append.mpr ⟨h.due, trivial, trivial⟩
  have hsame : run streak 0 (client.setStatus (.disconnected reason)).actions =
      run streak 0 client.actions := run_append _ _ _ _
  constructor
  · refine along_append.mpr ⟨hstatus, ?_, trivial⟩
    rw [hsame]
    cases setback with
    | unreached | uninitialized => exact hdelay
    | ended after =>
      cases after with
      | none => exact hdelay
      | some after => rfl
  · show Stage.Next _ (.waiting _) (config.reconnect.backoff.delay
      (run streak 0 ((client.setStatus (.disconnected reason)).actions ++ [.sleep setback _])))
    rw [run_append, hsame]
    cases setback with
    | uninitialized => exact hdelay
    | unreached | ended =>
      exact congrArg (nextDelay · config.reconnect.maximumDelay) hdelay

theorem paced_step (h : Paced config client) (input : LifecycleInput) :
    Paced config (client.step config input) := by
  have hnext := h.next
  cases input with
  | application input =>
    dsimp only [step]
    split
    · exact h.congr rfl hnext
    · exact h
  | start loaded =>
    dsimp only [step]
    split
    · rename_i hstage
      rw [hstage] at hnext
      have hconnecting : Paced config (client.setStatus .connecting) :=
        h.act rfl (fun failures => ⟨trivial, rfl⟩) (by
          show client.stage.Next _ _
          rw [hstage]
          exact hnext)
      rcases authentication_cases (client.setStatus .connecting) config loaded with
        ⟨error, heq, -⟩ | ⟨authentication, heq, -⟩ | ⟨credential, -, -, -, -, heq⟩
      · rw [heq]
        exact hconnecting.act rfl (fun failures => ⟨trivial, rfl⟩) trivial
      · rw [heq]
        exact h.act rfl (fun failures => ⟨trivial, rfl⟩) hnext
      · rw [heq]
        exact h.act rfl (fun failures => ⟨trivial, rfl⟩) hnext
    · exact h
  | take sent =>
    have hkept : Paced config { client with runner := client.runner.step (.take (sends sent)) } :=
      h.congr rfl hnext
    dsimp only [step]
    split
    · split
      · exact h.act rfl (fun failures => ⟨trivial, rfl⟩) trivial
      · exact hkept
    · split
      · exact h.act rfl (fun failures => ⟨trivial, rfl⟩) trivial
      · exact hkept
    · split
      · exact h.act rfl (fun failures => ⟨trivial, rfl⟩) trivial
      · exact hkept
    · rename_i codec hstage
      rw [hstage] at hnext
      split
      · exact hkept.setBack hnext _ _
      · exact h.congr rfl trivial
      · exact hkept
    · exact h
  | connected result =>
    dsimp only [step]
    split
    · rename_i authentication hstage
      rw [hstage] at hnext
      exact h.congr rfl hnext
    · rename_i authentication error hstage
      rw [hstage] at hnext
      exact h.setBack hnext _ _
    · exact h
  | greeted sent =>
    dsimp only [step]
    split
    · rename_i authentication hstage
      rw [hstage] at hnext
      split
      · exact h.setBack hnext _ _
      · have hlogged {hello : Hello} :
            Paced config { client with actions := client.actions ++ [.hello hello] } :=
          h.act rfl (fun failures => ⟨trivial, rfl⟩) (by rw [hstage]; exact hnext)
        split
        · refine hlogged.setBack (hnext.trans ?_) _ _
          rw [run_append]
          rfl
        · exact h.act rfl (fun failures => ⟨trivial, rfl⟩) hnext
    · exact h
  | answered event saved =>
    dsimp only [step]
    split
    · rename_i authentication hstage
      rw [hstage] at hnext
      split
      · exact h.setBack hnext _ _
      · exact h.setBack hnext _ _
      · rename_i message
        have hkept : Paced config (client.keep (issued config authentication saved message)) := by
          unfold keep
          split
          · exact h
          · exact h.act rfl (fun failures => ⟨trivial, rfl⟩) (by rw [hstage]; exact hnext)
        split
        · exact hkept.congr rfl trivial
        · -- the welcome makes the client start anew
          refine ⟨along_append.mpr ⟨hkept.due, trivial, trivial⟩, ?_⟩
          show config.reconnect.initialDelay = config.reconnect.backoff.delay (run streak 0 (_ ++ _))
          rw [run_append]
          rfl
    · exact h
  | initialization sent =>
    dsimp only [step]
    split
    · rename_i codec hstage
      have hkept : Paced config { client with
          runner := client.runner.step (.initializeConnection (sends sent)) } := h.congr rfl hnext
      rw [hstage] at hnext
      split
      · exact hkept.setBack hnext _ _
      · exact h.congr rfl hnext
      · exact hkept
    · exact h
  | received event sent =>
    dsimp only [step]
    split
    · rename_i codec hstage
      have hkept (runner : ClientRunner) : Paced config { client with runner } := h.congr rfl hnext
      rw [hstage] at hnext
      split
      · exact (hkept (client.runner.step .lose)).setBack hnext _ _
      · exact (hkept (client.runner.step .lose)).setBack hnext _ _
      · split
        · exact h.congr rfl trivial
        · rename_i frame _
          unfold receive
          dsimp only
          split
          · exact (hkept (client.runner.step (.frame _ (sends sent)))).setBack hnext _ _
          · exact (hkept (client.runner.step (.frame _ (sends sent)))).setBack hnext _ _
          · exact h.congr rfl trivial
          · exact hkept _
    · exact h
  | wake =>
    dsimp only [step]
    split
    · rename_i delay hstage
      rw [hstage] at hnext
      exact h.congr rfl hnext
    · exact h
  | closed =>
    dsimp only [step]
    split
    · exact h.act rfl (fun failures => ⟨trivial, rfl⟩) trivial
    · exact h.congr rfl trivial
    · exact h

/-- **How long the client waits.**

Whatever the server, the sockets and the application do: before it connects again the
client waits as long as the server has told it to, or as long as the failures since the
last welcome say: its first delay, doubled with each of them, up to the longest. -/
theorem sleeps_back_off (config : RunConfig) (random : String) (inputs : List LifecycleInput)
    (before after : List Action) (setback : Setback) (duration : Duration)
    (hactions : (run (step config) (new config random) inputs).actions =
      before ++ .sleep setback duration :: after) :
    let failures := run streak 0 before
    (∃ wait, setback = .ended (some wait) ∧ duration = wait) ∨
      (failures = 0 ∧ duration = config.reconnect.initialDelay) ∨
      (0 < failures ∧ duration.nanos = min (config.reconnect.initialDelay.nanos * 2 ^ failures)
        config.reconnect.maximumDelay.nanos) := by
  intro failures
  have hpaced : Paced config (run (step config) (new config random) inputs) :=
    run_invariant (P := Paced config) (fun _ input h => paced_step h input)
      (paced_new config random) inputs
  have hdue : Due config.reconnect failures (.sleep setback duration) :=
    along_iff.mp hpaced.due before _ after hactions
  have hdelay : duration = config.reconnect.backoff.delay failures →
      (failures = 0 ∧ duration = config.reconnect.initialDelay) ∨
      (0 < failures ∧ duration.nanos = min (config.reconnect.initialDelay.nanos * 2 ^ failures)
        config.reconnect.maximumDelay.nanos) := by
    intro heq
    cases hcount : failures with
    | zero =>
      rw [hcount] at heq
      exact .inl ⟨rfl, heq⟩
    | succ n =>
      rw [hcount] at heq
      refine .inr ⟨Nat.succ_pos n, ?_⟩
      rw [heq]
      exact Backoff.nanos_delay config.reconnect.backoff n
  cases setback with
  | unreached | uninitialized => exact .inr (hdelay hdue)
  | ended wait =>
    cases wait with
    | none => exact .inr (hdelay hdue)
    | some wait => exact .inl ⟨wait, rfl, hdue⟩

/-- A server that cannot be reached twice. -/
def unreachable : List LifecycleInput :=
  [.start (.ok (some ⟨⟨"server"⟩, ⟨"device"⟩, ⟨"token"⟩, ⟨true, false, false, false, false, false⟩⟩)),
    .connected (.error "refused"), .wake, .start (.ok none), .connected (.error "refused")]

theorem sleeps_back_off_unreachable :
    let config : RunConfig := ⟨⟨⟨"server"⟩, ⟨"", "", .desktop, []⟩, .default⟩, .storedCredential,
      .default⟩
    ∃ before duration, (run (step config) (new config "r") unreachable).actions =
      before ++ [.sleep .unreached duration] ∧ run streak 0 before = 1 ∧
        duration.nanos = 500 * 1000000 := by
  intro config
  let before : List Action := [.status .connecting, .status (.disconnected (some "refused")),
    .sleep .unreached (.ofMillis 250), .status .connecting,
    .status (.disconnected (some "refused"))]
  have hactions : (run (step config) (new config "r") unreachable).actions =
      before ++ .sleep .unreached (nextDelay (.ofMillis 250) (.ofMillis 10000)) :: [] := rfl
  refine ⟨before, _, hactions, rfl, ?_⟩
  rcases sleeps_back_off config "r" unreachable before [] .unreached _ hactions with
    ⟨_, heq, -⟩ | ⟨hzero, -⟩ | ⟨-, heq⟩
  · cases heq
  · cases hzero
  · exact heq.trans (by decide +kernel)

end Lifecycle

end OmpRemote.Client

import OmpRemote.Lib.Machine
import OmpRemote.Ompd.Limits
import OmpRemote.Ompd.Session

/-!
# The heartbeat

A control connection with its clock. The writer checks at every tick of the heartbeat when
the loop last read a message, and closes the connection when that is more than two
intervals ago. While a request runs, or a payload waits for room in a lane, the loop reads
nothing.

- `TimedSession.step`: the connection of `Session`, with the times of what happens.
- `step_session`: without the clock it is a `Session`.
- `closes_only_silent_iff`: when the writer closes no connection but a silent one.

Times are in nanoseconds.
-/

namespace OmpRemote.Ompd

open Lib

/-- `tokio::time::Interval` with `MissedTickBehavior::Delay`. -/
structure Interval where
  period : Nat
  deadline : Nat
  deriving DecidableEq, Repr

namespace Interval

/-- The first tick completes at once. -/
def new (period now : Nat) : Interval := ⟨period, now + period⟩

/-- A tick that is more than 5 ms late delays those after it. -/
def pollTick (interval : Interval) (now : Nat) : Option Interval :=
  if now < interval.deadline then none
  else if interval.deadline + 5000000 < now then
    some { interval with deadline := now + interval.period }
  else some { interval with deadline := interval.deadline + interval.period }

end Interval

/-- The durations of `ServerSessionConfig`. -/
structure SessionTiming where
  heartbeatInterval : Nat
  slowClientTimeout : Nat
  deriving DecidableEq, Repr

structure TimedSession where
  session : Session
  now : Nat
  /-- What has arrived at the socket and has not been read, with the time it came. -/
  unread : List (Nat × Message)
  /-- When the loop last read a message. -/
  activity : Nat
  /-- Once the writer has started. -/
  heartbeat : Option Interval
  /-- The writer's last write takes until then. -/
  busyUntil : Nat
  /-- The times of all messages that have arrived; not in the source. -/
  arrivals : List Nat

inductive TimedInput where
  | passes (duration : Nat)
  | arrives (message : Message)
  /-- The loop reads the next message. -/
  | reads
  /-- The request of the loop has been executed. -/
  | answers (outcome : ResponseOutcome)
  /-- What else the tasks do, but for the writer. -/
  | runs (input : SessionInput)
  | writerStarts
  | writes (ok : Bool) (took : Nat)
  | beats (ping : List UInt8) (ok : Bool) (took : Nat)

namespace TimedSession

/-- `run_connection` after the welcome. -/
def start (session : Session) (now : Nat) : TimedSession := ⟨session, now, [], now, none, now, []⟩

/-- `execute_request` returns. -/
def answers (session : Session) (outcome : ResponseOutcome) : Session :=
  match session.loop with
  | .executing requestId =>
    { session with
      loop := .sending .response (.protocol (.response ⟨requestId, outcome⟩)) true false }
  | _ => session

/-- A message is read as soon as the loop awaits one. -/
def reads (config : ServerSessionConfig) (timed : TimedSession) : TimedSession :=
  match timed.session.loop, timed.session.device, timed.unread with
  | .receiving, some device, (_, message) :: unread =>
    { timed with
      session := timed.session.receive config device message
      unread
      activity := timed.now }
  | _, _, _ => timed

/-- The writer is at its `select!`. -/
def selects (timed : TimedSession) : Bool :=
  timed.session.writer && timed.heartbeat.isSome && decide (timed.busyUntil ≤ timed.now)

/-- The tick that the writer finds, with nothing to write. -/
def tick (timed : TimedSession) : Option Interval :=
  if timed.selects && timed.session.outbound.next.isNone then
    timed.heartbeat.bind fun heartbeat => heartbeat.pollTick timed.now
  else none

/-- The loop has read nothing for more than two intervals. -/
def inactive (timing : SessionTiming) (timed : TimedSession) : Bool :=
  decide (timing.heartbeatInterval * 2 < timed.now - timed.activity)

def busyFor (timing : SessionTiming) (timed : TimedSession) (took : Nat) : Nat :=
  timed.now + min took timing.slowClientTimeout

/-- What the writer does has inputs of its own, and the end of the socket comes after all
messages. -/
def refuses (timed : TimedSession) : SessionInput → Bool
  | .write _ | .heartbeat _ _ _ => true
  | .readerEnds => !timed.unread.isEmpty
  | _ => false

/-- The output is whether the writer closes the connection because it is inactive. -/
def step (config : ServerSessionConfig) (timing : SessionTiming) (timed : TimedSession) :
    TimedInput → Bool × TimedSession
  | .passes duration => (false, { timed with now := timed.now + duration })
  | .arrives message =>
    (false, { timed with
      unread := timed.unread ++ [(timed.now, message)]
      arrivals := timed.arrivals ++ [timed.now] })
  | .reads => (false, timed.reads config)
  | .answers outcome => (false, { timed with session := answers timed.session outcome })
  | .runs input =>
    if timed.refuses input then (false, timed)
    else (false, { timed with session := timed.session.step config input })
  | .writerStarts =>
    if timed.heartbeat.isSome then (false, timed)
    else (false, { timed with heartbeat := some (.new timing.heartbeatInterval timed.now) })
  | .writes ok took =>
    if timed.selects && timed.session.outbound.next.isSome then
      (false, { timed with
        session := timed.session.step config (.write ok)
        busyUntil := timed.busyFor timing took })
    else (false, timed)
  | .beats ping ok took =>
    match timed.tick with
    | none => (false, timed)
    | some heartbeat =>
      (timed.inactive timing, { timed with
        session := timed.session.step config (.heartbeat ping (!timed.inactive timing) ok)
        heartbeat := some heartbeat
        busyUntil := timed.busyFor timing took })

/-! ## Without the clock -/

/-- What a step does to the session is one of its own steps. -/
theorem step_session {config : ServerSessionConfig} {timing : SessionTiming}
    {timed timed' : TimedSession} {input : TimedInput}
    (h : (timed.step config timing input).2 = timed') :
    timed'.session = timed.session ∨ (∃ i, timed'.session = timed.session.step config i) ∨
      (∃ device message, timed.session.loop = .receiving ∧
        timed'.session = timed.session.receive config device message) ∨
      ∃ outcome, timed'.session = answers timed.session outcome := by
  subst h
  cases input with
  | passes duration | arrives message => exact .inl rfl
  | reads =>
    show (timed.reads config).session = _ ∨ _ ∨ (∃ _ _, _ ∧ (timed.reads config).session = _) ∨ _
    unfold reads
    split
    · rename_i device _ message _ hloop _ _
      exact .inr (.inr (.inl ⟨device, message, hloop, rfl⟩))
    · exact .inl rfl
  | answers outcome => exact .inr (.inr (.inr ⟨outcome, rfl⟩))
  | runs i =>
    rw [step]
    split
    · exact .inl rfl
    · exact .inr (.inl ⟨i, rfl⟩)
  | writerStarts =>
    rw [step]
    split <;> exact .inl rfl
  | writes ok took =>
    rw [step]
    split
    · exact .inr (.inl ⟨.write ok, rfl⟩)
    · exact .inl rfl
  | beats ping ok took =>
    rw [step]
    split
    · exact .inl rfl
    · exact .inr (.inl ⟨.heartbeat ping (!timed.inactive timing) ok, rfl⟩)

/-! ## What has arrived -/

/-- Every message that has arrived was read or waits, and none is older than the last one
read says. -/
structure Sound (timed : TimedSession) : Prop where
  activity_le : timed.activity ≤ timed.now
  unread : ∀ entry ∈ timed.unread, entry.1 ≤ timed.now ∧ entry.1 ∈ timed.arrivals
  arrivals : ∀ time ∈ timed.arrivals, time ≤ timed.activity ∨ ∃ entry ∈ timed.unread, entry.1 = time

theorem sound_start (session : Session) (now : Nat) : (start session now).Sound where
  activity_le := Nat.le_refl now
  unread := List.forall_mem_nil _
  arrivals := List.forall_mem_nil _

theorem sound_reads {config : ServerSessionConfig} {timed : TimedSession} (h : timed.Sound) :
    (timed.reads config).Sound := by
  unfold reads
  split
  · rename_i device time message unread _ _ hunread
    have hold := h.unread
    rw [hunread, List.forall_mem_cons] at hold
    refine ⟨Nat.le_refl _, hold.2, fun arrival harrival => ?_⟩
    rcases h.arrivals arrival harrival with hread | ⟨entry, hentry, rfl⟩
    · exact .inl (Nat.le_trans hread h.activity_le)
    · rw [hunread] at hentry
      rcases List.mem_cons.mp hentry with rfl | hwaits
      · exact .inl hold.1.1
      · exact .inr ⟨entry, hwaits, rfl⟩
  · exact h

/-- Only reading and the passing of time matter. -/
theorem sound_of_same {timed timed' : TimedSession} (h : timed.Sound)
    (hnow : timed.now ≤ timed'.now) (hunread : timed'.unread = timed.unread)
    (hactivity : timed'.activity = timed.activity) (harrivals : timed'.arrivals = timed.arrivals) :
    timed'.Sound where
  activity_le := by
    rw [hactivity]
    exact Nat.le_trans h.activity_le hnow
  unread := by
    rw [hunread, harrivals]
    intro entry hentry
    obtain ⟨hle, hmem⟩ := h.unread entry hentry
    exact ⟨Nat.le_trans hle hnow, hmem⟩
  arrivals := by
    rw [hunread, harrivals, hactivity]
    exact h.arrivals

theorem sound_arrives {timed : TimedSession} (h : timed.Sound) (message : Message) :
    ({ timed with
      unread := timed.unread ++ [(timed.now, message)]
      arrivals := timed.arrivals ++ [timed.now] } : TimedSession).Sound where
  activity_le := h.activity_le
  unread := by
    rw [List.forall_mem_append, List.forall_mem_singleton]
    refine ⟨fun entry hentry => ?_, Nat.le_refl _, List.mem_append_right _ List.mem_cons_self⟩
    obtain ⟨hle, hmem⟩ := h.unread entry hentry
    exact ⟨hle, List.mem_append_left _ hmem⟩
  arrivals := by
    rw [List.forall_mem_append, List.forall_mem_singleton]
    refine ⟨fun time htime => ?_, .inr ⟨_, List.mem_append_right _ List.mem_cons_self, rfl⟩⟩
    rcases h.arrivals time htime with hread | ⟨entry, hentry, rfl⟩
    · exact .inl hread
    · exact .inr ⟨entry, List.mem_append_left _ hentry, rfl⟩

theorem sound_step {config : ServerSessionConfig} {timing : SessionTiming} {timed : TimedSession}
    (input : TimedInput) (h : timed.Sound) : (timed.step config timing input).2.Sound := by
  cases input with
  | passes duration => exact sound_of_same h (Nat.le_add_right _ _) rfl rfl rfl
  | arrives message => exact sound_arrives h message
  | reads => exact sound_reads h
  | answers outcome => exact sound_of_same h (Nat.le_refl _) rfl rfl rfl
  | runs i | writerStarts | writes ok took | beats ping ok took =>
    unfold step
    dsimp only
    split <;> exact sound_of_same h (Nat.le_refl _) rfl rfl rfl

/-! ## The law -/

/-- No message has arrived within the last two intervals. -/
def Silent (timing : SessionTiming) (timed : TimedSession) : Prop :=
  ∀ time ∈ timed.arrivals, timing.heartbeatInterval * 2 < timed.now - time

instance (timing : SessionTiming) (timed : TimedSession) : Decidable (timed.Silent timing) :=
  List.decidableBAll _ timed.arrivals

/-- If a message of the last two intervals waits to be read, the loop has read another one
within them. -/
def KeepsUp (timing : SessionTiming) (timed : TimedSession) : Prop :=
  ∀ entry ∈ timed.unread, timed.now - entry.1 ≤ timing.heartbeatInterval * 2 →
    timed.now - timed.activity ≤ timing.heartbeatInterval * 2

abbrev Event := Mealy.Event TimedSession TimedInput Bool

def history (config : ServerSessionConfig) (timing : SessionTiming) (session : Session) (now : Nat)
    (inputs : List TimedInput) : List Event :=
  Mealy.trace (step config timing) (start session now) inputs

/-- The writer finds a tick and checks the activity. -/
def Checks (e : Event) : Prop :=
  e.before.tick.isSome ∧ ∃ ping ok took, e.input = .beats ping ok took

/-- The writer closes for inactivity when it checks and finds none. -/
theorem closes_iff {config : ServerSessionConfig} {timing : SessionTiming} {e : Event}
    (he : e = Mealy.event (step config timing) e.before e.input) :
    e.output = true ↔ Checks e ∧ e.before.inactive timing = true := by
  obtain ⟨timed, input, closes, timed'⟩ := e
  obtain ⟨rfl, -⟩ : closes = (timed.step config timing input).1 ∧ _ := by
    simpa [Mealy.event] using he
  dsimp only [Checks]
  cases input with
  | beats ping ok took =>
    rw [step]
    cases timed.tick with
    | none => exact ⟨nofun, fun h => nomatch h.1.1⟩
    | some heartbeat => exact ⟨fun h => ⟨⟨rfl, ping, ok, took, rfl⟩, h⟩, fun h => h.2⟩
  | runs i | writerStarts | writes ok took =>
    rw [step]
    split <;> exact ⟨nofun, fun h => by obtain ⟨⟨-, _, _, _, hbeats⟩, -⟩ := h; cases hbeats⟩
  | passes duration | arrives message | reads | answers outcome =>
    exact ⟨nofun, fun h => by obtain ⟨⟨-, _, _, _, hbeats⟩, -⟩ := h; cases hbeats⟩

/-- **The heartbeat closes only silent clients as long as the loop keeps up.** Over every
run of a connection: the writer never closes it for inactivity with a message that arrived
within the last two intervals, if and only if at none of its checks such a message waits
for a loop that has read nothing within them. -/
theorem closes_only_silent_iff (config : ServerSessionConfig) (timing : SessionTiming)
    (session : Session) (now : Nat) (inputs : List TimedInput) :
    (∀ e ∈ history config timing session now inputs, e.output = true → e.before.Silent timing) ↔
      ∀ e ∈ history config timing session now inputs, Checks e → e.before.KeepsUp timing := by
  refine forall₂_congr fun e he => ?_
  have hsound : e.before.Sound := by
    obtain ⟨pre, post, hsplit⟩ := List.append_of_mem he
    exact (Mealy.history_at (P := fun _ timed => timed.Sound) (sound_start session now)
      (fun _ _ input h => sound_step input h) hsplit).1
  rw [closes_iff (Mealy.mem_trace he)]
  simp only [inactive, decide_eq_true_eq]
  constructor
  · -- a message that waits has arrived
    intro hsilent hchecks entry hentry hrecent
    by_contra hstale
    have hold := hsilent ⟨hchecks, Nat.lt_of_not_le hstale⟩ entry.1 (hsound.unread entry hentry).2
    omega
  · rintro hkeeps ⟨hchecks, hstale⟩ time htime
    by_contra hrecent
    rcases hsound.arrivals time htime with hread | ⟨entry, hentry, rfl⟩
    · omega
    · have hup := hkeeps hchecks entry hentry (Nat.le_of_not_lt hrecent)
      omega

/-! ## A long request -/

/-- The request of the loop has been running for no longer than `requestTimeout`. -/
def InTime (requestTimeout : Nat) (timed : TimedSession) : Bool :=
  match timed.session.loop with
  | .executing _ => decide (timed.now - timed.activity ≤ requestTimeout)
  | _ => true

/-- As long as requests take no longer than the runtime lets them, only silent clients are
closed. -/
def ClosesOnlySilent (config : ServerSessionConfig) (timing : SessionTiming)
    (requestTimeout : Nat) : Prop :=
  ∀ session now inputs,
    (∀ e ∈ history config timing session now inputs, e.after.InTime requestTimeout = true) →
      ∀ e ∈ history config timing session now inputs, e.output = true → e.before.Silent timing

def second : Nat := 1000000000

def defaultTiming : SessionTiming := ⟨15 * second, 10 * second⟩

def connected : Session :=
  { Session.new 64 with
    device := some ⟨⟨"phone"⟩, "phone", .mobile,
      ⟨true, true, true, true, true, true⟩, 0, some 0, none⟩
    loop := .receiving
    writer := true }

/-- An abort that OMP has not acknowledged after 44 seconds; the client answers each ping
at once. -/
def longRequest : List TimedInput :=
  [.writerStarts, .passes second,
    .arrives (.binary ⟨10, .ok (.request ⟨⟨"1"⟩, some ⟨"abort"⟩, .abort ⟨"agent"⟩⟩, 10)⟩), .reads,
    .passes (14 * second), .beats [] true 0, .arrives (.pong []),
    .passes (15 * second), .beats [] true 0, .arrives (.pong []),
    .passes (15 * second), .beats [] true 0]

theorem long_request_closes : ¬ ClosesOnlySilent defaultConfig defaultTiming (60 * second) := by
  intro h
  have hcloses : ¬ ∀ e ∈ history defaultConfig defaultTiming connected 0 longRequest,
      e.output = true → e.before.Silent defaultTiming := by decide +kernel
  exact hcloses (h connected 0 longRequest (by decide +kernel))

end TimedSession

end OmpRemote.Ompd

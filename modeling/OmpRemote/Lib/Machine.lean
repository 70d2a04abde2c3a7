import Mathlib.Data.List.Basic

/-!
# Machines and their runs

A machine is a total step function `σ → ι → σ`: an input that is not enabled in
a state leaves the state as it is, so every list of inputs is a run and "every
interleaving" is a quantifier over lists.

- `run`: the state after a list of inputs.
- `run_invariant`: an invariant of one step is an invariant of every run.
- `Along`: every step of a run meets a condition on the state before it and its
  input; `run_invariant_along` is the invariant rule for such runs.
- `run_relates`: what one step relates (monotonicity, "everything else is
  unchanged"), a whole run relates.
- `Mealy`: machines whose steps return a result, and the traces of their runs;
  `Mealy.along_trace` is the rule for `Along`, `Mealy.history_invariant` relates a state to
  the steps that led to it, and `Mealy.countP_le_one` is the rule for what can happen at
  most once.
-/

namespace Lib

universe u v w

variable {σ : Type u} {ι : Type v}

/-- The state a machine reaches from `s` on the inputs `is`, oldest first. -/
def run (step : σ → ι → σ) (s : σ) (is : List ι) : σ := is.foldl step s

@[simp] theorem run_nil (step : σ → ι → σ) (s : σ) : run step s [] = s := rfl

@[simp] theorem run_cons (step : σ → ι → σ) (s : σ) (i : ι) (is : List ι) :
    run step s (i :: is) = run step (step s i) is := rfl

theorem run_append (step : σ → ι → σ) (s : σ) (is js : List ι) :
    run step s (is ++ js) = run step (run step s is) js :=
  List.foldl_append

/-- **The invariant rule**: what every step preserves holds after every run. -/
theorem run_invariant {step : σ → ι → σ} {P : σ → Prop}
    (hstep : ∀ s i, P s → P (step s i)) {s : σ} (hs : P s) (is : List ι) :
    P (run step s is) := by
  induction is generalizing s with
  | nil => exact hs
  | cons i is ih => exact ih (hstep s i hs)

/-- What each step relates, a run relates. -/
theorem run_relates {step : σ → ι → σ} {R : σ → σ → Prop}
    (hrefl : ∀ s, R s s) (htrans : ∀ {a b c}, R a b → R b c → R a c)
    (hstep : ∀ s i, R s (step s i)) (s : σ) (is : List ι) : R s (run step s is) := by
  induction is generalizing s with
  | nil => exact hrefl s
  | cons i is ih => exact htrans (hstep s i) (ih (step s i))

/-- Every step of the run on `is` from `s` meets `C`, a condition on the state
before the step and on its input. -/
def Along (step : σ → ι → σ) (C : σ → ι → Prop) : σ → List ι → Prop
  | _, [] => True
  | s, i :: is => C s i ∧ Along step C (step s i) is

instance Along.decidable (step : σ → ι → σ) (C : σ → ι → Prop)
    [∀ s i, Decidable (C s i)] : ∀ (s : σ) (is : List ι), Decidable (Along step C s is)
  | _, [] => inferInstanceAs (Decidable True)
  | s, i :: is =>
    have := Along.decidable step C (step s i) is
    inferInstanceAs (Decidable (C s i ∧ Along step C (step s i) is))

/-- A condition holds along a run and its continuation iff along both. -/
theorem along_append {step : σ → ι → σ} {C : σ → ι → Prop} {s : σ} {is js : List ι} :
    Along step C s (is ++ js) ↔ Along step C s is ∧ Along step C (run step s is) js := by
  induction is generalizing s with
  | nil => simp [Along]
  | cons i is ih => simp [Along, ih, and_assoc]

/-- A condition holds along a run iff it holds at each of its steps. -/
theorem along_iff {step : σ → ι → σ} {C : σ → ι → Prop} {s : σ} {is : List ι} :
    Along step C s is ↔ ∀ pre i post, is = pre ++ i :: post → C (run step s pre) i := by
  constructor
  · rintro h pre i post rfl
    exact (along_append.mp h).2.1
  · intro h
    induction is generalizing s with
    | nil => trivial
    | cons i is ih =>
      refine ⟨h [] i is rfl, ih fun pre j post hsplit => ?_⟩
      exact h (i :: pre) j post (congrArg (i :: ·) hsplit)

/-- A condition on the inputs alone holds along every run on such inputs. -/
theorem Along.of_forall {step : σ → ι → σ} {C : ι → Prop} {is : List ι} (h : ∀ i ∈ is, C i)
    (s : σ) : Along step (fun _ i => C i) s is := by
  induction is generalizing s with
  | nil => trivial
  | cons i is ih =>
    obtain ⟨hi, his⟩ := List.forall_mem_cons.mp h
    exact ⟨hi, ih his (step s i)⟩

/-- Two conditions hold along a run if each does. -/
theorem Along.and {step : σ → ι → σ} {C D : σ → ι → Prop} {s : σ} {is : List ι}
    (hC : Along step C s is) (hD : Along step D s is) :
    Along step (fun s i => C s i ∧ D s i) s is := by
  induction is generalizing s with
  | nil => trivial
  | cons i is ih => exact ⟨⟨hC.1, hD.1⟩, ih hC.2 hD.2⟩

/-- **The invariant rule under a condition**: steps that meet `C` preserve `P`,
so runs all of whose steps meet `C` do. -/
theorem run_invariant_along {step : σ → ι → σ} {C : σ → ι → Prop} {P : σ → Prop}
    (hstep : ∀ s i, P s → C s i → P (step s i)) {s : σ} (hs : P s) {is : List ι}
    (hC : Along step C s is) : P (run step s is) := by
  induction is generalizing s with
  | nil => exact hs
  | cons i is ih => exact ih (hstep s i hs hC.1) hC.2

/-! ## Machines with results -/

namespace Mealy

variable {ο : Type w}

/-- One step of a run of a machine that also returns a result. -/
structure Event (σ : Type u) (ι : Type v) (ο : Type w) where
  before : σ
  input : ι
  output : ο
  after : σ

variable (step : σ → ι → ο × σ)

def event (s : σ) (i : ι) : Event σ ι ο := ⟨s, i, (step s i).1, (step s i).2⟩

/-- The state after a run. -/
def run (s : σ) (is : List ι) : σ := Lib.run (fun s i => (step s i).2) s is

/-- The steps of a run, oldest first. -/
def trace : σ → List ι → List (Event σ ι ο)
  | _, [] => []
  | s, i :: is => event step s i :: trace (step s i).2 is

variable {step}

theorem trace_append (s : σ) (is js : List ι) :
    trace step s (is ++ js) = trace step s is ++ trace step (run step s is) js := by
  induction is generalizing s with
  | nil => rfl
  | cons i is ih =>
    rw [List.cons_append, trace, ih]
    rfl

/-- A trace splits where its inputs do. -/
theorem trace_split {s : σ} {is : List ι} {pre post : List (Event σ ι ο)} {e : Event σ ι ο}
    (h : trace step s is = pre ++ e :: post) :
    ∃ before after, is = before ++ e.input :: after ∧ pre = trace step s before ∧
      e = event step (run step s before) e.input := by
  induction pre generalizing s is with
  | nil =>
    cases is with
    | nil => cases h
    | cons i is =>
      obtain ⟨rfl, -⟩ := List.cons.inj h
      exact ⟨[], is, rfl, rfl, rfl⟩
  | cons e' pre ih =>
    cases is with
    | nil => cases h
    | cons i is =>
      obtain ⟨rfl, hrest⟩ := List.cons.inj h
      obtain ⟨before, after, rfl, rfl, he⟩ := ih hrest
      exact ⟨i :: before, after, rfl, rfl, he⟩

/-- What follows a step of a trace is a trace from the state after it, and leads to
the same state. -/
theorem trace_rest {s : σ} {is : List ι} {pre post : List (Event σ ι ο)} {e : Event σ ι ο}
    (h : trace step s is = pre ++ e :: post) :
    ∃ after, post = trace step e.after after ∧ run step s is = run step e.after after := by
  obtain ⟨before, after, rfl, rfl, he⟩ := trace_split h
  rw [trace_append] at h
  have hrest := List.append_cancel_left h
  rw [trace, List.cons.injEq] at hrest
  have hafter : e.after = (step (run step s before) e.input).2 := congrArg Event.after he
  refine ⟨after, ?_, ?_⟩
  · rw [hafter]
    exact hrest.2.symm
  · rw [hafter, run, Lib.run_append]
    rfl

theorem trace_after {s : σ} {is : List ι} {pre post : List (Event σ ι ο)} {e : Event σ ι ο}
    (h : trace step s is = pre ++ e :: post) : ∃ after, post = trace step e.after after := by
  obtain ⟨after, hpost, -⟩ := trace_rest h
  exact ⟨after, hpost⟩

/-- **The invariant rule with history**: what relates the steps so far to the
state, after every run. -/
theorem history_invariant {P : List (Event σ ι ο) → σ → Prop} {s : σ} (hs : P [] s)
    (hstep : ∀ history t i, P history t → P (history ++ [event step t i]) (step t i).2)
    (is : List ι) : P (trace step s is) (run step s is) := by
  have hrun : ∀ (history : List (Event σ ι ο)) (t : σ), P history t →
      P (history ++ trace step t is) (run step t is) := by
    induction is with
    | nil =>
      intro history t h
      rwa [trace, List.append_nil]
    | cons i is ih =>
      intro history t h
      have := ih (history ++ [event step t i]) (step t i).2 (hstep history t i h)
      rwa [List.append_assoc] at this
  simpa using hrun [] s hs

/-- What the history rule gives at one step of a run. -/
theorem history_at {P : List (Event σ ι ο) → σ → Prop} {s : σ} (hs : P [] s)
    (hstep : ∀ history t i, P history t → P (history ++ [event step t i]) (step t i).2)
    {is : List ι} {pre post : List (Event σ ι ο)} {e : Event σ ι ο}
    (h : trace step s is = pre ++ e :: post) :
    P pre e.before ∧ e = event step e.before e.input := by
  obtain ⟨before, after, -, rfl, he⟩ := trace_split h
  have hbefore : e.before = run step s before := by rw [he]; rfl
  rw [hbefore]
  exact ⟨history_invariant hs hstep before, he⟩

/-- A step of a run is a step of the machine. -/
theorem mem_trace {s : σ} {is : List ι} {e : Event σ ι ο} (h : e ∈ trace step s is) :
    e = event step e.before e.input := by
  obtain ⟨pre, post, hsplit⟩ := List.append_of_mem h
  have hP := history_at (P := fun _ _ => True) trivial (fun _ _ _ _ => trivial) hsplit
  exact hP.2

/-- **The invariant rule with history, under a condition.** -/
theorem history_invariant_along {C : σ → ι → Prop} {P : List (Event σ ι ο) → σ → Prop} {s : σ}
    (hs : P [] s) (hstep : ∀ history t i, P history t → C t i →
      P (history ++ [event step t i]) (step t i).2) {is : List ι}
    (hC : Along (fun s i => (step s i).2) C s is) : P (trace step s is) (run step s is) := by
  have hrun : ∀ (history : List (Event σ ι ο)) (t : σ), P history t →
      Along (fun s i => (step s i).2) C t is → P (history ++ trace step t is) (run step t is) := by
    clear hC
    induction is with
    | nil =>
      intro history t h _
      rwa [trace, List.append_nil]
    | cons i is ih =>
      intro history t h hC
      have := ih (history ++ [event step t i]) (step t i).2 (hstep history t i h hC.1) hC.2
      rwa [List.append_assoc] at this
  simpa using hrun [] s hs hC

/-- **The invariant rule under a condition**, at the steps of a run: each of them
starts in a state where `P` holds, and meets `C`. -/
theorem along_trace {C : σ → ι → Prop} {P : σ → Prop}
    (hstep : ∀ s i, P s → C s i → P (step s i).2) {s : σ} (hs : P s) {is : List ι}
    (hC : Along (fun s i => (step s i).2) C s is) {e : Event σ ι ο} (he : e ∈ trace step s is) :
    P e.before ∧ C e.before e.input := by
  induction is generalizing s with
  | nil => cases he
  | cons i is ih =>
    rcases List.mem_cons.mp he with rfl | hrest
    · exact ⟨hs, hC.1⟩
    · exact ih (hstep s i hs hC.1) hC.2 hrest

/-! ### At most once -/

section Once

variable {I spent : σ → Prop} {hit : Event σ ι ο → Bool}
  (hI : ∀ s i, I s → I (step s i).2)
  (hspent : ∀ s i, I s → spent s → spent (step s i).2)
  (hhit : ∀ s i, I s → hit (event step s i) = true → ¬ spent s ∧ spent (step s i).2)

include hI hspent hhit

/-- Once spent, there are no more hits. -/
theorem countP_eq_zero {s : σ} (hs : I s) (h : spent s) (is : List ι) :
    (trace step s is).countP hit = 0 := by
  induction is generalizing s with
  | nil => rfl
  | cons i is ih =>
    have hno : ¬ hit (event step s i) = true := fun hit => (hhit s i hs hit).1 h
    rw [trace, List.countP_cons_of_neg hno]
    exact ih (hI s i hs) (hspent s i hs h)

/-- **At most once**: where the invariant `I` holds, a hit spends something that
stays spent, and needs it unspent. -/
theorem countP_le_one {s : σ} (hs : I s) (is : List ι) :
    (trace step s is).countP hit ≤ 1 := by
  induction is generalizing s with
  | nil => exact Nat.zero_le 1
  | cons i is ih =>
    by_cases h : hit (event step s i) = true
    · have hrest := countP_eq_zero hI hspent hhit (hI s i hs) (hhit s i hs h).2 is
      rw [trace, List.countP_cons_of_pos h]
      omega
    · rw [trace, List.countP_cons_of_neg h]
      exact ih (hI s i hs)

end Once

end Mealy

/-- What happens at most once in a list happens in one element. -/
theorem eq_of_countP_le_one {α : Type u} {p : α → Bool} {l : List α} (h : l.countP p ≤ 1)
    {a b : α} (ha : a ∈ l) (hb : b ∈ l) (hpa : p a = true) (hpb : p b = true) : a = b := by
  rw [List.countP_eq_length_filter] at h
  have ha := List.mem_filter.mpr ⟨ha, hpa⟩
  have hb := List.mem_filter.mpr ⟨hb, hpb⟩
  match hl : l.filter p with
  | [] =>
    rw [hl] at ha
    cases ha
  | [c] =>
    rw [hl, List.mem_singleton] at ha hb
    rw [ha, hb]
  | c :: d :: rest =>
    rw [hl] at h
    exact absurd h (by simp)

end Lib

import Mathlib.Data.List.Basic
import Mathlib.Data.List.Infix

/-!
# Replicating a sequenced log

An authority owns a state and changes it by updates that are numbered
consecutively. `Sequenced` is what a replication argument needs of it: a
transition relation that is a function of the state and the update, and numbers
that advance by one. Nothing is said about how a replica checks an update.

- `Exec`: a state, the updates applied to it in order, the state they lead to.
- `Passed s₀ log s`: the authority that started in `s₀` and recorded `log`
  passed through `s`.
- `Passed.unique`: a position determines the state (there is one history).
- `Passed.next`: a state the authority passed through and a recorded update
  with the next number lead to a state it passed through; this is the step of
  every replica that accepts updates by number.
- `Passed.suffix`: replaying the rest of the log leads to the current state.
- `filter_number_eq_drop`, `keepLast_append`: the retained end of a log.
-/

namespace Lib

universe u v

/-- A state machine whose updates are numbered consecutively: `advances s u s'`
says that `u` is the next update in `s` and leads to `s'`. -/
structure Sequenced (σ : Type u) (υ : Type v) where
  advances : σ → υ → σ → Prop
  /-- The number of the last update applied. -/
  pos : σ → Nat
  /-- The number of an update. -/
  number : υ → Nat
  det : ∀ {s u t t'}, advances s u t → advances s u t' → t = t'
  number_eq : ∀ {s u t}, advances s u t → number u = pos s + 1
  pos_eq : ∀ {s u t}, advances s u t → pos t = pos s + 1

namespace Sequenced

variable {σ : Type u} {υ : Type v} (Q : Sequenced σ υ)

/-- `Exec s us t`: the updates `us`, oldest first, lead from `s` to `t`. -/
inductive Exec : σ → List υ → σ → Prop where
  | nil (s : σ) : Exec s [] s
  | cons {s t r : σ} {u : υ} {us : List υ} :
      Q.advances s u t → Exec t us r → Exec s (u :: us) r

/-- The authority started in `s₀`, recorded `log`, and passed through `s`. -/
def Passed (s₀ : σ) (log : List υ) (s : σ) : Prop :=
  ∃ pre post, log = pre ++ post ∧ Q.Exec s₀ pre s

variable {Q} {s₀ s t r m : σ} {u : υ} {us vs log : List υ}

namespace Exec

theorem append (h₁ : Q.Exec s us t) (h₂ : Q.Exec t vs r) : Q.Exec s (us ++ vs) r := by
  induction h₁ with
  | nil _ => exact h₂
  | cons hadv _ ih => exact .cons hadv (ih h₂)

theorem single (h : Q.advances s u t) : Q.Exec s [u] t := .cons h (.nil t)

theorem snoc (h₁ : Q.Exec s us t) (h₂ : Q.advances t u r) : Q.Exec s (us ++ [u]) r :=
  h₁.append (single h₂)

/-- An execution splits wherever its list of updates does. -/
theorem split (h : Q.Exec s (us ++ vs) r) : ∃ t, Q.Exec s us t ∧ Q.Exec t vs r := by
  induction us generalizing s with
  | nil => exact ⟨s, .nil s, h⟩
  | cons u us ih =>
    cases h with
    | cons hadv hrest =>
      obtain ⟨t, h₁, h₂⟩ := ih hrest
      exact ⟨t, .cons hadv h₁, h₂⟩

theorem det (h₁ : Q.Exec s us t) (h₂ : Q.Exec s us r) : t = r := by
  induction h₁ with
  | nil _ =>
    cases h₂
    rfl
  | cons hadv _ ih =>
    cases h₂ with
    | cons hadv' hrest =>
      obtain rfl := Q.det hadv hadv'
      exact ih hrest

theorem pos_eq (h : Q.Exec s us t) : Q.pos t = Q.pos s + us.length := by
  induction h with
  | nil s => rfl
  | cons hadv _ ih =>
    rw [ih, Q.pos_eq hadv, List.length_cons]
    omega

/-- The `n`-th update of an execution has the `n`-th number after its start. -/
theorem number_getElem (h : Q.Exec s us t) {n : Nat} (hn : n < us.length) :
    Q.number us[n] = Q.pos s + n + 1 := by
  induction h generalizing n with
  | nil s => exact absurd hn (Nat.not_lt_zero n)
  | @cons s m r u us hadv _ ih =>
    cases n with
    | zero => exact Q.number_eq hadv
    | succ n =>
      rw [List.getElem_cons_succ, ih (by simpa using hn), Q.pos_eq hadv]
      omega

theorem number_mem (h : Q.Exec s us t) (hu : u ∈ us) :
    Q.pos s < Q.number u ∧ Q.number u ≤ Q.pos t := by
  obtain ⟨n, hn, rfl⟩ := List.getElem_of_mem hu
  rw [h.number_getElem hn, h.pos_eq]
  omega

end Exec

namespace Passed

theorem start (s₀ : σ) (log : List υ) : Q.Passed s₀ log s₀ := ⟨[], log, rfl, .nil s₀⟩

theorem last (h : Q.Exec s₀ log s) : Q.Passed s₀ log s := ⟨log, [], by simp, h⟩

/-- What the authority passed through, it has passed through later too. -/
theorem mono (h : Q.Passed s₀ log s) (us : List υ) : Q.Passed s₀ (log ++ us) s := by
  obtain ⟨pre, post, rfl, hpre⟩ := h
  exact ⟨pre, post ++ us, by simp, hpre⟩

/-- A state the authority passed through is reached by the updates numbered up
to its position. -/
theorem exec_take (h : Q.Passed s₀ log s) :
    Q.pos s₀ ≤ Q.pos s ∧ Q.pos s - Q.pos s₀ ≤ log.length ∧
      Q.Exec s₀ (log.take (Q.pos s - Q.pos s₀)) s := by
  obtain ⟨pre, post, rfl, hpre⟩ := h
  have hpos := hpre.pos_eq
  have hlen : Q.pos s - Q.pos s₀ = pre.length := by omega
  rw [hlen, List.take_left, List.length_append]
  exact ⟨by omega, by omega, hpre⟩

/-- **One history**: a position determines the state passed through there. -/
theorem unique (hs : Q.Passed s₀ log s) (ht : Q.Passed s₀ log t)
    (hpos : Q.pos s = Q.pos t) : s = t := by
  have h₁ := hs.exec_take.2.2
  have h₂ := ht.exec_take.2.2
  rw [hpos] at h₁
  exact h₁.det h₂

/-- Replaying what was recorded after `s` leads to the current state. -/
theorem suffix (hlog : Q.Exec s₀ log r) (h : Q.Passed s₀ log s) :
    Q.Exec s (log.drop (Q.pos s - Q.pos s₀)) r := by
  obtain ⟨-, -, hpre⟩ := h.exec_take
  rw [← List.take_append_drop (Q.pos s - Q.pos s₀) log] at hlog
  obtain ⟨m, h₁, h₂⟩ := hlog.split
  obtain rfl := hpre.det h₁
  exact h₂

/-- **The replica step**: in a state the authority passed through, the recorded
update with the next number is the one the authority applied there. -/
theorem next (hlog : Q.Exec s₀ log r) (hs : Q.Passed s₀ log s) (hu : u ∈ log)
    (hnum : Q.number u = Q.pos s + 1) : ∃ t, Q.advances s u t ∧ Q.Passed s₀ log t := by
  obtain ⟨pre, post, rfl⟩ := List.append_of_mem hu
  obtain ⟨m, hpre, hrest⟩ := hlog.split
  cases hrest with
  | @cons _ t _ _ _ hadv _ =>
    have hpos : Q.pos s = Q.pos m := by
      have := Q.number_eq hadv
      omega
    obtain rfl := hs.unique ⟨pre, u :: post, rfl, hpre⟩ hpos
    exact ⟨t, hadv, pre ++ [u], post, by simp, hpre.snoc hadv⟩

/-- Every position between the start and the current one was passed through. -/
theorem exists_at (hlog : Q.Exec s₀ log r) {n : Nat} (h₀ : Q.pos s₀ ≤ n)
    (h₁ : n ≤ Q.pos r) : ∃ s, Q.Passed s₀ log s ∧ Q.pos s = n := by
  have hsplit := hlog
  rw [← List.take_append_drop (n - Q.pos s₀) log] at hsplit
  obtain ⟨m, hpre, -⟩ := hsplit.split
  refine ⟨m, ⟨_, _, (List.take_append_drop (n - Q.pos s₀) log).symm, hpre⟩, ?_⟩
  have hlen := hlog.pos_eq
  rw [hpre.pos_eq, List.length_take]
  omega

/-- A state at most as far as `m` was passed through on the way to `m`. -/
theorem shorten (hs : Q.Passed s₀ (us ++ vs) s) (hm : Q.Exec s₀ us m)
    (hle : Q.pos s ≤ Q.pos m) : Q.Passed s₀ us s := by
  obtain ⟨s', hs', hpos⟩ := exists_at hm hs.exec_take.1 hle
  obtain rfl := (hs'.mono vs).unique hs hpos
  exact hs'

end Passed

/-! ## The retained end of a log -/

/-- Keeping only the updates numbered after `s` is dropping those up to it. -/
theorem filter_number_eq_drop (hlog : Q.Exec s₀ log r) {n : Nat} (h₀ : Q.pos s₀ ≤ n) :
    log.filter (fun u => n < Q.number u) = log.drop (n - Q.pos s₀) := by
  induction hlog generalizing n with
  | nil s => simp
  | @cons s m r u us hadv hrest ih =>
    have hnum := Q.number_eq hadv
    have hpos := Q.pos_eq hadv
    rcases Nat.eq_or_lt_of_le h₀ with heq | hlt
    · -- `s` itself: everything is newer
      have hall : (u :: us).filter (fun u => n < Q.number u) = u :: us := by
        refine List.filter_eq_self.mpr fun v hv => ?_
        have := (Exec.number_mem (.cons hadv hrest) hv).1
        exact decide_eq_true (heq ▸ this)
      rw [hall, heq, Nat.sub_self, List.drop_zero]
    · have hdrop : n - Q.pos s = (n - Q.pos m) + 1 := by omega
      have hold : decide (n < Q.number u) = false := decide_eq_false (by omega)
      rw [List.filter_cons, hold, if_neg Bool.false_ne_true, ih (by omega), hdrop,
        List.drop_succ_cons]

end Sequenced

/-- The last `n` elements, one element later. -/
theorem keepLast_append {α : Type u} (n : Nat) (hn : 0 < n) (xs : List α) (x : α) :
    (if (xs.drop (xs.length - n)).length = n then (xs.drop (xs.length - n)).tail
      else xs.drop (xs.length - n)) ++ [x] =
    (xs ++ [x]).drop ((xs ++ [x]).length - n) := by
  rw [List.length_drop, List.length_append, List.length_singleton]
  split
  · rename_i h
    rw [List.tail_drop, List.drop_append_of_le_length (by omega)]
    congr 2
    omega
  · rename_i h
    rw [List.drop_append_of_le_length (by omega)]
    congr 2
    omega

end Lib

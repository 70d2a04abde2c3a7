import Mathlib.Data.List.Basic

/-!
# Peeling fallible computations apart

When a computation in `Except` succeeds, step by step.
-/

namespace Lib

universe u v

variable {ε : Type u} {α β : Type v}

/-- A sequence succeeds iff both parts do. -/
theorem bind_eq_ok {x : Except ε α} {f : α → Except ε β} {b : β} :
    (x >>= f) = .ok b ↔ ∃ a, x = .ok a ∧ f a = .ok b := by
  cases x with
  | error e => simp [bind, Except.bind]
  | ok a => simp [bind, Except.bind]

/-- A check that returns nothing, followed by the rest. -/
theorem then_eq_ok {x : Except ε Unit} {γ : Type} {y : Except ε γ} {c : γ} :
    (x >>= fun _ => y) = .ok c ↔ x = .ok () ∧ y = .ok c := by
  rw [bind_eq_ok]
  exact ⟨fun ⟨_, h⟩ => h, fun h => ⟨(), h⟩⟩

/-- An inline check followed by the rest. -/
theorem check_eq_ok {c : Prop} [Decidable c] {e : ε} {x : Except ε α} {b : α} :
    (if c then .error e else x) = .ok b ↔ ¬ c ∧ x = .ok b := by
  split <;> simp [*]

/-- A list of computations that all succeed. -/
theorem mapM_ok {f : α → Except ε β} {g : α → β} {as : List α}
    (h : ∀ a ∈ as, f a = .ok (g a)) : as.mapM f = .ok (as.map g) := by
  induction as with
  | nil => rfl
  | cons a as ih =>
    rw [List.mapM_cons, h a List.mem_cons_self,
      ih fun b hb => h b (List.mem_cons_of_mem a hb)]
    rfl

/-- One that fails. -/
theorem mapM_error {f : α → Except ε β} {as : List α} {a : α} {e : ε} (ha : a ∈ as)
    (h : f a = .error e) : ∃ e', as.mapM f = .error e' := by
  induction as with
  | nil => cases ha
  | cons b as ih =>
    rw [List.mapM_cons]
    cases hb : f b with
    | error e' => exact ⟨e', rfl⟩
    | ok c =>
      rcases List.mem_cons.mp ha with rfl | ha
      · cases h.symm.trans hb
      · obtain ⟨e', he⟩ := ih ha
        rw [he]
        exact ⟨e', rfl⟩

theorem isOk_iff {x : Except ε α} : x.isOk = true ↔ ∃ a, x = .ok a := by
  cases x with
  | error e => exact ⟨nofun, nofun⟩
  | ok a => exact ⟨fun _ => ⟨a, rfl⟩, fun _ => rfl⟩

end Lib

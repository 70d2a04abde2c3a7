import Mathlib.Data.List.Basic

/-!
# When two states converge under the same writes

Apply the same list of writes to two states and compare one component of the
results. The component may be

- a register, which a write overwrites or leaves alone (`foldl_register`);
- a register that a write may also clear, depending on what is in it
  (`foldl_clearable`);
- a list that a write thins out and extends (`foldl_keyed`).

In each case the component agrees afterwards iff it agreed before on what the
writes let through.
-/

namespace Lib

universe u v w

variable {σ : Type u} {υ : Type v} {α : Type w} {step : σ → υ → σ}

/-- A register agrees afterwards iff it agreed before or was overwritten. -/
theorem foldl_register {f : σ → α} {writes : υ → Option α}
    (h : ∀ s u, f (step s u) = (writes u).getD (f s)) (us : List υ) (s t : σ) :
    f (us.foldl step s) = f (us.foldl step t) ↔ f s = f t ∨ ∃ u ∈ us, (writes u).isSome := by
  induction us generalizing s t with
  | nil => simp
  | cons u us ih =>
    rw [List.foldl_cons, List.foldl_cons, ih, h, h]
    cases hu : writes u with
    | none => simp [hu]
    | some a => simp [hu]

/-- A register that writes clear selectively agrees afterwards iff it agreed
before on what no write clears, or was overwritten. -/
theorem foldl_clearable {f : σ → Option α} {sets : υ → Option α} {keeps : υ → α → Bool}
    (h : ∀ s u, f (step s u) = (sets u).or ((f s).filter (keeps u))) (us : List υ) (s t : σ) :
    f (us.foldl step s) = f (us.foldl step t) ↔
      ((f s).filter fun a => us.all fun u => keeps u a) =
          ((f t).filter fun a => us.all fun u => keeps u a) ∨
        ∃ u ∈ us, (sets u).isSome := by
  have hnil : ∀ o : Option α, (o.filter fun _ => true) = o := fun o => by cases o <;> rfl
  have hcons : ∀ (u : υ) (us : List υ) (o : Option α),
      ((o.filter (keeps u)).filter fun a => us.all fun u => keeps u a) =
        o.filter fun a => (u :: us).all fun u => keeps u a := by
    intro u us o
    cases o with
    | none => rfl
    | some a => cases hu : keeps u a <;> simp [Option.filter, hu]
  induction us generalizing s t with
  | nil => simp [hnil]
  | cons u us ih =>
    rw [List.foldl_cons, List.foldl_cons]
    refine (ih (step s u) (step t u)).trans ?_
    rw [h, h]
    cases hu : sets u with
    | some a => simp [hu]
    | none =>
      rw [Option.none_or, Option.none_or, hcons, hcons]
      simp [hu]

/-- A list that writes thin out and extend agrees afterwards iff it agreed before
on what every write keeps. -/
theorem foldl_keyed {f : σ → List α} {adds : υ → List α} {keeps : υ → α → Bool}
    (h : ∀ s u, f (step s u) = (f s).filter (keeps u) ++ adds u) (us : List υ) (s t : σ) :
    f (us.foldl step s) = f (us.foldl step t) ↔
      ((f s).filter fun a => us.all fun u => keeps u a) =
        ((f t).filter fun a => us.all fun u => keeps u a) := by
  induction us generalizing s t with
  | nil => simp
  | cons u us ih =>
    rw [List.foldl_cons, List.foldl_cons, ih, h, h, List.filter_append, List.filter_append,
      List.append_left_inj, List.filter_filter, List.filter_filter]
    simp only [List.all_cons, Bool.and_comm]

end Lib

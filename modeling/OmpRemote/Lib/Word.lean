import Mathlib.Algebra.GroupWithZero.Nat
import Mathlib.Data.List.Basic

/-!
# Checked and saturating arithmetic on 64-bit words

`checkedAdd`, `checkedSub` and `saturatingAdd` are the operations of those names
on unsigned 64-bit integers. Their lemmas say what they do in the natural
numbers, so that proofs about counters are linear arithmetic.
-/

namespace Lib

/-- The sum, or `none` when it does not fit in a word. -/
def checkedAdd (a b : UInt64) : Option UInt64 :=
  if a.toNat + b.toNat < 2 ^ 64 then some (a + b) else none

/-- The difference, or `none` when it would be negative. -/
def checkedSub (a b : UInt64) : Option UInt64 :=
  if b ≤ a then some (a - b) else none

/-- The sum, or the largest word when it does not fit. -/
def saturatingAdd (a b : UInt64) : UInt64 :=
  (checkedAdd a b).getD 18446744073709551615

theorem toNat_add_of_lt {a b : UInt64} (h : a.toNat + b.toNat < 2 ^ 64) :
    (a + b).toNat = a.toNat + b.toNat := by
  rw [UInt64.toNat_add]
  exact Nat.mod_eq_of_lt h

/-- `checkedAdd` succeeds exactly with the mathematical sum. -/
theorem checkedAdd_eq_some {a b c : UInt64} :
    checkedAdd a b = some c ↔ c.toNat = a.toNat + b.toNat := by
  unfold checkedAdd
  split
  · rename_i h
    rw [Option.some.injEq, ← UInt64.toNat_inj, toNat_add_of_lt h]
    exact eq_comm
  · rename_i h
    have := c.toNat_lt
    simp only [reduceCtorEq, false_iff]
    omega

theorem checkedAdd_one_eq_some {a c : UInt64} :
    checkedAdd a 1 = some c ↔ c.toNat = a.toNat + 1 := checkedAdd_eq_some

theorem checkedAdd_one_eq_none {a : UInt64} :
    checkedAdd a 1 = none ↔ a.toNat = 2 ^ 64 - 1 := by
  have := a.toNat_lt
  simp only [checkedAdd, ite_eq_right_iff, reduceCtorEq, imp_false, UInt64.reduceToNat]
  omega

theorem checkedSub_one_eq_some {a c : UInt64} :
    checkedSub a 1 = some c ↔ a.toNat = c.toNat + 1 := by
  have ha := a.toNat_lt
  unfold checkedSub
  split
  · rename_i h
    rw [Option.some.injEq, ← UInt64.toNat_inj, UInt64.toNat_sub_of_le _ _ h]
    have : (1 : UInt64).toNat ≤ a.toNat := UInt64.le_iff_toNat_le.mp h
    simp only [UInt64.reduceToNat] at this ⊢
    omega
  · rename_i h
    have : ¬ (1 : UInt64).toNat ≤ a.toNat := fun h' => h (UInt64.le_iff_toNat_le.mpr h')
    simp only [UInt64.reduceToNat] at this
    simp only [reduceCtorEq, false_iff]
    omega

/-- Where the sum fits, saturation changes nothing. -/
theorem saturatingAdd_of_checkedAdd {a b c : UInt64} (h : checkedAdd a b = some c) :
    saturatingAdd a b = c := by
  rw [saturatingAdd, h, Option.getD_some]

/-- The word that saturation takes for the next one: the next one, or the last one again. -/
theorem eq_saturatingAdd_one {a c : UInt64} :
    c = saturatingAdd a 1 ↔ c.toNat = a.toNat + 1 ∨ a.toNat = 2 ^ 64 - 1 ∧ c = a := by
  cases h : checkedAdd a 1 with
  | some next =>
    have hnext := checkedAdd_one_eq_some.mp h
    have := next.toNat_lt
    rw [saturatingAdd_of_checkedAdd h, ← UInt64.toNat_inj]
    omega
  | none =>
    have hlast := checkedAdd_one_eq_none.mp h
    have hmax : saturatingAdd a 1 = a := by
      rw [saturatingAdd, h, Option.getD_none, ← UInt64.toNat_inj, hlast]
      rfl
    have := c.toNat_lt
    rw [hmax]
    constructor
    · exact fun heq => .inr ⟨hlast, heq⟩
    · rintro (hnext | ⟨-, heq⟩)
      · omega
      · exact heq

theorem le_saturatingAdd_one (a : UInt64) : a ≤ saturatingAdd a 1 := by
  rw [UInt64.le_iff_toNat_le]
  cases h : checkedAdd a 1 with
  | some c =>
    rw [saturatingAdd_of_checkedAdd h]
    have := checkedAdd_one_eq_some.mp h
    omega
  | none =>
    have := checkedAdd_one_eq_none.mp h
    rw [saturatingAdd, h, Option.getD_none]
    show a.toNat ≤ 18446744073709551615
    omega

end Lib

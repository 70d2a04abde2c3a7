import Mathlib.Data.List.Nodup

/-!
# Lists with one element a key

- `upsert`: the first element with the key is replaced, or the element is added at the end.
- `mem_upsert`, `nodup_upsert`: what is then in the list, which has one element a key as before.
-/

namespace Lib

universe u v

variable {α : Type u} {κ : Type v} [DecidableEq κ] (key : α → κ)

def upsert (a : α) : List α → List α
  | [] => [a]
  | b :: bs => if key b = key a then a :: bs else b :: upsert a bs

/-- A new key comes last. -/
theorem map_upsert (a : α) (as : List α) :
    (upsert key a as).map key =
      if key a ∈ as.map key then as.map key else as.map key ++ [key a] := by
  induction as with
  | nil => rfl
  | cons b bs ih =>
    by_cases hsame : key b = key a
    · rw [upsert, if_pos hsame, List.map_cons, List.map_cons, hsame,
        if_pos List.mem_cons_self]
    · have hother : key a ≠ key b := fun h => hsame h.symm
      rw [upsert, if_neg hsame, List.map_cons, ih, List.map_cons]
      by_cases hmem : key a ∈ bs.map key
      · rw [if_pos hmem, if_pos (List.mem_cons_of_mem _ hmem)]
      · have hnew : key a ∉ key b :: bs.map key := fun h => (List.mem_cons.mp h).elim hother hmem
        rw [if_neg hmem, if_neg hnew, List.cons_append]

variable {key}

theorem nodup_upsert (a : α) {as : List α} (h : (as.map key).Nodup) :
    ((upsert key a as).map key).Nodup := by
  rw [map_upsert]
  by_cases hmem : key a ∈ as.map key
  · rwa [if_pos hmem]
  · rw [if_neg hmem]
    exact List.nodup_append_comm.mp (List.nodup_cons.mpr ⟨hmem, h⟩)

theorem mem_upsert (a : α) {as : List α} (h : (as.map key).Nodup) {b : α} :
    b ∈ upsert key a as ↔ b = a ∨ b ∈ as ∧ key b ≠ key a := by
  induction as with
  | nil => simp [upsert]
  | cons c cs ih =>
    obtain ⟨hnew, hrest⟩ := List.nodup_cons.mp h
    by_cases hsame : key c = key a
    · rw [upsert, if_pos hsame, List.mem_cons, List.mem_cons]
      -- the key is not that of any other
      have hothers : b ∈ cs → key b ≠ key a := fun hmem hkey =>
        hnew (List.mem_map.mpr ⟨b, hmem, hkey.trans hsame.symm⟩)
      constructor
      · rintro (hb | hb)
        · exact .inl hb
        · exact .inr ⟨.inr hb, hothers hb⟩
      · rintro (hb | ⟨rfl | hb, hkey⟩)
        · exact .inl hb
        · exact absurd hsame hkey
        · exact .inr hb
    · rw [upsert, if_neg hsame, List.mem_cons, ih hrest, List.mem_cons]
      constructor
      · rintro (rfl | hb | ⟨hb, hkey⟩)
        · exact .inr ⟨.inl rfl, hsame⟩
        · exact .inl hb
        · exact .inr ⟨.inr hb, hkey⟩
      · rintro (hb | ⟨rfl | hb, hkey⟩)
        · exact .inr (.inl hb)
        · exact .inl rfl
        · exact .inr (.inr ⟨hb, hkey⟩)

end Lib

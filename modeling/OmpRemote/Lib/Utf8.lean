import Mathlib.Data.List.Basic

/-!
# Texts cut at bytes

A text is measured and cut in bytes, and only between two characters.

- `Utf8.size`, `Utf8.splitAt?`, `Utf8.slice?`, with `splitAt?_eq_some`.
- `Utf8.takeTo`, `Utf8.floorCharBoundary`: a text cut at the last place that is allowed.
- `Utf8.clip`: as much of a text as a limit allows; `takeTo_floorCharBoundary`.
-/

namespace Lib.Utf8

/-- The length in bytes. -/
def size : List Char → Nat
  | [] => 0
  | c :: cs => c.utf8Size + size cs

@[simp] theorem size_nil : size [] = 0 := rfl

@[simp] theorem size_cons (c : Char) (cs : List Char) : size (c :: cs) = c.utf8Size + size cs := rfl

@[simp] theorem size_append (cs ds : List Char) : size (cs ++ ds) = size cs + size ds := by
  induction cs with
  | nil => rw [List.nil_append, size_nil, Nat.zero_add]
  | cons c cs ih => rw [List.cons_append, size_cons, size_cons, ih, Nat.add_assoc]

theorem size_replicate (count : Nat) (c : Char) :
    size (List.replicate count c) = count * c.utf8Size := by
  induction count with
  | zero => rw [Nat.zero_mul]; rfl
  | succ count ih => rw [List.replicate_succ, size_cons, ih, Nat.succ_mul, Nat.add_comm]

theorem size_eq_zero {cs : List Char} : size cs = 0 ↔ cs = [] := by
  cases cs with
  | nil => exact ⟨fun _ => rfl, fun _ => rfl⟩
  | cons c cs =>
    have := c.utf8Size_pos
    exact ⟨fun h => by rw [size_cons] at h; omega, nofun⟩

/-- The text before an offset and from it on, unless the offset is inside a character or
after the end. -/
def splitAt? : List Char → Nat → Option (List Char × List Char)
  | [], offset => if offset = 0 then some ([], []) else none
  | c :: cs, offset =>
    if offset = 0 then some ([], c :: cs)
    else if c.utf8Size ≤ offset then
      (splitAt? cs (offset - c.utf8Size)).map fun cut => (c :: cut.1, cut.2)
    else none

theorem splitAt?_zero (cs : List Char) : splitAt? cs 0 = some ([], cs) := by
  cases cs <;> rfl

/-- A cut after a first part is one of what follows. -/
theorem splitAt?_append (before after : List Char) (offset : Nat) :
    splitAt? (before ++ after) (size before + offset) =
      (splitAt? after offset).map fun cut => (before ++ cut.1, cut.2) := by
  induction before with
  | nil =>
    rw [List.nil_append, size_nil, Nat.zero_add]
    exact (Option.map_id' ..).symm
  | cons c before ih =>
    have := c.utf8Size_pos
    have hoffset : c.utf8Size + size before + offset - c.utf8Size = size before + offset := by
      omega
    rw [List.cons_append, splitAt?, size_cons, if_neg (by omega), if_pos (by omega), hoffset, ih,
      Option.map_map]
    rfl

/-- A text is cut where a first part of it ends. -/
theorem splitAt?_size (before after : List Char) :
    splitAt? (before ++ after) (size before) = some (before, after) := by
  have h := splitAt?_append before after 0
  rwa [Nat.add_zero, splitAt?_zero, Option.map_some, List.append_nil] at h

/-- A character is not cut. -/
theorem splitAt?_inside {c : Char} {offset : Nat} (cs : List Char) (hpos : 0 < offset)
    (hlt : offset < c.utf8Size) : splitAt? (c :: cs) offset = none := by
  rw [splitAt?, if_neg (Nat.ne_of_gt hpos), if_neg (Nat.not_le_of_lt hlt)]

theorem splitAt?_eq_some {cs before after : List Char} {offset : Nat} :
    splitAt? cs offset = some (before, after) ↔ cs = before ++ after ∧ size before = offset := by
  constructor
  · intro h
    induction cs generalizing offset before with
    | nil =>
      obtain ⟨hzero, hcut⟩ := Option.ite_none_right_eq_some.mp h
      cases hcut
      exact ⟨rfl, hzero.symm⟩
    | cons c cs ih =>
      rw [splitAt?] at h
      split at h
      · rename_i hzero
        cases h
        exact ⟨rfl, hzero.symm⟩
      · obtain ⟨hsize, hcut⟩ := Option.ite_none_right_eq_some.mp h
        obtain ⟨⟨before', after'⟩, hrest, heq⟩ := Option.map_eq_some_iff.mp hcut
        cases heq
        obtain ⟨rfl, hoffset⟩ := ih hrest
        refine ⟨rfl, ?_⟩
        rw [size_cons, hoffset]
        omega
  · rintro ⟨rfl, rfl⟩
    exact splitAt?_size before after

/-- `is_char_boundary`. -/
def isCharBoundary (cs : List Char) (offset : Nat) : Bool := (splitAt? cs offset).isSome

theorem isCharBoundary_iff {cs : List Char} {offset : Nat} :
    isCharBoundary cs offset = true ↔ ∃ before, before <+: cs ∧ size before = offset := by
  rw [isCharBoundary, Option.isSome_iff_exists]
  constructor
  · rintro ⟨⟨before, after⟩, h⟩
    obtain ⟨rfl, hsize⟩ := splitAt?_eq_some.mp h
    exact ⟨before, List.prefix_append before after, hsize⟩
  · rintro ⟨before, ⟨after, rfl⟩, rfl⟩
    exact ⟨_, splitAt?_size before after⟩

/-- The text from one offset to another. -/
def slice? (cs : List Char) (start stop : Nat) : Option (List Char) :=
  if start ≤ stop then
    (splitAt? cs start).bind fun cut => (splitAt? cut.2 (stop - start)).map Prod.fst
  else none

/-- A slice after a first part is one of what follows. -/
theorem slice?_append (before after : List Char) (count : Nat) :
    slice? (before ++ after) (size before) (size before + count) =
      (splitAt? after count).map Prod.fst := by
  rw [slice?, if_pos (Nat.le_add_right _ _), splitAt?_size, Nat.add_sub_cancel_left]
  rfl

/-- The text before a boundary. -/
def takeTo (cs : List Char) (offset : Nat) (h : isCharBoundary cs offset = true) : List Char :=
  ((splitAt? cs offset).get h).1

/-- The last boundary that is not after an offset. -/
def floorCharBoundary (cs : List Char) : Nat → Nat
  | 0 => 0
  | offset + 1 =>
    if isCharBoundary cs (offset + 1) then offset + 1 else floorCharBoundary cs offset

theorem isCharBoundary_floorCharBoundary (cs : List Char) (offset : Nat) :
    isCharBoundary cs (floorCharBoundary cs offset) = true := by
  induction offset with
  | zero =>
    rw [floorCharBoundary, isCharBoundary, splitAt?_zero]
    rfl
  | succ offset ih =>
    rw [floorCharBoundary]
    split
    · assumption
    · exact ih

/-! ## As much as a limit allows -/

def clip : Nat → List Char → List Char
  | _, [] => []
  | limit, c :: cs => if c.utf8Size ≤ limit then c :: clip (limit - c.utf8Size) cs else []

theorem clip_isPrefix (limit : Nat) (cs : List Char) : clip limit cs <+: cs := by
  induction cs generalizing limit with
  | nil => exact List.prefix_rfl
  | cons c cs ih =>
    rw [clip]
    split
    · exact (List.prefix_cons_inj c).mpr (ih _)
    · exact List.nil_prefix

theorem size_clip_le (limit : Nat) (cs : List Char) : size (clip limit cs) ≤ limit := by
  induction cs generalizing limit with
  | nil => exact Nat.zero_le _
  | cons c cs ih =>
    rw [clip]
    split
    · have := ih (limit - c.utf8Size)
      rw [size_cons]
      omega
    · exact Nat.zero_le _

/-- What fits in the first of two texts is all of it, or as much as fits in both. -/
theorem clip_append (limit : Nat) (cs ds : List Char) :
    clip limit (cs ++ ds) =
      if size cs ≤ limit then cs ++ clip (limit - size cs) ds else clip limit cs := by
  induction cs generalizing limit with
  | nil =>
    rw [size_nil, if_pos (Nat.zero_le _)]
    rfl
  | cons c cs ih =>
    rw [List.cons_append, clip, clip, size_cons]
    by_cases hc : c.utf8Size ≤ limit
    · rw [if_pos hc, if_pos hc, ih, Nat.sub_sub]
      by_cases hcs : size cs ≤ limit - c.utf8Size
      · rw [if_pos hcs, if_pos (by omega)]
        rfl
      · rw [if_neg hcs, if_neg (by omega)]
    · rw [if_neg hc, if_neg hc, if_neg (by omega)]

theorem clip_eq_self {limit : Nat} {cs : List Char} (h : size cs ≤ limit) : clip limit cs = cs := by
  have happend := clip_append limit cs []
  rwa [List.append_nil, if_pos h, clip, List.append_nil] at happend

theorem clip_min_size (limit : Nat) (cs : List Char) :
    clip (min limit (size cs)) cs = clip limit cs := by
  rcases Nat.le_total limit (size cs) with hle | hge
  · rw [Nat.min_eq_left hle]
  · rw [Nat.min_eq_right hge, clip_eq_self (Nat.le_refl _), clip_eq_self hge]

theorem clip_zero (cs : List Char) : clip 0 cs = [] :=
  size_eq_zero.mp (Nat.le_zero.mp (size_clip_le 0 cs))

/-- The first character fits, or nothing does. -/
theorem clip_eq_nil {limit : Nat} {cs : List Char} :
    clip limit cs = [] ↔ ∀ c ∈ cs.head?, limit < c.utf8Size := by
  cases cs with
  | nil => exact ⟨fun _ => nofun, fun _ => rfl⟩
  | cons c cs =>
    rw [clip]
    split
    · rename_i hfits
      refine ⟨nofun, fun h => ?_⟩
      exact absurd (h c rfl) (Nat.not_lt_of_le hfits)
    · rename_i hlarge
      refine ⟨fun _ c' hc => ?_, fun _ => rfl⟩
      cases hc
      exact Nat.lt_of_not_le hlarge

/-- Nothing longer fits. -/
theorem prefix_clip {limit : Nat} {front cs : List Char} (hfront : front <+: cs)
    (hsize : size front ≤ limit) : front <+: clip limit cs := by
  obtain ⟨rest, rfl⟩ := hfront
  rw [clip_append, if_pos hsize]
  exact List.prefix_append _ _

theorem size_mono {cs ds : List Char} (h : cs <+: ds) : size cs ≤ size ds := by
  obtain ⟨rest, rfl⟩ := h
  rw [size_append]
  exact Nat.le_add_right _ _

theorem eq_of_prefix_of_size_le {cs ds : List Char} (h : cs <+: ds) (hsize : size ds ≤ size cs) :
    cs = ds := by
  obtain ⟨rest, rfl⟩ := h
  rw [size_append] at hsize
  have hrest : rest = [] := size_eq_zero.mp (by omega)
  rw [hrest, List.append_nil]

theorem floorCharBoundary_le (cs : List Char) (offset : Nat) :
    floorCharBoundary cs offset ≤ offset := by
  induction offset with
  | zero => exact Nat.le_refl _
  | succ offset ih =>
    rw [floorCharBoundary]
    split
    · exact Nat.le_refl _
    · exact Nat.le_succ_of_le ih

/-- No boundary is between the two. -/
theorem le_floorCharBoundary {cs : List Char} {boundary offset : Nat} (hle : boundary ≤ offset)
    (h : isCharBoundary cs boundary = true) : boundary ≤ floorCharBoundary cs offset := by
  induction offset with
  | zero => exact hle
  | succ offset ih =>
    rw [floorCharBoundary]
    split
    · exact hle
    · rename_i hinside
      have hne : boundary ≠ offset + 1 := by
        rintro rfl
        exact hinside h
      exact ih (by omega)

theorem takeTo_eq {cs front : List Char} {offset : Nat} (hfront : front <+: cs)
    (hsize : size front = offset) (h : isCharBoundary cs offset = true) :
    takeTo cs offset h = front := by
  obtain ⟨rest, rfl⟩ := hfront
  subst hsize
  unfold takeTo
  have hcut : (splitAt? (front ++ rest) (size front)).get h = (front, rest) :=
    Option.get_of_eq_some h (splitAt?_size front rest)
  rw [hcut]

/-- Cutting at the last boundary within a limit leaves as much as it allows. -/
theorem takeTo_floorCharBoundary (cs : List Char) (limit : Nat) :
    takeTo cs (floorCharBoundary cs limit) (isCharBoundary_floorCharBoundary cs limit) =
      clip limit cs := by
  refine takeTo_eq (clip_isPrefix limit cs) (Nat.le_antisymm ?_ ?_) _
  · -- what fits ends at a boundary, and the last one is not before it
    exact le_floorCharBoundary (size_clip_le limit cs)
      (isCharBoundary_iff.mpr ⟨_, clip_isPrefix limit cs, rfl⟩)
  · -- what ends at the last boundary fits
    obtain ⟨front, hfront, hsize⟩ :=
      isCharBoundary_iff.mp (isCharBoundary_floorCharBoundary cs limit)
    rw [← hsize]
    refine size_mono (prefix_clip hfront ?_)
    rw [hsize]
    exact floorCharBoundary_le cs limit

end Lib.Utf8

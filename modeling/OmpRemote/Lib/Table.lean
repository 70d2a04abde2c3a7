import Mathlib.Data.List.Nodup

/-!
# Keyed tables

A database table with a primary key: rows in insertion order, no key twice.
The constraint is part of the type, so a statement that would violate it has no
result (`insert`).

`lookup` says everything about a table except the order of its rows; each
statement comes with the lookup lemma that specifies it.
-/

namespace Lib

universe u v

/-- Rows with a primary key. -/
structure Table (κ : Type u) (ρ : Type v) where
  rows : List (κ × ρ)
  unique : (rows.map Prod.fst).Nodup

namespace Table

variable {κ : Type u} {ρ : Type v} [DecidableEq κ]

def empty : Table κ ρ := ⟨[], List.nodup_nil⟩

/-- The row with a key. -/
def lookup (t : Table κ ρ) (k : κ) : Option ρ :=
  (t.rows.find? fun row => row.1 = k).map Prod.snd

omit [DecidableEq κ] in
/-- A key occurs once, so its row is determined. -/
theorem row_unique (t : Table κ ρ) {k : κ} {r r' : ρ} (h : (k, r) ∈ t.rows)
    (h' : (k, r') ∈ t.rows) : r = r' := by
  have := List.inj_on_of_nodup_map t.unique h h' rfl
  exact congrArg Prod.snd this

theorem lookup_eq_some {t : Table κ ρ} {k : κ} {r : ρ} :
    t.lookup k = some r ↔ (k, r) ∈ t.rows := by
  constructor
  · intro h
    obtain ⟨row, hfind, hrow⟩ := Option.map_eq_some_iff.mp h
    have hkey : row.1 = k := by simpa using List.find?_some hfind
    have hmem := List.mem_of_find?_eq_some hfind
    rwa [← hkey, ← hrow]
  · intro h
    unfold lookup
    cases hfind : t.rows.find? fun row => row.1 = k with
    | none => exact absurd (List.find?_eq_none.mp hfind _ h) (by simp)
    | some row =>
      have hkey : row.1 = k := by simpa using List.find?_some hfind
      have hmem := List.mem_of_find?_eq_some hfind
      have hrow : (k, row.2) ∈ t.rows := by rwa [← hkey]
      exact congrArg some (t.row_unique hrow h)

theorem lookup_eq_none {t : Table κ ρ} {k : κ} :
    t.lookup k = none ↔ k ∉ t.rows.map Prod.fst := by
  constructor
  · intro h hmem
    obtain ⟨⟨k', r⟩, hrow, rfl⟩ := List.mem_map.mp hmem
    rw [lookup_eq_some.mpr hrow] at h
    cases h
  · intro h
    cases hrow : t.lookup k with
    | none => rfl
    | some r => exact absurd (List.mem_map_of_mem (lookup_eq_some.mp hrow)) h

@[simp] theorem lookup_empty (k : κ) : (empty : Table κ ρ).lookup k = none := rfl

/-- `INSERT`: refused where the key is taken. -/
def insert (t : Table κ ρ) (k : κ) (r : ρ) : Option (Table κ ρ) :=
  if h : k ∈ t.rows.map Prod.fst then none
  else some ⟨t.rows ++ [(k, r)], by
    rw [List.map_append, List.nodup_append]
    refine ⟨t.unique, List.nodup_singleton _, fun a ha b hb hab => ?_⟩
    rw [hab, List.mem_singleton.mp hb] at ha
    exact h ha⟩

theorem insert_eq_some {t t' : Table κ ρ} {k : κ} {r : ρ} (h : t.insert k r = some t') :
    t.lookup k = none ∧ t'.rows = t.rows ++ [(k, r)] := by
  unfold insert at h
  split at h
  · cases h
  · rename_i hnew
    cases h
    exact ⟨lookup_eq_none.mpr hnew, rfl⟩

theorem insert_eq_none {t : Table κ ρ} {k : κ} {r : ρ} :
    t.insert k r = none ↔ t.lookup k ≠ none := by
  unfold insert
  split
  · rename_i h
    simpa [lookup_eq_none] using h
  · rename_i h
    simpa [lookup_eq_none] using h

theorem lookup_insert {t t' : Table κ ρ} {k : κ} {r : ρ} (h : t.insert k r = some t') (k' : κ) :
    t'.lookup k' = if k' = k then some r else t.lookup k' := by
  obtain ⟨hnew, hrows⟩ := insert_eq_some h
  ext r'
  rw [lookup_eq_some, hrows, List.mem_append, List.mem_singleton, Prod.mk.injEq]
  split
  · rename_i hk
    subst hk
    have hno : (k', r') ∉ t.rows := fun hmem => by
      rw [lookup_eq_some.mpr hmem] at hnew
      cases hnew
    simp [hno, eq_comm]
  · rename_i hk
    simp [hk, lookup_eq_some]

/-- `UPDATE`: rewrite rows in place, keys excepted. -/
def mapRows (t : Table κ ρ) (f : κ → ρ → ρ) : Table κ ρ where
  rows := t.rows.map fun row => (row.1, f row.1 row.2)
  unique := by
    rw [List.map_map]
    exact t.unique

theorem lookup_mapRows (t : Table κ ρ) (f : κ → ρ → ρ) (k : κ) :
    (t.mapRows f).lookup k = (t.lookup k).map (f k) := by
  ext r
  rw [lookup_eq_some, Option.map_eq_some_iff]
  constructor
  · intro h
    obtain ⟨⟨k', r'⟩, hrow, heq⟩ := List.mem_map.mp h
    cases heq
    exact ⟨r', lookup_eq_some.mpr hrow, rfl⟩
  · rintro ⟨r', hrow, rfl⟩
    exact List.mem_map_of_mem (f := fun row : κ × ρ => (row.1, f row.1 row.2))
      (lookup_eq_some.mp hrow)

/-- `UPDATE … WHERE key = k`. -/
def modify (t : Table κ ρ) (k : κ) (f : ρ → ρ) : Table κ ρ :=
  t.mapRows fun k' r => if k' = k then f r else r

theorem lookup_modify (t : Table κ ρ) (k : κ) (f : ρ → ρ) (k' : κ) :
    (t.modify k f).lookup k' = if k' = k then (t.lookup k').map f else t.lookup k' := by
  rw [modify, lookup_mapRows]
  split
  · rfl
  · exact congrFun Option.map_id _

/-- `DELETE`: keep the rows that satisfy `p`. -/
def keep (t : Table κ ρ) (p : κ → ρ → Bool) : Table κ ρ where
  rows := t.rows.filter fun row => p row.1 row.2
  unique := (t.unique.sublist (List.filter_sublist.map Prod.fst))

theorem lookup_keep (t : Table κ ρ) (p : κ → ρ → Bool) (k : κ) :
    (t.keep p).lookup k = (t.lookup k).filter (p k) := by
  ext r
  rw [lookup_eq_some, Option.filter_eq_some_iff, lookup_eq_some]
  exact List.mem_filter

/-- `INSERT … ON CONFLICT DO UPDATE`: `f` makes the new row from an old one. -/
def upsert (t : Table κ ρ) (k : κ) (r : ρ) (f : ρ → ρ) : Table κ ρ :=
  (t.insert k r).getD (t.modify k f)

theorem lookup_upsert (t : Table κ ρ) (k : κ) (r : ρ) (f : ρ → ρ) (k' : κ) :
    (t.upsert k r f).lookup k' =
      if k' = k then some ((t.lookup k).elim r f) else t.lookup k' := by
  unfold upsert
  cases hinsert : t.insert k r with
  | some t' =>
    rw [Option.getD_some, lookup_insert hinsert, (insert_eq_some hinsert).1]
    rfl
  | none =>
    rw [Option.getD_none, lookup_modify]
    split
    · rename_i hk
      subst hk
      obtain ⟨old, hold⟩ := Option.ne_none_iff_exists'.mp (insert_eq_none.mp hinsert)
      rw [hold]
      rfl
    · rfl

/-- Remove the row with a key. -/
def erase (t : Table κ ρ) (k : κ) : Table κ ρ := t.keep fun k' _ => k' ≠ k

theorem lookup_erase (t : Table κ ρ) (k k' : κ) :
    (t.erase k).lookup k' = if k' = k then none else t.lookup k' := by
  rw [erase, lookup_keep]
  by_cases h : k' = k
  · rw [if_pos h, Option.filter_eq_none_iff]
    simp [h]
  · rw [if_neg h]
    cases t.lookup k' with
    | none => rfl
    | some r => exact Option.filter_some_pos (by simpa using h)

/-- A map's `insert`: a row with the key is replaced. -/
def put (t : Table κ ρ) (k : κ) (r : ρ) : Table κ ρ where
  rows := (t.erase k).rows ++ [(k, r)]
  unique := by
    rw [List.map_append, List.nodup_append]
    refine ⟨(t.erase k).unique, List.nodup_singleton _, ?_⟩
    intro a ha b hb hab
    obtain ⟨row, hrow, rfl⟩ := List.mem_map.mp ha
    have hne := (List.mem_filter.mp hrow).2
    rw [List.map_singleton, List.mem_singleton] at hb
    simp [hab, hb] at hne

theorem lookup_put (t : Table κ ρ) (k : κ) (r : ρ) (k' : κ) :
    (t.put k r).lookup k' = if k' = k then some r else t.lookup k' := by
  ext r'
  rw [lookup_eq_some]
  show (k', r') ∈ (t.erase k).rows ++ [(k, r)] ↔ _
  rw [List.mem_append, List.mem_singleton, ← lookup_eq_some, lookup_erase]
  by_cases h : k' = k
  · simp [h, eq_comm]
  · simp [h]

theorem erase_rows_of_none {t : Table κ ρ} {k : κ} (h : t.lookup k = none) :
    (t.erase k).rows = t.rows := by
  refine List.filter_eq_self.mpr ?_
  intro row hrow
  have hmem := List.mem_map_of_mem (f := Prod.fst) hrow
  have : row.1 ≠ k := fun hk => lookup_eq_none.mp h (hk ▸ hmem)
  simpa using this

/-- A table is the row with a key, where there is one, and the others. -/
theorem rows_perm_erase (t : Table κ ρ) (k : κ) :
    t.rows.Perm ((t.lookup k).toList.map (fun r => (k, r)) ++ (t.erase k).rows) := by
  cases h : t.lookup k with
  | none =>
    rw [erase_rows_of_none h]
    exact List.Perm.refl _
  | some r =>
    obtain ⟨pre, post, hsplit⟩ := List.append_of_mem (lookup_eq_some.mp h)
    have hunique := t.unique
    rw [hsplit, List.map_append, List.map_cons, List.nodup_append, List.nodup_cons] at hunique
    obtain ⟨-, ⟨hpost, -⟩, hpre⟩ := hunique
    -- no other row has the key
    have hkeep : (t.erase k).rows = pre ++ post := by
      show t.rows.filter (fun row => decide (row.1 ≠ k)) = pre ++ post
      rw [hsplit, List.filter_append, List.filter_cons_of_neg (by simp), List.filter_eq_self.mpr,
        List.filter_eq_self.mpr]
      · intro row hrow
        have hmem := List.mem_map_of_mem (f := Prod.fst) hrow
        have : row.1 ≠ k := fun hk => hpost (hk ▸ hmem)
        simpa using this
      · intro row hrow
        have : row.1 ≠ k := fun hk =>
          hpre row.1 (List.mem_map_of_mem hrow) k List.mem_cons_self hk
        simpa using this
    rw [hkeep, hsplit]
    exact List.perm_middle

/-! ## Images -/

section Images

universe u' v'

variable {κ' : Type u'} {ρ' : Type v'} [DecidableEq κ'] {f : κ → κ'}
  {hf : Function.Injective f} {g : ρ → ρ'}

omit [DecidableEq κ] [DecidableEq κ'] in
@[ext] theorem ext_rows {t t' : Table κ ρ} (h : t.rows = t'.rows) : t = t' := by
  cases t
  cases t'
  cases h
  rfl

omit [DecidableEq κ] [DecidableEq κ'] in
/-- The same table with its keys and rows written in another way. -/
def image (t : Table κ ρ) (f : κ → κ') (hf : Function.Injective f) (g : ρ → ρ') : Table κ' ρ' where
  rows := t.rows.map (Prod.map f g)
  unique := by
    have h := t.unique.map hf
    rw [List.map_map] at h ⊢
    exact h

omit [DecidableEq κ] [DecidableEq κ'] in
theorem image_empty : (empty : Table κ ρ).image f hf g = empty := rfl

theorem lookup_image (t : Table κ ρ) (k : κ) :
    (t.image f hf g).lookup (f k) = (t.lookup k).map g := by
  ext r
  rw [lookup_eq_some, Option.map_eq_some_iff]
  constructor
  · intro h
    obtain ⟨⟨k', r'⟩, hrow, heq⟩ := List.mem_map.mp h
    obtain ⟨hkey, rfl⟩ := Prod.mk.inj heq
    cases hf hkey
    exact ⟨r', lookup_eq_some.mpr hrow, rfl⟩
  · rintro ⟨r', hrow, rfl⟩
    exact List.mem_map.mpr ⟨(k, r'), lookup_eq_some.mp hrow, rfl⟩

omit [DecidableEq κ] [DecidableEq κ'] in
theorem mapRows_image {m : κ → ρ → ρ} {m' : κ' → ρ' → ρ'} (t : Table κ ρ)
    (h : ∀ k r, (k, r) ∈ t.rows → m' (f k) (g r) = g (m k r)) :
    (t.image f hf g).mapRows m' = (t.mapRows m).image f hf g := by
  refine ext_rows ?_
  show (t.rows.map _).map _ = (t.rows.map _).map _
  rw [List.map_map, List.map_map]
  refine List.map_congr_left fun row hrow => ?_
  exact Prod.ext rfl (h row.1 row.2 hrow)

theorem modify_image {m : ρ → ρ} {m' : ρ' → ρ'} (t : Table κ ρ) (k : κ)
    (h : ∀ r, t.lookup k = some r → m' (g r) = g (m r)) :
    (t.image f hf g).modify (f k) m' = (t.modify k m).image f hf g := by
  refine mapRows_image t fun k' r hrow => ?_
  by_cases hk : k' = k
  · rw [if_pos (congrArg f hk), if_pos hk, h r (hk ▸ lookup_eq_some.mpr hrow)]
  · rw [if_neg fun heq => hk (hf heq), if_neg hk]

theorem insert_image (t : Table κ ρ) (k : κ) (r : ρ) :
    (t.image f hf g).insert (f k) (g r) = (t.insert k r).map fun t' => t'.image f hf g := by
  cases hinsert : t.insert k r with
  | none =>
    refine insert_eq_none.mpr ?_
    rw [lookup_image]
    obtain ⟨old, hold⟩ := Option.ne_none_iff_exists'.mp (insert_eq_none.mp hinsert)
    rw [hold]
    nofun
  | some t' =>
    obtain ⟨hnew, hrows⟩ := insert_eq_some hinsert
    cases himage : (t.image f hf g).insert (f k) (g r) with
    | none =>
      refine absurd ?_ (insert_eq_none.mp himage)
      rw [lookup_image, hnew]
      rfl
    | some t'' =>
      refine congrArg some (ext_rows ?_)
      rw [(insert_eq_some himage).2]
      show t.rows.map _ ++ _ = t'.rows.map _
      rw [hrows, List.map_append]
      rfl

theorem upsert_image {m : ρ → ρ} {m' : ρ' → ρ'} (t : Table κ ρ) (k : κ) (r : ρ)
    (h : ∀ r, t.lookup k = some r → m' (g r) = g (m r)) :
    (t.image f hf g).upsert (f k) (g r) m' = (t.upsert k r m).image f hf g := by
  unfold upsert
  rw [insert_image]
  cases t.insert k r with
  | none => exact modify_image t k h
  | some t' => rfl

omit [DecidableEq κ] [DecidableEq κ'] in
theorem keep_image {p : κ → ρ → Bool} {p' : κ' → ρ' → Bool} (t : Table κ ρ)
    (h : ∀ k r, (k, r) ∈ t.rows → p' (f k) (g r) = p k r) :
    (t.image f hf g).keep p' = (t.keep p).image f hf g := by
  refine ext_rows ?_
  show (t.rows.map _).filter _ = (t.rows.filter _).map _
  rw [List.filter_map]
  refine congrArg (List.map _) (List.filter_congr fun row hrow => ?_)
  exact h row.1 row.2 hrow

end Images

end Table

end Lib

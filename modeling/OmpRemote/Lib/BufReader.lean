import Mathlib.Data.List.Basic

/-!
# Buffered readers and lines

A buffered reader hands out what one read of its source returned until that is
consumed. What is read from it depends on the items of the source and on how it ends
(`BufReader.bytes`, `BufReader.ending`), not on how the reads cut them.

- `firstLine`, `lines`: the lines of a list, each with the item that ends it; what
  follows the last end, `unended`, is no line.
- `lines_flatten`: together they are the list.
- `firstLine_append`: the first line when more comes.
-/

namespace Lib

universe u

variable {α : Type u}

/-! ## Lines -/

section Lines

variable (isEnd : α → Bool)

/-- The first line and what follows it. -/
def firstLine (as : List α) : Option (List α × List α) :=
  (as.findIdx? isEnd).map fun i => (as.take (i + 1), as.drop (i + 1))

def lines : List α → List (List α)
  | [] => []
  | a :: as =>
    if isEnd a then [a] :: lines as
    else match lines as with
      | [] => []
      | line :: more => (a :: line) :: more

/-- What follows the last end. -/
def unended : List α → List α
  | [] => []
  | a :: as => if isEnd a || as.any isEnd then unended as else a :: as

variable {isEnd}

theorem firstLine_nil : firstLine isEnd [] = none := rfl

theorem firstLine_cons (a : α) (as : List α) : firstLine isEnd (a :: as) =
    if isEnd a then some ([a], as)
    else (firstLine isEnd as).map fun cut => (a :: cut.1, cut.2) := by
  unfold firstLine
  rw [List.findIdx?_cons]
  split
  · rfl
  · cases as.findIdx? isEnd <;> rfl

/-- A line is not empty, and what follows it is the rest. -/
theorem firstLine_some {as line rest : List α} (h : firstLine isEnd as = some (line, rest)) :
    as = line ++ rest ∧ line ≠ [] := by
  obtain ⟨i, hi, hcut⟩ := Option.map_eq_some_iff.mp h
  cases hcut
  obtain ⟨hlt, -⟩ := List.findIdx?_eq_some_iff_getElem.mp hi
  refine ⟨(List.take_append_drop ..).symm, List.ne_nil_of_length_pos ?_⟩
  rw [List.length_take]
  omega

/-- The first line of a list that goes on. -/
theorem firstLine_append (as bs : List α) : firstLine isEnd (as ++ bs) =
    match firstLine isEnd as with
    | some (line, rest) => some (line, rest ++ bs)
    | none => (firstLine isEnd bs).map fun cut => (as ++ cut.1, cut.2) := by
  induction as with
  | nil =>
    show firstLine isEnd bs = (firstLine isEnd bs).map fun cut => cut
    rw [Option.map_id']
  | cons a as ih =>
    rw [List.cons_append, firstLine_cons, firstLine_cons, ih]
    cases isEnd a
    · cases firstLine isEnd as with
      | none => cases firstLine isEnd bs <;> rfl
      | some cut => rfl
    · rfl

/-- The lines are the first one and those of the rest. -/
theorem lines_eq (as : List α) : lines isEnd as =
    match firstLine isEnd as with
    | some (line, rest) => line :: lines isEnd rest
    | none => [] := by
  induction as with
  | nil => rfl
  | cons a as ih =>
    rw [lines, firstLine_cons]
    cases isEnd a
    · rw [if_neg Bool.false_ne_true, if_neg Bool.false_ne_true, ih]
      cases firstLine isEnd as <;> rfl
    · rfl

theorem firstLine_none {as : List α} : firstLine isEnd as = none ↔ as.any isEnd = false := by
  rw [firstLine, Option.map_eq_none_iff, List.findIdx?_eq_none_iff, List.any_eq_false]
  simp only [Bool.not_eq_true]

/-- What follows the last end follows the first line, if there is one. -/
theorem unended_eq (as : List α) : unended isEnd as =
    match firstLine isEnd as with
    | some (_, rest) => unended isEnd rest
    | none => as := by
  induction as with
  | nil => rfl
  | cons a as ih =>
    rw [unended, firstLine_cons]
    cases isEnd a with
    | true => rfl
    | false =>
      rw [Bool.false_or, if_neg Bool.false_ne_true, ih]
      cases hfirst : firstLine isEnd as with
      | some cut =>
        rw [if_pos]
        · rfl
        · rw [← Bool.not_eq_false]
          exact fun hnone => by rw [firstLine_none.mpr hnone] at hfirst; cases hfirst
      | none =>
        rw [firstLine_none.mp hfirst, if_neg Bool.false_ne_true]
        rfl

/-- The lines and what follows them are everything. -/
theorem lines_flatten (as : List α) : (lines isEnd as).flatten ++ unended isEnd as = as := by
  induction hlength : as.length using Nat.strongRecOn generalizing as with
  | _ length ih =>
    subst hlength
    rw [lines_eq, unended_eq]
    cases hfirst : firstLine isEnd as with
    | none => rfl
    | some cut =>
      obtain ⟨line, rest⟩ := cut
      obtain ⟨rfl, hne⟩ := firstLine_some hfirst
      have hless : rest.length < (line ++ rest).length := by
        have := List.length_pos_of_ne_nil hne
        rw [List.length_append]
        omega
      rw [List.flatten_cons, List.append_assoc, ih _ hless rest rfl]

end Lines

/-! ## Buffered readers -/

/-- What the reads of a source return after the last items. -/
inductive SourceEnd where
  | eof
  | failed (error : String)
  /-- Nothing yet: the source goes on later, or never. -/
  | waits
  deriving DecidableEq, Repr

/-- What one read returns. -/
abbrev Block (α : Type u) := { items : List α // items ≠ [] }

structure BufReader (α : Type u) where
  /-- What is read and not consumed. -/
  buffer : List α
  /-- What the next reads return. -/
  reads : List (Block α)
  ending : SourceEnd

namespace BufReader

def new (reads : List (Block α)) (ending : SourceEnd) : BufReader α := ⟨[], reads, ending⟩

/-- Read once if the buffer is empty. -/
def fillBuf : BufReader α → BufReader α
  | ⟨[], read :: reads, ending⟩ => ⟨read, reads, ending⟩
  | reader => reader

def consume (reader : BufReader α) (count : Nat) : BufReader α :=
  { reader with buffer := reader.buffer.drop count }

/-- Everything that is not consumed. -/
def bytes (reader : BufReader α) : List α := reader.buffer ++ reader.reads.flatMap Subtype.val

@[simp] theorem fillBuf_ending (reader : BufReader α) : reader.fillBuf.ending = reader.ending := by
  unfold fillBuf
  split <;> rfl

@[simp] theorem fillBuf_bytes (reader : BufReader α) : reader.fillBuf.bytes = reader.bytes := by
  unfold fillBuf
  split
  · simp [bytes]
  · rfl

/-- Nothing is available only when everything is consumed. -/
theorem fillBuf_buffer {reader : BufReader α} :
    reader.fillBuf.buffer = [] ↔ reader.bytes = [] := by
  obtain ⟨buffer, reads, ending⟩ := reader
  cases buffer with
  | cons a buffer => simp [fillBuf, bytes]
  | nil =>
    cases reads with
    | nil => simp [fillBuf, bytes]
    | cons read reads => simp [fillBuf, bytes, read.2]

@[simp] theorem consume_ending (reader : BufReader α) (count : Nat) :
    (reader.consume count).ending = reader.ending := rfl

theorem consume_lt {reader : BufReader α} {count : Nat} (hne : reader.buffer ≠ [])
    (hcount : 0 < count) : (reader.consume count).bytes.length < reader.bytes.length := by
  have := List.length_pos_of_ne_nil hne
  simp only [bytes, consume, List.length_append, List.length_drop]
  omega

end BufReader

end Lib

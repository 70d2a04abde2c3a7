import OmpRemote.Runtime.Startup

/-!
# The lines of an output

`read_limited_line` is called until it returns no line. What the calls return depends on
the bytes alone, not on how the reads cut them.

- `readLines`, the calls; `wholeLines`, what they are to return.
- `readLines_eq`: they return it.
-/

namespace OmpRemote.Runtime

open Lib

/-- What calls return: each line, with what is left to read after it, and how they end;
`none` while the process has not written more. -/
abbrev LinesRead := List (List UInt8 × List UInt8) × Option (Except LineReadError Unit)

/-- One more line before the others. -/
def LinesRead.after (line left : List UInt8) (read : LinesRead) : LinesRead :=
  ((line, left) :: read.1, read.2)

/-- `read_limited_line` called up to the first error or the end. -/
def readLines (limit : Nat) (reader : BufReader UInt8) : LinesRead :=
  match _hread : readLimitedLine limit [] reader with
  | (some (.ok (some line)), rest) => .after line rest.bytes (readLines limit rest)
  | (some (.ok none), _) => ([], some (.ok ()))
  | (some (.error error), _) => ([], some (.error error))
  | (none, _) => ([], none)
termination_by reader.bytes.length
decreasing_by exact readLimitedLine_lt _hread

/-- How the calls end when only an unterminated line is left. -/
def atEnd (limit : Nat) (ending : SourceEnd) (unterminated : List UInt8) :
    Option (Except LineReadError Unit) :=
  if limit < unterminated.length then some (.error (.tooLarge limit))
  else match ending with
    | .waits => none
    | .failed error => some (.error (.io error))
    | .eof => some (if unterminated.isEmpty then .ok () else .error .unexpectedEof)

/-- The lines of a whole output up to the first that is too long. -/
def wholeLines (limit : Nat) (ending : SourceEnd) (unterminated : List UInt8) :
    List (List UInt8) → LinesRead
  | [] => ([], atEnd limit ending unterminated)
  | line :: lines =>
    if limit < line.length then ([], some (.error (.tooLarge limit)))
    else .after line (lines.flatten ++ unterminated) (wholeLines limit ending unterminated lines)

/-- Without a line, the calls end. -/
theorem wholeLines_done {limit : Nat} {bytes : List UInt8} {ending : SourceEnd}
    {last : Option (Except LineReadError Unit)}
    (h : nextLine limit bytes ending = last.map fun last => last.map fun _ => none) :
    wholeLines limit ending (unended isNewline bytes) (lines isNewline bytes) = ([], last) := by
  have hinjective : ∀ last' : Option (Except LineReadError Unit),
      (last'.map fun last => last.map fun _ => (none : Option (List UInt8))) =
        (last.map fun last => last.map fun _ => none) → last' = last := by
    rintro (_ | _ | _) hmap <;> rcases last with _ | _ | _ <;> cases hmap <;> rfl
  rw [lines_eq, unended_eq]
  unfold nextLine at h
  cases hfirst : firstLine isNewline bytes with
  -- a first line that fits would be returned
  | some cut =>
    rw [hfirst] at h
    dsimp only at h ⊢
    rw [wholeLines]
    split
    · rename_i hlong
      rw [if_pos hlong] at h
      rw [← hinjective (some (.error (.tooLarge limit))) h]
    · rename_i hfits
      rw [if_neg hfits] at h
      rcases last with _ | _ | _ <;> cases h
  | none =>
    rw [hfirst] at h
    dsimp only at h ⊢
    -- no line is left, only what is unterminated
    rw [wholeLines, hinjective (atEnd limit ending bytes)]
    rw [← h]
    unfold atEnd
    split
    · rfl
    · cases ending with
      | eof => cases bytes <;> rfl
      | _ => rfl

/-- **Lines do not depend on the reads.** However the reads of an output cut it, the calls
return its lines, each whole and with nothing consumed after it, up to the first that is
too long; and if none is, they end as the output does. -/
theorem readLines_eq (limit : Nat) (reader : BufReader UInt8) :
    readLines limit reader =
      wholeLines limit reader.ending (unended isNewline reader.bytes)
        (lines isNewline reader.bytes) := by
  induction hlength : reader.bytes.length using Nat.strong_induction_on generalizing reader with
  | _ length ih =>
    subst hlength
    obtain ⟨hnext, hcut⟩ := readLimitedLine_eq firstLine_nil (Nat.zero_le limit) reader
    rw [List.nil_append] at hnext hcut
    unfold readLines
    split
    · -- a line is read, and the rest as if it were alone
      rename_i line rest hread
      rw [hread] at hcut
      obtain ⟨hfirst, hending⟩ := hcut line rfl
      dsimp only at hfirst hending
      rw [ih _ (readLimitedLine_lt hread) rest rfl, hending, lines_eq reader.bytes,
        unended_eq reader.bytes, hfirst]
      have hfits : ¬ limit < line.length := Nat.not_lt.mpr (readLimitedLine_line hread).2
      dsimp only
      rw [wholeLines, if_neg hfits, lines_flatten]
    all_goals
      rename_i hread
      rw [hread] at hnext
      exact (wholeLines_done hnext.symm).symm

/-- A line as long as the limit, whose end is read alone, and one that never ends. -/
example : readLines 3 (.new [⟨[1, 2], by decide⟩, ⟨[10], by decide⟩, ⟨[5], by decide⟩] .eof) =
    ([([1, 2, 10], [5])], some (.error .unexpectedEof)) := by decide +kernel

end OmpRemote.Runtime

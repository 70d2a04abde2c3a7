import Mathlib.Data.List.DropRight

/-!
# Texts

- `trim`: a text without the white space around it; `trim_surrounded`.
- `rsplitOnce`: a text cut at the last place of a character; `rsplitOnce_append`.
- `utf8ByteSize_ofList`: the length of a text of ASCII characters.
-/

namespace Lib.Text

/-! ## White space -/

/-- The characters with the Unicode property `White_Space`. -/
def whiteSpace : List Nat :=
  [0x9, 0xa, 0xb, 0xc, 0xd, 0x20, 0x85, 0xa0, 0x1680, 0x2000, 0x2001, 0x2002, 0x2003, 0x2004,
    0x2005, 0x2006, 0x2007, 0x2008, 0x2009, 0x200a, 0x2028, 0x2029, 0x202f, 0x205f, 0x3000]

def isWhiteSpace (c : Char) : Bool := c.toNat ∈ whiteSpace

/-- A text of white space only. -/
def IsBlank (text : String) : Prop := ∀ c ∈ text.toList, isWhiteSpace c = true

instance (text : String) : Decidable (IsBlank text) :=
  List.decidableBAll _ text.toList

def trim (cs : List Char) : List Char := (cs.dropWhile isWhiteSpace).rdropWhile isWhiteSpace

theorem dropWhile_append {before cs : List Char} (hbefore : ∀ c ∈ before, isWhiteSpace c = true)
    (hcs : ∀ c ∈ cs.head?, isWhiteSpace c = false) :
    (before ++ cs).dropWhile isWhiteSpace = cs := by
  induction before with
  | nil =>
    cases cs with
    | nil => rfl
    | cons c cs =>
      rw [List.nil_append, List.dropWhile_cons_of_neg]
      rw [hcs c rfl]
      exact Bool.false_ne_true
  | cons c before ih =>
    rw [List.cons_append, List.dropWhile_cons_of_pos (hbefore c List.mem_cons_self)]
    exact ih fun c hc => hbefore c (List.mem_cons_of_mem _ hc)

/-- White space around a text that neither begins nor ends with any. -/
theorem trim_surrounded {before cs after : List Char}
    (hbefore : ∀ c ∈ before, isWhiteSpace c = true) (hafter : ∀ c ∈ after, isWhiteSpace c = true)
    (hne : cs ≠ []) (hcs : ∀ c ∈ cs.head?, isWhiteSpace c = false)
    (hlast : ∀ c ∈ cs.getLast?, isWhiteSpace c = false) : trim (before ++ cs ++ after) = cs := by
  have hhead : ∀ c ∈ (cs ++ after).head?, isWhiteSpace c = false := by
    cases cs with
    | nil => exact absurd rfl hne
    | cons c cs => exact hcs
  rw [trim, List.append_assoc, dropWhile_append hbefore hhead, List.rdropWhile,
    List.reverse_append, dropWhile_append]
  · exact List.reverse_reverse cs
  · exact fun c hc => hafter c (List.mem_reverse.mp hc)
  · rw [List.head?_reverse]
    exact hlast

/-! ## The last place of a character -/

/-- What stands before and after the last place of a character. -/
def rsplitOnce (separator : Char) : List Char → Option (List Char × List Char)
  | [] => none
  | c :: cs =>
    match rsplitOnce separator cs with
    | some (before, after) => some (c :: before, after)
    | none => if c = separator then some ([], cs) else none

theorem rsplitOnce_none {separator : Char} {cs : List Char} (h : separator ∉ cs) :
    rsplitOnce separator cs = none := by
  induction cs with
  | nil => rfl
  | cons c cs ih =>
    rw [rsplitOnce, ih fun hmem => h (List.mem_cons_of_mem _ hmem)]
    refine if_neg ?_
    rintro rfl
    exact h List.mem_cons_self

theorem rsplitOnce_append {separator : Char} (before : List Char) {after : List Char}
    (h : separator ∉ after) :
    rsplitOnce separator (before ++ separator :: after) = some (before, after) := by
  induction before with
  | nil =>
    rw [List.nil_append, rsplitOnce, rsplitOnce_none h]
    exact if_pos rfl
  | cons c before ih => rw [List.cons_append, rsplitOnce, ih]

/-! ## Lengths -/

/-- A text whose characters are one byte each. -/
theorem utf8ByteSize_ofList {cs : List Char} (h : ∀ c ∈ cs, c.utf8Size = 1) :
    (String.ofList cs).utf8ByteSize = cs.length := by
  induction cs with
  | nil => rfl
  | cons c cs ih =>
    have hcons : String.ofList (c :: cs) = String.singleton c ++ String.ofList cs := by
      rw [String.singleton_eq_ofList, ← String.ofList_append]
      rfl
    rw [List.forall_mem_cons] at h
    rw [hcons, String.utf8ByteSize_append, String.utf8ByteSize_singleton, h.1, ih h.2,
      List.length_cons, Nat.add_comm]

/-! ## Ends -/

/-- What two ends of a text leave of it, unless they share something. -/
theorem prefix_take_of_suffix {α : Type} {front back text : List α} (hfront : front <+: text)
    (hback : back <:+ text) :
    front <+: text.take (text.length - back.length) ∨
      ∃ n < front.length, text = front.take n ++ back := by
  obtain ⟨origin, rfl⟩ := hback
  rw [List.length_append, Nat.add_sub_cancel, List.take_left]
  rcases List.prefix_or_prefix_of_prefix hfront (List.prefix_append origin back) with h | h
  · exact .inl h
  · rcases Nat.lt_or_ge origin.length front.length with hlt | hge
    · exact .inr ⟨origin.length, hlt, by rw [← List.prefix_iff_eq_take.mp h]⟩
    · rw [h.eq_of_length_le hge]
      exact .inl List.prefix_rfl

end Lib.Text

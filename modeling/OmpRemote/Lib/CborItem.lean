import Mathlib.Algebra.Ring.Nat
import Mathlib.Data.Nat.ModEq
import OmpRemote.Lib.Cbor

/-!
# Items of CBOR, and where they end

CBOR with the maps whose length is not known when they are begun: these are open, and end
with a break.

- `CborItem.pieces`: what is written for an item, in order.
- `bytes_append_inj`: what is written tells the item, and where it ends.
-/

namespace Lib

/-! ## Numbers -/

namespace Cbor

/-- What `bigEndian` wrote, after a number read so far. -/
def readBigEndian (bytes : List UInt8) (number : Nat) : Nat :=
  bytes.foldl (fun number byte => number * 256 + byte.toNat) number

theorem readBigEndian_bigEndian (count value number : Nat) :
    readBigEndian (bigEndian count value) number = number * 256 ^ count + value % 256 ^ count := by
  induction count generalizing number with
  | zero => simp [bigEndian, readBigEndian, Nat.mod_one]
  | succ count ih =>
    have hbyte : (UInt8.ofNat (value / 256 ^ count)).toNat = value / 256 ^ count % 256 := by simp
    show readBigEndian (bigEndian count value)
      (number * 256 + (UInt8.ofNat (value / 256 ^ count)).toNat) = _
    rw [ih, hbyte, Nat.add_mul, Nat.mul_assoc, ← Nat.pow_succ', Nat.add_assoc]
    congr 1
    rw [Nat.pow_succ, Nat.mod_mul, Nat.mul_comm (256 ^ count), Nat.add_comm]

theorem bigEndian_inj {count value value' : Nat} (hvalue : value < 256 ^ count)
    (hvalue' : value' < 256 ^ count) (h : bigEndian count value = bigEndian count value') :
    value = value' := by
  have hread := congrArg (readBigEndian · 0) h
  simp only [readBigEndian_bigEndian] at hread
  rw [Nat.mod_eq_of_lt hvalue, Nat.mod_eq_of_lt hvalue'] at hread
  omega

/-! ## Heads -/

/-- The low bits of the initial byte. -/
def info (argument : Nat) : Nat :=
  if argument < 24 then argument
  else if argument < 2 ^ 8 then 24
  else if argument < 2 ^ 16 then 25
  else if argument < 2 ^ 32 then 26
  else 27

/-- How many bytes of the argument follow it. -/
def extra (argument : Nat) : Nat :=
  if argument < 24 then 0
  else if argument < 2 ^ 8 then 1
  else if argument < 2 ^ 16 then 2
  else if argument < 2 ^ 32 then 4
  else 8

theorem head_bytes (major argument : Nat) : (head major argument).data.toList =
    UInt8.ofNat (major * 32 + info argument) :: bigEndian (extra argument) argument := by
  unfold head info extra
  repeat' split
  all_goals rfl

theorem info_le (argument : Nat) : info argument ≤ 27 := by
  unfold info
  repeat' split
  all_goals omega

/-- The low bits say how many bytes follow. -/
theorem extra_eq {argument argument' : Nat} (h : info argument = info argument') :
    argument = argument' ∨ extra argument = extra argument' := by
  unfold info at h
  unfold extra
  repeat' split at h
  all_goals first
    | exact .inl h
    | omega
    | (right; repeat' split) <;> omega

theorem lt_extra {argument : Nat} (h : argument < 2 ^ 64) (hlong : 24 ≤ argument) :
    argument < 256 ^ extra argument := by
  unfold extra
  repeat' split
  all_goals omega

/-- **A head tells its type, its argument and where it ends.** -/
theorem head_append_inj {major major' argument argument' : Nat} (hmajor : major < 8)
    (hmajor' : major' < 8) (hargument : argument < 2 ^ 64) (hargument' : argument' < 2 ^ 64)
    {rest rest' : List UInt8}
    (h : (head major argument).data.toList ++ rest =
      (head major' argument').data.toList ++ rest') :
    major = major' ∧ argument = argument' ∧ rest = rest' := by
  have hinfo := info_le argument
  have hinfo' := info_le argument'
  rw [head_bytes, head_bytes, List.cons_append, List.cons_append] at h
  obtain ⟨hfirst, hbytes⟩ := List.cons.inj h
  have hsum : major * 32 + info argument = major' * 32 + info argument' := by
    have hnat := congrArg UInt8.toNat hfirst
    rw [UInt8.toNat_ofNat', UInt8.toNat_ofNat'] at hnat
    omega
  obtain rfl : major = major' := by omega
  have hsame : info argument = info argument' := by omega
  have hargs : argument = argument' := by
    rcases extra_eq hsame with heq | hextra
    · exact heq
    by_cases hshort : argument < 24
    · have hself : info argument = argument := if_pos hshort
      have hshort' : argument' < 24 := by
        by_contra hlong
        unfold info at hsame
        rw [if_pos hshort, if_neg hlong] at hsame
        repeat' split at hsame
        all_goals omega
      have hself' : info argument' = argument' := if_pos hshort'
      omega
    · have hshort' : ¬ argument' < 24 := by
        intro hlt
        unfold info at hsame
        rw [if_pos hlt, if_neg hshort] at hsame
        repeat' split at hsame
        all_goals omega
      rw [hextra] at hbytes
      have hlength : (bigEndian (extra argument') argument).length =
          (bigEndian (extra argument') argument').length := by simp
      have hlt := lt_extra hargument (Nat.le_of_not_lt hshort)
      rw [hextra] at hlt
      exact bigEndian_inj hlt (lt_extra hargument' (Nat.le_of_not_lt hshort'))
        (List.append_inj_left hbytes hlength)
  subst hargs
  exact ⟨rfl, rfl, List.append_cancel_left hbytes⟩

end Cbor

/-! ## Items -/

/-- A data item; `openMap` is a map of a length not known before. -/
inductive CborItem where
  | uint (value : UInt64)
  | text (string : String)
  | array (items : List CborItem)
  | map (entries : List (String × CborItem))
  | openMap (entries : List (String × CborItem))
  | bool (value : Bool)
  | null

namespace CborItem

mutual

/-- What is written for an item. -/
def pieces : CborItem → List ByteArray
  | uint value => [Cbor.head 0 value.toNat]
  | text string => Cbor.textPieces string
  | array items => Cbor.head 4 items.length :: piecesOfItems items
  | map entries => Cbor.head 5 entries.length :: piecesOfEntries entries
  | openMap entries => ⟨#[0xbf]⟩ :: piecesOfEntries entries ++ [⟨#[0xff]⟩]
  | bool value => [⟨#[if value then 0xf5 else 0xf4]⟩]
  | null => [⟨#[0xf6]⟩]

def piecesOfItems : List CborItem → List ByteArray
  | [] => []
  | item :: items => pieces item ++ piecesOfItems items

def piecesOfEntries : List (String × CborItem) → List ByteArray
  | [] => []
  | (key, value) :: entries => Cbor.textPieces key ++ pieces value ++ piecesOfEntries entries

end

/-- All bytes of some pieces. -/
def flat (pieces : List ByteArray) : List UInt8 := pieces.flatMap fun piece => piece.data.toList

@[simp] theorem flat_nil : flat [] = [] := rfl

@[simp] theorem flat_cons (piece : ByteArray) (pieces : List ByteArray) :
    flat (piece :: pieces) = piece.data.toList ++ flat pieces := rfl

@[simp] theorem flat_append (pieces pieces' : List ByteArray) :
    flat (pieces ++ pieces') = flat pieces ++ flat pieces' := List.flatMap_append

/-- The bytes of an item. -/
def bytes (item : CborItem) : List UInt8 := flat item.pieces

/-! ## Texts -/

def textBytes (text : String) : List UInt8 := flat (Cbor.textPieces text)

theorem textBytes_eq (text : String) : textBytes text =
    (Cbor.head 3 text.utf8ByteSize).data.toList ++ text.toByteArray.data.toList := by
  simp [textBytes, Cbor.textPieces]

theorem length_textBytes (text : String) : text.utf8ByteSize < (textBytes text).length := by
  have hsize : text.toByteArray.data.toList.length = text.utf8ByteSize := by
    rw [Array.length_toList]
    rfl
  rw [textBytes_eq, Cbor.head_bytes, List.length_append, List.length_cons, hsize]
  omega

theorem textBytes_append_inj {text text' : String} {rest rest' : List UInt8}
    (htext : (textBytes text).length < 2 ^ 64) (htext' : (textBytes text').length < 2 ^ 64)
    (h : textBytes text ++ rest = textBytes text' ++ rest') : text = text' ∧ rest = rest' := by
  have hlt := length_textBytes text
  have hlt' := length_textBytes text'
  rw [textBytes_eq, textBytes_eq, List.append_assoc, List.append_assoc] at h
  obtain ⟨-, hsize, hbytes⟩ :=
    Cbor.head_append_inj (by decide) (by decide) (by omega) (by omega) h
  have hlength : text.toByteArray.data.toList.length = text'.toByteArray.data.toList.length := by
    rw [Array.length_toList, Array.length_toList]
    exact hsize
  obtain ⟨hsame, hrest⟩ := List.append_inj hbytes hlength
  refine ⟨?_, hrest⟩
  rw [← String.toByteArray_inj]
  exact ByteArray.ext (Array.toList_inj.mp hsame)

/-! ## What an item begins with -/

/-- The type of an item that is not open, its argument and what follows its head. -/
def parts : CborItem → Option (Nat × Nat × List UInt8)
  | uint value => some (0, value.toNat, [])
  | text string => some (3, string.utf8ByteSize, string.toByteArray.data.toList)
  | array items => some (4, items.length, flat (piecesOfItems items))
  | map entries => some (5, entries.length, flat (piecesOfEntries entries))
  | openMap _ => none
  | bool value => some (7, if value then 21 else 20, [])
  | null => some (7, 22, [])

theorem bytes_of_parts {item : CborItem} {major argument : Nat} {body : List UInt8}
    (h : item.parts = some (major, argument, body)) :
    major < 8 ∧ item.bytes = (Cbor.head major argument).data.toList ++ body := by
  cases item with
  | openMap entries => cases h
  | bool value => cases value <;> cases h <;> exact ⟨by decide, rfl⟩
  | null => cases h; exact ⟨by decide, rfl⟩
  | _ => cases h; exact ⟨by decide, by simp [bytes, pieces, Cbor.textPieces]⟩

theorem bytes_openMap (entries : List (String × CborItem)) :
    (openMap entries).bytes = 0xbf :: flat (piecesOfEntries entries) ++ [0xff] := by
  simp [bytes, pieces]

/-- No head is that of an open map. -/
theorem head_ne_open {major argument : Nat} {rest rest' : List UInt8} :
    (Cbor.head major argument).data.toList ++ rest ≠ 0xbf :: rest' := by
  intro h
  have hinfo := Cbor.info_le argument
  rw [Cbor.head_bytes, List.cons_append] at h
  have hnat := congrArg UInt8.toNat (List.cons.inj h).1
  rw [UInt8.toNat_ofNat'] at hnat
  have hopen : (0xbf : UInt8).toNat = 191 := rfl
  rw [hopen] at hnat
  omega

theorem bytes_pos (item : CborItem) : 0 < item.bytes.length := by
  cases hparts : item.parts with
  | none =>
    cases item with
    | openMap entries => simp [bytes_openMap]
    | _ => cases hparts
  | some parts =>
    obtain ⟨-, hbytes⟩ := bytes_of_parts hparts
    rw [hbytes, Cbor.head_bytes]
    simp

theorem length_items (items : List CborItem) :
    items.length ≤ (flat (piecesOfItems items)).length := by
  induction items with
  | nil => exact Nat.zero_le 0
  | cons item items ih =>
    have hpos : 0 < (flat item.pieces).length := bytes_pos item
    rw [piecesOfItems, flat_append, List.length_append, List.length_cons]
    omega

theorem length_entries (entries : List (String × CborItem)) :
    entries.length ≤ (flat (piecesOfEntries entries)).length := by
  induction entries with
  | nil => exact Nat.zero_le 0
  | cons entry entries ih =>
    have hpos : 0 < (flat entry.2.pieces).length := bytes_pos entry.2
    rw [piecesOfEntries, flat_append, flat_append, List.length_append, List.length_append,
      List.length_cons]
    omega

/-- The argument of an item in memory can be written. -/
theorem argument_lt {item : CborItem} {major argument : Nat} {body : List UInt8}
    (h : item.parts = some (major, argument, body)) (hshort : item.bytes.length < 2 ^ 64) :
    argument < 2 ^ 64 := by
  have hbody : body.length ≤ item.bytes.length := by
    rw [(bytes_of_parts h).2, List.length_append]
    omega
  cases item with
  | uint value =>
    cases h
    exact value.toNat_lt
  | text string =>
    cases h
    have hlt := length_textBytes string
    have hsame : (text string).bytes = textBytes string := rfl
    rw [hsame] at hshort
    omega
  | array items =>
    cases h
    have hle := length_items items
    omega
  | map entries =>
    cases h
    have hle := length_entries entries
    omega
  | openMap entries => cases h
  | bool value => cases value <;> cases h <;> decide
  | null => cases h; decide

/-- Two items of a type, with arguments of a value, and what follows their heads. -/
def Alike (rest rest' : List UInt8) : CborItem → CborItem → Prop
  | uint value, uint value' => value = value' ∧ rest = rest'
  | text string, text string' =>
    string.utf8ByteSize = string'.utf8ByteSize ∧
      string.toByteArray.data.toList ++ rest = string'.toByteArray.data.toList ++ rest'
  | array items, array items' =>
    items.length = items'.length ∧
      flat (piecesOfItems items) ++ rest = flat (piecesOfItems items') ++ rest'
  | map entries, map entries' =>
    entries.length = entries'.length ∧
      flat (piecesOfEntries entries) ++ rest = flat (piecesOfEntries entries') ++ rest'
  | openMap entries, openMap entries' =>
    flat (piecesOfEntries entries) ++ 0xff :: rest =
      flat (piecesOfEntries entries') ++ 0xff :: rest'
  | bool value, bool value' => value = value' ∧ rest = rest'
  | null, null => rest = rest'
  | _, _ => False

theorem alike_of_parts {item item' : CborItem} {rest rest' body body' : List UInt8}
    {major argument : Nat} (h : item.parts = some (major, argument, body))
    (h' : item'.parts = some (major, argument, body')) (hrest : body ++ rest = body' ++ rest') :
    Alike rest rest' item item' := by
  cases item with
  | openMap entries => cases h
  | uint value =>
    cases h
    cases item' with
    | uint value' =>
      simp only [parts, Option.some.injEq, Prod.mk.injEq, true_and] at h'
      obtain ⟨hvalue, rfl⟩ := h'
      exact ⟨UInt64.toNat_inj.mp hvalue.symm, hrest⟩
    | bool value' => cases value' <;> cases h'
    | _ => cases h'
  | text string =>
    cases h
    cases item' with
    | text string' =>
      simp only [parts, Option.some.injEq, Prod.mk.injEq, true_and] at h'
      obtain ⟨hsize, rfl⟩ := h'
      exact ⟨hsize.symm, hrest⟩
    | bool value' => cases value' <;> cases h'
    | _ => cases h'
  | array items =>
    cases h
    cases item' with
    | array items' =>
      simp only [parts, Option.some.injEq, Prod.mk.injEq, true_and] at h'
      obtain ⟨hlength, rfl⟩ := h'
      exact ⟨hlength.symm, hrest⟩
    | bool value' => cases value' <;> cases h'
    | _ => cases h'
  | map entries =>
    cases h
    cases item' with
    | map entries' =>
      simp only [parts, Option.some.injEq, Prod.mk.injEq, true_and] at h'
      obtain ⟨hlength, rfl⟩ := h'
      exact ⟨hlength.symm, hrest⟩
    | bool value' => cases value' <;> cases h'
    | _ => cases h'
  | bool value =>
    cases item' with
    | bool value' => cases value <;> cases h <;> cases value' <;> cases h' <;> exact ⟨rfl, hrest⟩
    | _ => cases value <;> cases h <;> cases h'
  | null =>
    cases h
    cases item' with
    | null =>
      cases h'
      exact hrest
    | bool value' => cases value' <;> cases h'
    | _ => cases h'

/-- Items that begin alike are alike. -/
theorem alike_of_bytes {item item' : CborItem} {rest rest' : List UInt8}
    (hshort : item.bytes.length < 2 ^ 64) (hshort' : item'.bytes.length < 2 ^ 64)
    (h : item.bytes ++ rest = item'.bytes ++ rest') : Alike rest rest' item item' := by
  cases hparts : item.parts with
  | none =>
    cases item with
    | openMap entries =>
      cases hparts' : item'.parts with
      | none =>
        cases item' with
        | openMap entries' =>
          rw [bytes_openMap, bytes_openMap, List.cons_append, List.cons_append, List.cons_append,
            List.cons_append, List.append_assoc, List.append_assoc] at h
          exact (List.cons.inj h).2
        | _ => cases hparts'
      | some parts' =>
        obtain ⟨major', argument', body'⟩ := parts'
        rw [(bytes_of_parts hparts').2, bytes_openMap, List.append_assoc, List.append_assoc] at h
        exact absurd h.symm head_ne_open
    | _ => cases hparts
  | some parts =>
    obtain ⟨major, argument, body⟩ := parts
    obtain ⟨hmajor, hbytes⟩ := bytes_of_parts hparts
    cases hparts' : item'.parts with
    | none =>
      cases item' with
      | openMap entries' =>
        rw [hbytes, bytes_openMap, List.append_assoc] at h
        exact absurd h head_ne_open
      | _ => cases hparts'
    | some parts' =>
      obtain ⟨major', argument', body'⟩ := parts'
      obtain ⟨hmajor', hbytes'⟩ := bytes_of_parts hparts'
      have hargument := argument_lt hparts hshort
      have hargument' := argument_lt hparts' hshort'
      rw [hbytes, hbytes', List.append_assoc, List.append_assoc] at h
      obtain ⟨rfl, rfl, hbody⟩ := Cbor.head_append_inj hmajor hmajor' hargument hargument' h
      exact alike_of_parts hparts hparts' hbody

/-! ## Whole items -/

theorem piecesOfItems_cons (item : CborItem) (items : List CborItem) :
    flat (piecesOfItems (item :: items)) = item.bytes ++ flat (piecesOfItems items) := by
  rw [piecesOfItems, flat_append]
  rfl

theorem piecesOfEntries_cons (key : String) (value : CborItem)
    (entries : List (String × CborItem)) :
    flat (piecesOfEntries ((key, value) :: entries)) =
      textBytes key ++ (value.bytes ++ flat (piecesOfEntries entries)) := by
  rw [piecesOfEntries, flat_append, flat_append, List.append_assoc]
  rfl

/-- No text begins like a break. -/
theorem textBytes_ne_break {text : String} {rest rest' : List UInt8} :
    textBytes text ++ rest ≠ 0xff :: rest' := by
  intro h
  have hinfo := Cbor.info_le text.utf8ByteSize
  rw [textBytes_eq, Cbor.head_bytes, List.cons_append, List.cons_append] at h
  have hnat := congrArg UInt8.toNat (List.cons.inj h).1
  rw [UInt8.toNat_ofNat'] at hnat
  have hbreak : (0xff : UInt8).toNat = 255 := rfl
  rw [hbreak] at hnat
  omega

mutual

/-- **What is written for an item tells the item, and where it ends**: no item is written as
another is, nor as the start of another. -/
theorem bytes_append_inj : ∀ (item item' : CborItem) {rest rest' : List UInt8},
    item.bytes.length < 2 ^ 64 → item'.bytes.length < 2 ^ 64 →
      item.bytes ++ rest = item'.bytes ++ rest' → item = item' ∧ rest = rest'
  | item, item', rest, rest', hshort, hshort', h => by
    have halike := alike_of_bytes hshort hshort' h
    cases item with
    | uint value =>
      cases item' with
      | uint value' => exact ⟨congrArg uint halike.1, halike.2⟩
      | _ => exact halike.elim
    | text string =>
      cases item' with
      | text string' =>
        obtain ⟨hsame, hrest⟩ := textBytes_append_inj hshort hshort' h
        exact ⟨congrArg text hsame, hrest⟩
      | _ => exact halike.elim
    | array items =>
      cases item' with
      | array items' =>
        have hle : (flat (piecesOfItems items)).length ≤ (array items).bytes.length := by
          simp [bytes, pieces]
        have hle' : (flat (piecesOfItems items')).length ≤ (array items').bytes.length := by
          simp [bytes, pieces]
        obtain ⟨hsame, hrest⟩ := items_append_inj items items' halike.1 (by omega) (by omega) halike.2
        exact ⟨congrArg array hsame, hrest⟩
      | _ => exact halike.elim
    | map entries =>
      cases item' with
      | map entries' =>
        have hle : (flat (piecesOfEntries entries)).length ≤ (map entries).bytes.length := by
          simp [bytes, pieces]
        have hle' : (flat (piecesOfEntries entries')).length ≤ (map entries').bytes.length := by
          simp [bytes, pieces]
        obtain ⟨hsame, hrest⟩ :=
          entries_append_inj entries entries' halike.1 (by omega) (by omega) halike.2
        exact ⟨congrArg map hsame, hrest⟩
      | _ => exact halike.elim
    | openMap entries =>
      cases item' with
      | openMap entries' =>
        have hle : (flat (piecesOfEntries entries)).length ≤ (openMap entries).bytes.length := by
          rw [bytes_openMap, List.length_append, List.length_cons]
          omega
        have hle' : (flat (piecesOfEntries entries')).length ≤ (openMap entries').bytes.length := by
          rw [bytes_openMap, List.length_append, List.length_cons]
          omega
        obtain ⟨hsame, hrest⟩ :=
          open_append_inj entries entries' (by omega) (by omega) halike
        exact ⟨congrArg openMap hsame, hrest⟩
      | _ => exact halike.elim
    | bool value =>
      cases item' with
      | bool value' => exact ⟨congrArg bool halike.1, halike.2⟩
      | _ => exact halike.elim
    | null =>
      cases item' with
      | null => exact ⟨rfl, halike⟩
      | _ => exact halike.elim

theorem items_append_inj : ∀ (items items' : List CborItem) {rest rest' : List UInt8},
    items.length = items'.length → (flat (piecesOfItems items)).length < 2 ^ 64 →
      (flat (piecesOfItems items')).length < 2 ^ 64 →
      flat (piecesOfItems items) ++ rest = flat (piecesOfItems items') ++ rest' →
      items = items' ∧ rest = rest'
  | [], [], _, _, _, _, _, h => ⟨rfl, h⟩
  | item :: items, item' :: items', _, _, hlength, hshort, hshort', h => by
    rw [piecesOfItems_cons, List.length_append] at hshort hshort'
    rw [piecesOfItems_cons, piecesOfItems_cons, List.append_assoc, List.append_assoc] at h
    obtain ⟨hitem, h⟩ := bytes_append_inj item item' (by omega) (by omega) h
    obtain ⟨hitems, hrest⟩ :=
      items_append_inj items items' (Nat.succ.inj hlength) (by omega) (by omega) h
    exact ⟨by rw [hitem, hitems], hrest⟩

theorem entries_append_inj : ∀ (entries entries' : List (String × CborItem))
    {rest rest' : List UInt8}, entries.length = entries'.length →
      (flat (piecesOfEntries entries)).length < 2 ^ 64 →
      (flat (piecesOfEntries entries')).length < 2 ^ 64 →
      flat (piecesOfEntries entries) ++ rest = flat (piecesOfEntries entries') ++ rest' →
      entries = entries' ∧ rest = rest'
  | [], [], _, _, _, _, _, h => ⟨rfl, h⟩
  | (key, value) :: entries, (key', value') :: entries', _, _, hlength, hshort, hshort', h => by
    rw [piecesOfEntries_cons, List.length_append, List.length_append] at hshort hshort'
    rw [piecesOfEntries_cons, piecesOfEntries_cons, List.append_assoc, List.append_assoc,
      List.append_assoc, List.append_assoc] at h
    obtain ⟨hkey, h⟩ := textBytes_append_inj (by omega) (by omega) h
    obtain ⟨hvalue, h⟩ := bytes_append_inj value value' (by omega) (by omega) h
    obtain ⟨hentries, hrest⟩ :=
      entries_append_inj entries entries' (Nat.succ.inj hlength) (by omega) (by omega) h
    exact ⟨by rw [hkey, hvalue, hentries], hrest⟩

/-- The entries of an open map end with the break. -/
theorem open_append_inj : ∀ (entries entries' : List (String × CborItem))
    {rest rest' : List UInt8}, (flat (piecesOfEntries entries)).length < 2 ^ 64 →
      (flat (piecesOfEntries entries')).length < 2 ^ 64 →
      flat (piecesOfEntries entries) ++ 0xff :: rest =
        flat (piecesOfEntries entries') ++ 0xff :: rest' →
      entries = entries' ∧ rest = rest'
  | [], [], _, _, _, _, h => ⟨rfl, (List.cons.inj h).2⟩
  | [], (key', value') :: entries', _, _, _, _, h => by
    rw [piecesOfEntries_cons, List.append_assoc] at h
    exact absurd h.symm textBytes_ne_break
  | (key, value) :: entries, [], _, _, _, _, h => by
    rw [piecesOfEntries_cons, List.append_assoc] at h
    exact absurd h textBytes_ne_break
  | (key, value) :: entries, (key', value') :: entries', _, _, hshort, hshort', h => by
    rw [piecesOfEntries_cons, List.length_append, List.length_append] at hshort hshort'
    rw [piecesOfEntries_cons, piecesOfEntries_cons, List.append_assoc, List.append_assoc,
      List.append_assoc, List.append_assoc] at h
    obtain ⟨hkey, h⟩ := textBytes_append_inj (by omega) (by omega) h
    obtain ⟨hvalue, h⟩ := bytes_append_inj value value' (by omega) (by omega) h
    obtain ⟨hentries, hrest⟩ := open_append_inj entries entries' (by omega) (by omega) h
    exact ⟨by rw [hkey, hvalue, hentries], hrest⟩

end

end CborItem

/-! ## Items of known length -/

mutual

/-- An item whose maps are all of known length. -/
def Cbor.item : Cbor → CborItem
  | .uint value => .uint value
  | .text string => .text string
  | .array items => .array (Cbor.itemsOf items)
  | .map entries => .map (Cbor.entriesOf entries)
  | .bool value => .bool value
  | .null => .null

def Cbor.itemsOf : List Cbor → List CborItem
  | [] => []
  | item :: items => item.item :: Cbor.itemsOf items

def Cbor.entriesOf : List (String × Cbor) → List (String × CborItem)
  | [] => []
  | (key, value) :: entries => (key, value.item) :: Cbor.entriesOf entries

end

mutual

/-- It is written alike. -/
theorem Cbor.pieces_item : ∀ item : Cbor, item.item.pieces = item.pieces
  | .uint _ | .text _ | .bool _ | .null => rfl
  | .array items => by
    rw [Cbor.item, CborItem.pieces, Cbor.pieces, Cbor.pieces_itemsOf, Cbor.length_itemsOf]
  | .map entries => by
    rw [Cbor.item, CborItem.pieces, Cbor.pieces, Cbor.pieces_entriesOf, Cbor.length_entriesOf]

theorem Cbor.pieces_itemsOf : ∀ items : List Cbor,
    CborItem.piecesOfItems (Cbor.itemsOf items) = Cbor.piecesOfItems items
  | [] => rfl
  | item :: items => by
    rw [Cbor.itemsOf, CborItem.piecesOfItems, Cbor.piecesOfItems, Cbor.pieces_item,
      Cbor.pieces_itemsOf]

theorem Cbor.pieces_entriesOf : ∀ entries : List (String × Cbor),
    CborItem.piecesOfEntries (Cbor.entriesOf entries) = Cbor.piecesOfEntries entries
  | [] => rfl
  | (key, value) :: entries => by
    rw [Cbor.entriesOf, CborItem.piecesOfEntries, Cbor.piecesOfEntries, Cbor.pieces_item,
      Cbor.pieces_entriesOf]

theorem Cbor.length_itemsOf : ∀ items : List Cbor, (Cbor.itemsOf items).length = items.length
  | [] => rfl
  | _ :: items => congrArg Nat.succ (Cbor.length_itemsOf items)

theorem Cbor.length_entriesOf : ∀ entries : List (String × Cbor),
    (Cbor.entriesOf entries).length = entries.length
  | [] => rfl
  | _ :: entries => congrArg Nat.succ (Cbor.length_entriesOf entries)

end

mutual

theorem Cbor.item_inj : ∀ item item' : Cbor, item.item = item'.item → item = item'
  | .uint value, item', h => by cases item' <;> cases h; rfl
  | .text string, item', h => by cases item' <;> cases h; rfl
  | .bool value, item', h => by cases item' <;> cases h; rfl
  | .null, item', h => by cases item' <;> cases h; rfl
  | .array items, item', h => by
    cases item' with
    | array items' => rw [Cbor.itemsOf_inj items items' (CborItem.array.inj h)]
    | _ => cases h
  | .map entries, item', h => by
    cases item' with
    | map entries' => rw [Cbor.entriesOf_inj entries entries' (CborItem.map.inj h)]
    | _ => cases h

theorem Cbor.itemsOf_inj : ∀ items items' : List Cbor,
    Cbor.itemsOf items = Cbor.itemsOf items' → items = items'
  | [], [], _ => rfl
  | [], _ :: _, h => by cases h
  | _ :: _, [], h => by cases h
  | item :: items, item' :: items', h => by
    obtain ⟨hitem, hitems⟩ := List.cons.inj h
    rw [Cbor.item_inj item item' hitem, Cbor.itemsOf_inj items items' hitems]

theorem Cbor.entriesOf_inj : ∀ entries entries' : List (String × Cbor),
    Cbor.entriesOf entries = Cbor.entriesOf entries' → entries = entries'
  | [], [], _ => rfl
  | [], _ :: _, h => by cases h
  | _ :: _, [], h => by cases h
  | (key, value) :: entries, (key', value') :: entries', h => by
    obtain ⟨hentry, hentries⟩ := List.cons.inj h
    obtain ⟨rfl, hvalue⟩ := Prod.mk.inj hentry
    rw [Cbor.item_inj value value' hvalue, Cbor.entriesOf_inj entries entries' hentries]

end

end Lib

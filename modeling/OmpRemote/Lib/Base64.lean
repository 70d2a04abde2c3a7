import Mathlib.Data.List.Basic
import Mathlib.Tactic.NormNum.Basic

/-!
# Base64

Three bytes are four letters of six bits each; a last group of one or two bytes
is padded with `=`. Decoding is strict: the padding has to be there and the bits
it leaves over have to be zero, so every text has at most one reading
(`decode_encode`). Texts for links have two other letters and no padding
(`decodeUrl_encodeUrl`).
-/

namespace Lib.Base64

/-! ## Letters -/

/-- The characters from a code point on. -/
def charsFrom (start count : Nat) : List Char :=
  (List.range count).map fun i => Char.ofNat (start + i)

/-- `A` to `Z`, `a` to `z`, `0` to `9`, `+` and `/`. -/
def alphabet : List Char := charsFrom 65 26 ++ charsFrom 97 26 ++ charsFrom 48 10 ++ ['+', '/']

def letter (sextet : Nat) : Char := alphabet.getD sextet 'A'

def sextet (letter : Char) : Option Nat := alphabet.idxOf? letter

/-- A character of a Base64 text. -/
def IsText (c : Char) : Prop := c ∈ alphabet ∨ c = '='

theorem sextet_letter {n : Nat} (h : n < 64) : sextet (letter n) = some n := by
  have : ∀ n < 64, sextet (letter n) = some n := by decide +kernel
  exact this n h

theorem letter_mem (n : Nat) : letter n ∈ alphabet := by
  rw [letter, List.getD_eq_getElem?_getD]
  cases h : alphabet[n]? with
  | none => decide
  | some c => exact List.mem_of_getElem? h

theorem letter_ne_pad (n : Nat) : letter n ≠ '=' := by
  intro h
  have := letter_mem n
  rw [h] at this
  revert this
  decide

/-! ## Texts -/

def encodeChars : List UInt8 → List Char
  | [] => []
  | [a] =>
    let n := a.toNat * 16
    [letter (n / 64), letter (n % 64), '=', '=']
  | [a, b] =>
    let n := a.toNat * 1024 + b.toNat * 4
    [letter (n / 4096), letter (n / 64 % 64), letter (n % 64), '=']
  | a :: b :: c :: rest =>
    let n := a.toNat * 65536 + b.toNat * 256 + c.toNat
    letter (n / 262144) :: letter (n / 4096 % 64) :: letter (n / 64 % 64) :: letter (n % 64) ::
      encodeChars rest

/-- The last group, with its padding. -/
def decodeLast (a b c : Char) : Option (List UInt8) :=
  if c = '=' then do
    let n := (← sextet a) * 64 + (← sextet b)
    if n % 16 = 0 then some [UInt8.ofNat (n / 16)] else none
  else do
    let n := (← sextet a) * 4096 + (← sextet b) * 64 + (← sextet c)
    if n % 4 = 0 then some [UInt8.ofNat (n / 1024), UInt8.ofNat (n / 4 % 256)] else none

def decodeChars : List Char → Option (List UInt8)
  | [] => some []
  | a :: b :: c :: d :: rest =>
    if d = '=' ∧ rest = [] then decodeLast a b c
    else do
      let n := (← sextet a) * 262144 + (← sextet b) * 4096 + (← sextet c) * 64 + (← sextet d)
      let bytes ← decodeChars rest
      some (UInt8.ofNat (n / 65536) :: UInt8.ofNat (n / 256 % 256) :: UInt8.ofNat (n % 256) ::
        bytes)
  | _ => none

def encode (bytes : List UInt8) : String := String.ofList (encodeChars bytes)

def decode (text : String) : Option (List UInt8) := decodeChars text.toList

/-! ## What is encoded is read back -/

/-- The bytes of a number of at most eight bits. -/
theorem ofNat_eq_of_eq {a : UInt8} {n : Nat} (h : n = a.toNat) : UInt8.ofNat n = a := by
  rw [h]
  exact UInt8.ofNat_toNat

theorem decodeChars_encodeChars (bytes : List UInt8) :
    decodeChars (encodeChars bytes) = some bytes := by
  induction bytes using encodeChars.induct with
  | case1 => rfl
  | case2 a =>
    have ha := a.toNat_lt
    simp only [encodeChars, decodeChars, decodeLast, true_and, if_true]
    rw [sextet_letter (by omega), sextet_letter (by omega)]
    have hzero : (a.toNat * 16 / 64 * 64 + a.toNat * 16 % 64) % 16 = 0 := by omega
    simp only [Option.bind_eq_bind, Option.bind_some, hzero, if_true]
    rw [ofNat_eq_of_eq (a := a) (by omega)]
  | case3 a b =>
    have ha := a.toNat_lt
    have hb := b.toNat_lt
    simp only [encodeChars, decodeChars, decodeLast, true_and, if_true, letter_ne_pad, if_false]
    rw [sextet_letter (by omega), sextet_letter (by omega), sextet_letter (by omega)]
    have hzero : ((a.toNat * 1024 + b.toNat * 4) / 4096 * 4096 +
        (a.toNat * 1024 + b.toNat * 4) / 64 % 64 * 64 +
        (a.toNat * 1024 + b.toNat * 4) % 64) % 4 = 0 := by omega
    simp only [Option.bind_eq_bind, Option.bind_some, hzero, if_true]
    rw [ofNat_eq_of_eq (a := a) (by omega), ofNat_eq_of_eq (a := b) (by omega)]
  | case4 a b c rest ih =>
    have ha := a.toNat_lt
    have hb := b.toNat_lt
    have hc := c.toNat_lt
    simp only [encodeChars, decodeChars, letter_ne_pad, false_and, if_false, ih]
    rw [sextet_letter (by omega), sextet_letter (by omega), sextet_letter (by omega),
      sextet_letter (by omega)]
    simp only [Option.bind_eq_bind, Option.bind_some]
    rw [ofNat_eq_of_eq (a := a) (by omega), ofNat_eq_of_eq (a := b) (by omega),
      ofNat_eq_of_eq (a := c) (by omega)]

theorem decode_encode (bytes : List UInt8) : decode (encode bytes) = some bytes := by
  rw [decode, encode, String.toList_ofList]
  exact decodeChars_encodeChars bytes

theorem length_encodeChars (bytes : List UInt8) :
    (encodeChars bytes).length = 4 * ((bytes.length + 2) / 3) := by
  induction bytes using encodeChars.induct with
  | case1 => rfl
  | case2 a => simp only [encodeChars, List.length_cons, List.length_nil]
  | case3 a b => simp only [encodeChars, List.length_cons, List.length_nil]
  | case4 a b c rest ih =>
    simp only [encodeChars, List.length_cons, ih]
    omega

theorem length_encode (bytes : List UInt8) :
    (encode bytes).length = 4 * ((bytes.length + 2) / 3) := by
  rw [encode, String.length_ofList, length_encodeChars]

theorem isText_letter (n : Nat) : IsText (letter n) := .inl (letter_mem n)

theorem isText_encodeChars (bytes : List UInt8) : ∀ c ∈ encodeChars bytes, IsText c := by
  induction bytes using encodeChars.induct with
  | case1 => exact fun _ hc => nomatch hc
  | case2 a =>
    simp only [encodeChars, List.forall_mem_cons]
    exact ⟨isText_letter _, isText_letter _, .inr rfl, .inr rfl, fun _ hc => nomatch hc⟩
  | case3 a b =>
    simp only [encodeChars, List.forall_mem_cons]
    exact ⟨isText_letter _, isText_letter _, isText_letter _, .inr rfl, fun _ hc => nomatch hc⟩
  | case4 a b c rest ih =>
    simp only [encodeChars, List.forall_mem_cons]
    exact ⟨isText_letter _, isText_letter _, isText_letter _, isText_letter _, ih⟩

theorem isText_encode (bytes : List UInt8) : ∀ c ∈ (encode bytes).toList, IsText c := by
  rw [encode, String.toList_ofList]
  exact isText_encodeChars bytes

/-! ## Texts for links -/

/-- The alphabet with `-` and `_` in the place of `+` and `/`. -/
def urlAlphabet : List Char := charsFrom 65 26 ++ charsFrom 97 26 ++ charsFrom 48 10 ++ ['-', '_']

def toUrl (c : Char) : Char := if c = '+' then '-' else if c = '/' then '_' else c

def ofUrl (c : Char) : Char := if c = '-' then '+' else if c = '_' then '/' else c

/-- The padding that the last group lacks. -/
def pad : List Char → List Char
  | a :: b :: c :: d :: rest => a :: b :: c :: d :: pad rest
  | [a, b, c] => [a, b, c, '=']
  | [a, b] => [a, b, '=', '=']
  | cs => cs

def encodeUrlChars (bytes : List UInt8) : List Char :=
  ((encodeChars bytes).filter (· ≠ '=')).map toUrl

def encodeUrl (bytes : List UInt8) : String := String.ofList (encodeUrlChars bytes)

def decodeUrl (text : String) : Option (List UInt8) :=
  if text.toList.all (· ∈ urlAlphabet) then decodeChars (pad (text.toList.map ofUrl)) else none

theorem toUrl_mem {c : Char} (h : c ∈ alphabet) : toUrl c ∈ urlAlphabet ∧ ofUrl (toUrl c) = c := by
  have hall : alphabet.all (fun c => toUrl c ∈ urlAlphabet ∧ ofUrl (toUrl c) = c) = true := by
    decide +kernel
  exact of_decide_eq_true (List.all_eq_true.mp hall c h)

/-- The letters that are left are of the alphabet. -/
theorem filter_mem {bytes : List UInt8} {c : Char}
    (h : c ∈ (encodeChars bytes).filter (· ≠ '=')) : c ∈ alphabet := by
  obtain ⟨hmem, hne⟩ := List.mem_filter.mp h
  exact (isText_encodeChars bytes c hmem).resolve_right (of_decide_eq_true hne)

theorem encodeUrlChars_mem {bytes : List UInt8} {c : Char} (h : c ∈ encodeUrlChars bytes) :
    c ∈ urlAlphabet := by
  obtain ⟨d, hd, rfl⟩ := List.mem_map.mp h
  exact (toUrl_mem (filter_mem hd)).1

theorem filter_letter (n : Nat) (cs : List Char) : (letter n :: cs).filter (· ≠ '=') =
    letter n :: cs.filter (· ≠ '=') :=
  List.filter_cons_of_pos (decide_eq_true (letter_ne_pad n))

/-- Padding is what the filter has taken. -/
theorem pad_filter (bytes : List UInt8) :
    pad ((encodeChars bytes).filter (· ≠ '=')) = encodeChars bytes := by
  induction bytes using encodeChars.induct with
  | case1 => rfl
  | case2 a =>
    simp only [encodeChars, filter_letter]
    rfl
  | case3 a b =>
    simp only [encodeChars, filter_letter]
    rfl
  | case4 a b c rest ih => simp only [encodeChars, filter_letter, pad, ih]

theorem decodeUrl_encodeUrl (bytes : List UInt8) : decodeUrl (encodeUrl bytes) = some bytes := by
  have hback : (encodeUrlChars bytes).map ofUrl = (encodeChars bytes).filter (· ≠ '=') := by
    rw [encodeUrlChars, List.map_map]
    refine (List.map_congr_left fun c hc => ?_).trans (List.map_id _)
    exact (toUrl_mem (filter_mem hc)).2
  rw [decodeUrl, encodeUrl, String.toList_ofList, if_pos (List.all_eq_true.mpr fun c hc =>
    decide_eq_true (encodeUrlChars_mem hc)), hback, pad_filter]
  exact decodeChars_encodeChars bytes

theorem length_encodeUrlChars (bytes : List UInt8) :
    (encodeUrlChars bytes).length = (4 * bytes.length + 2) / 3 := by
  rw [encodeUrlChars, List.length_map]
  induction bytes using encodeChars.induct with
  | case1 => rfl
  | case2 a =>
    simp only [encodeChars, filter_letter, List.length_cons]
    rfl
  | case3 a b =>
    simp only [encodeChars, filter_letter, List.length_cons]
    rfl
  | case4 a b c rest ih =>
    simp only [encodeChars, filter_letter, List.length_cons, ih]
    omega

theorem length_encodeUrl (bytes : List UInt8) :
    (encodeUrl bytes).length = (4 * bytes.length + 2) / 3 := by
  rw [encodeUrl, String.length_ofList, length_encodeUrlChars]

theorem encodeUrl_mem (bytes : List UInt8) : ∀ c ∈ (encodeUrl bytes).toList, c ∈ urlAlphabet := by
  rw [encodeUrl, String.toList_ofList]
  exact fun c => encodeUrlChars_mem

end Lib.Base64

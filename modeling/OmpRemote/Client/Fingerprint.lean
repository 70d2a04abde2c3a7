import Mathlib.Data.Vector.Defs
import OmpRemote.Lib.Utf8
import OmpRemote.Ompd.PairingLink

/-!
# Fingerprints of certificates

The daemon prints the digest of its certificate in hexadecimal, and a client that is
given the text pins the digest.

- `certificateFingerprint`, `decodeFingerprint`.
- `decodePairs_cases`: what becomes of a text of 64 bytes.
- `decodeFingerprint_exact_iff`: which texts are treated as they should be.
-/

namespace OmpRemote.Client

open Lib Ompd

abbrev Digest := List.Vector UInt8 32

/-! ## Integers in hexadecimal -/

/-- `to_digit(16)`. -/
def hexDigit (c : Char) : Option Nat :=
  if '0' ≤ c ∧ c ≤ '9' then some (c.toNat - '0'.toNat)
  else if 'a' ≤ c ∧ c ≤ 'f' then some (c.toNat - 'a'.toNat + 10)
  else if 'A' ≤ c ∧ c ≤ 'F' then some (c.toNat - 'A'.toNat + 10)
  else none

def u8FromDigits (value : Nat) : List Char → Option UInt8
  | [] => some (UInt8.ofNat value)
  | c :: cs =>
    match hexDigit c with
    | none => none
    | some digit =>
      if value * 16 + digit < 2 ^ 8 then u8FromDigits (value * 16 + digit) cs else none

/-- `u8::from_str_radix` with the radix 16: a plus sign may precede the digits. -/
def u8FromStrRadix16 : List Char → Option UInt8
  | [] => none
  | '+' :: c :: cs => u8FromDigits 0 (c :: cs)
  | cs => u8FromDigits 0 cs

/-! ## Both sides -/

/-- A byte as `{byte:02x}`. -/
def hexPair (byte : UInt8) : List Char :=
  [(byte.toNat / 16).digitChar, (byte.toNat % 16).digitChar]

def fingerprintText (digest : Digest) : List Char := digest.toList.flatMap hexPair

/-- What is read of a file is at least one certificate. -/
def certificateFingerprint
    (readCertificates : String → Except TransportConfigError { cs : List ByteArray // cs ≠ [] })
    (sha256 : ByteArray → Digest) (path : String) : Except TransportConfigError String :=
  (readCertificates path).map fun certificates =>
    String.ofList (fingerprintText (sha256 (certificates.1.head certificates.2)))

/-- How a call ends. -/
inductive Outcome (α : Type) where
  | returned (value : α)
  | failed (message : String)
  | panicked
  deriving DecidableEq, Repr

def Outcome.map {α β : Type} (f : α → β) : Outcome α → Outcome β
  | returned value => returned (f value)
  | failed message => failed message
  | panicked => panicked

/-- The loop from an index on: a slice that cuts a character is a panic. -/
def decodePairs (value : List Char) (index : Nat) : (left : Nat) → Outcome (List.Vector UInt8 left)
  | 0 => .returned .nil
  | left + 1 =>
    let offset := index * 2
    match Utf8.slice? value offset (offset + 2) with
    | none => .panicked
    | some pair =>
      match u8FromStrRadix16 pair with
      | none => .failed "SHA-256 certificate fingerprint contains non-hexadecimal data"
      | some byte => (decodePairs value (index + 1) left).map (.cons byte)

def decodeFingerprint (value : List Char) : Outcome Digest :=
  if Utf8.size value ≠ 64 then
    .failed "SHA-256 certificate fingerprint must contain 64 hexadecimal characters"
  else decodePairs value 0 32

/-! ## Pairs -/

def isHexDigit (c : Char) : Bool := (hexDigit c).isSome

/-- Two characters that are read as a byte. -/
def isPair (a b : Char) : Bool := (isHexDigit a || a == '+') && isHexDigit b

/-- Every two characters are. -/
def allPairs : List Char → Bool
  | [] => true
  | [_] => false
  | a :: b :: cs => isPair a b && allPairs cs

/-- Whether the first two bytes that are no pair are whole characters. -/
def firstOtherWhole : List Char → Bool
  | [] => false
  | [c] => c.utf8Size == 2
  | a :: b :: cs =>
    if isPair a b then firstOtherWhole cs
    else a.utf8Size == 2 || (a.utf8Size == 1 && b.utf8Size == 1)

theorem hexDigit_some {c : Char} {digit : Nat} (h : hexDigit c = some digit) :
    digit < 16 ∧ c.toNat < 128 ∧ c ≠ '+' := by
  have hle : ∀ {a b : Char}, a ≤ b → a.toNat ≤ b.toNat := fun hab => hab
  have hplus : c.toNat ≠ '+'.toNat → c ≠ '+' := fun hne heq => hne (congrArg _ heq)
  have hchars : '0'.toNat = 48 ∧ '9'.toNat = 57 ∧ 'a'.toNat = 97 ∧ 'f'.toNat = 102 ∧
    'A'.toNat = 65 ∧ 'F'.toNat = 70 ∧ '+'.toNat = 43 := by decide
  unfold hexDigit at h
  split at h
  · rename_i hrange
    have := hle hrange.1
    have := hle hrange.2
    cases h
    exact ⟨by omega, by omega, hplus (by omega)⟩
  split at h
  · rename_i hrange
    have := hle hrange.1
    have := hle hrange.2
    cases h
    exact ⟨by omega, by omega, hplus (by omega)⟩
  · obtain ⟨hrange, hdigit⟩ := Option.ite_none_right_eq_some.mp h
    have := hle hrange.1
    have := hle hrange.2
    cases hdigit
    exact ⟨by omega, by omega, hplus (by omega)⟩

theorem utf8Size_of_hexDigit {c : Char} (h : isHexDigit c = true) : c.utf8Size = 1 := by
  obtain ⟨digit, hdigit⟩ := Option.isSome_iff_exists.mp h
  obtain ⟨-, hascii, -⟩ := hexDigit_some hdigit
  have : c.val.toNat < 128 := hascii
  exact Char.utf8Size_eq_one_iff.mpr (UInt32.le_iff_toNat_le.mpr (Nat.le_of_lt_succ this))

theorem u8FromDigits_cons {value : Nat} {c : Char} {digit : Nat} (h : hexDigit c = some digit)
    (hsmall : value < 16) (cs : List Char) :
    u8FromDigits value (c :: cs) = u8FromDigits (value * 16 + digit) cs := by
  have := (hexDigit_some h).1
  rw [u8FromDigits, h]
  exact if_pos (by omega)

theorem u8FromDigits_none {value : Nat} {c : Char} (h : hexDigit c = none) (cs : List Char) :
    u8FromDigits value (c :: cs) = none := by
  rw [u8FromDigits, h]

/-- Without a sign only digits are read. -/
theorem u8FromStrRadix16_unsigned {c : Char} (h : c ≠ '+') (cs : List Char) :
    u8FromStrRadix16 (c :: cs) = u8FromDigits 0 (c :: cs) := by
  unfold u8FromStrRadix16
  split
  · rename_i heq
    cases heq
  · rename_i heq
    cases heq
    exact absurd rfl h
  · rfl

/-- A pair and nothing else is read of two characters. -/
theorem u8FromStrRadix16_isSome (a b : Char) :
    (u8FromStrRadix16 [a, b]).isSome = isPair a b := by
  unfold isPair isHexDigit
  -- a sign counts as a first digit of zero
  by_cases hplus : a = '+'
  · subst hplus
    show (u8FromDigits 0 [b]).isSome = (hexDigit b).isSome
    cases hb : hexDigit b with
    | none =>
      rw [u8FromDigits_none hb]
      rfl
    | some low =>
      rw [u8FromDigits_cons hb (by decide)]
      rfl
  · rw [u8FromStrRadix16_unsigned hplus, beq_eq_false_iff_ne.mpr hplus, Bool.or_false]
    cases ha : hexDigit a with
    | none =>
      rw [u8FromDigits_none ha]
      rfl
    | some high =>
      rw [u8FromDigits_cons ha (by decide)]
      cases hb : hexDigit b with
      | none => rw [u8FromDigits_none hb]; rfl
      | some low =>
        have := (hexDigit_some ha).1
        rw [u8FromDigits_cons hb (by omega)]
        rfl

/-- Nothing is read of a character of more than one byte. -/
theorem u8FromStrRadix16_wide {c : Char} (h : c.utf8Size ≠ 1) :
    u8FromStrRadix16 [c] = none := by
  have hdigit : hexDigit c = none := by
    rw [← Option.not_isSome_iff_eq_none]
    exact fun hdigit => h (utf8Size_of_hexDigit hdigit)
  have hplus : c ≠ '+' := by
    rintro rfl
    exact h (by decide)
  rw [u8FromStrRadix16_unsigned hplus, u8FromDigits_none hdigit]

/-! ## The loop -/

theorem utf8Size_of_isPair {a b : Char} (h : isPair a b = true) :
    a.utf8Size = 1 ∧ b.utf8Size = 1 := by
  obtain ⟨ha, hb⟩ := Bool.and_eq_true_iff.mp h
  refine ⟨?_, utf8Size_of_hexDigit hb⟩
  rcases Bool.or_eq_true_iff.mp ha with ha | ha
  · exact utf8Size_of_hexDigit ha
  · rw [beq_iff_eq.mp ha]
    decide

/-- What is read, or not, of the two bytes at an index. -/
theorem decodePairs_succ {value front cs : List Char} (hvalue : value = front ++ cs) {index : Nat}
    (hfront : Utf8.size front = index * 2) (left : Nat) :
    decodePairs value index (left + 1) =
      match Utf8.splitAt? cs 2 with
      | none => .panicked
      | some (pair, _) =>
        match u8FromStrRadix16 pair with
        | none => .failed "SHA-256 certificate fingerprint contains non-hexadecimal data"
        | some byte => (decodePairs value (index + 1) left).map (.cons byte) := by
  rw [decodePairs, hvalue, ← hfront, Utf8.slice?_append]
  cases Utf8.splitAt? cs 2 <;> rfl

/-- Two bytes that are no pair are refused when they are whole characters. -/
theorem splitAt?_two (a b : Char) (cs : List Char) :
    (∃ pair rest, Utf8.splitAt? (a :: b :: cs) 2 = some (pair, rest) ∧
        (a.utf8Size == 2 || (a.utf8Size == 1 && b.utf8Size == 1)) = true ∧
        (isPair a b = false → u8FromStrRadix16 pair = none)) ∨
      (Utf8.splitAt? (a :: b :: cs) 2 = none ∧
        (a.utf8Size == 2 || (a.utf8Size == 1 && b.utf8Size == 1)) = false) := by
  have := a.utf8Size_pos
  have := b.utf8Size_pos
  by_cases htwo : a.utf8Size = 2
  · refine .inl ⟨[a], b :: cs, Utf8.splitAt?_eq_some.mpr ⟨rfl, htwo⟩, ?_, fun _ => ?_⟩
    · rw [htwo]
      rfl
    · exact u8FromStrRadix16_wide (by omega)
  by_cases hone : a.utf8Size = 1
  · by_cases hnext : b.utf8Size = 1
    · refine .inl ⟨[a, b], cs, Utf8.splitAt?_eq_some.mpr ⟨rfl, ?_⟩, ?_, fun hpair => ?_⟩
      · rw [Utf8.size_cons, Utf8.size_cons, hone, hnext, Utf8.size_nil]
      · rw [hone, hnext]
        rfl
      · rw [← Option.not_isSome_iff_eq_none, u8FromStrRadix16_isSome, hpair]
        exact Bool.false_ne_true
    · -- the second byte begins a character that goes on
      refine .inr ⟨?_, ?_⟩
      · have hcut := Utf8.splitAt?_append [a] (b :: cs) 1
        rw [Utf8.splitAt?_inside cs (by decide) (by omega), Utf8.size_cons, hone] at hcut
        exact hcut
      · rw [hone, beq_eq_false_iff_ne.mpr hnext]
        rfl
  · refine .inr ⟨Utf8.splitAt?_inside _ (by decide) (by omega), ?_⟩
    rw [beq_eq_false_iff_ne.mpr htwo, beq_eq_false_iff_ne.mpr hone]
    rfl

/-- A text is read, refused, or cut inside a character. -/
theorem decodePairs_cases {value front cs : List Char} (hvalue : value = front ++ cs) {index : Nat}
    (hfront : Utf8.size front = index * 2) {left : Nat} (hcs : Utf8.size cs = left * 2) :
    (allPairs cs = true ∧ firstOtherWhole cs = false ∧
        ∃ bytes, decodePairs value index left = .returned bytes) ∨
      (allPairs cs = false ∧ firstOtherWhole cs = true ∧
        decodePairs value index left =
          .failed "SHA-256 certificate fingerprint contains non-hexadecimal data") ∨
      (allPairs cs = false ∧ firstOtherWhole cs = false ∧
        decodePairs value index left = .panicked) := by
  -- `front` are the bytes before the index, `cs` what is left to be read
  induction left generalizing front cs index with
  | zero =>
    have hempty : cs = [] := Utf8.size_eq_zero.mp (by omega)
    subst hempty
    exact .inl ⟨rfl, rfl, _, rfl⟩
  | succ left ih =>
    rw [decodePairs_succ hvalue hfront]
    match cs with
    | [] => exact absurd hcs (by rw [Utf8.size_nil]; omega)
    | [c] =>
      have := c.utf8Size_le_four
      rw [Utf8.size_cons, Utf8.size_nil] at hcs
      -- one character is left: it is refused as a whole, or cut
      by_cases htwo : c.utf8Size = 2
      · have hcut : Utf8.splitAt? [c] 2 = some ([c], []) :=
          Utf8.splitAt?_eq_some.mpr ⟨rfl, htwo⟩
        rw [hcut]
        dsimp only
        rw [u8FromStrRadix16_wide (by omega)]
        exact .inr (.inl ⟨rfl, beq_iff_eq.mpr htwo, rfl⟩)
      · rw [Utf8.splitAt?_inside [] (by decide) (by omega)]
        exact .inr (.inr ⟨rfl, beq_eq_false_iff_ne.mpr htwo, rfl⟩)
    | a :: b :: cs =>
      rw [allPairs, firstOtherWhole]
      cases hpair : isPair a b with
      | true =>
        -- a byte is read, and the loop goes on behind it
        obtain ⟨ha, hb⟩ := utf8Size_of_isPair hpair
        have htwo : Utf8.size [a, b] = 2 := by
          rw [Utf8.size_cons, Utf8.size_cons, ha, hb, Utf8.size_nil]
        have hcut : Utf8.splitAt? (a :: b :: cs) 2 = some ([a, b], cs) :=
          Utf8.splitAt?_eq_some.mpr ⟨rfl, htwo⟩
        obtain ⟨byte, hbyte⟩ := Option.isSome_iff_exists.mp
          ((u8FromStrRadix16_isSome a b).trans hpair)
        rw [hcut]
        dsimp only
        rw [hbyte, Bool.true_and, if_pos rfl]
        have hvalue' : value = front ++ [a, b] ++ cs := by
          rw [hvalue, List.append_assoc]
          rfl
        have hfront' : Utf8.size (front ++ [a, b]) = (index + 1) * 2 := by
          rw [Utf8.size_append, htwo, hfront]
          omega
        have hcs' : Utf8.size cs = left * 2 := by
          rw [Utf8.size_cons, Utf8.size_cons, ha, hb] at hcs
          omega
        rcases ih hvalue' hfront' hcs' with ⟨hall, hother, bytes, hrest⟩ | ⟨hall, hother, hrest⟩ |
          ⟨hall, hother, hrest⟩
        · exact .inl ⟨hall, hother, _, by rw [hrest]; rfl⟩
        · exact .inr (.inl ⟨hall, hother, by rw [hrest]; rfl⟩)
        · exact .inr (.inr ⟨hall, hother, by rw [hrest]; rfl⟩)
      | false =>
        rw [Bool.false_and, if_neg Bool.false_ne_true]
        -- the loop ends here, whatever comes after
        rcases splitAt?_two a b cs with ⟨pair, rest, hcut, hwhole, hnone⟩ | ⟨hcut, hwhole⟩
        · rw [hcut]
          dsimp only
          rw [hnone hpair]
          exact .inr (.inl ⟨rfl, hwhole, rfl⟩)
        · rw [hcut]
          exact .inr (.inr ⟨rfl, hwhole, rfl⟩)

/-! ## Digests -/

theorem u8FromStrRadix16_hexPair (byte : UInt8) : u8FromStrRadix16 (hexPair byte) = some byte := by
  -- all bytes are tried
  have hall : ∀ n : Fin 256, u8FromStrRadix16 (hexPair (UInt8.ofNat n)) = some (UInt8.ofNat n) := by
    decide +kernel
  have h := hall ⟨byte.toNat, byte.toNat_lt⟩
  rwa [UInt8.ofNat_toNat] at h

theorem size_hexPair (byte : UInt8) : Utf8.size (hexPair byte) = 2 := by
  have hall : ∀ n : Fin 256, Utf8.size (hexPair (UInt8.ofNat n)) = 2 := by decide +kernel
  have h := hall ⟨byte.toNat, byte.toNat_lt⟩
  rwa [UInt8.ofNat_toNat] at h

theorem size_hexPairs (bytes : List UInt8) :
    Utf8.size (bytes.flatMap hexPair) = bytes.length * 2 := by
  induction bytes with
  | nil => rfl
  | cons byte bytes ih =>
    rw [List.flatMap_cons, Utf8.size_append, size_hexPair, ih, List.length_cons]
    omega

theorem decodePairs_hexPairs {value front : List Char} {index left : Nat}
    {bytes : List.Vector UInt8 left} (hvalue : value = front ++ bytes.toList.flatMap hexPair)
    (hfront : Utf8.size front = index * 2) : decodePairs value index left = .returned bytes := by
  induction left generalizing front index with
  | zero => rw [decodePairs, bytes.eq_nil]
  | succ left ih =>
    -- the digest is read off its own text, two characters at a time
    obtain ⟨byte, bytes, rfl⟩ : ∃ byte rest, bytes = List.Vector.cons byte rest :=
      ⟨bytes.head, bytes.tail, bytes.cons_head_tail.symm⟩
    rw [List.Vector.toList_cons, List.flatMap_cons] at hvalue
    have hcut : Utf8.splitAt? (hexPair byte ++ bytes.toList.flatMap hexPair) 2 =
        some (hexPair byte, bytes.toList.flatMap hexPair) :=
      Utf8.splitAt?_eq_some.mpr ⟨rfl, size_hexPair byte⟩
    rw [decodePairs_succ hvalue hfront, hcut]
    dsimp only
    rw [u8FromStrRadix16_hexPair]
    dsimp only
    have hvalue' : value = front ++ hexPair byte ++ bytes.toList.flatMap hexPair := by
      rw [hvalue, List.append_assoc]
    have hfront' : Utf8.size (front ++ hexPair byte) = (index + 1) * 2 := by
      rw [Utf8.size_append, hfront, size_hexPair]
      omega
    rw [ih hvalue' hfront']
    rfl

/-- A client reads the digest that is printed. -/
theorem decodeFingerprint_text (digest : Digest) :
    decodeFingerprint (fingerprintText digest) = .returned digest := by
  have hsize : Utf8.size (fingerprintText digest) = 64 := by
    rw [fingerprintText, size_hexPairs, List.Vector.toList_length]
  rw [decodeFingerprint, if_neg (not_not_intro hsize)]
  exact decodePairs_hexPairs (List.nil_append _).symm Utf8.size_nil

/-- So a client that is given it pins the first certificate. -/
theorem decodeFingerprint_certificate
    {readCertificates : String → Except TransportConfigError { cs : List ByteArray // cs ≠ [] }}
    {sha256 : ByteArray → Digest} {path text : String}
    (h : certificateFingerprint readCertificates sha256 path = .ok text) :
    ∃ certificates, readCertificates path = .ok certificates ∧
      decodeFingerprint text.toList =
        .returned (sha256 (certificates.1.head certificates.2)) := by
  unfold certificateFingerprint at h
  cases hread : readCertificates path with
  | error error =>
    rw [hread] at h
    cases h
  | ok certificates =>
    rw [hread] at h
    cases h
    exact ⟨certificates, rfl, by rw [String.toList_ofList, decodeFingerprint_text]⟩

/-! ## The law -/

/-- The text of a fingerprint: 64 hexadecimal digits. -/
def IsFingerprint (value : List Char) : Prop :=
  value.length = 64 ∧ ∀ c ∈ value, isHexDigit c = true

instance (value : List Char) : Decidable (IsFingerprint value) :=
  have : Decidable (∀ c ∈ value, isHexDigit c = true) := List.decidableBAll _ value
  inferInstanceAs (Decidable (_ ∧ _))

theorem size_of_hexDigits {cs : List Char} (h : ∀ c ∈ cs, isHexDigit c = true) :
    Utf8.size cs = cs.length := by
  induction cs with
  | nil => rfl
  | cons c cs ih =>
    rw [List.forall_mem_cons] at h
    rw [Utf8.size_cons, utf8Size_of_hexDigit h.1, ih h.2, List.length_cons, Nat.add_comm]

theorem allPairs_of_hexDigits : ∀ {cs : List Char} {left : Nat}, cs.length = left * 2 →
    (∀ c ∈ cs, isHexDigit c = true) → allPairs cs = true
  | [], _, _, _ => rfl
  | [_], _, hlength, _ => by
    rw [List.length_singleton] at hlength
    omega
  | a :: b :: cs, left, hlength, h => by
    rw [List.forall_mem_cons, List.forall_mem_cons] at h
    have hrest : cs.length = (left - 1) * 2 := by
      rw [List.length_cons, List.length_cons] at hlength
      omega
    rw [allPairs, isPair, h.1, h.2.1, allPairs_of_hexDigits hrest h.2.2]
    rfl

/-- **Which pins are parsed exactly.** For a text the call returns a digest iff it is a
fingerprint, and does not panic, iff it is not 64 bytes long, or a fingerprint, or the
first two bytes that are neither two digits nor a plus sign and a digit are whole
characters. And it always reads the digest that is printed. -/
theorem decodeFingerprint_exact_iff (value : List Char) :
    (((∃ digest, decodeFingerprint value = .returned digest) ↔ IsFingerprint value) ∧
        decodeFingerprint value ≠ .panicked ↔
      Utf8.size value ≠ 64 ∨ IsFingerprint value ∨ firstOtherWhole value = true) ∧
    ∀ digest, decodeFingerprint (fingerprintText digest) = .returned digest := by
  refine ⟨?_, decodeFingerprint_text⟩
  by_cases hsize : Utf8.size value = 64
  · have hbytes : Utf8.size value = 32 * 2 := hsize
    have hdecode : decodeFingerprint value = decodePairs value 0 32 :=
      if_neg (not_not_intro hsize)
    have hpairs : IsFingerprint value → allPairs value = true :=
      fun h => @allPairs_of_hexDigits value 32 h.1 h.2
    rw [hdecode]
    rcases decodePairs_cases (List.nil_append value).symm (Nat.zero_mul 2).symm hbytes with
      ⟨hall, hother, digest, hread⟩ | ⟨hall, hother, hrefused⟩ | ⟨hall, hother, hpanicked⟩
    · -- a plus sign is read like a zero
      rw [hread, hother]
      constructor
      · rintro ⟨hexact, -⟩
        exact .inr (.inl (hexact.mp ⟨digest, rfl⟩))
      · rintro (h | h | h)
        · exact absurd hsize h
        · exact ⟨⟨fun _ => h, fun _ => ⟨digest, rfl⟩⟩, nofun⟩
        · cases h
    · -- no text of digits is refused
      rw [hrefused, hother]
      refine ⟨fun _ => .inr (.inr rfl), fun _ => ⟨⟨nofun, fun h => ?_⟩, nofun⟩⟩
      rw [hpairs h] at hall
      cases hall
    · -- nor is one cut, since a digit is one byte
      rw [hpanicked, hother]
      constructor
      · rintro ⟨-, h⟩
        exact absurd rfl h
      · rintro (h | h | h)
        · exact absurd hsize h
        · rw [hpairs h] at hall
          cases hall
        · cases h
  · rw [decodeFingerprint, if_pos hsize]
    refine ⟨fun _ => .inl hsize, fun _ => ⟨⟨nofun, fun h => ?_⟩, nofun⟩⟩
    exact absurd ((size_of_hexDigits h.2).trans h.1) hsize

/-- A text with a sign, which is read, and one that is cut inside its first character. -/
theorem decodeFingerprint_sign_and_cut :
    ¬ IsFingerprint ('+' :: List.replicate 63 '0') ∧
      (∃ digest, decodeFingerprint ('+' :: List.replicate 63 '0') = .returned digest) ∧
      decodeFingerprint ('0' :: 'é' :: List.replicate 61 '0') = .panicked := by
  refine ⟨by decide +kernel, ⟨.replicate 32 0, by decide +kernel⟩, by decide +kernel⟩

end OmpRemote.Client

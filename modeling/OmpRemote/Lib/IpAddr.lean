import Mathlib.Algebra.GroupWithZero.Nat
import Mathlib.Data.List.Basic
import Mathlib.Data.List.TakeWhile

/-!
# Addresses as text

How the standard library writes and reads addresses of both versions.

- `dotted`, `ipv6Text`: what is written.
- `IpAddr.parse`: what is read; `parse_dotted`, `parse_bracket`.
-/

namespace Lib

abbrev Octets := UInt8 × UInt8 × UInt8 × UInt8

inductive IpAddr where
  | v4 (octets : Octets)
  | v6 (address : BitVec 128)
  deriving DecidableEq, Repr

namespace IpAddr

def isLoopback : IpAddr → Bool
  | v4 octets => octets.1 == 127
  | v6 address => address == 1

/-! ## What is written -/

def decimal (value : Nat) : List Char := Nat.toDigits 10 value

def dotted : Octets → List Char
  | (a, b, c, d) => decimal a.toNat ++ '.' :: (decimal b.toNat ++ '.' :: (decimal c.toNat ++
      '.' :: decimal d.toNat))

/-- The eight groups of an address, the highest first. -/
def groupsOf (address : BitVec 128) : List Nat :=
  (List.range 8).map fun i => address.toNat / 2 ^ (16 * (7 - i)) % 2 ^ 16

/-- The first of the longest runs of zeros: where it starts and how long it is. -/
def zeros (groups : List Nat) : Nat × Nat :=
  let scan := groups.zipIdx.foldl (fun (longest, current) (group, i) =>
    if group = 0 then
      let current := (if current.2 = 0 then i else current.1, current.2 + 1)
      (if longest.2 < current.2 then current else longest, current)
    else (longest, (0, 0))) (((0, 0), (0, 0)) : (Nat × Nat) × (Nat × Nat))
  scan.1

def hexGroups (groups : List Nat) : List Char :=
  [':'].intercalate (groups.map (Nat.toDigits 16))

def ipv6Text (address : BitVec 128) : List Char :=
  let groups := groupsOf address
  if groups.take 6 = [0, 0, 0, 0, 0, 0xffff] then
    let octet := fun shift => UInt8.ofNat (address.toNat / 2 ^ shift)
    "::ffff:".toList ++ dotted (octet 24, octet 16, octet 8, octet 0)
  else
    let run := zeros groups
    if 1 < run.2 then
      hexGroups (groups.take run.1) ++ "::".toList ++ hexGroups (groups.drop (run.1 + run.2))
    else hexGroups groups

example : String.ofList (ipv6Text 1) = "::1" := by decide +kernel

/-! ## What is read -/

/-- `to_digit`. -/
def digitOf (radix : Nat) (c : Char) : Option Nat :=
  let value :=
    if '0' ≤ c ∧ c ≤ '9' then some (c.toNat - '0'.toNat)
    else if 'a' ≤ c ∧ c ≤ 'z' then some (c.toNat - 'a'.toNat + 10)
    else if 'A' ≤ c ∧ c ≤ 'Z' then some (c.toNat - 'A'.toNat + 10)
    else none
  value.filter (· < radix)

/-- A number of at most `maxDigits` digits below a bound, and what follows it. -/
def readNumber (radix maxDigits bound : Nat) (allowZeroPrefix : Bool) (input : List Char) :
    Option (Nat × List Char) :=
  let digits := input.takeWhile fun c => (digitOf radix c).isSome
  let value := digits.foldl (fun value c => value * radix + (digitOf radix c).getD 0) 0
  if digits.isEmpty || maxDigits < digits.length then none
  else if !allowZeroPrefix && input.head? == some '0' && 1 < digits.length then none
  else if value < bound then some (value, input.drop digits.length)
  else none

def readGivenChar (target : Char) : List Char → Option (List Char)
  | [] => none
  | c :: cs => if c = target then some cs else none

/-- What `read` reads, after a separator unless it is the first of its kind. -/
def readSeparated {α : Type} (separator : Char) (first : Bool)
    (read : List Char → Option (α × List Char)) (input : List Char) : Option (α × List Char) :=
  if first then read input else (readGivenChar separator input).bind read

def readOctet (first : Bool) (input : List Char) : Option (UInt8 × List Char) :=
  (readSeparated '.' first (readNumber 10 3 (2 ^ 8) false) input).map fun read =>
    (UInt8.ofNat read.1, read.2)

def readIpv4 (input : List Char) : Option (Octets × List Char) := do
  let (a, input) ← readOctet true input
  let (b, input) ← readOctet false input
  let (c, input) ← readOctet false input
  let (d, input) ← readOctet false input
  some ((a, b, c, d), input)

/-- At most `left` groups, whether they end in an address of version 4, and what follows. -/
def readGroups : (left : Nat) → (first : Bool) → List Char → List Nat × Bool × List Char
  | 0, _, input => ([], false, input)
  | left + 1, first, input =>
    -- such an address is two groups
    match (if left = 0 then none else readSeparated ':' first readIpv4 input) with
    | some ((a, b, c, d), input) =>
      ([a.toNat * 2 ^ 8 + b.toNat, c.toNat * 2 ^ 8 + d.toNat], true, input)
    | none =>
      match readSeparated ':' first (readNumber 16 4 (2 ^ 16) true) input with
      | none => ([], false, input)
      | some (group, input) =>
        let (groups, embedded, input) := readGroups left false input
        (group :: groups, embedded, input)

def ofGroups (groups : List Nat) : BitVec 128 :=
  BitVec.ofNat 128 (groups.foldl (fun value group => value * 2 ^ 16 + group) 0)

def readIpv6 (input : List Char) : Option (BitVec 128 × List Char) :=
  let (head, embedded, input) := readGroups 8 true input
  if head.length = 8 then some (ofGroups head, input)
  else if embedded then none
  else do
    let input ← readGivenChar ':' input
    let input ← readGivenChar ':' input
    -- the colons stand for at least one group
    let (tail, _, input) := readGroups (8 - (head.length + 1)) true input
    some (ofGroups (head ++ List.replicate (8 - head.length - tail.length) 0 ++ tail), input)

/-- `str::parse`: an address and nothing else. -/
def parse (text : List Char) : Option IpAddr :=
  let read := (readIpv4 text).map (fun read => (v4 read.1, read.2)) <|>
    (readIpv6 text).map (fun read => (v6 read.1, read.2))
  match read with
  | some (address, []) => some address
  | _ => none

example : parse "::ffff:1.2.3.4".toList = some (.v6 0xffff01020304) := by decide +kernel

/-! ## Reading what is written -/

/-- A number ends where its digits do. -/
theorem readNumber_append {radix maxDigits bound : Nat} {allowZeroPrefix : Bool}
    {digits rest : List Char} (hne : digits ≠ [])
    (hdigits : ∀ c ∈ digits, (digitOf radix c).isSome = true)
    (hrest : ∀ c ∈ rest.head?, digitOf radix c = none) :
    readNumber radix maxDigits bound allowZeroPrefix (digits ++ rest) =
      (readNumber radix maxDigits bound allowZeroPrefix digits).map fun read => (read.1, rest) := by
  -- no digit follows
  have hnone : rest.takeWhile (fun c => (digitOf radix c).isSome) = [] := by
    cases rest with
    | nil => rfl
    | cons c rest =>
      refine List.takeWhile_cons_of_neg ?_
      rw [hrest c rfl]
      exact Bool.false_ne_true
  have hwhole : (digits ++ rest).takeWhile (fun c => (digitOf radix c).isSome) = digits := by
    rw [List.takeWhile_append_of_pos hdigits, hnone, List.append_nil]
  have hdigits : digits.takeWhile (fun c => (digitOf radix c).isSome) = digits :=
    List.takeWhile_eq_self_iff.mpr hdigits
  have hhead : (digits ++ rest).head? = digits.head? := List.head?_append_of_ne_nil _ hne
  unfold readNumber
  simp only [hwhole, hdigits, hhead, List.drop_left]
  split
  · rfl
  split
  · rfl
  split
  · rfl
  · rfl

theorem readNumber_none {radix maxDigits bound : Nat} {allowZeroPrefix : Bool} {c : Char}
    (h : digitOf radix c = none) (cs : List Char) :
    readNumber radix maxDigits bound allowZeroPrefix (c :: cs) = none := by
  have hnone : (c :: cs).takeWhile (fun c => (digitOf radix c).isSome) = [] := by
    refine List.takeWhile_cons_of_neg ?_
    rw [h]
    exact Bool.false_ne_true
  unfold readNumber
  simp only [hnone]
  rfl

theorem readNumber_decimal (octet : UInt8) {rest : List Char}
    (hrest : ∀ c ∈ rest.head?, digitOf 10 c = none) :
    readNumber 10 3 (2 ^ 8) false (decimal octet.toNat ++ rest) = some (octet.toNat, rest) := by
  -- all octets are tried
  have hall : ∀ n : Fin 256, decimal n ≠ [] ∧
      (decimal n).all (fun c => (digitOf 10 c).isSome) = true ∧
      readNumber 10 3 (2 ^ 8) false (decimal n) = some (n.1, []) := by decide +kernel
  obtain ⟨hne, hdigits, hread⟩ := hall ⟨octet.toNat, octet.toNat_lt⟩
  rw [readNumber_append hne (List.all_eq_true.mp hdigits) hrest, hread]
  rfl

theorem readOctet_decimal (octet : UInt8) {rest : List Char}
    (hrest : ∀ c ∈ rest.head?, digitOf 10 c = none) :
    readOctet true (decimal octet.toNat ++ rest) = some (octet, rest) ∧
      readOctet false ('.' :: (decimal octet.toNat ++ rest)) = some (octet, rest) := by
  have hread : (readNumber 10 3 (2 ^ 8) false (decimal octet.toNat ++ rest)).map (fun read =>
      (UInt8.ofNat read.1, read.2)) = some (octet, rest) := by
    rw [readNumber_decimal octet hrest, Option.map_some, UInt8.ofNat_toNat]
  exact ⟨hread, hread⟩

/-- A dotted address is read. -/
theorem parse_dotted (octets : Octets) : parse (dotted octets) = some (.v4 octets) := by
  obtain ⟨a, b, c, d⟩ := octets
  have hdot : ∀ rest : List Char, ∀ c ∈ ('.' :: rest).head?, digitOf 10 c = none := by
    intro rest c hc
    cases hc
    decide
  have hread : readIpv4 (dotted (a, b, c, d)) = some ((a, b, c, d), []) := by
    have hlast := (@readOctet_decimal d [] nofun).2
    rw [List.append_nil] at hlast
    unfold readIpv4 dotted
    rw [(readOctet_decimal a (hdot _)).1]
    simp only [Option.bind_eq_bind, Option.bind_some]
    rw [(readOctet_decimal b (hdot _)).2]
    simp only [Option.bind_some]
    rw [(readOctet_decimal c (hdot _)).2]
    simp only [Option.bind_some]
    rw [hlast]
    rfl
  unfold parse
  rw [hread]
  rfl

/-- An address in brackets is not. -/
theorem parse_bracket (text : List Char) : parse ('[' :: text) = none := by
  have hdecimal : digitOf 10 '[' = none := by decide
  have hhex : digitOf 16 '[' = none := by decide
  -- no reader takes a bracket: neither a digit nor a colon
  have hv4 : readIpv4 ('[' :: text) = none := by
    unfold readIpv4 readOctet readSeparated
    rw [if_pos rfl, readNumber_none hdecimal]
    rfl
  have hv6 : readIpv6 ('[' :: text) = none := by
    have hgroups : readGroups 8 true ('[' :: text) = ([], false, '[' :: text) := by
      unfold readGroups readSeparated
      rw [if_neg (by decide), if_pos rfl, if_pos rfl, hv4, readNumber_none hhex]
    unfold readIpv6
    rw [hgroups]
    rfl
  unfold parse
  rw [hv4, hv6]
  rfl

end IpAddr

end Lib

import Mathlib.Data.List.Basic

/-!
# A broadcast channel

A channel that keeps the last few values sent. Senders never wait; a receiver that
is further behind than the channel reaches is told so once, and goes on with the
oldest value that is left.

- `Broadcast.recv`: one poll of a receiver, which is a position among the values
  sent.
- `recv_value`, `recv_lagged`, `recv_end`: what a poll says about the values the
  receiver has passed. It skips some only when it is told that it lagged.
-/

namespace Lib

universe u

/-- A broadcast channel, with everything ever sent. -/
structure Broadcast (α : Type u) where
  slots : Nat
  sent : List α
  senderOpen : Bool

/-- What one poll of a receiver finds. -/
inductive Recv (α : Type u) where
  | value (value : α)
  /-- The oldest value left is at `next`. -/
  | lagged (next : Nat)
  | closed
  | pending

namespace Broadcast

variable {α : Type u} {c : Broadcast α} {next : Nat}

def new (slots : Nat) : Broadcast α := ⟨slots, [], true⟩

def send (c : Broadcast α) (value : α) : Broadcast α := { c with sent := c.sent ++ [value] }

/-- The last sender is dropped. -/
def close (c : Broadcast α) : Broadcast α := { c with senderOpen := false }

/-- Values sent are delivered before the end is. -/
def recv (c : Broadcast α) (next : Nat) : Recv α :=
  if next + c.slots < c.sent.length then .lagged (c.sent.length - c.slots)
  else match c.sent[next]? with
    | some value => .value value
    | none => if c.senderOpen then .pending else .closed

/-- What a receiver at `next` has received or skipped. -/
def passed (c : Broadcast α) (next : Nat) : List α := c.sent.take next

/-- What a receiver skips that goes on at `next'`. -/
def skipped (c : Broadcast α) (next next' : Nat) : List α := (c.sent.drop next).take (next' - next)

@[simp] theorem sent_new (slots : Nat) : (new slots : Broadcast α).sent = [] := rfl
@[simp] theorem sent_send (value : α) : (c.send value).sent = c.sent ++ [value] := rfl
@[simp] theorem sent_close : c.close.sent = c.sent := rfl
@[simp] theorem passed_zero : c.passed 0 = [] := rfl
@[simp] theorem passed_close : c.close.passed next = c.passed next := rfl

/-- Sending does not change what a receiver has passed. -/
theorem passed_send (h : next ≤ c.sent.length) (value : α) :
    (c.send value).passed next = c.passed next := List.take_append_of_le_length h

/-- What a receiver has passed was sent. -/
theorem passed_prefix : c.passed next <+: c.sent := List.take_prefix next c.sent

/-- A poll that yields a value yields the one at the receiver's position. -/
theorem recv_value_get {value : α} (h : c.recv next = .value value) :
    c.sent[next]? = some value := by
  unfold recv at h
  split at h
  · cases h
  split at h
  · rename_i hvalue
    cases h
    exact hvalue
  · split at h <;> cases h

/-- So it yields the next one. -/
theorem recv_value {value : α} (h : c.recv next = .value value) :
    next + 1 ≤ c.sent.length ∧ c.passed (next + 1) = c.passed next ++ [value] := by
  have hvalue := recv_value_get h
  obtain ⟨hlt, -⟩ := List.getElem?_eq_some_iff.mp hvalue
  refine ⟨hlt, ?_⟩
  rw [passed, passed, List.take_add_one, hvalue]
  rfl

/-- What is between two positions is skipped from the one to the other. -/
theorem mem_skipped {value : α} {k next' : Nat} (h : c.sent[k]? = some value) (hle : next ≤ k)
    (hlt : k < next') : value ∈ c.skipped next next' := by
  have hget : (c.skipped next next')[k - next]? = some value := by
    rw [skipped, List.getElem?_take_of_lt (by omega), List.getElem?_drop, Nat.add_sub_cancel' hle]
    exact h
  exact List.mem_of_getElem? hget

/-- A receiver that lagged is past what it skipped. -/
theorem recv_lagged {next' : Nat} (h : c.recv next = .lagged next') :
    next' ≤ c.sent.length ∧ c.passed next' = c.passed next ++ c.skipped next next' := by
  unfold recv at h
  split at h
  · rename_i hbehind
    cases h
    refine ⟨Nat.sub_le _ _, ?_⟩
    have hle : next ≤ c.sent.length - c.slots := by omega
    rw [passed, ← Nat.add_sub_cancel' hle]
    exact List.take_add.trans (by rw [Nat.add_sub_cancel' hle]; rfl)
  · split at h
    · cases h
    · split at h <;> cases h

/-- A receiver with nothing to receive has passed everything sent. -/
theorem recv_end (h : c.recv next = .pending ∨ c.recv next = .closed) : c.passed next = c.sent := by
  have hend : c.sent[next]? = none := by
    unfold recv at h
    split at h
    · rcases h with h | h <;> cases h
    split at h
    · rcases h with h | h <;> cases h
    · assumption
  exact List.take_of_length_le (List.getElem?_eq_none_iff.mp hend)

theorem recv_closed (h : c.recv next = .closed) : c.senderOpen = false := by
  unfold recv at h
  split at h
  · cases h
  split at h
  · cases h
  · split at h
    · cases h
    · rename_i hopen
      simpa using hopen

end Broadcast

end Lib

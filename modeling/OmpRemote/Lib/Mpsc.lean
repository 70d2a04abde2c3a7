import Mathlib.Data.List.Basic

/-!
# A bounded multi-producer channel

The state of one bounded channel as both ends see it: the queued values, and
whether a sender and the receiver are still there. `trySend` never waits;
`poll` is one poll of the receiving end.
-/

namespace Lib

universe u

/-- A bounded channel. A value occupies a slot until the receiver takes it. -/
structure Mpsc (α : Type u) where
  capacity : Nat
  buffer : List α
  senderOpen : Bool
  receiverOpen : Bool

/-- What `try_send` finds: a free slot (and the channel with the value queued),
no free slot, or a receiver that is gone. -/
inductive TrySend (α : Type u) where
  | sent (channel : Mpsc α)
  | full
  | closed

/-- What one poll of the receiver finds. -/
inductive Poll (α : Type u) where
  | item (value : α) (channel : Mpsc α)
  | disconnected
  | pending

namespace Mpsc

variable {α : Type u}

/-- A new channel with room for `capacity` values. -/
def new (capacity : Nat) : Mpsc α := ⟨capacity, [], true, true⟩

/-- Queue a value if a slot is free; a missing receiver is noticed first. -/
def trySend (c : Mpsc α) (value : α) : TrySend α :=
  if !c.receiverOpen then .closed
  else if c.buffer.length < c.capacity then .sent { c with buffer := c.buffer ++ [value] }
  else .full

/-- The last sender is dropped. -/
def dropSender (c : Mpsc α) : Mpsc α := { c with senderOpen := false }

/-- The receiver is dropped, and what was queued with it. -/
def dropReceiver (c : Mpsc α) : Mpsc α := { c with buffer := [], receiverOpen := false }

/-- Queued values are delivered before a disconnect is. -/
def poll (c : Mpsc α) : Poll α :=
  match c.buffer with
  | value :: rest => .item value { c with buffer := rest }
  | [] => if c.senderOpen then .pending else .disconnected

@[simp] theorem buffer_new (n : Nat) : (new n : Mpsc α).buffer = [] := rfl
@[simp] theorem senderOpen_new (n : Nat) : (new n : Mpsc α).senderOpen = true := rfl
@[simp] theorem buffer_dropSender (c : Mpsc α) : c.dropSender.buffer = c.buffer := rfl
@[simp] theorem senderOpen_dropSender (c : Mpsc α) : c.dropSender.senderOpen = false := rfl
@[simp] theorem buffer_dropReceiver (c : Mpsc α) : c.dropReceiver.buffer = [] := rfl
@[simp] theorem senderOpen_dropReceiver (c : Mpsc α) :
    c.dropReceiver.senderOpen = c.senderOpen := rfl

/-- A successful `trySend` appends the value and changes nothing else. -/
theorem trySend_sent {c c' : Mpsc α} {value : α} (h : c.trySend value = .sent c') :
    c.receiverOpen = true ∧ c.buffer.length < c.capacity ∧
      c' = { c with buffer := c.buffer ++ [value] } := by
  unfold trySend at h
  split at h
  · cases h
  · rename_i hopen
    split at h
    · rename_i hroom
      cases h
      exact ⟨by simpa using hopen, hroom, rfl⟩
    · cases h

theorem receiverOpen_of_full {c : Mpsc α} {value : α} (h : c.trySend value = .full) :
    c.receiverOpen = true := by
  unfold trySend at h
  split at h
  · cases h
  · rename_i hopen
    simpa using hopen

/-- A poll that yields a value yields the oldest one. -/
theorem poll_item {c c' : Mpsc α} {value : α} (h : c.poll = .item value c') :
    c.buffer = value :: c'.buffer ∧ c' = { c with buffer := c'.buffer } := by
  unfold poll at h
  split at h
  · rename_i v rest hbuf
    cases h
    exact ⟨hbuf, rfl⟩
  · split at h <;> cases h

theorem poll_disconnected {c : Mpsc α} (h : c.poll = .disconnected) :
    c.buffer = [] ∧ c.senderOpen = false := by
  unfold poll at h
  split at h
  · cases h
  · rename_i hbuf
    split at h
    · cases h
    · rename_i hopen
      exact ⟨hbuf, by simpa using hopen⟩

end Mpsc

end Lib

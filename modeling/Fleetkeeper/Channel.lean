/-
Broadcast channels. A channel keeps its last messages, as many as its
capacity rounded up to a power of two; a subscriber that falls further
behind is told how many it missed and goes on with the oldest one kept.
-/
namespace Fleetkeeper

/-- A channel and the messages it still keeps, the newest first. -/
structure Channel (α : Type) where
  capacity : Nat
  /-- Messages sent so far. -/
  sent : Nat := 0
  kept : List α := []
  /-- Whether there may be more messages. -/
  isOpen : Bool := true
deriving Repr

/-- How far a subscriber has read: the count of messages before its next. -/
abbrev Cursor := Nat

/-- What a subscriber finds. -/
structure Delivery (α : Type) where
  missed : Nat
  messages : List α
  /-- No message can follow. -/
  closed : Bool

namespace Channel

variable {α : Type}

/-- The least power of two that is no less than `n`, from `p` on. -/
def powerFrom : Nat → Nat → Nat → Nat
  | 0, _, p => p
  | fuel + 1, n, p => if n ≤ p then p else powerFrom fuel n (2 * p)

/-- A capacity as channels have it. -/
def rounded (n : Nat) : Nat := powerFrom (n.log2 + 1) n 1

/-- A channel that keeps at least `n` messages. -/
def ofCapacity (n : Nat) : Channel α := { capacity := rounded n }

def send (c : Channel α) (a : α) : Channel α :=
  { c with sent := c.sent + 1, kept := (a :: c.kept).take c.capacity }

/-- A new subscriber sees what is sent from now on. -/
def subscribe (c : Channel α) : Cursor := c.sent

/-- What a subscriber has not read yet; afterwards it has. -/
def drain (c : Channel α) (cursor : Cursor) : Delivery α × Cursor :=
  let unread := c.sent - cursor
  let available := min unread c.kept.length
  (⟨unread - available, (c.kept.take available).reverse, !c.isOpen⟩, c.sent)

def close (c : Channel α) : Channel α := { c with isOpen := false }

end Channel

end Fleetkeeper

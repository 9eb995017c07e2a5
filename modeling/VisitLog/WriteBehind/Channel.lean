import VisitLog.Number.Binary64
import VisitLog.Visitor

/-!
# The visit channel

Captured visits wait in a channel of bounded size until the worker takes them, oldest first. A visit
that arrives at a full channel is dropped, so that no request ever waits.

Main statements: `waiting_offer` (a visit is dropped exactly when the channel is full) and
`length_offer_le` (the channel never holds more than it may).
-/

namespace VisitLog

/-- A bounded queue of captured visits. -/
structure Channel where
  /-- The number of visits that may wait. -/
  capacity : Nat
  /-- The visits that wait, oldest first. -/
  waiting : List Visitor := []
  /-- There is no channel without room. -/
  capacity_pos : 0 < capacity

namespace Channel

/-- A channel in which nothing waits. -/
def ofCapacity? (capacity : Nat) : Option Channel :=
  if h : 0 < capacity then some { capacity := capacity, capacity_pos := h } else none

/-- Nothing more may be put into the channel. -/
def isFull (c : Channel) : Bool :=
  c.capacity ≤ c.waiting.length

/-- The channel after a visit arrived. -/
def offer (c : Channel) (v : Visitor) : Channel :=
  if c.isFull then c else { c with waiting := c.waiting ++ [v] }

/-- All waiting visits, and the channel without them. -/
def drain (c : Channel) : List Visitor × Channel :=
  (c.waiting, { c with waiting := [] })

/-- The part of the channel that is in use: one less the free part, each rounded. -/
def usage (c : Channel) : Binary64 :=
  ((Binary64.ofInt (c.capacity - c.waiting.length : Nat)).divide
    (Binary64.ofInt c.capacity)).oneMinus

/-! ## Lemmas -/

theorem waiting_offer (c : Channel) (v : Visitor) :
    (c.offer v).waiting = if c.isFull then c.waiting else c.waiting ++ [v] := by
  unfold offer
  split <;> rfl

@[simp] theorem capacity_offer (c : Channel) (v : Visitor) : (c.offer v).capacity = c.capacity := by
  unfold offer
  split <;> rfl

theorem length_offer_le {c : Channel} (v : Visitor) (h : c.waiting.length ≤ c.capacity) :
    (c.offer v).waiting.length ≤ (c.offer v).capacity := by
  rw [capacity_offer, waiting_offer]
  split
  · exact h
  · next hf =>
    have : ¬ c.capacity ≤ c.waiting.length := by simpa [isFull] using hf
    simp only [List.length_append, List.length_singleton]
    omega

end Channel

end VisitLog

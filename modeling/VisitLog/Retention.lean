import VisitLog.Store

/-!
# Retention

A pass removes the rows that were deleted more than a number of days ago. The loop makes a pass at
once and then one per interval; at a clock that stands still every pass after the first removes
nothing.

Main statement: `pass_eq_none` (a pass whose cutoff is no supported date breaks off).
-/

namespace VisitLog.Retention

/-- The time before which deleted rows are removed. The days are taken for a signed number of 64
bits. -/
def cutoff (now : Instant) (days : UInt64) : Instant :=
  now.addDays (-days.toInt64.toInt)

variable [Engine]

/-- Removes the rows that were deleted before the cutoff, and counts them. Nothing is given where
the pass breaks off. -/
def pass (s : Store) (now : Instant) (days : UInt64) (p : Pool) :
    Option (Except Failure (Nat × Pool)) :=
  if (cutoff now days).isSupported then some (s.purge (cutoff now days) p) else none

/-- What a pass leaves, whether it failed or not. -/
def attempt (s : Store) (now : Instant) (days : UInt64) (p : Pool) : Pool :=
  match pass s now days p with
  | some (.ok (_, p)) => p
  | some (.error _) | none => p

/-- The number of passes within a time, in milliseconds; an interval lasts one second at least. -/
def passes (intervalSeconds runMillis : Nat) : Nat :=
  1 + runMillis / (max intervalSeconds 1 * 1000)

/-- The passes that a loop makes within a time, at a clock that stands still. -/
def loop (s : Store) (now : Instant) (days : UInt64) (intervalSeconds runMillis : Nat)
    (p : Pool) : Pool :=
  (List.range (passes intervalSeconds runMillis)).foldl (fun p _ => attempt s now days p) p

theorem pass_eq_none {s : Store} {now : Instant} {days : UInt64} {p : Pool} :
    pass s now days p = none ↔ (cutoff now days).isSupported = false := by
  rw [pass]
  split <;> simp [*]

end VisitLog.Retention

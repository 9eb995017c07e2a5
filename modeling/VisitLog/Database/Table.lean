import VisitLog.Database.Stored
import VisitLog.Visitor

/-!
# Tables

A database holds tables and indexes by name. A table is a visitor table, the ledger of applied
migrations, or of a layout that nothing here can read. A row of a visitor table holds a stored value
for every column; rows stand in the order of their insertion.
-/

namespace VisitLog

/-- A row of a visitor table. -/
structure Row where
  value : Column → Stored

/-- The record that a row gives back; nothing in it is changed. -/
def Row.toVisitor (r : Row) : Visitor :=
  { value := fun c => (r.value c).toText, dirty := fun _ => false }

/-- The rows of a visitor table, in the order of their insertion. -/
abbrev Rows := List Row

/-- The column holds text in every row. -/
def Rows.IsText (rows : Rows) (c : Column) : Prop :=
  ∀ r ∈ rows, r.value c = .text (r.toVisitor.value c)

/-- What a table holds. -/
inductive Contents where
  | visits (rows : Rows)
  /-- The names of the migrations that were applied. -/
  | ledger (applied : List String)
  | unreadable

/-- A table, under the name it was created with. -/
structure Table where
  name : String
  contents : Contents

/-- An index on a table. -/
structure Index where
  name : String
  table : String
  deriving DecidableEq, Repr

/-- A database. -/
structure Database where
  tables : List Table := []
  indexes : List Index := []

namespace Rows

variable {rows rows' : Rows} {c : Column}

theorem IsText.perm (h : rows.IsText c) (hp : rows'.Perm rows) : rows'.IsText c :=
  fun r hr => h r (hp.mem_iff.1 hr)

theorem IsText.atMost (h : rows.IsText c) {a b : Row} (ha : a ∈ rows) (hb : b ∈ rows) :
    (a.value c).atMost (b.value c) = decide (a.toVisitor.value c ≤ b.toVisitor.value c) := by
  rw [h a ha, h b hb, Stored.atMost_text]

end Rows

end VisitLog

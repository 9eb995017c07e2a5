import VisitLog.Calendar.Reading
import VisitLog.Column
import VisitLog.Failure
import VisitLog.Query.Options
import VisitLog.Text.AsciiCase

/-!
# Queries

A `Query` is what options amount to on one table at one time: conditions that all have to hold, the
column whose different values are counted, an order, and a part of the result. Columns are checked
here; every other text of the options is carried as a value.

Main statement: `table_of_ofOptions` (a query that is made asks of the table it was made for).
-/

namespace VisitLog

open Text

/-- A test of one row. -/
inductive Condition where
  | equals (c : Column) (s : String)
  | isEmpty (c : Column)
  | oneOf (c : Column) (ss : List String)
  /-- The value matches a pattern with wildcards. -/
  | like (c : Column) (pattern : String)
  | atLeast (c : Column) (s : String)
  | atMost (c : Column) (s : String)
  | above (c : Column) (s : String)
  deriving DecidableEq, Repr

namespace Condition

/-- The column that a condition tests. -/
def column : Condition → Column
  | equals c _ | isEmpty c | oneOf c _ | like c _ | atLeast c _ | atMost c _ | above c _ => c

/-- The condition is a pattern. -/
def isPattern : Condition → Bool
  | like _ _ => true
  | _ => false

end Condition

/-- The direction of an order. -/
inductive Direction where
  | ascending
  | descending
  deriving DecidableEq, Repr

/-- The column that orders a result, and the direction. -/
structure Order where
  column : Column
  direction : Direction
  deriving DecidableEq, Repr

/-- What is asked of a table. -/
structure Query where
  table : String
  conditions : List Condition
  /-- The column whose different values are counted. -/
  distinct : Option Column
  order : Option Order
  limit : Option Nat
  offset : Option Nat
  deriving DecidableEq, Repr

namespace Query

/-- Options name countries and device types that are not known by this word. -/
def emptyWord : String := "empty"

/-- The condition on identifiers from a list, without its blank members. -/
def idsCondition (ids : List String) : Option Condition :=
  match ids.filterMap fun id => filled? (some id) with
  | [] => none
  | ids => some (.oneOf .id ids)

/-- The condition on the path: an exact one wins over a part. -/
def pathCondition (o : Options) : Option Condition :=
  match filled? o.pathExact with
  | some path => some (.equals .path path)
  | none => (filled? o.pathContains).map fun part => .like .path ("%" ++ part ++ "%")

/-- The conditions of options at a clock, in the order in which they are written. -/
def conditionsOf (now : Instant) (o : Options) : List Condition :=
  [(filled? o.id).map (Condition.equals .id),
    idsCondition o.idIn,
    (filled? o.country).map fun s =>
    if s = emptyWord then .isEmpty .country else .equals .country s, pathCondition o,
    (filled? o.deviceType).map fun s =>
      if sameLetters s emptyWord then .isEmpty .userDeviceType else .equals .userDeviceType s,
    (filled? o.createdFrom).map fun s => .atLeast .createdAt (normalize false s),
    (filled? o.createdTo).map fun s => .atMost .createdAt (normalize true s),
    if o.withDeleted then none else some (.above .deletedAt now.layout)].filterMap fun c => c

/-- A column given by name, if any is given. -/
def columnOf (purpose : String) (name : Option String) : Except Failure (Option Column) :=
  match filled? name with
  | none => .ok none
  | some name =>
    match Column.ofName? name with
    | some c => .ok (some c)
    | none => .error (.validation ("invalid " ++ purpose ++ " column: " ++ name))

/-- Everything but `asc`, in any case, orders downwards. -/
def directionOf (sortOrder : Option String) : Direction :=
  match filled? sortOrder with
  | some word => if sameLetters word "asc" then .ascending else .descending
  | none => .descending

/-- A positive count of rows; all others mean no bound. -/
def boundOf (n : Int) : Option Nat :=
  if 0 < n then some n.toNat else none

/-- The query of options on a table at a clock. A count has neither order nor paging. -/
def ofOptions (table : String) (now : Instant) (o : Options) : Except Failure Query := do
  let distinct ← columnOf "distinct" o.distinct
  let plain : Query :=
    { table := table, conditions := conditionsOf now o, distinct := distinct
      order := none, limit := none, offset := none }
  if o.countOnly then return plain
  let column ← columnOf "order_by" o.orderBy
  return { plain with
    order := column.map fun c => ⟨c, directionOf o.sortOrder⟩
    limit := boundOf o.limit
    offset := boundOf o.offset }

/-! ## Lemmas -/

theorem columnOf_none_of_blank {purpose : String} {name : Option String} (h : filled? name = none) :
    columnOf purpose name = .ok none := by
  simp [columnOf, h]

theorem table_of_ofOptions {table : String} {now : Instant} {o : Options} {q : Query}
    (h : ofOptions table now o = .ok q) : q.table = table := by
  simp only [ofOptions, bind, Except.bind, pure, Except.pure] at h
  repeat' split at h
  all_goals first | injection h with h; rw [← h] | contradiction

end Query

end VisitLog

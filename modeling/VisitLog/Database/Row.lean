import VisitLog.Database.Numeral

/-!
# Rows of a visitor table

Rows are made from records, written to and removed. No two rows of a table have the same identifier.

Main statements: `insert?_eq_ok` (a row is inserted exactly when its identifier is free) and
`value_update_other` (an update changes no row with another identifier).
-/

namespace VisitLog

variable [Engine]

namespace Row

/-- The row that stores a record. -/
def ofVisitor (v : Visitor) : Row :=
  ⟨fun c => .ofText c.isDatetime (v.value c)⟩

/-- The row has this identifier. -/
def hasId (id : String) (r : Row) : Bool :=
  r.value .id == .text id

/-- The row with new texts in some columns. -/
def write (fields : List (Column × String)) (r : Row) : Row :=
  ⟨fun c =>
    match fields.find? fun f => f.1 = c with
    | some f => .ofText c.isDatetime f.2
    | none => r.value c⟩

end Row

namespace Rows

/-- Some row has this identifier. -/
def hasId (rows : Rows) (id : String) : Bool :=
  rows.any (Row.hasId id)

/-- The rows with a record added, unless its identifier is taken. -/
def insert? (table : String) (rows : Rows) (v : Visitor) : Except Fault Rows :=
  if rows.hasId (v.value .id) then .error (.idTaken table) else .ok (rows ++ [Row.ofVisitor v])

/-- The rows with all records added in order; if one of them fails, none is added. -/
def insertAll? (table : String) : Rows → List Visitor → Except Fault Rows
  | rows, [] => .ok rows
  | rows, v :: vs =>
    match insert? table rows v with
    | .ok rows => insertAll? table rows vs
    | .error fault => .error fault

/-- The rows with new texts in the row of an identifier, if there is one. -/
def update (rows : Rows) (id : String) (fields : List (Column × String)) : Rows :=
  rows.map fun r => if r.hasId id then r.write fields else r

/-- The rows without that of an identifier. -/
def erase (rows : Rows) (id : String) : Rows :=
  rows.filter fun r => !r.hasId id

/-- The row was deleted before a time in the stored layout. -/
def isDeletedBefore (cutoff : String) (r : Row) : Bool :=
  (r.value .deletedAt).less (.ofText true cutoff)

/-- The rows that were not deleted before a time. -/
def purge (rows : Rows) (cutoff : String) : Rows :=
  rows.filter fun r => !isDeletedBefore cutoff r

/-! ## Lemmas -/

theorem insert?_eq_ok {table : String} {rows rows' : Rows} {v : Visitor} :
    insert? table rows v = .ok rows' ↔
      rows.hasId (v.value .id) = false ∧ rows' = rows ++ [Row.ofVisitor v] := by
  unfold insert?
  cases hasId rows (v.value .id)
  · exact ⟨fun e => ⟨rfl, (Except.ok.inj e).symm⟩, fun e => congrArg Except.ok e.2.symm⟩
  · exact ⟨fun e => (nomatch e), fun e => (nomatch e.1)⟩

theorem value_update_other {rows : Rows} {id : String} {fields : List (Column × String)} {r : Row}
    (h : r ∈ rows) (hr : r.hasId id = false) : r ∈ rows.update id fields :=
  List.mem_map.2 ⟨r, h, by simp [hr]⟩

theorem length_update (rows : Rows) (id : String) (fields : List (Column × String)) :
    (rows.update id fields).length = rows.length := by
  simp [update]

end Rows

end VisitLog

import VisitLog.Database.Select
import VisitLog.Query.Sql

/-!
# The database

Statements on the tables and indexes of a database, which are found by name; the case of ASCII
letters in names does not count.

Every statement either changes the database as a whole or fails and leaves it as it was: that is in
the type `Except Fault Database`.

Main statements: `table?_setContents_self` (a table holds what was put into it) and
`table?_setContents_other` (no other table changes).
-/

namespace VisitLog

open Text

namespace Database

/-- The table of a name. -/
def table? (db : Database) (name : String) : Option Table :=
  db.tables.find? fun t => sameLetters t.name name

/-- There is an index of this name. -/
def hasIndex (db : Database) (name : String) : Bool :=
  db.indexes.any fun i => sameLetters i.name name

/-- The database with other contents in the table of a name. -/
def setContents (db : Database) (name : String) (contents : Contents) : Database :=
  { db with tables := db.tables.map fun t =>
      if sameLetters t.name name then { t with contents := contents } else t }

/-- The start of the names that are reserved. -/
def reservedStart : String := "sqlite_"

/-- The name is reserved. -/
def isReserved (name : String) : Bool :=
  sameLetters (String.ofList (name.toList.take 7)) reservedStart

/-- Creates a table unless there is one of its name. -/
def createTable (name : String) (contents : Contents) (db : Database) : Except Fault Database :=
  if isReserved name then .error (.nameReserved name)
  else if (db.table? name).isSome then .ok db
  else if db.hasIndex name then .error (.nameTaken name)
  else .ok { db with tables := db.tables ++ [⟨name, contents⟩] }

/-- Creates an index on a visitor table unless there is one of its name. -/
def createIndex (name table : String) (db : Database) : Except Fault Database :=
  match db.table? table with
  | none => .error (.noTable table)
  | some t =>
    if isReserved name then .error (.nameReserved name)
    else if (db.table? name).isSome then .error (.nameTaken name)
    else if db.hasIndex name then .ok db
    else
      match t.contents with
      | .visits _ => .ok { db with indexes := db.indexes ++ [⟨name, t.name⟩] }
      | _ => .error (.noColumn "created_at")

/-- Removes a table and its indexes. -/
def dropTable (name : String) (db : Database) : Except Fault Database :=
  match db.table? name with
  | none => .error (.noTable name)
  | some _ =>
    .ok { tables := db.tables.filter fun t => !sameLetters t.name name
          indexes := db.indexes.filter fun i => !sameLetters i.table name }

/-! ## Visitor tables -/

section

variable [Engine]

/-- The rows of a visitor table; `column` is one that the statement names. -/
def rows (column : String) (table : String) (db : Database) : Except Fault (String × Rows) :=
  match db.table? table with
  | none => .error (.noTable table)
  | some t =>
    match t.contents with
    | .visits rows => .ok (t.name, rows)
    | _ => .error (.noColumn column)

/-- Stores a record as a new row. -/
def insert (table : String) (v : Visitor) (db : Database) : Except Fault Database := do
  let (name, rows) ← db.rows "id" table
  let rows ← rows.insert? name v
  return db.setContents table (.visits rows)

/-- Stores records as new rows, all of them or none. -/
def insertAll (table : String) (vs : List Visitor) (db : Database) : Except Fault Database := do
  let (name, rows) ← db.rows "id" table
  let rows ← Rows.insertAll? name rows vs
  return db.setContents table (.visits rows)

/-- Writes columns of the row of an identifier, if there is one. -/
def update (table id : String) (fields : List (Column × String)) (db : Database) :
    Except Fault Database := do
  let (_, rows) ← db.rows "id" table
  return db.setContents table (.visits (rows.update id fields))

/-- Removes the row of an identifier, if there is one. -/
def delete (table id : String) (db : Database) : Except Fault Database := do
  let (_, rows) ← db.rows "id" table
  return db.setContents table (.visits (rows.erase id))

/-- Removes the rows that were deleted before a time, and counts them. -/
def purge (table cutoff : String) (db : Database) : Except Fault (Nat × Database) := do
  let (_, rows) ← db.rows "deleted_at" table
  let kept := rows.purge cutoff
  return (rows.length - kept.length, db.setContents table (.visits kept))

/-- The values that a statement can bind. -/
def mostValues : Nat := 32766

/-- The records that a query lists. The ledger has none of the columns of a record: as long as no
column is named, its rows are records without any text. -/
def list (q : Query) (db : Database) : Except Fault (List Visitor) :=
  if mostValues < q.binds.length then .error .tooManyValues
  else
    match db.table? q.table with
    | none => Engine.listOwn q db
    | some t =>
      match t.contents with
      | .visits rows =>
        if q.isTooComplex .listing rows then .error .patternTooLong
        else .ok ((q.run rows).map Row.toVisitor)
      | .ledger applied =>
        if q.conditions.isEmpty && q.order.isNone then
          .ok (q.page (applied.map fun _ => Visitor.blank))
        else .error (.noColumn "deleted_at")
      | .unreadable => .error (.noColumn "deleted_at")

/-- The number that a query counts. -/
def count (q : Query) (db : Database) : Except Fault Nat :=
  if mostValues < (Sql.values q.countPieces).length then .error .tooManyValues
  else
    match db.table? q.table with
    | none => Engine.countOwn q db
    | some t =>
      match t.contents with
      | .visits rows =>
        if q.isTooComplex .counting rows then .error .patternTooLong else .ok (q.count rows)
      | .ledger applied =>
        if q.conditions.isEmpty && q.distinct.isNone then .ok applied.length
        else .error (.noColumn "deleted_at")
      | .unreadable => .error (.noColumn "deleted_at")

end

/-! ## Lemmas -/

theorem table?_setContents_self {db : Database} {name : String} {contents : Contents} {t : Table}
    (h : db.table? name = some t) :
    (db.setContents name contents).table? name = some { t with contents := contents } := by
  obtain ⟨tables, indexes⟩ := db
  simp only [table?, setContents] at *
  induction tables with
  | nil => simp at h
  | cons x xs ih =>
    rw [List.find?_cons] at h
    cases hx : sameLetters x.name name <;> simp_all

/-- Changing one table leaves the tables of other names as they are. -/
theorem table?_setContents_other {db : Database} {name other : String} {contents : Contents}
    (h : sameLetters name other = false) :
    (db.setContents name contents).table? other = db.table? other := by
  obtain ⟨tables, indexes⟩ := db
  simp only [table?, setContents]
  induction tables with
  | nil => rfl
  | cons x xs ih =>
    rw [List.map_cons, List.find?_cons, List.find?_cons, ih]
    cases hx : sameLetters x.name name
    · simp
    · have : sameLetters x.name other = false := by
        rw [Bool.eq_false_iff, Ne, sameLetters_iff] at h ⊢
        rw [sameLetters_iff] at hx
        exact fun e => h (hx.symm.trans e)
      simp [this]

end Database

end VisitLog

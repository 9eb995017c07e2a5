import VisitLog.Database.Migration
import VisitLog.Query.Sql
import VisitLog.Text.Quoted

/-!
# The visitor store

A `Store` is one visitor table of a database, reached through a pool of connections that may have
been closed. Every operation takes the clock and the pool. It gives the new pool, or the failure
that left the database as it was; operations on a record also give the record back, since a stamp
set on it stays even if it could not be stored.

Main statements: `result_create_of_closed` and `result_update_of_clean` (a record without changes is
not written).
-/

namespace VisitLog

/-- A pool of connections to a database. -/
structure Pool where
  database : Database := {}
  isClosed : Bool := false

namespace Pool

/-- Reads from the database. -/
def read {α : Type} (p : Pool) (f : Database → Except Fault α) : Except Failure α :=
  if p.isClosed then .error .poolClosed
  else
    match f p.database with
    | .ok a => .ok a
    | .error fault => .error (.database fault)

/-- Changes the database as a whole, or fails. -/
def change (p : Pool) (f : Database → Except Fault Database) : Except Failure Pool :=
  match p.read f with
  | .ok db => .ok { p with database := db }
  | .error failure => .error failure

end Pool

/-- An attempt to store a record: the record afterwards, and the pool or why nothing was written. -/
structure Attempt where
  record : Visitor
  result : Except Failure Pool

/-- A visitor table, by name. -/
structure Store where
  table : String
  deriving DecidableEq, Repr, Inhabited

namespace Store

/-! ## Opening -/

/-- A store needs a plain identifier as the name of its table. -/
def ofName (name : String) : Except Failure Store :=
  if name.isEmpty then .error (.validation "visitor table name is required")
  else if Sql.isPlainIdentifier name then .ok ⟨name⟩
  else
    .error (.validation ("visitor table name " ++ Text.quoted name ++ " is not a plain identifier"))

/-- Applies the migrations of the table. What was changed before a failure stays. -/
def migrate (s : Store) (p : Pool) : Pool × Except Failure Unit :=
  if p.isClosed then (p, .error .poolClosed)
  else
    match Migration.run s.table p.database with
    | (db, none) => ({ p with database := db }, .ok ())
    | (db, some fault) => ({ p with database := db }, .error (.database fault))

/-- Opens a store, and applies its migrations if asked to. -/
def openTable (name : String) (automigrate : Bool) (p : Pool) : Pool × Except Failure Store :=
  match ofName name with
  | .error failure => (p, .error failure)
  | .ok s =>
    if automigrate then
      match s.migrate p with
      | (p, .ok ()) => (p, .ok s)
      | (p, .error failure) => (p, .error failure)
    else (p, .ok s)

/-! ## Writing records -/

variable [Engine]

/-- Stores a new record, with both timestamps set to the clock. -/
def create (s : Store) (now : Instant) (v : Visitor) (p : Pool) : Attempt :=
  let v := (v.set .createdAt now.layout).set .updatedAt now.layout
  match p.change (Database.insert s.table v) with
  | .ok p => ⟨v.clean, .ok p⟩
  | .error failure => ⟨v, .error failure⟩

/-- A record as a batch stores it: the time of capture is kept, a missing one is filled in. -/
def stampCaptured (now : Instant) (v : Visitor) : Visitor :=
  let v := if (v.value .createdAt).isEmpty then v.set .createdAt now.layout else v
  v.set .updatedAt now.layout

/-- Stores many new records, all or none, and counts them. -/
def createBatch (s : Store) (now : Instant) (vs : List Visitor) (p : Pool) :
    Except Failure (Nat × Pool) :=
  match vs with
  | [] => .ok (0, p)
  | vs =>
    match p.change (Database.insertAll s.table (vs.map (stampCaptured now))) with
    | .ok p => .ok (vs.length, p)
    | .error failure => .error failure

/-- The changed columns of a record that an update writes: all but the identifier. -/
def written (v : Visitor) : List (Column × String) :=
  v.changed.filter fun f => f.1 ≠ .id

/-- Writes the changed columns of a record to its row. A record without changes is left alone. -/
def update (s : Store) (now : Instant) (v : Visitor) (p : Pool) : Attempt :=
  if (v.value .id).isEmpty then ⟨v, .error .idRequired⟩
  else if !v.isDirty then ⟨v, .ok p⟩
  else
    let v := v.set .updatedAt now.layout
    match p.change (Database.update s.table (v.value .id) (written v)) with
    | .ok p => ⟨v.clean, .ok p⟩
    | .error failure => ⟨v, .error failure⟩

/-- Marks a record deleted at the clock, and writes it. -/
def softDelete (s : Store) (now : Instant) (v : Visitor) (p : Pool) : Attempt :=
  s.update now (v.set .deletedAt now.layout) p

/-- Removes the row of an identifier for good. -/
def deleteById (s : Store) (id : String) (p : Pool) : Except Failure Pool :=
  if id.isEmpty then .error .idRequired else p.change (Database.delete s.table id)

/-- Removes the row of a record for good. -/
def delete (s : Store) (v : Visitor) (p : Pool) : Except Failure Pool :=
  s.deleteById (v.value .id) p

/-- Removes the rows that were deleted before a time, and counts them. -/
def purge (s : Store) (olderThan : Instant) (p : Pool) : Except Failure (Nat × Pool) :=
  match p.read (Database.purge s.table olderThan.layout) with
  | .ok (n, db) => .ok (n, { p with database := db })
  | .error failure => .error failure

/-! ## Reading -/

/-- The records that match options. -/
def list (s : Store) (now : Instant) (o : Options) (p : Pool) : Except Failure (List Visitor) := do
  let q ← Query.ofOptions s.table now o
  p.read (Database.list q)

/-- The number of records that match options, or of different values of a column. -/
def count (s : Store) (now : Instant) (o : Options) (p : Pool) : Except Failure Nat := do
  let q ← Query.ofOptions s.table now { o with countOnly := true }
  p.read (Database.count q)

/-- The options that find one record. -/
def byId (id : String) : Options :=
  { id := some id, limit := 1 }

/-- The record of an identifier, unless it was deleted. -/
def find (s : Store) (now : Instant) (id : String) (p : Pool) : Except Failure (Option Visitor) :=
  if id.isEmpty then .error .idRequired
  else
    match s.list now (byId id) p with
    | .ok vs => .ok vs.head?
    | .error failure => .error failure

/-- Marks the record of an identifier deleted at the clock. The search and the update are two calls
of the database, each with a clock reading of its own; here nothing comes between them, and one
reading serves both. -/
def softDeleteById (s : Store) (now : Instant) (id : String) (p : Pool) : Except Failure Pool :=
  match s.find now id p with
  | .error failure => .error failure
  | .ok none => .error (.noVisitor id)
  | .ok (some v) => (s.softDelete now v p).result

/-- The database answers. -/
def ping (p : Pool) : Bool :=
  !p.isClosed

/-! ## Lemmas -/

theorem result_update_of_clean {s : Store} {now : Instant} {v : Visitor} {p : Pool}
    (h : v.isDirty = false) (hid : (v.value .id).isEmpty = false) :
    s.update now v p = ⟨v, .ok p⟩ := by
  simp [update, h, hid]

theorem result_create_of_closed {s : Store} {now : Instant} {v : Visitor} {p : Pool}
    (h : p.isClosed = true) : (s.create now v p).result = .error .poolClosed := by
  simp [create, Pool.change, Pool.read, h]

end Store

end VisitLog

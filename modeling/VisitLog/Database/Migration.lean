import VisitLog.Database.Catalog

/-!
# Migrations

Two migrations prepare a table for visits: the first creates it, the second its indexes. A ledger in
the database remembers which were applied to which table, so that each is applied once. A run is no
transaction: when a statement fails, the ones before it stay.

Main statement: `run_ledger_unreadable` (with a ledger of another layout nothing is changed).
-/

namespace VisitLog.Migration

/-- The table that remembers the migrations. -/
def ledgerTable : String := "_migrations"

/-- The migrations, in the order of their application. -/
inductive Step where
  | visitorTable
  | visitorIndexes
  deriving DecidableEq, Repr

/-- The name of a migration. -/
def Step.name : Step → String
  | visitorTable => "001_visitor_table"
  | visitorIndexes => "002_visitor_indexes"

/-- The name under which the ledger holds a migration of a table. -/
def Step.key (s : Step) (table : String) : String :=
  s.name ++ ":" ++ table

/-- A statement, which changes the database as a whole or fails. -/
abbrev Change := Database → Except Fault Database

/-- The statements in order, up to the first that fails: what they leave, and why they stopped. -/
def inOrder : List Change → Database → Database × Option Fault
  | [], db => (db, none)
  | c :: cs, db =>
    match c db with
    | .ok db => inOrder cs db
    | .error fault => (db, some fault)

/-- The name that a text between double quotes stands for: quotes come in pairs. -/
def unquoteChars? : List Char → Option (List Char)
  | [] => some []
  | '"' :: '"' :: cs => (unquoteChars? cs).map ('"' :: ·)
  | c :: cs => if c = '"' ∨ c = '\x00' then none else (unquoteChars? cs).map (c :: ·)

/-- A statement on a name between double quotes. -/
def quotedName (name : String) (change : String → Change) : Change := fun db =>
  match unquoteChars? name.toList with
  | some cs => change (String.ofList cs) db
  | none => .error .malformed

/-- The columns that have an index. -/
def indexedColumns : List Column :=
  [.createdAt, .ipAddress, .path, .fingerprint, .deletedAt]

/-- The name of the index on a column. -/
def indexName (table : String) (c : Column) : String :=
  "idx_" ++ table ++ "_" ++ c.name

/-- The statements of a migration. -/
def Step.changes (table : String) : Step → List Change
  | visitorTable => [quotedName table fun name => Database.createTable name (.visits [])]
  | visitorIndexes =>
    indexedColumns.map fun c =>
      quotedName table fun name => Database.createIndex (indexName name c) name

/-- The migration was applied to the table. -/
def isApplied (key : String) (db : Database) : Except Fault Bool :=
  match db.table? ledgerTable with
  | some ⟨_, .ledger applied⟩ => .ok (applied.contains key)
  | some _ => .error (.noColumn "name")
  | none => .error (.noTable ledgerTable)

/-- Enters a migration into the ledger. -/
def record (key : String) : Change := fun db =>
  match db.table? ledgerTable with
  | some ⟨_, .ledger applied⟩ => .ok (db.setContents ledgerTable (.ledger (applied ++ [key])))
  | some _ => .error (.noColumn "name")
  | none => .error (.noTable ledgerTable)

/-- Applies a migration to a table, unless it was applied before. -/
def applyOnce (table : String) (s : Step) (db : Database) : Database × Option Fault :=
  match isApplied (s.key table) db with
  | .error fault => (db, some fault)
  | .ok true => (db, none)
  | .ok false => inOrder (s.changes table ++ [record (s.key table)]) db

/-- Applies all migrations to a table: what is left, and why they stopped if they did. -/
def run (table : String) (db : Database) : Database × Option Fault :=
  match inOrder [Database.createTable ledgerTable (.ledger [])] db with
  | (db, some fault) => (db, some fault)
  | (db, none) =>
    match applyOnce table .visitorTable db with
    | (db, some fault) => (db, some fault)
    | (db, none) => applyOnce table .visitorIndexes db

/-- The names in the ledger; none if it cannot be read. -/
def applied (db : Database) : List String :=
  match db.table? ledgerTable with
  | some ⟨_, .ledger applied⟩ => applied
  | _ => []

/-! ## Lemmas -/

theorem run_ledger_unreadable {table name : String} {db : Database}
    (h : db.table? ledgerTable = some ⟨name, .unreadable⟩) :
    run table db = (db, some (.noColumn "name")) := by
  have r : Database.isReserved ledgerTable = false := by decide
  simp [run, inOrder, Database.createTable, r, h, applyOnce, isApplied]

end VisitLog.Migration

import VisitLog.Database.Migration
import VisitLog.Query.Sql

/-!
# The statements of a migration

What the statements of the migrations do to a database, each said once: a table or an index is
created unless it is there (`createTable_eq_ok`, `createIndex_eq_ok`), and a migration is entered
into the ledger (`record_eq_ok`). A run through statements keeps what each of them keeps
(`inOrder_keeps`).

The names of indexes are put together from the name of a table and that of a column. Whatever the
table, the two can be read off the name again (`sameLetters_indexName`).
-/

namespace VisitLog

open Text

namespace Database

variable {db db' : Database} {name table : String} {contents : Contents} {t : Table}

/-! ## Tables by name -/

theorem table?_congr {a b : String} (h : sameLetters a b) (db : Database) :
    db.table? a = db.table? b := by
  have hfold := sameLetters_iff.1 h
  simp only [table?, sameLetters, hfold]

theorem sameLetters_of_table? (h : db.table? name = some t) : sameLetters t.name name := by
  have := List.find?_some h
  exact this

theorem table?_eq_none : db.table? name = none ↔ ∀ t ∈ db.tables,
    sameLetters t.name name = false := by
  simp only [table?, List.find?_eq_none, Bool.not_eq_true]

theorem hasIndex_iff : db.hasIndex name ↔ ∃ i ∈ db.indexes, sameLetters i.name name :=
  List.any_eq_true

theorem hasIndex_eq_false : db.hasIndex name = false ↔ ∀ i ∈ db.indexes,
    sameLetters i.name name = false := by
  simp only [hasIndex, List.any_eq_false, Bool.not_eq_true]

/-- The database with one more table. -/
def withTable (db : Database) (t : Table) : Database :=
  { db with tables := db.tables ++ [t] }

/-- The database with one more index. -/
def withIndex (db : Database) (i : Index) : Database :=
  { db with indexes := db.indexes ++ [i] }

theorem table?_withTable (h : db.table? name = none) (contents : Contents) (other : String) :
    (db.withTable ⟨name, contents⟩).table? other =
      if sameLetters name other then some ⟨name, contents⟩ else db.table? other := by
  rw [withTable, table?, List.find?_append, List.find?_singleton, ← table?]
  split
  · next hname =>
    rw [← table?_congr hname, h]
    rfl
  · exact Option.or_none

/-! ## Creating -/

theorem createTable_eq_ok : createTable name contents db = .ok db' ↔ isReserved name = false ∧
    ((db.table? name).isSome ∧ db' = db ∨
      db.table? name = none ∧ db.hasIndex name = false ∧ db' = db.withTable ⟨name, contents⟩) := by
  unfold createTable
  cases isReserved name with
  | true => simp
  | false =>
    cases db.table? name with
    | some t => simp [eq_comm (a := db')]
    | none => cases db.hasIndex name <;> simp [eq_comm (a := db'), withTable]

/-- An index is created on a table of visits under a name that nothing else has, and once only. -/
theorem createIndex_eq_ok : createIndex name table db = .ok db' ↔
    isReserved name = false ∧ db.table? name = none ∧ ∃ t, db.table? table = some t ∧
      (db.hasIndex name ∧ db' = db ∨
        db.hasIndex name = false ∧ (∃ rows, t.contents = .visits rows) ∧
        db' = db.withIndex ⟨name, t.name⟩) := by
  unfold createIndex
  cases db.table? table with
  | none => simp
  | some t =>
    cases isReserved name with
    | true => simp
    | false =>
      cases db.table? name with
      | some t => simp
      | none =>
        cases db.hasIndex name with
        | true => simp [eq_comm (a := db')]
        | false =>
          obtain ⟨tableName, contents⟩ := t
          cases contents <;> simp [eq_comm (a := db'), withIndex]

end Database

namespace Migration

open Database

variable {cs cs' : List Change} {db db' : Database} {key name table : String} {s s' : Step}

/-! ## Statements in order -/

theorem inOrder_append (cs cs' : List Change) (db : Database) : inOrder (cs ++ cs') db =
    match inOrder cs db with
    | (db', none) => inOrder cs' db'
    | (db', some fault) => (db', some fault) := by
  induction cs generalizing db with
  | nil => rfl
  | cons c cs ih =>
    rw [List.cons_append, inOrder, inOrder]
    cases c db with
    | error fault => rfl
    | ok db' => exact ih db'

theorem inOrder_singleton_eq_none {c : Change} : inOrder [c] db = (db', none) ↔ c db = .ok db' := by
  rw [inOrder]
  cases c db <;> simp [inOrder]

/-- What every statement keeps, their run keeps, wherever it stops. -/
theorem inOrder_keeps {P : Database → Prop}
    (hkeep : ∀ c ∈ cs, ∀ db db', P db → c db = .ok db' → P db')
    (h : P db) : P (inOrder cs db).1 := by
  induction cs generalizing db with
  | nil => exact h
  | cons c cs ih =>
    rw [List.forall_mem_cons] at hkeep
    rw [inOrder]
    cases hc : c db with
    | error fault => exact h
    | ok db' => exact ih hkeep.2 (hkeep.1 db db' h hc)

/-! ## Quoted names -/

theorem quotedName_eq_ok {f : String → Change} : quotedName name f db = .ok db' ↔
    ∃ unquoted : String, unquoteChars? name.toList = some unquoted.toList ∧
    f unquoted db = .ok db' := by
  unfold quotedName
  cases unquoteChars? name.toList with
  | none => simp
  | some cs =>
    refine ⟨fun h => ⟨String.ofList cs, by rw [String.toList_ofList], h⟩, ?_⟩
    rintro ⟨unquoted, hcs, h⟩
    cases hcs
    dsimp only
    rwa [String.ofList_toList]

theorem unquoteChars?_of_plain {cs : List Char} (h : ∀ c ∈ cs, c ≠ '"' ∧ c ≠ '\x00') :
    unquoteChars? cs = some cs := by
  induction cs with
  | nil => rfl
  | cons c cs ih =>
    rw [List.forall_mem_cons] at h
    unfold unquoteChars?
    split
    · next hnil => cases hnil
    · next hcons =>
      cases hcons
      exact absurd rfl h.1.1
    · next hcons =>
      cases hcons
      rw [if_neg (not_or.2 h.1), ih h.2]
      rfl

/-- A plain identifier is the same name within quotes. -/
theorem quotedName_of_plain (h : Sql.isPlainIdentifier table) (f : String → Change) :
    quotedName table f = f table := by
  have hplain : ∀ c ∈ table.toList, c ≠ '"' ∧ c ≠ '\x00' := by
    unfold Sql.isPlainIdentifier at h
    split at h
    · cases h
    · next c cs hcs =>
      simp only [Bool.and_eq_true, List.all_eq_true, Bool.or_eq_true, decide_eq_true_eq] at h
      have hall : ∀ c ∈ table.toList, c.isAlphanum ∨ c = '_' := by
        rw [hcs, List.forall_mem_cons]
        exact ⟨h.1.1.imp_left fun hc => by simp [Char.isAlphanum, hc], h.2⟩
      intro c hc
      refine ⟨?_, ?_⟩ <;> rintro rfl <;> exact absurd (hall _ hc) (by decide)
  funext db
  rw [quotedName, unquoteChars?_of_plain hplain]
  exact congrArg (f · db) String.ofList_toList

/-! ## The ledger -/

theorem applied_of_table? {applied : List String}
    (h : db.table? ledgerTable = some ⟨name, .ledger applied⟩) :
    Migration.applied db = applied := by
  rw [Migration.applied, h]

theorem record_eq_ok : record key db = .ok db' ↔ ∃ name applied,
    db.table? ledgerTable = some ⟨name, .ledger applied⟩ ∧
      db' = db.setContents ledgerTable (.ledger (applied ++ [key])) := by
  unfold record
  cases db.table? ledgerTable with
  | none => simp
  | some t =>
    obtain ⟨name, contents⟩ := t
    cases contents <;> simp [eq_comm (a := db'), and_assoc]

/-- The statements of a migration that was not applied to the table before. -/
def pending (table : String) (s : Step) (db : Database) : List Change :=
  if s.key table ∈ Migration.applied db then [] else s.changes table ++ [record (s.key table)]

theorem applyOnce_of_table? {applied : List String}
    (h : db.table? ledgerTable = some ⟨name, .ledger applied⟩) :
    applyOnce table s db = inOrder (pending table s db) db := by
  rw [applyOnce, isApplied, h, pending, applied_of_table? h]
  by_cases hkey : s.key table ∈ applied
  · simp [hkey, inOrder]
  · simp [hkey]

theorem key_inj (h : s.key name = s'.key table) : s = s' ∧ name = table := by
  have h := congrArg String.toList h
  simp only [Step.key, String.toList_append, List.append_assoc] at h
  have hs : s = s' := by
    have hstart := congrArg (List.take 3) h
    rw [List.take_append_of_le_length (by cases s <;> decide), List.take_append_of_le_length
      (by cases s' <;> decide)]
      at hstart
    revert hstart
    cases s <;> cases s' <;> decide
  subst hs
  exact ⟨rfl, String.toList_injective (List.append_cancel_left (List.append_cancel_left h))⟩

/-! ## Names of indexes -/

/-- What the name of an index has after that of its table. -/
def suffix (c : Column) : List Char :=
  foldLetters ('_' :: c.name.toList)

theorem foldLetters_indexName (table : String) (c : Column) :
    foldLetters (indexName table c).toList = "idx_".toList ++
    (foldLetters table.toList ++ suffix c) := by
  simp only [indexName, String.toList_append, foldLetters_append, suffix]
  rw [List.append_assoc, List.append_assoc]
  rfl

theorem suffix_inj : ∀ c ∈ indexedColumns, ∀ d ∈ indexedColumns,
    suffix c <:+ suffix d ∨ suffix d <:+ suffix c → c = d := by
  decide +kernel

theorem sameLetters_indexName {c d : Column} (hc : c ∈ indexedColumns) (hd : d ∈ indexedColumns)
    (h : sameLetters (indexName name c) (indexName table d)) : sameLetters name table ∧ c = d := by
  rw [sameLetters_iff, foldLetters_indexName, foldLetters_indexName] at h
  have h := List.append_cancel_left h
  obtain rfl := suffix_inj c hc d hd <|
    List.suffix_or_suffix_of_suffix ⟨_, h⟩
      (List.suffix_append (foldLetters table.toList) (suffix d))
  exact ⟨sameLetters_iff.2 (List.append_cancel_right h), rfl⟩

theorem indexName_ne_self (table : String) (c : Column) :
    sameLetters (indexName table c) table = false := by
  rw [Bool.eq_false_iff, Ne, sameLetters_iff, foldLetters_indexName]
  intro h
  have hlength := congrArg List.length h
  have hprefix : "idx_".toList.length = 4 := rfl
  rw [List.length_append, List.length_append, hprefix] at hlength
  omega

theorem indexName_ne_ledger (table : String) (c : Column) :
    sameLetters (indexName table c) ledgerTable = false := by
  rw [Bool.eq_false_iff, Ne, sameLetters_iff, foldLetters_indexName]
  intro h
  exact absurd (List.cons.inj h).1 (by decide)

theorem isReserved_indexName (table : String) (c : Column) :
    isReserved (indexName table c) = false := by
  rw [isReserved, Bool.eq_false_iff, Ne, sameLetters_iff, String.toList_ofList,
    foldLetters, List.map_take, ← foldLetters, foldLetters_indexName]
  intro h
  exact absurd (List.cons.inj h).1 (by decide)

end Migration

end VisitLog

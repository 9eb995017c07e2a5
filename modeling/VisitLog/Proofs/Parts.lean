import Mathlib.Data.List.Nodup
import VisitLog.Proofs.Statements

/-!
# Databases in parts

What migrations have made so far is a list of parts: the ledger, tables, indexes and entries of the
ledger. On a database that is put together from parts (`Database.ofParts`) a statement adds its
part, unless it is there.

Main statement: `Migration.statement_ofParts`.
-/

namespace VisitLog

open Text Database

namespace Migration

/-- Names of tables that can be in one database. -/
structure Admissible (names : List String) : Prop where
  plain : ∀ n ∈ names, Sql.isPlainIdentifier n
  distinct : ∀ n ∈ names, ∀ m ∈ names, sameLetters n m → n = m
  unreserved : ∀ n ∈ names, isReserved n = false
  ne_ledger : ∀ n ∈ names, sameLetters n ledgerTable = false
  ne_index : ∀ n ∈ names, ∀ m ∈ names, n ≠ m → ∀ c ∈ indexedColumns,
    sameLetters n (indexName m c) = false


/-! ## Parts of a database -/

/-- What a statement of a migration adds to a database. -/
inductive Part where
  | ledger
  | table (name : String)
  | index (name : String) (c : Column)
  | entry (s : Step) (name : String)
  deriving DecidableEq

/-- What a migration adds for a table. -/
def Step.parts (table : String) : Step → List Part
  | visitorTable => [.table table, .entry .visitorTable table]
  | visitorIndexes => indexedColumns.map (.index table) ++ [.entry .visitorIndexes table]

namespace Part

def statement : Part → Change
  | ledger => createTable ledgerTable (.ledger [])
  | table name => quotedName name fun name => createTable name (.visits [])
  | index name c => quotedName name fun name => createIndex (indexName name c) name
  | entry s name => record (s.key name)

/-- The parts that stand before this one in the statements of its table. -/
def needs : Part → List Part
  | ledger | table _ => []
  | index name _ => [.table name]
  | entry .visitorTable name => [.ledger, .table name]
  | entry .visitorIndexes name => .ledger :: indexedColumns.map (.index name)

/-- The part belongs to one of the tables. -/
def IsOf (names : List String) : Part → Prop
  | ledger => names ≠ []
  | table name | entry _ name => name ∈ names
  | index name c => name ∈ names ∧ c ∈ indexedColumns

/-- The table that the part belongs to. -/
def name? : Part → Option String
  | ledger => none
  | table name | index name _ | entry _ name => some name

def key? : Part → Option String
  | entry s name => some (s.key name)
  | _ => none

def table? (applied : List String) : Part → Option Table
  | ledger => some ⟨ledgerTable, .ledger applied⟩
  | table name => some ⟨name, .visits []⟩
  | _ => none

def index? : Part → Option Index
  | index name c => some ⟨indexName name c, name⟩
  | _ => none

/-- The parts with one more, unless it is among them. -/
def add (ps : List Part) (q : Part) : List Part :=
  if q ∈ ps then ps else ps ++ [q]

def addAll (ps qs : List Part) : List Part :=
  qs.foldl add ps

variable {ps qs : List Part} {q r : Part}

theorem mem_add : r ∈ add ps q ↔ r ∈ ps ∨ r = q := by
  unfold add
  split
  · next hq =>
    refine ⟨.inl, ?_⟩
    rintro (hr | rfl)
    · exact hr
    · exact hq
  · rw [List.mem_append, List.mem_singleton]

theorem nodup_add (h : ps.Nodup) : (add ps q).Nodup := by
  unfold add
  split
  · exact h
  · next hq => exact List.nodup_append'.2 ⟨h, List.nodup_singleton q, List.disjoint_singleton.2 hq⟩

theorem addAll_append (ps qs rs : List Part) : addAll ps (qs ++ rs) = addAll (addAll ps qs) rs :=
  List.foldl_append

theorem mem_addAll : r ∈ addAll ps qs ↔ r ∈ ps ∨ r ∈ qs := by
  induction qs generalizing ps with
  | nil => simp [addAll]
  | cons q qs ih =>
    rw [addAll, List.foldl_cons, ← addAll, ih, mem_add, List.mem_cons, or_assoc]

theorem subset_addAll_left (ps qs : List Part) : ps ⊆ addAll ps qs :=
  fun _ hr => mem_addAll.2 (.inl hr)

theorem subset_addAll_right (ps qs : List Part) : qs ⊆ addAll ps qs :=
  fun _ hr => mem_addAll.2 (.inr hr)

theorem addAll_of_subset (h : qs ⊆ ps) : addAll ps qs = ps := by
  induction qs with
  | nil => rfl
  | cons q qs ih =>
    rw [List.cons_subset] at h
    rw [addAll, List.foldl_cons, ← addAll, add, if_pos h.1, ih h.2]

theorem addAll_take (ps qs : List Part) (k : Nat) :
    addAll (addAll ps (qs.take k)) qs = addAll ps qs :=
  calc addAll (addAll ps (qs.take k)) qs
    _ = addAll (addAll (addAll ps (qs.take k)) (qs.take k)) (qs.drop k) := by
      rw [← addAll_append (addAll ps (qs.take k)), List.take_append_drop]
    _ = addAll (addAll ps (qs.take k))
        (qs.drop k) := by rw [addAll_of_subset (subset_addAll_right ..)]
    _ = addAll ps qs := by rw [← addAll_append, List.take_append_drop]

end Part

end Migration

open Migration

/-- The database that has these parts. -/
def Database.ofParts (ps : List Part) : Database where
  tables := ps.filterMap (Part.table? (ps.filterMap Part.key?))
  indexes := ps.filterMap Part.index?

namespace Migration

/-- Every part belongs to one of the tables, and has what it needs. -/
structure IsCoherent (names : List String) (ps : List Part) : Prop where
  nodup : ps.Nodup
  isOf : ∀ q ∈ ps, q.IsOf names
  needs : ∀ q ∈ ps, q.needs ⊆ ps

variable {names : List String} {ps : List Part} {n : String} {c : Column}

/-! ## Databases from parts -/

theorem find?_eq_some_of_unique {α : Type} {f : α → Bool} {l : List α} {a : α} (ha : a ∈ l)
    (hf : f a)
    (hunique : ∀ b ∈ l, f b → b = a) : l.find? f = some a := by
  obtain ⟨b, hb⟩ := Option.isSome_iff_exists.1 (List.find?_isSome.2 ⟨a, ha, hf⟩)
  rw [hb, hunique b (List.mem_of_find?_eq_some hb) (List.find?_some hb)]

/-- The tables of a database that is given by its parts. -/
theorem mem_tables {t : Table} : t ∈ (ofParts ps).tables ↔
    (.ledger ∈ ps ∧ t = ⟨ledgerTable, .ledger (ps.filterMap Part.key?)⟩) ∨
      ∃ n, .table n ∈ ps ∧ t = ⟨n, .visits []⟩ := by
  rw [ofParts, List.mem_filterMap]
  constructor
  · rintro ⟨q, hq, ht⟩
    cases q with
    | ledger => exact .inl ⟨hq, (Option.some.inj ht).symm⟩
    | table n => exact .inr ⟨n, hq, (Option.some.inj ht).symm⟩
    | index n c => cases ht
    | entry s n => cases ht
  · rintro (⟨hq, rfl⟩ | ⟨n, hq, rfl⟩)
    · exact ⟨_, hq, rfl⟩
    · exact ⟨_, hq, rfl⟩

theorem mem_indexes {i : Index} : i ∈ (ofParts ps).indexes ↔ ∃ n c, .index n c ∈ ps ∧
    i = ⟨indexName n c, n⟩ := by
  rw [ofParts, List.mem_filterMap]
  constructor
  · rintro ⟨q, hq, hi⟩
    cases q with
    | index n c => exact ⟨n, c, hq, (Option.some.inj hi).symm⟩
    | ledger => cases hi
    | table n => cases hi
    | entry s n => cases hi
  · rintro ⟨n, c, hq, rfl⟩
    exact ⟨_, hq, rfl⟩

section

variable (h : Admissible names) (hps : IsCoherent names ps)
include h hps

theorem table?_ledger (hledger : .ledger ∈ ps) :
    (ofParts ps).table? ledgerTable = some ⟨ledgerTable, .ledger (ps.filterMap Part.key?)⟩ := by
  refine find?_eq_some_of_unique (mem_tables.2 (.inl ⟨hledger, rfl⟩)) (sameLetters_refl _)
    fun t ht hname => ?_
  obtain ⟨-, rfl⟩ | ⟨n, hn, rfl⟩ := mem_tables.1 ht
  · rfl
  · rw [h.ne_ledger n (hps.isOf _ hn)] at hname
    cases hname

theorem table?_ledger_eq_none (hledger : .ledger ∉ ps) :
    (ofParts ps).table? ledgerTable = none := by
  refine table?_eq_none.2 fun t ht => ?_
  obtain ⟨hmem, -⟩ | ⟨n, hn, rfl⟩ := mem_tables.1 ht
  · exact absurd hmem hledger
  · exact h.ne_ledger n (hps.isOf _ hn)

theorem table?_table (hn : .table n ∈ ps) : (ofParts ps).table? n = some ⟨n, .visits []⟩ := by
  refine find?_eq_some_of_unique (mem_tables.2 (.inr ⟨n, hn, rfl⟩)) (sameLetters_refl _)
    fun t ht hname => ?_
  obtain ⟨-, rfl⟩ | ⟨m, hm, rfl⟩ := mem_tables.1 ht
  · rw [sameLetters_comm, h.ne_ledger n (hps.isOf _ hn)] at hname
    cases hname
  · rw [h.distinct m (hps.isOf _ hm) n (hps.isOf _ hn) hname]

theorem table?_table_eq_none (hnames : n ∈ names) (hn : .table n ∉ ps) :
    (ofParts ps).table? n = none := by
  refine table?_eq_none.2 fun t ht => ?_
  obtain ⟨-, rfl⟩ | ⟨m, hm, rfl⟩ := mem_tables.1 ht
  · rw [sameLetters_comm]
    exact h.ne_ledger n hnames
  · rw [Bool.eq_false_iff]
    intro hname
    rw [h.distinct m (hps.isOf _ hm) n hnames hname] at hm
    exact hn hm

theorem table?_index_eq_none (hnames : n ∈ names) (hc : c ∈ indexedColumns) :
    (ofParts ps).table? (indexName n c) = none := by
  refine table?_eq_none.2 fun t ht => ?_
  obtain ⟨-, rfl⟩ | ⟨m, hm, rfl⟩ := mem_tables.1 ht
  · rw [sameLetters_comm]
    exact indexName_ne_ledger n c
  · by_cases hmn : m = n
    · rw [hmn, sameLetters_comm]
      exact indexName_ne_self n c
    · exact h.ne_index m (hps.isOf _ hm) n hnames hmn c hc

theorem hasIndex_index (hnames : n ∈ names) (hc : c ∈ indexedColumns) :
    (ofParts ps).hasIndex (indexName n c) ↔ .index n c ∈ ps := by
  rw [hasIndex_iff]
  constructor
  · rintro ⟨i, hi, hname⟩
    obtain ⟨m, d, hmd, rfl⟩ := mem_indexes.1 hi
    obtain ⟨hm, hd⟩ := hps.isOf _ hmd
    obtain ⟨hletters, rfl⟩ := sameLetters_indexName hd hc hname
    rwa [h.distinct m hm n hnames hletters] at hmd
  · intro hmem
    exact ⟨_, mem_indexes.2 ⟨n, c, hmem, rfl⟩, sameLetters_refl _⟩

omit h hps in
theorem hasIndex_ledger (ps : List Part) : (ofParts ps).hasIndex ledgerTable = false := by
  refine hasIndex_eq_false.2 fun i hi => ?_
  obtain ⟨m, d, -, rfl⟩ := mem_indexes.1 hi
  exact indexName_ne_ledger m d

theorem hasIndex_table (hnames : n ∈ names) : (ofParts ps).hasIndex n = false := by
  refine hasIndex_eq_false.2 fun i hi => ?_
  obtain ⟨m, d, hmd, rfl⟩ := mem_indexes.1 hi
  obtain ⟨hm, hd⟩ := hps.isOf _ hmd
  rw [sameLetters_comm]
  by_cases hnm : n = m
  · rw [hnm, sameLetters_comm]
    exact indexName_ne_self m d
  · exact h.ne_index n hnames m hm hnm d hd

/-! ## Statements on parts -/

omit h in
theorem isCoherent_add {q : Part} (hq : q.IsOf names) (hneeds : q.needs ⊆ ps) :
    IsCoherent names (Part.add ps q) where
  nodup := Part.nodup_add hps.nodup
  isOf r hr := by
    obtain hr | rfl := Part.mem_add.1 hr
    · exact hps.isOf r hr
    · exact hq
  needs r hr t ht := by
    refine Part.mem_add.2 (.inl ?_)
    obtain hr | rfl := Part.mem_add.1 hr
    · exact hps.needs r hr ht
    · exact hneeds ht

omit h in
/-- As long as there is no ledger, nothing is entered into it. -/
theorem keys_eq_nil (hledger : .ledger ∉ ps) : ps.filterMap Part.key? = [] := by
  rw [List.filterMap_eq_nil_iff]
  intro q hq
  cases q with
  | entry s n => exact absurd (hps.needs _ hq (by cases s <;> exact List.mem_cons_self)) hledger
  | ledger => rfl
  | table n => rfl
  | index n c => rfl

omit h hps in
theorem ofParts_append (ps : List Part) {q : Part} (hq : q.key? = none) : ofParts (ps ++ [q]) =
    { tables := (ofParts ps).tables ++ (q.table? (ps.filterMap Part.key?)).toList
      indexes := (ofParts ps).indexes ++ q.index?.toList } := by
  simp only [ofParts, List.filterMap_append, List.filterMap_cons, List.filterMap_nil, hq,
    List.append_nil]
  congr 2

theorem ofParts_append_entry (s : Step) (n : String) : ofParts (ps ++ [.entry s n]) =
    (ofParts ps).setContents ledgerTable (.ledger (ps.filterMap Part.key? ++ [s.key n])) := by
  simp only [ofParts, setContents, List.filterMap_append, List.map_filterMap]
  congr 1
  · refine (List.append_nil _).trans (List.filterMap_congr fun q hq => ?_)
    cases q with
    | ledger => exact congrArg some (if_pos (sameLetters_refl _)).symm
    | table m =>
      have hm := h.ne_ledger m (hps.isOf _ hq)
      exact congrArg some (if_neg (by rw [hm]; exact Bool.false_ne_true)).symm
    | index m c => rfl
    | entry s m => rfl
  · exact List.append_nil _

/-- On a database of parts the statement of a part adds it, unless it is there. -/
theorem statement_ofParts {q : Part} (hq : q.IsOf names) (hneeds : q.needs ⊆ ps)
    (hnew : q.key?.isSome → q ∉ ps) :
    q.statement (ofParts ps) = .ok (ofParts (Part.add ps q)) := by
  unfold Part.add
  cases q with
  | ledger =>
    refine createTable_eq_ok.2 ⟨by decide, ?_⟩
    split
    · next hmem => exact .inl ⟨by rw [table?_ledger h hps hmem]; rfl, rfl⟩
    · next hmem =>
      refine .inr ⟨table?_ledger_eq_none h hps hmem, hasIndex_ledger ps, ?_⟩
      have hadd := ofParts_append ps (q := .ledger) rfl
      rw [keys_eq_nil hps hmem] at hadd
      simp [hadd, withTable, Part.table?, Part.index?]
  | table n =>
    rw [Part.statement, quotedName_of_plain (h.plain n hq)]
    refine createTable_eq_ok.2 ⟨h.unreserved n hq, ?_⟩
    split
    · next hmem => exact .inl ⟨by rw [table?_table h hps hmem]; rfl, rfl⟩
    · next hmem =>
      refine .inr ⟨table?_table_eq_none h hps hq hmem, hasIndex_table h hps hq, ?_⟩
      simp [ofParts_append ps (q := .table n) rfl, withTable, Part.table?, Part.index?]
  | index n c =>
    have htable := table?_table h hps (hneeds List.mem_cons_self)
    rw [Part.statement, quotedName_of_plain (h.plain n hq.1)]
    refine createIndex_eq_ok.2 ⟨isReserved_indexName n c, table?_index_eq_none h hps hq.1 hq.2, _,
      htable, ?_⟩
    split
    · next hmem => exact .inl ⟨(hasIndex_index h hps hq.1 hq.2).2 hmem, rfl⟩
    · next hmem =>
      refine .inr ⟨Bool.eq_false_iff.2 fun hindex =>
        hmem ((hasIndex_index h hps hq.1 hq.2).1 hindex), ⟨[], rfl⟩, ?_⟩
      simp [ofParts_append ps (q := .index n c) rfl, withIndex, Part.table?, Part.index?]
  | entry s n =>
    have hledger := table?_ledger h hps (hneeds (by cases s <;> exact List.mem_cons_self))
    rw [if_neg (hnew rfl)]
    exact record_eq_ok.2 ⟨_, _, hledger, ofParts_append_entry h hps s n⟩

end

end Migration

end VisitLog

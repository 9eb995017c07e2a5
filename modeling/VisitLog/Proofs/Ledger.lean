import VisitLog.Proofs.Statements

/-!
# The ledger and the schema

A database records twice what its migrations made: in its tables and indexes, and in the ledger. In
a sound database (`Database.IsSound`) the tables are the ledger and tables of visits, the indexes
are those of the migrations, and the ledger is right about every table that was not removed. Every
statement of a migration keeps a database sound, and so do its runs, wherever they stop, and the
removal of a table.

Main statements: `Database.IsSound.run` and `Database.IsSound.dropTable`.
-/

namespace VisitLog

open Text Database Migration

/-- The ledger holds migrations, and every other table visits. -/
def Table.IsKnown (t : Table) : Prop :=
  if sameLetters t.name ledgerTable then ∃ applied, t.contents = .ledger applied
  else ∃ rows, t.contents = .visits rows

/-- The index was made by a migration of its table. -/
def Index.IsKnown (i : Index) : Prop :=
  ∃ table, sameLetters i.table table ∧ sameLetters table ledgerTable = false ∧
    ∃ c ∈ indexedColumns, i.name = indexName table c

/-- What the migration of a table makes is in the database. -/
def Migration.Step.Done (table : String) (db : Database) : Step → Prop
  | visitorTable => (db.table? table).isSome
  | visitorIndexes => ∀ c ∈ indexedColumns, db.hasIndex (indexName table c)

namespace Database

/-- No table and no index of the first database is missing in the second one. -/
structure Keeps (db db' : Database) : Prop where
  tables : ∀ name, (db.table? name).isSome → (db'.table? name).isSome
  indexes : db.indexes ⊆ db'.indexes

/-- The database is as the migrations made it, but for tables that were removed. -/
structure IsSound (gone : List String) (db : Database) : Prop where
  tables : ∀ t ∈ db.tables, t.IsKnown
  indexes : ∀ i ∈ db.indexes, i.IsKnown
  others : ∀ name ∈ gone, sameLetters name ledgerTable = false
  /-- The ledger is right about tables that were never removed. -/
  applied : ∀ (s : Step) table, Sql.isPlainIdentifier table → s.key table ∈ Migration.applied db →
    (∃ name ∈ gone, sameLetters name table) ∨ s.Done table db

end Database

variable {db db' : Database} {gone : List String} {name table : String} {t : Table} {s : Step}

/-! ## What statements leave -/

namespace Database

theorem Keeps.refl (db : Database) : db.Keeps db :=
  ⟨fun _ h => h, List.Subset.refl _⟩

theorem Keeps.trans {db'' : Database} (h : db.Keeps db') (h' : db'.Keeps db'') : db.Keeps db'' :=
  ⟨fun name hname => h'.tables name (h.tables name hname), List.Subset.trans h.indexes h'.indexes⟩

theorem Keeps.done (h : db.Keeps db') (hs : s.Done table db) : s.Done table db' := by
  cases s with
  | visitorTable => exact h.tables table hs
  | visitorIndexes =>
    intro c hc
    obtain ⟨i, hi, hname⟩ := hasIndex_iff.1 (hs c hc)
    exact hasIndex_iff.2 ⟨i, h.indexes hi, hname⟩

theorem keeps_withTable (h : db.table? name = none) (contents : Contents) :
    db.Keeps (db.withTable ⟨name, contents⟩) where
  tables other hother := by
    rw [table?_withTable h]
    split
    · rfl
    · exact hother
  indexes := List.Subset.refl _

theorem keeps_withIndex (db : Database) (i : Index) : db.Keeps (db.withIndex i) :=
  ⟨fun _ hname => hname, List.subset_append_left _ _⟩

theorem isSome_table?_setContents (db : Database) (name : String) (contents : Contents)
    (other : String) :
    ((db.setContents name contents).table? other).isSome = (db.table? other).isSome := by
  rw [table?, table?, setContents, List.find?_map, Option.isSome_map]
  congr 2
  funext t
  rw [Function.comp_apply]
  split <;> rfl

theorem keeps_setContents (db : Database) (name : String) (contents : Contents) :
    db.Keeps (db.setContents name contents) where
  tables other hother := by rwa [isSome_table?_setContents]
  indexes := List.Subset.refl _

theorem keeps_createIndex (h : createIndex name table db = .ok db') : db.Keeps db' := by
  obtain ⟨-, -, t, -, ⟨-, rfl⟩ | ⟨-, -, rfl⟩⟩ := createIndex_eq_ok.1 h
  · exact .refl _
  · exact keeps_withIndex ..

theorem hasIndex_of_createIndex (h : createIndex name table db = .ok db') : db'.hasIndex name := by
  obtain ⟨-, -, t, -, ⟨hname, rfl⟩ | ⟨-, -, rfl⟩⟩ := createIndex_eq_ok.1 h
  · exact hname
  · exact hasIndex_iff.2 ⟨_, List.mem_append_right _ (List.mem_singleton_self _),
      sameLetters_refl _⟩

theorem keeps_record {key : String} (h : record key db = .ok db') : db.Keeps db' := by
  obtain ⟨_, _, -, rfl⟩ := record_eq_ok.1 h
  exact keeps_setContents ..

theorem dropTable_eq_ok : dropTable name db = .ok db' ↔ (db.table? name).isSome ∧
    db' = { tables := db.tables.filter fun t => !sameLetters t.name name
            indexes := db.indexes.filter fun i => !sameLetters i.table name } := by
  unfold dropTable
  cases db.table? name <;> simp [eq_comm (a := db')]

theorem table?_filter_other {other : String} {indexes : List Index}
    (h : sameLetters name other = false) :
    table? ⟨db.tables.filter fun t => !sameLetters t.name name, indexes⟩ other =
    db.table? other := by
  rw [table?, table?, List.find?_filter]
  congr 1
  funext t
  cases hother : sameLetters t.name other with
  | false => simp
  | true =>
    rw [sameLetters_comm] at h
    simp [sameLetters_congr hother, h]

/-- A statement of a migration does nothing, or it adds the table or one of the indexes. -/
theorem changes_eq_ok {c : Change} (hc : c ∈ s.changes table) (h : c db = .ok db') : db' = db ∨
    (s = .visitorTable ∧ ∃ name, db.table? name = none ∧ db' = db.withTable ⟨name, .visits []⟩) ∨
    (s = .visitorIndexes ∧ ∃ name t rows, db.table? name = some t ∧ t.contents = .visits rows ∧
      ∃ c ∈ indexedColumns, db' = db.withIndex ⟨indexName name c, t.name⟩) := by
  cases s with
  | visitorTable =>
    obtain rfl := List.mem_singleton.1 hc
    obtain ⟨name, -, h⟩ := quotedName_eq_ok.1 h
    obtain ⟨-, ⟨-, rfl⟩ | ⟨hnone, -, rfl⟩⟩ := createTable_eq_ok.1 h
    · exact .inl rfl
    · exact .inr (.inl ⟨rfl, name, hnone, rfl⟩)
  | visitorIndexes =>
    obtain ⟨column, hcolumn, rfl⟩ := List.mem_map.1 hc
    obtain ⟨name, -, h⟩ := quotedName_eq_ok.1 h
    obtain ⟨-, -, t, ht, ⟨-, rfl⟩ | ⟨-, ⟨rows, hrows⟩, rfl⟩⟩ := createIndex_eq_ok.1 h
    · exact .inl rfl
    · exact .inr (.inr ⟨rfl, name, t, rows, ht, hrows, column, hcolumn, rfl⟩)

theorem keeps_changes {c : Change} (hc : c ∈ s.changes table) (h : c db = .ok db') :
    db.Keeps db' := by
  obtain rfl | ⟨-, name, hnone, rfl⟩ | ⟨-, name, t, rows, -, -, c, -, rfl⟩ := changes_eq_ok hc h
  · exact .refl _
  · exact keeps_withTable hnone _
  · exact keeps_withIndex ..

theorem keeps_inOrder_changes (s : Step) (table : String) (db : Database) :
    db.Keeps (inOrder (s.changes table) db).1 :=
  inOrder_keeps (fun _ hc _ _ h h' => h.trans (keeps_changes hc h')) (.refl db)

theorem applied_withTable {contents : Contents} (h : db.table? name = none)
    (hcontents : contents = .ledger [] ∨ ∃ rows, contents = .visits rows) :
    Migration.applied (db.withTable ⟨name, contents⟩) = Migration.applied db := by
  unfold Migration.applied
  rw [table?_withTable h]
  by_cases hname : sameLetters name ledgerTable
  · rw [if_pos hname, ← table?_congr hname, h]
    obtain rfl | ⟨rows, rfl⟩ := hcontents <;> rfl
  · rw [if_neg hname]

end Database

/-! ## Sound databases -/

namespace Database.IsSound

theorem isKnown (h : db.IsSound gone) (ht : db.table? name = some t) : t.IsKnown :=
  h.tables t (List.mem_of_find?_eq_some ht)

theorem exists_ledger (h : db.IsSound gone) (hledger : (db.table? ledgerTable).isSome) :
    ∃ name applied, db.table? ledgerTable = some ⟨name, .ledger applied⟩ := by
  obtain ⟨⟨name, contents⟩, ht⟩ := Option.isSome_iff_exists.1 hledger
  have hknown := h.isKnown ht
  rw [Table.IsKnown, if_pos (sameLetters_of_table? ht)] at hknown
  obtain ⟨applied, rfl⟩ := hknown
  exact ⟨name, applied, ht⟩

theorem not_ledger_of_visits {rows : Rows} (h : db.IsSound gone) (ht : db.table? name = some t)
    (hrows : t.contents = .visits rows) : sameLetters name ledgerTable = false := by
  rw [Bool.eq_false_iff]
  intro hname
  have hknown := h.isKnown ht
  rw [Table.IsKnown, sameLetters_congr (sameLetters_of_table? ht), if_pos hname, hrows] at hknown
  obtain ⟨applied, hknown⟩ := hknown
  cases hknown

theorem exists_visits (h : db.IsSound gone) (hname : sameLetters name ledgerTable = false)
    (ht : db.table? name = some t) : ∃ rows, t.contents = .visits rows := by
  have hknown := h.isKnown ht
  rwa [Table.IsKnown, sameLetters_congr (sameLetters_of_table? ht), hname,
    if_neg Bool.false_ne_true] at hknown

/-- An index of a name is an index of the table in that name. -/
theorem exists_index {c : Column} (h : db.IsSound gone) (hc : c ∈ indexedColumns)
    (hindex : db.hasIndex (indexName table c)) : sameLetters table ledgerTable = false ∧
      ∃ i ∈ db.indexes, sameLetters i.name (indexName table c) ∧ sameLetters i.table table := by
  obtain ⟨i, hi, hname⟩ := hasIndex_iff.1 hindex
  obtain ⟨table', htable, hledger, d, hd, hi'⟩ := h.indexes i hi
  have hletters := (sameLetters_indexName hd hc (hi' ▸ hname)).1
  rw [sameLetters_congr hletters] at hledger
  exact ⟨hledger, i, hi, hname, (sameLetters_congr htable table).trans hletters⟩

theorem withTable {contents : Contents} (h : db.IsSound gone) (hnone : db.table? name = none)
    (hknown : Table.IsKnown ⟨name, contents⟩)
    (hcontents : contents = .ledger [] ∨ ∃ rows, contents = .visits rows) :
    (db.withTable ⟨name, contents⟩).IsSound gone where
  tables := List.forall_mem_append.2 ⟨h.tables, List.forall_mem_singleton.2 hknown⟩
  indexes := h.indexes
  others := h.others
  applied s table hplain hkey := by
    rw [applied_withTable hnone hcontents] at hkey
    exact (h.applied s table hplain hkey).imp_right (keeps_withTable hnone contents).done

theorem withIndex {i : Index} (h : db.IsSound gone) (hi : i.IsKnown) :
    (db.withIndex i).IsSound gone where
  tables := h.tables
  indexes := List.forall_mem_append.2 ⟨h.indexes, List.forall_mem_singleton.2 hi⟩
  others := h.others
  applied s table hplain hkey :=
    (h.applied s table hplain hkey).imp_right (keeps_withIndex db i).done

/-- A table gets other contents of its own kind. -/
theorem setContents {contents : Contents} (h : db.IsSound gone)
    (hcontents : Table.IsKnown ⟨name, contents⟩)
    (happlied : ∀ (s : Step) table, Sql.isPlainIdentifier table →
      s.key table ∈ Migration.applied (db.setContents name contents) →
        s.key table ∈ Migration.applied db ∨ s.Done table db) :
        (db.setContents name contents).IsSound gone where
  tables := by
    refine List.forall_mem_map.2 fun t ht => ?_
    split
    · next hname => rwa [Table.IsKnown, sameLetters_congr hname]
    · exact h.tables t ht
  indexes := h.indexes
  others := h.others
  applied s table hplain hkey := by
    obtain hkey | hdone := happlied s table hplain hkey
    · exact (h.applied s table hplain hkey).imp_right (keeps_setContents ..).done
    · exact .inr ((keeps_setContents ..).done hdone)

theorem setRows {rows : Rows} (h : db.IsSound gone) (hname : sameLetters name ledgerTable = false) :
    (db.setContents name (.visits rows)).IsSound gone := by
  refine h.setContents ?_ fun s table _ hkey => .inl ?_
  · rw [Table.IsKnown, hname, if_neg Bool.false_ne_true]
    exact ⟨rows, rfl⟩
  · rwa [Migration.applied, table?_setContents_other hname] at hkey

theorem record (h : db.IsSound gone) (hdone : Sql.isPlainIdentifier table → s.Done table db)
    (hrecord : Migration.record (s.key table) db = .ok db') : db'.IsSound gone := by
  obtain ⟨name, applied, hledger, rfl⟩ := record_eq_ok.1 hrecord
  refine h.setContents ?_ fun s' table' hplain hkey => ?_
  · rw [Table.IsKnown, if_pos (sameLetters_refl _)]
    exact ⟨_, rfl⟩
  · rw [applied_of_table? (table?_setContents_self hledger), List.mem_append,
      List.mem_singleton] at hkey
    refine hkey.imp (fun hkey => ?_) fun hkey => ?_
    · rwa [applied_of_table? hledger]
    · obtain ⟨rfl, rfl⟩ := key_inj hkey
      exact hdone hplain

theorem createLedger (h : db.IsSound gone)
    (hdb : createTable ledgerTable (.ledger []) db = .ok db') :
    db'.IsSound gone ∧ (db'.table? ledgerTable).isSome := by
  obtain ⟨-, ⟨hsome, rfl⟩ | ⟨hnone, -, rfl⟩⟩ := createTable_eq_ok.1 hdb
  · exact ⟨h, hsome⟩
  · refine ⟨h.withTable hnone ?_ (.inl rfl), ?_⟩
    · rw [Table.IsKnown, if_pos (sameLetters_refl _)]
      exact ⟨[], rfl⟩
    · rw [table?_withTable hnone, if_pos (sameLetters_refl _)]
      rfl

/-- Every change that a migration makes keeps the database sound. -/
theorem change {c : Change} (h : db.IsSound gone) (hledger : (db.table? ledgerTable).isSome)
    (hc : c ∈ s.changes table) (hdb : c db = .ok db') : db'.IsSound gone := by
  obtain rfl | ⟨-, name, hnone, rfl⟩ | ⟨-, name, t, rows, ht, hrows, c, hcolumn, rfl⟩ :=
    changes_eq_ok hc hdb
  · exact h
  · refine h.withTable hnone ?_ (.inr ⟨[], rfl⟩)
    rw [Table.IsKnown, if_neg]
    · exact ⟨[], rfl⟩
    · intro hname
      rw [← table?_congr hname, hnone] at hledger
      cases hledger
  · exact h.withIndex ⟨name, sameLetters_of_table? ht, h.not_ledger_of_visits ht hrows,
      c, hcolumn, rfl⟩

end Database.IsSound

/-! ## Runs of migrations -/

namespace Migration

/-- When the statements that create indexes all succeed, the indexes are there. -/
theorem hasIndex_of_inOrder {columns : List Column}
    (h : inOrder (columns.map fun c => createIndex (indexName table c) table) db = (db', none)) :
    ∀ c ∈ columns, db'.hasIndex (indexName table c) := by
  induction columns generalizing db with
  | nil => exact nofun
  | cons c columns ih =>
    rw [List.map_cons, inOrder] at h
    split at h
    · next db₁ hc =>
      refine List.forall_mem_cons.2 ⟨?_, ih h⟩
      have hkeeps : db₁.Keeps db' := by
        have hdb' : _ = db' := congrArg Prod.fst h
        rw [← hdb']
        exact inOrder_keeps (List.forall_mem_map.2 fun _ _ _ _ hkeeps hdb =>
          hkeeps.trans (keeps_createIndex hdb)) (.refl db₁)
      obtain ⟨i, hi, hname⟩ := hasIndex_iff.1 (hasIndex_of_createIndex hc)
      exact hasIndex_iff.2 ⟨i, hkeeps.indexes hi, hname⟩
    · cases h

/-- Once its statements went through, a migration is done. -/
theorem done_of_changes (hplain : Sql.isPlainIdentifier table)
    (h : inOrder (s.changes table) db = (db', none)) : s.Done table db' := by
  cases s with
  | visitorTable =>
    have hcreate := inOrder_singleton_eq_none.1 h
    rw [quotedName_of_plain hplain] at hcreate
    obtain ⟨-, ⟨hsome, rfl⟩ | ⟨hnone, -, rfl⟩⟩ := createTable_eq_ok.1 hcreate
    · exact hsome
    · rw [Step.Done, table?_withTable hnone, if_pos (sameLetters_refl _)]
      rfl
  | visitorIndexes =>
    simp only [Step.changes, quotedName_of_plain hplain] at h
    exact hasIndex_of_inOrder h

end Migration

namespace Database.IsSound

theorem inOrder_changes (h : db.IsSound gone) (hledger : (db.table? ledgerTable).isSome) (s : Step)
    (table : String) :
    (inOrder (s.changes table) db).1.IsSound gone := by
  have hstep : ∀ c ∈ s.changes table, ∀ d d', d.IsSound gone ∧
    (d.table? ledgerTable).isSome → c d = .ok d' →
      d'.IsSound gone ∧ (d'.table? ledgerTable).isSome :=
    fun c hc d d' hd hdb => ⟨hd.1.change hd.2 hc hdb, (keeps_changes hc hdb).tables _ hd.2⟩
  exact (inOrder_keeps hstep ⟨h, hledger⟩).1

/-- A step of a migration keeps the database sound, applied or not, and keeps the ledger. -/
theorem applyOnce (h : db.IsSound gone) (hledger : (db.table? ledgerTable).isSome) (s : Step)
    (table : String) :
    (applyOnce table s db).1.IsSound gone ∧
    ((Migration.applyOnce table s db).1.table? ledgerTable).isSome := by
  obtain ⟨name, applied, ht⟩ := h.exists_ledger hledger
  rw [applyOnce_of_table? ht, pending]
  split
  · exact ⟨h, hledger⟩
  · have hsound := h.inOrder_changes hledger s table
    have hsome := (keeps_inOrder_changes s table db).tables _ hledger
    rw [inOrder_append]
    cases hrun : inOrder (s.changes table) db with
    | mk db₁ stop =>
      rw [hrun] at hsound hsome
      cases stop with
      | some fault => exact ⟨hsound, hsome⟩
      | none =>
        dsimp only
        rw [inOrder]
        cases hrecord : Migration.record (s.key table) db₁ with
        | error fault => exact ⟨hsound, hsome⟩
        | ok db₂ =>
          -- The entry comes last, when everything that it stands for is there.
          have hdone (hplain : Sql.isPlainIdentifier table) : s.Done table db₁ :=
            done_of_changes hplain hrun
          exact ⟨hsound.record hdone hrecord, (keeps_record hrecord).tables _ hsome⟩

/-- So does a whole migration, wherever it ends. -/
theorem run (h : db.IsSound gone) (table : String) : (Migration.run table db).1.IsSound gone := by
  rw [Migration.run, inOrder]
  cases hledger : createTable ledgerTable (.ledger []) db with
  | error fault => exact h
  | ok db₀ =>
    obtain ⟨h, hsome⟩ := h.createLedger hledger
    obtain ⟨h, hsome⟩ := h.applyOnce hsome .visitorTable table
    dsimp only [inOrder]
    cases hfirst : Migration.applyOnce table .visitorTable db₀ with
    | mk db₁ stop =>
      rw [hfirst] at h hsome
      cases stop with
      | some fault => exact h
      | none => exact (h.applyOnce hsome .visitorIndexes table).1

/-- Dropping a table keeps the database sound if the table is noted as gone. -/
theorem dropTable (h : db.IsSound gone) (hname : sameLetters name ledgerTable = false)
    (hdrop : Database.dropTable name db = .ok db') : db'.IsSound (name :: gone) := by
  obtain ⟨-, rfl⟩ := dropTable_eq_ok.1 hdrop
  refine ⟨fun t ht => h.tables t (List.mem_filter.1 ht).1, fun i hi =>
    h.indexes i (List.mem_filter.1 hi).1, List.forall_mem_cons.2 ⟨hname, h.others⟩,
      fun s table hplain hkey => ?_⟩
  rw [Migration.applied, table?_filter_other hname] at hkey
  cases hletters : sameLetters name table with
  | true => exact .inl ⟨name, List.mem_cons_self, hletters⟩
  | false =>
    obtain ⟨other, hother, hsame⟩ | hdone := h.applied s table hplain hkey
    · exact .inl ⟨other, List.mem_cons_of_mem _ hother, hsame⟩
    · right
      cases s with
      | visitorTable => rwa [Step.Done, table?_filter_other hletters]
      | visitorIndexes =>
        intro c hc
        obtain ⟨-, i, hi, hiname, hitable⟩ := h.exists_index hc (hdone c hc)
        refine hasIndex_iff.2 ⟨i, List.mem_filter.2 ⟨hi, ?_⟩, hiname⟩
        rw [sameLetters_congr hitable, sameLetters_comm, hletters]
        rfl

end Database.IsSound

end VisitLog

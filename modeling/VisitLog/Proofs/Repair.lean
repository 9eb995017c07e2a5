import VisitLog.Database.Planner
import VisitLog.Proofs.Isolation
import VisitLog.Proofs.Ledger

/-!
# What a migration leaves behind

`Pool.IsReachable` are the databases that stores, migrations and the removal of tables lead to. All
of them are sound (`IsReachable.isSound`). A migration that the ledger knows is not applied again,
so a table that was removed does not come back.

Main statement: `Store.repairs_of_migrate`.
-/

namespace VisitLog

open Text Database Migration

namespace Pool

/-- The database can be reached by opening stores, running migrations, operations of stores and
removing the tables `gone` of visits. -/
inductive IsReachable [Engine] : List String → Pool → Prop
  | new : IsReachable [] {}
  | opened {gone p} (name : String) (automigrate : Bool) :
    IsReachable gone p → IsReachable gone (Store.openTable name automigrate p).1
  | migrated {gone p} (table : String) :
    IsReachable gone p → IsReachable gone { p with database := (Migration.run table p.database).1 }
  | operated {gone p} (s : Store) (op : Operation) (now : Instant) :
    IsReachable gone p → IsReachable gone (p.settle (op.result s now p)).1
  | dropped {gone p s rows db} : IsReachable gone p → p.Holds s rows →
      dropTable s.table p.database = .ok db →
    IsReachable (s.table :: gone) { p with database := db }
  | closed {gone p} : IsReachable gone p → IsReachable gone { p with isClosed := true }

/-- The table of the store is there with its indexes. -/
structure IsReady (p : Pool) (s : Store) : Prop where
  table : ∃ rows, p.Holds s rows
  indexes : ∀ c ∈ indexedColumns, ∃ i ∈ p.database.indexes,
    sameLetters i.name (indexName s.table c) ∧ sameLetters i.table s.table

end Pool

variable {db db' : Database} {gone : List String} {name table : String} {s : Step}

/-! ## Reachable databases -/

namespace Pool

variable {p p' : Pool} {s : Store}

theorem Holds.not_ledger {rows : Rows} (h : p.Holds s rows) (hsound : p.database.IsSound gone) :
    sameLetters s.table ledgerTable = false := by
  obtain ⟨name, ht⟩ := h
  exact hsound.not_ledger_of_visits ht rfl

theorem database_migrate (h : p.isClosed = false) (s : Store) :
    (s.migrate p).1 = { p with database := (Migration.run s.table p.database).1 } := by
  rw [Store.migrate, h, if_neg Bool.false_ne_true]
  split <;> next hrun => rw [hrun]

theorem isSound_migrate (h : p.database.IsSound gone) (s : Store) :
    (s.migrate p).1.database.IsSound gone := by
  cases hp : p.isClosed with
  | true =>
    rw [Store.migrate, if_pos hp]
    exact h
  | false =>
    rw [database_migrate hp]
    exact h.run s.table

/-- Opening a store keeps the database sound, whether it succeeds or not. -/
theorem isSound_openTable (h : p.database.IsSound gone) (name : String) (automigrate : Bool) :
    (Store.openTable name automigrate p).1.database.IsSound gone := by
  rw [Store.openTable]
  cases Store.ofName name with
  | error failure => exact h
  | ok s =>
    dsimp only
    have hmigrate := isSound_migrate h s
    cases automigrate with
    | false => exact h
    | true =>
      rw [if_pos rfl]
      split <;> next hrun =>
        rw [hrun] at hmigrate
        exact hmigrate

variable [Engine]

theorem isSound_settle (h : p.database.IsSound gone) (s : Store) (op : Operation) (now : Instant) :
    (p.settle (op.result s now p)).1.database.IsSound gone := by
  cases hop : op.result s now p with
  | error failure => exact h
  | ok p' =>
    obtain rfl | ⟨⟨-, rows, hrows⟩, rows', rfl⟩ := Operation.eq_or_withRows hop
    · exact h
    · exact h.setRows (hrows.not_ledger h)

theorem IsReachable.isSound (h : IsReachable gone p) : p.database.IsSound gone := by
  induction h with
  | new => exact ⟨nofun, nofun, nofun, fun s table _ hkey => nomatch hkey⟩
  | opened name automigrate _ ih => exact isSound_openTable ih name automigrate
  | migrated table _ ih => exact ih.run table
  | operated s op now _ ih => exact isSound_settle ih s op now
  | dropped _ hrows hdrop ih => exact ih.dropTable (hrows.not_ledger ih) hdrop
  | closed _ ih => exact ih

end Pool

/-! ## What a run does for its table -/

namespace Migration

/-- Nothing of a migration of a table changed, neither what it made nor its entry in the ledger. -/
structure Step.Untouched (s : Step) (table : String) (db db' : Database) : Prop where
  done : s.Done table db' ↔ s.Done table db
  applied : s.key table ∈ applied db' ↔ s.key table ∈ applied db

variable {s' : Step}

theorem Step.Untouched.refl (s : Step) (table : String) (db : Database) : s.Untouched table db db :=
  ⟨Iff.rfl, Iff.rfl⟩

theorem Step.Untouched.trans {db'' : Database} (h : s.Untouched table db db')
    (h' : s.Untouched table db' db'') :
    s.Untouched table db db'' :=
  ⟨h'.done.trans h.done, h'.applied.trans h.applied⟩

theorem untouched_createLedger (hletters : sameLetters table ledgerTable = false)
    (h : createTable ledgerTable (.ledger []) db = .ok db') (s : Step) :
    s.Untouched table db db' := by
  obtain ⟨-, ⟨-, rfl⟩ | ⟨hnone, -, rfl⟩⟩ := createTable_eq_ok.1 h
  · exact .refl ..
  · refine ⟨?_, by rw [applied_withTable hnone (.inl rfl)]⟩
    cases s with
    | visitorTable =>
      rw [sameLetters_comm] at hletters
      rw [Step.Done, table?_withTable hnone, hletters, if_neg Bool.false_ne_true, Step.Done]
    | visitorIndexes => exact Iff.rfl

theorem untouched_changes {c : Change} (hne : s' ≠ s) (hc : c ∈ s.changes table)
    (h : c db = .ok db') :
    s'.Untouched table db db' := by
  obtain rfl | ⟨rfl, name, hnone, rfl⟩ | ⟨rfl, name, t, rows, -, -, c, -, rfl⟩ := changes_eq_ok hc h
  · exact .refl ..
  · refine ⟨?_, by rw [applied_withTable hnone (.inr ⟨[], rfl⟩)]⟩
    cases s' with
    | visitorTable => exact absurd rfl hne
    | visitorIndexes => exact Iff.rfl
  · refine ⟨?_, Iff.rfl⟩
    cases s' with
    | visitorTable => exact Iff.rfl
    | visitorIndexes => exact absurd rfl hne

theorem untouched_record (hne : s' ≠ s) (h : record (s.key table) db = .ok db') :
    s'.Untouched table db db' := by
  obtain ⟨name, applied, hledger, rfl⟩ := record_eq_ok.1 h
  constructor
  · cases s' with
    | visitorTable => rw [Step.Done, Step.Done, isSome_table?_setContents]
    | visitorIndexes => exact Iff.rfl
  · rw [applied_of_table? (table?_setContents_self hledger), applied_of_table? hledger,
      List.mem_append, List.mem_singleton]
    exact or_iff_left fun hkey => hne (key_inj hkey).1

/-- The statements of one migration leave the other one alone. -/
theorem untouched_pending (hne : s' ≠ s) (h : inOrder (pending table s db) db = (db', none)) :
    s'.Untouched table db db' := by
  have hdb' : _ = db' := congrArg Prod.fst h
  rw [← hdb']
  refine inOrder_keeps (fun c hc d d' hd hdb => hd.trans ?_) (.refl s' table db)
  unfold pending at hc
  split at hc
  · cases hc
  · obtain hc | hc := List.mem_append.1 hc
    · exact untouched_changes hne hc hdb
    · obtain rfl := List.mem_singleton.1 hc
      exact untouched_record hne hdb

/-- After its statements a step is done, unless the ledger had noted it before and it was undone
since. -/
theorem done_of_pending (hplain : Sql.isPlainIdentifier table)
    (h : inOrder (pending table s db) db = (db', none)) :
    s.Done table db' ↔ (s.key table ∈ applied db → s.Done table db) := by
  by_cases hkey : s.key table ∈ applied db
  · rw [pending, if_pos hkey] at h
    cases h
    exact (imp_iff_right hkey).symm
  · refine iff_of_true ?_ fun h => absurd h hkey
    rw [pending, if_neg hkey, inOrder_append] at h
    split at h
    · next db₁ hrun =>
      have hkeeps := keeps_record (inOrder_singleton_eq_none.1 h)
      exact hkeeps.done (done_of_changes hplain hrun)
    · cases h

theorem run_eq_none : run table db = (db', none) ↔ ∃ db₀ db₁,
    createTable ledgerTable (.ledger []) db = .ok db₀ ∧
    applyOnce table .visitorTable db₀ = (db₁, none) ∧
      applyOnce table .visitorIndexes db₁ = (db', none) := by
  rw [run, inOrder]
  cases createTable ledgerTable (.ledger []) db with
  | error fault => simp
  | ok db₀ =>
    dsimp only [inOrder]
    cases hfirst : applyOnce table .visitorTable db₀ with
    | mk db₁ stop => cases stop <;> simp [hfirst]

end Migration

namespace Database.IsSound

theorem not_done_of_ledger (h : db.IsSound gone) (hletters : sameLetters table ledgerTable) :
    ¬Step.visitorIndexes.Done table db := by
  intro hdone
  obtain ⟨hledger, -⟩ := h.exists_index (c := .createdAt) (by decide) (hdone _ (by decide))
  rw [hletters] at hledger
  cases hledger

/-- A run that goes through does what was missing in the ledger, and nothing else. -/
theorem done_of_run (h : db.IsSound gone) (hplain : Sql.isPlainIdentifier table)
    (hrun : Migration.run table db = (db', none)) : sameLetters table ledgerTable = false ∧
      ∀ s : Step, s.Done table db' ↔ (s.key table ∈ Migration.applied db → s.Done table db) := by
  obtain ⟨db₀, db₁, hcreate, hfirst, hsecond⟩ := run_eq_none.1 hrun
  obtain ⟨h₀, hsome⟩ := h.createLedger hcreate
  obtain ⟨h₁, hsome₁⟩ := h₀.applyOnce hsome .visitorTable table
  obtain ⟨h₂, -⟩ := h₁.applyOnce hsome₁ .visitorIndexes table
  rw [hfirst] at h₁ hsome₁ h₂
  rw [hsecond] at h₂
  obtain ⟨_, _, hledger₀⟩ := h₀.exists_ledger hsome
  obtain ⟨_, _, hledger₁⟩ := h₁.exists_ledger hsome₁
  rw [applyOnce_of_table? hledger₀] at hfirst
  rw [applyOnce_of_table? hledger₁] at hsecond
  -- The ledger never gets indexes, so the second migration of a table of its name cannot go
  -- through.
  have hletters : sameLetters table ledgerTable = false := by
    rw [Bool.eq_false_iff]
    intro hletters
    refine h₂.not_done_of_ledger hletters ((done_of_pending hplain hsecond).2 fun hkey => ?_)
    refine (h₁.applied _ table hplain hkey).resolve_left fun ⟨other, hother, hsame⟩ => ?_
    have hne := h₁.others other hother
    rw [sameLetters_congr hsame, hletters] at hne
    cases hne
  have hstart := untouched_createLedger hletters hcreate
  refine ⟨hletters, fun s => ?_⟩
  cases s with
  | visitorTable =>
    have hsecond : Step.visitorTable.Untouched table db₁ db' :=
      untouched_pending (by decide) hsecond
    rw [hsecond.done, done_of_pending hplain hfirst, (hstart _).done, (hstart _).applied]
  | visitorIndexes =>
    have hfirst := (hstart .visitorIndexes).trans (untouched_pending (by decide) hfirst)
    rw [done_of_pending hplain hsecond, hfirst.done, hfirst.applied]

/-- A store can write exactly if all steps of its migration are done. -/
theorem isReady_iff {p : Pool} {s : Store} (h : p.database.IsSound gone)
    (hletters : sameLetters s.table ledgerTable = false) :
    p.IsReady s ↔ ∀ m : Step, m.Done s.table p.database := by
  constructor
  · rintro ⟨⟨rows, name, ht⟩, hindexes⟩ m
    cases m with
    | visitorTable => exact Option.isSome_iff_exists.2 ⟨_, ht⟩
    | visitorIndexes =>
      intro c hc
      obtain ⟨i, hi, hname, -⟩ := hindexes c hc
      exact hasIndex_iff.2 ⟨i, hi, hname⟩
  · intro hdone
    refine ⟨?_, fun c hc => (h.exists_index hc (hdone .visitorIndexes c hc)).2⟩
    obtain ⟨⟨name, contents⟩, ht⟩ := Option.isSome_iff_exists.1 (hdone .visitorTable)
    obtain ⟨rows, hrows⟩ := h.exists_visits hletters ht
    exact ⟨rows, name, hrows ▸ ht⟩

end Database.IsSound

namespace Store

variable {p p' : Pool} {s : Store}

theorem migrate_eq_ok : s.migrate p = (p', .ok ()) ↔
    p.isClosed = false ∧ ∃ db, Migration.run s.table p.database = (db, none) ∧
    p' = { p with database := db } := by
  unfold migrate
  cases p.isClosed with
  | true => simp
  | false =>
    cases hrun : Migration.run s.table p.database with
    | mk db stop => cases stop <;> simp [eq_comm]

section

variable [Engine]

/-- New records can be stored exactly if there is a table for them. -/
theorem creates_iff (hp : p.isClosed = false) :
    (∀ now v, (∀ rows, p.Holds s rows → rows.hasId (v.value .id) = false) →
      ∃ p', (s.create now v p).result = .ok p') ↔ ∃ rows, p.Holds s rows := by
  constructor
  · intro hcreates
    by_contra hnone
    obtain ⟨p', hcreate⟩ := hcreates ⟨0, 0⟩ .blank fun rows hrows => absurd ⟨rows, hrows⟩ hnone
    rw [result_create] at hcreate
    obtain ⟨-, rows, hrows, -⟩ := Pool.change_insert_eq_ok.1 hcreate
    exact hnone ⟨rows, hrows⟩
  · rintro ⟨rows, hrows⟩ now v hfree
    obtain ⟨v', p', hcreate⟩ := exists_create_eq_ok now hp hrows (hfree rows hrows)
    exact ⟨p', by rw [hcreate]⟩

/-- What a migration of a store that succeeds has repaired. -/
structure Repairs (s : Store) (gone : List String) (p p' : Pool) : Prop where
  /-- The table and its indexes are there, unless the ledger has a migration and what it made is
  gone. -/
  isReady_iff : p'.IsReady s ↔ ∀ m : Step, m.key s.table ∈ applied p.database →
    m.Done s.table p.database
  /-- New records can be stored, unless the ledger has the migration of the table and the table is
  gone. -/
  creates_iff : (∀ now v, (∀ rows, p'.Holds s rows → rows.hasId (v.value .id) = false) →
    ∃ p'', (s.create now v p').result = .ok p'') ↔
      (Step.visitorTable.key s.table ∈ applied p.database → (p.database.table? s.table).isSome)
  undropped : (∀ name ∈ gone, sameLetters name s.table = false) → p'.IsReady s

/-- What a migration that succeeds has repaired: a table whose rows can be written, unless the table
was dropped after the ledger noted it. -/
theorem repairs_of_migrate (hp : Pool.IsReachable gone p) (hs : ofName name = .ok s)
    (h : s.migrate p = (p', .ok ())) : s.Repairs gone p p' := by
  obtain ⟨hplain, rfl⟩ := ofName_eq_ok.1 hs
  obtain ⟨hopen, db, hrun, rfl⟩ := migrate_eq_ok.1 h
  have hsound := hp.isSound.run name
  obtain ⟨hletters, hdone⟩ := hp.isSound.done_of_run hplain hrun
  rw [hrun] at hsound
  have hready := hsound.isReady_iff (p := { p with database := db }) (s := ⟨name⟩) hletters
  have hcreates := creates_iff (p := { p with database := db }) (s := ⟨name⟩) hopen
  refine ⟨hready.trans (forall_congr' hdone), ?_, fun hgone => hready.2 fun m =>
    (hdone m).2 fun hkey => ?_⟩
  · refine hcreates.trans (Iff.trans ⟨?_, fun hsome => ?_⟩ (hdone .visitorTable))
    · rintro ⟨rows, tableName, ht⟩
      exact Option.isSome_iff_exists.2 ⟨_, ht⟩
    · obtain ⟨⟨tableName, contents⟩, ht⟩ := Option.isSome_iff_exists.1 hsome
      obtain ⟨rows, hrows⟩ := hsound.exists_visits hletters ht
      exact ⟨rows, tableName, hrows ▸ ht⟩
  · refine (hp.isSound.applied m name hplain hkey).resolve_left ?_
    rintro ⟨other, hother, hsame⟩
    rw [hgone other hother] at hsame
    cases hsame

/-- The database of a store whose table was removed. -/
def emptied : Pool where
  database :=
    { tables :=
      [⟨ledgerTable, .ledger [Step.visitorTable.key "visits", Step.visitorIndexes.key "visits"]⟩] }

theorem isReachable_emptied : Pool.IsReachable ["visits"] emptied := by
  have hopened : Pool.IsReachable [] (openTable "visits" true {}).1 := .opened "visits" true .new
  have hrows : (openTable "visits" true {}).1.Holds ⟨"visits"⟩ [] := ⟨"visits", rfl⟩
  exact .dropped hopened hrows rfl

end

theorem repairs_of_migrate_renamed : Pool.IsReachable ["visits"] emptied ∧
    ofName "Visits" = .ok ⟨"Visits"⟩ ∧ migrate ⟨"Visits"⟩ emptied =
    ((migrate ⟨"Visits"⟩ emptied).1, .ok ()) ∧
      (migrate ⟨"Visits"⟩ emptied).1.IsReady ⟨"Visits"⟩ := by
  have hs : ofName "Visits" = .ok ⟨"Visits"⟩ := rfl
  have hok : migrate ⟨"Visits"⟩ emptied = ((migrate ⟨"Visits"⟩ emptied).1, .ok ()) := rfl
  refine ⟨isReachable_emptied, hs, hok,
    (repairs_of_migrate isReachable_emptied hs hok).isReady_iff.2 fun m hkey => ?_⟩
  exact absurd hkey (by cases m <;> decide)

/-- A migration that succeeds need not have brought the table back. -/
theorem not_repaired_emptied : ¬∀ (gone : List String) (name : String) (s : Store) (p p' : Pool),
    Pool.IsReachable gone p → ofName name = .ok s → s.migrate p = (p', .ok ()) → p'.IsReady s ∧
      ∀ now v, (∀ rows, p'.Holds s rows → rows.hasId (v.value .id) = false) →
        ∃ p'', (s.create now v p').result = .ok p'' := by
  intro h
  obtain ⟨⟨⟨rows, name, ht⟩, -⟩, -⟩ :=
    h ["visits"] "visits" ⟨"visits"⟩ emptied emptied isReachable_emptied rfl rfl
  cases ht

end Store

end VisitLog

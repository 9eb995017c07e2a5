import Mathlib.Data.List.Dedup
import VisitLog.Proofs.Parts

/-!
# Migrations converge

The statements of migrations run outside of any transaction, so a run can stop between any two of
them. On a database in parts a run adds the parts of its table that are missing, wherever an earlier
one stopped, and the order of tables shows in the order of parts only.

Main statement: `converges`.
-/

namespace VisitLog

open Text Database

namespace Migration

/-! ## Runs that stop -/

/-- The statements that a run of migrations sends to the database. -/
def statements (table : String) (db : Database) : List Change :=
  createTable ledgerTable (.ledger []) :: (pending table .visitorTable db ++
    pending table .visitorIndexes db)

/-- The database after a run that stopped after its first `k` statements. -/
def stopAfter (k : Nat) (table : String) (db : Database) : Database :=
  (inOrder ((statements table db).take k) db).1

/-- The database after runs that stopped, one after the other. -/
def interrupted (stops : List (String × Nat)) (db : Database) : Database :=
  stops.foldl (fun db stop => stopAfter stop.2 stop.1 db) db

/-- Runs for several tables, up to the first that fails. -/
def runAll : List String → Database → Database × Option Fault
  | [], db => (db, none)
  | table :: tables, db =>
    match run table db with
    | (db, none) => runAll tables db
    | (db, some fault) => (db, some fault)

/-- The database holds what the migrations of tables make, and nothing else. Without any table there
is no run, and so no ledger. -/
structure IsMigrated (names : List String) (db : Database) : Prop where
  tables : db.tables.Perm ((if names = [] then [] else [⟨ledgerTable, .ledger (applied db)⟩]) ++
    names.dedup.map fun n => ⟨n, .visits []⟩)
  entries :
    (applied db).Perm
      (names.dedup.flatMap fun n => [Step.visitorTable.key n, Step.visitorIndexes.key n])
  indexes : db.indexes.Perm (names.dedup.flatMap fun n => indexedColumns.map fun c =>
    ⟨indexName n c, n⟩)

/-! ## Runs on parts -/

/-- The parts can be added one after the other: each finds what it needs, and no entry is made
twice. -/
def CanAdd (names : List String) : List Part → List Part → Prop
  | _, [] => True
  | ps, q :: qs => (q.IsOf names ∧ q.needs ⊆ ps ∧ (q.key?.isSome → q ∉ ps)) ∧
      CanAdd names (Part.add ps q) qs

/-- The parts that the statements of a run add. -/
def missing (table : String) (ps : List Part) : List Part :=
  .ledger :: [Step.visitorTable, .visitorIndexes].flatMap fun s =>
    if .entry s table ∈ ps then [] else s.parts table

/-- The parts of a table. -/
def partsOf (table : String) : List Part :=
  .ledger :: [Step.visitorTable, .visitorIndexes].flatMap fun s => s.parts table

variable {names : List String} {ps qs : List Part} {n : String}

theorem CanAdd.take (h : CanAdd names ps qs) (k : Nat) : CanAdd names ps (qs.take k) := by
  induction qs generalizing ps k with
  | nil => rwa [List.take_nil]
  | cons q qs ih =>
    cases k with
    | zero => trivial
    | succ k => exact ⟨h.1, ih h.2 k⟩

theorem canAdd_append {qs' : List Part} (h : CanAdd names ps qs)
    (h' : CanAdd names (Part.addAll ps qs) qs') :
    CanAdd names ps (qs ++ qs') := by
  induction qs generalizing ps with
  | nil => exact h'
  | cons q qs ih => exact ⟨h.1, ih h.2 h'⟩

theorem inOrder_ofParts (h : Admissible names) (hps : IsCoherent names ps)
    (hqs : CanAdd names ps qs) :
    inOrder (qs.map Part.statement) (ofParts ps) = (ofParts (Part.addAll ps qs), none) ∧
      IsCoherent names (Part.addAll ps qs) := by
  induction qs generalizing ps with
  | nil => exact ⟨rfl, hps⟩
  | cons q qs ih =>
    obtain ⟨⟨hq, hneeds, hnew⟩, hqs⟩ := hqs
    rw [List.map_cons, inOrder, statement_ofParts h hps hq hneeds hnew]
    exact ih (isCoherent_add hps hq hneeds) hqs

theorem applied_ofParts (h : Admissible names) (hps : IsCoherent names ps) :
    applied (ofParts ps) = ps.filterMap Part.key? := by
  by_cases hledger : .ledger ∈ ps
  · exact applied_of_table? (table?_ledger h hps hledger)
  · rw [applied, table?_ledger_eq_none h hps hledger, keys_eq_nil hps hledger]

theorem mem_keys {s : Step} : s.key n ∈ ps.filterMap Part.key? ↔ .entry s n ∈ ps := by
  rw [List.mem_filterMap]
  constructor
  · rintro ⟨q, hq, hkey⟩
    cases q with
    | entry s' m =>
      obtain ⟨rfl, rfl⟩ := key_inj (Option.some.inj hkey)
      exact hq
    | ledger => cases hkey
    | table m => cases hkey
    | index m c => cases hkey
  · intro hmem
    exact ⟨_, hmem, rfl⟩

theorem pending_ofParts (h : Admissible names) (hps : IsCoherent names ps) (s : Step) (n : String) :
    pending n s (ofParts ps) = (if .entry s n ∈ ps then [] else s.parts n).map Part.statement := by
  rw [pending, applied_ofParts h hps]
  by_cases hentry : .entry s n ∈ ps
  · rw [if_pos hentry, if_pos (mem_keys.2 hentry)]
    rfl
  · rw [if_neg hentry, if_neg fun hkey => hentry (mem_keys.1 hkey)]
    cases s <;> rfl

theorem statements_ofParts (h : Admissible names) (hps : IsCoherent names ps) (n : String) :
    statements n (ofParts ps) = (missing n ps).map Part.statement := by
  rw [statements, pending_ofParts h hps, pending_ofParts h hps, ← List.map_append, missing,
    List.flatMap_cons, List.flatMap_singleton]
  rfl

theorem canAdd_ledger (hn : n ∈ names) (ps : List Part) : CanAdd names ps [.ledger] :=
  ⟨⟨List.ne_nil_of_mem hn, List.nil_subset ps, nofun⟩, trivial⟩

/-- The statements of a migration can be run once the ledger is there, and for the indexes the
table. -/
theorem canAdd_parts {s : Step} (hn : n ∈ names) (hledger : .ledger ∈ ps)
    (htable : s = .visitorTable ∨ .table n ∈ ps)
    (hentry : .entry s n ∉ ps) : CanAdd names ps (s.parts n) := by
  cases s with
  | visitorTable =>
    simp [Step.parts, CanAdd, Part.IsOf, Part.needs, Part.key?, Part.mem_add, hn, hledger, hentry]
  | visitorIndexes =>
    have htable := htable.resolve_left nofun
    simp [Step.parts, CanAdd, Part.IsOf, Part.needs, Part.key?, Part.mem_add, indexedColumns, hn,
      hledger, htable, hentry]

theorem parts_subset {s : Step} (hps : IsCoherent names ps) (hentry : .entry s n ∈ ps) :
    s.parts n ⊆ ps := by
  have hneeds := hps.needs _ hentry
  cases s with
  | visitorTable =>
    refine List.cons_subset.2 ⟨?_, List.cons_subset.2 ⟨hentry, List.nil_subset _⟩⟩
    exact hneeds (List.mem_cons_of_mem _ List.mem_cons_self)
  | visitorIndexes =>
    refine List.append_subset.2 ⟨fun q hq => ?_, List.cons_subset.2 ⟨hentry, List.nil_subset _⟩⟩
    exact hneeds (List.mem_cons_of_mem _ hq)

/-- What a run leaves out is there. -/
theorem addAll_missing {rs : List Part} (hps : IsCoherent names ps) (hsub : ps ⊆ rs) (n : String) :
    Part.addAll rs (missing n ps) = Part.addAll rs (partsOf n) := by
  have hskip (s : Step) {rs : List Part} (hsub : ps ⊆ rs) :
      Part.addAll rs (if .entry s n ∈ ps then [] else s.parts n) = Part.addAll rs (s.parts n) := by
    split
    · next hentry =>
        exact (Part.addAll_of_subset (List.Subset.trans (parts_subset hps hentry) hsub)).symm
    · rfl
  have hsub₁ : ps ⊆ Part.addAll rs [.ledger] := List.Subset.trans hsub (Part.subset_addAll_left ..)
  have hsub₂ : ps ⊆ Part.addAll (Part.addAll rs [.ledger]) (Step.parts n .visitorTable) :=
    List.Subset.trans hsub₁ (Part.subset_addAll_left ..)
  rw [missing, partsOf, List.flatMap_cons, List.flatMap_singleton, List.flatMap_cons,
    List.flatMap_singleton, ← List.singleton_append, ← List.singleton_append (l := _ ++ _),
    Part.addAll_append, Part.addAll_append, Part.addAll_append, Part.addAll_append,
    hskip _ hsub₁, hskip _ hsub₂]

section

variable (h : Admissible names) (hps : IsCoherent names ps)
include h hps

theorem applyOnce_ofParts {s : Step} (hn : n ∈ names) (hledger : .ledger ∈ ps)
    (htable : s = .visitorTable ∨ .table n ∈ ps) :
    applyOnce n s (ofParts ps) = (ofParts (Part.addAll ps (s.parts n)), none) ∧
      IsCoherent names (Part.addAll ps (s.parts n)) := by
  rw [applyOnce_of_table? (table?_ledger h hps hledger), pending_ofParts h hps]
  split
  · next hentry =>
    rw [Part.addAll_of_subset (parts_subset hps hentry)]
    exact ⟨rfl, hps⟩
  · next hentry => exact inOrder_ofParts h hps (canAdd_parts hn hledger htable hentry)

/-- A run adds the parts of its table. -/
theorem run_ofParts (hn : n ∈ names) :
    run n (ofParts ps) = (ofParts (Part.addAll ps (partsOf n)), none) ∧
    IsCoherent names (Part.addAll ps (partsOf n)) := by
  obtain ⟨hcreate, hps₀⟩ := inOrder_ofParts h hps (canAdd_ledger hn ps)
  have hledger : .ledger ∈ Part.addAll ps [.ledger] :=
    Part.subset_addAll_right _ _ List.mem_cons_self
  obtain ⟨hfirst, hps₁⟩ := applyOnce_ofParts h hps₀ (s := .visitorTable) hn hledger (.inl rfl)
  obtain ⟨hsecond, hps₂⟩ :=
      applyOnce_ofParts h hps₁ (s := .visitorIndexes) hn (Part.subset_addAll_left _ _ hledger)
    (.inr (Part.subset_addAll_right _ _ List.mem_cons_self))
  have hparts : Part.addAll (Part.addAll (Part.addAll ps [.ledger]) (Step.parts n .visitorTable))
      (Step.parts n .visitorIndexes) = Part.addAll ps (partsOf n) := by
    rw [← Part.addAll_append, ← Part.addAll_append]
    rfl
  rw [hparts] at hsecond hps₂
  have hcreate : inOrder [createTable ledgerTable (.ledger [])] (ofParts ps) = _ := hcreate
  rw [run, hcreate]
  dsimp only
  rw [hfirst]
  exact ⟨hsecond, hps₂⟩

omit h in
/-- What a migration still has to add can be added, in its order. -/
theorem canAdd_missing (hn : n ∈ names) : CanAdd names ps (missing n ps) := by
  have hledger : .ledger ∈ Part.addAll ps [.ledger] :=
    Part.subset_addAll_right _ _ List.mem_cons_self
  rw [missing, List.flatMap_cons, List.flatMap_singleton, ← List.singleton_append]
  refine canAdd_append (canAdd_ledger hn ps) (canAdd_append ?_ ?_)
  · split
    · trivial
    · next hentry =>
      refine canAdd_parts hn hledger (.inl rfl) ?_
      simp [Part.mem_addAll, hentry]
  · by_cases hentry : .entry .visitorIndexes n ∈ ps
    · rw [if_pos hentry]
      trivial
    · rw [if_neg hentry]
      -- If the first migration is skipped, the table is there already: its entry needs it.
      have htable : .table n ∈ ps ∨ .entry .visitorTable n ∉ ps :=
        (Decidable.em _).imp_left fun hfirst => parts_subset hps hfirst List.mem_cons_self
      refine canAdd_parts hn (Part.subset_addAll_left _ _ hledger) (.inr ?_) ?_
      · obtain htable | hfirst := htable
        · exact Part.subset_addAll_left _ _ (Part.subset_addAll_left _ _ htable)
        · rw [if_neg hfirst]
          exact Part.subset_addAll_right _ _ List.mem_cons_self
      · split <;> simp [Part.mem_addAll, Step.parts, hentry]

theorem stopAfter_ofParts (hn : n ∈ names) (k : Nat) :
    stopAfter k n (ofParts ps) = ofParts (Part.addAll ps ((missing n ps).take k)) ∧
      IsCoherent names (Part.addAll ps ((missing n ps).take k)) := by
  obtain ⟨hrun, hcoherent⟩ := inOrder_ofParts h hps ((canAdd_missing hps hn).take k)
  rw [stopAfter, statements_ofParts h hps, ← List.map_take, hrun]
  exact ⟨rfl, hcoherent⟩

theorem run_eq_inOrder (hn : n ∈ names) : run n (ofParts ps) = inOrder (statements n (ofParts ps))
    (ofParts ps) := by
  rw [statements_ofParts h hps, (inOrder_ofParts h hps (canAdd_missing hps hn)).1,
    addAll_missing hps (List.Subset.refl ps), (run_ofParts h hps hn).1]

theorem run_run (hn : n ∈ names) : run n (run n (ofParts ps)).1 = run n (ofParts ps) := by
  obtain ⟨hrun, hcoherent⟩ := run_ofParts h hps hn
  rw [hrun, (run_ofParts h hcoherent hn).1, Part.addAll_of_subset (Part.subset_addAll_right ..)]

/-- A run that stopped is completed by the next one. -/
theorem run_stopAfter (hn : n ∈ names) (k : Nat) :
    run n (stopAfter k n (ofParts ps)) = run n (ofParts ps) := by
  obtain ⟨hstop, hcoherent⟩ := stopAfter_ofParts h hps hn k
  have hsub : ps ⊆ Part.addAll ps ((missing n ps).take k) := Part.subset_addAll_left ..
  -- To add all parts of the table is to add those that were missing at first, and `k` of these are
  -- there.
  rw [hstop, (run_ofParts h hcoherent hn).1, (run_ofParts h hps hn).1, ← addAll_missing hps hsub,
    ← addAll_missing hps (List.Subset.refl ps), Part.addAll_take]

theorem exists_interrupted {stops : List (String × Nat)} (hstops : ∀ stop ∈ stops, stop.1 ∈ names) :
    ∃ ps', interrupted stops (ofParts ps) = ofParts ps' ∧ IsCoherent names ps' := by
  induction stops generalizing ps with
  | nil => exact ⟨ps, rfl, hps⟩
  | cons stop stops ih =>
    rw [List.forall_mem_cons] at hstops
    obtain ⟨hstop, hcoherent⟩ := stopAfter_ofParts h hps hstops.1 stop.2
    rw [interrupted, List.foldl_cons, hstop]
    exact ih hcoherent hstops.2

/-- Running migrations again adds the missing parts of their names and keeps all that is there. -/
theorem exists_runAll {again : List String} (hagain : ∀ n ∈ again, n ∈ names) :
    ∃ ps', runAll again (ofParts ps) = (ofParts ps', none) ∧ IsCoherent names ps' ∧ ps ⊆ ps' ∧
      ∀ n ∈ again, partsOf n ⊆ ps' := by
  induction again generalizing ps with
  | nil => exact ⟨ps, rfl, hps, List.Subset.refl ps, nofun⟩
  | cons n again ih =>
    rw [List.forall_mem_cons] at hagain
    obtain ⟨hrun, hcoherent⟩ := run_ofParts h hps hagain.1
    obtain ⟨ps', hruns, hps', hsub, hparts⟩ := ih hcoherent hagain.2
    rw [runAll, hrun]
    refine ⟨ps', hruns, hps', List.Subset.trans (Part.subset_addAll_left ..) hsub,
      List.forall_mem_cons.2 ⟨?_, hparts⟩⟩
    exact List.Subset.trans (Part.subset_addAll_right ..) hsub

end

/-! ## Where runs lead to -/

/-- All parts of some tables. -/
def allParts (names : List String) : List Part :=
  (if names = [] then [] else [.ledger]) ++
    names.dedup.flatMap fun n => [Step.visitorTable, .visitorIndexes].flatMap fun s => s.parts n

theorem mem_allParts {q : Part} : q ∈ allParts names ↔ q.IsOf names := by
  by_cases hnames : names = []
  · cases q <;> simp [allParts, Part.IsOf, hnames]
  · cases q with
    | ledger => simp [allParts, Part.IsOf, hnames]
    | table n => simp [allParts, Part.IsOf, Step.parts, hnames]
    | index n c => simp [allParts, Part.IsOf, Step.parts, hnames]
    | entry s n => cases s <;> simp [allParts, Part.IsOf, Step.parts, hnames]

theorem name?_of_mem_parts {s : Step} {q : Part} (hq : q ∈ s.parts n) : q.name? = some n := by
  cases s with
  | visitorTable =>
    obtain rfl | rfl : q = .table n ∨ q = .entry .visitorTable n := by simpa [Step.parts] using hq
    · rfl
    · rfl
  | visitorIndexes =>
    obtain hq | hq := List.mem_append.1 hq
    · obtain ⟨c, -, rfl⟩ := List.mem_map.1 hq
      rfl
    · obtain rfl := List.mem_singleton.1 hq
      rfl

/-- No part belongs to two names or comes twice. -/
theorem nodup_allParts (names : List String) : (allParts names).Nodup := by
  have hname {n : String} {q : Part} (hq : q ∈ [Step.visitorTable, .visitorIndexes].flatMap
    fun s => s.parts n) :
      q.name? = some n := by
    obtain ⟨s, -, hq⟩ := List.mem_flatMap.1 hq
    exact name?_of_mem_parts hq
  refine List.nodup_append'.2 ⟨by split <;> simp, List.nodup_flatMap.2 ⟨fun n _ => ?_, ?_⟩,
    fun q hq hq' => ?_⟩
  · simp [Step.parts, indexedColumns]
  · refine (List.nodup_dedup names).imp fun hne q hq hq' => hne ?_
    exact Option.some.inj ((hname hq).symm.trans (hname hq'))
  · obtain ⟨n, -, hq'⟩ := List.mem_flatMap.1 hq'
    have hledger : q = .ledger := by
      split at hq
      · cases hq
      · exact List.mem_singleton.1 hq
    subst hledger
    cases hname hq'

/-- A coherent database that has the parts of all names has nothing else. -/
theorem perm_allParts (hps : IsCoherent names ps) (hparts : ∀ n ∈ names, partsOf n ⊆ ps) :
    ps.Perm (allParts names) := by
  refine (List.perm_ext_iff_of_nodup hps.nodup (nodup_allParts names)).2 fun q =>
    ⟨fun hq => ?_, fun hq => ?_⟩
  · exact mem_allParts.2 (hps.isOf q hq)
  · obtain hq | hq := List.mem_append.1 hq
    · split at hq
      · cases hq
      · next hnames =>
        obtain ⟨n, hn⟩ := List.exists_mem_of_ne_nil names hnames
        obtain rfl := List.mem_singleton.1 hq
        exact hparts n hn List.mem_cons_self
    · obtain ⟨n, hn, hq⟩ := List.mem_flatMap.1 hq
      exact hparts n (List.mem_dedup.1 hn) (List.mem_cons_of_mem _ hq)

/-- So its schema and its ledger are those of the names, up to order. -/
theorem isMigrated_ofParts (h : Admissible names) (hps : IsCoherent names ps)
    (hparts : ∀ n ∈ names, partsOf n ⊆ ps) :
    IsMigrated names (ofParts ps) := by
  have hperm := perm_allParts hps hparts
  have happlied := applied_ofParts h hps
  constructor
  · have htables := hperm.filterMap (Part.table? (applied (ofParts ps)))
    rw [allParts, List.filterMap_append, List.filterMap_flatMap, happlied] at htables
    rw [happlied, List.map_eq_flatMap]
    refine htables.trans (.of_eq ?_)
    split <;> rfl
  · have hkeys := hperm.filterMap Part.key?
    rw [allParts, List.filterMap_append, List.filterMap_flatMap] at hkeys
    rw [happlied]
    refine hkeys.trans (.of_eq ?_)
    split <;> rfl
  · have hindexes := hperm.filterMap Part.index?
    rw [allParts, List.filterMap_append, List.filterMap_flatMap] at hindexes
    refine hindexes.trans (.of_eq ?_)
    split <;> rfl

/-- From this database migrations lead to the same tables, whatever stops them and in whatever order
they run. -/
structure Converges (names : List String) (db : Database) : Prop where
  /-- A run is what its statements do, in order. -/
  runs : ∀ n ∈ names, run n db = inOrder (statements n db) db
  repeats : ∀ n ∈ names, run n (run n db).1 = run n db
  resumes : ∀ n ∈ names, ∀ k, run n (stopAfter k n db) = run n db
  completes : ∀ again, (∀ n, n ∈ again ↔ n ∈ names) → ∃ db', runAll again db = (db', none) ∧
    IsMigrated names db'

/-- Migrations may be repeated, reordered and stopped anywhere: running those that were begun to
their end leads to one and the same schema. -/
theorem converges (h : Admissible names) {stops : List (String × Nat)}
    (hstops : ∀ stop ∈ stops, stop.1 ∈ names) :
    Converges names (interrupted stops {}) := by
  have hempty : IsCoherent names [] := ⟨List.nodup_nil, nofun, nofun⟩
  obtain ⟨ps, hps, hcoherent⟩ := exists_interrupted h hempty hstops
  have hdb : interrupted stops {} = ofParts ps := hps
  rw [hdb]
  refine ⟨fun n => run_eq_inOrder h hcoherent, fun n => run_run h hcoherent, fun n =>
    run_stopAfter h hcoherent, fun again hagain => ?_⟩
  obtain ⟨ps', hruns, hps', -, hparts⟩ := exists_runAll h hcoherent fun n => (hagain n).1
  exact ⟨_, hruns, isMigrated_ofParts h hps' fun n hn => hparts n ((hagain n).2 hn)⟩

/-- The run of the first table stopped before its indexes, that of the second one among them. -/
def stopped : Database :=
  interrupted [("visits", 3), ("other", 5)] {}

theorem converges_stopped : Admissible ["other", "visits", "other"] ∧
    (∀ stop ∈ [("visits", 3), ("other", 5)], stop.1 ∈ ["other", "visits", "other"]) ∧
    applied stopped = [Step.visitorTable.key "visits", Step.visitorTable.key "other"] ∧
    stopped.indexes = [⟨"idx_other_created_at", "other"⟩, ⟨"idx_other_ip_address", "other"⟩] ∧
    Converges ["other", "visits", "other"] stopped := by
  have h : Admissible ["other", "visits", "other"] := by
    constructor <;> decide
  have hstops : ∀ stop ∈ [("visits", 3), ("other", 5)], stop.1 ∈
      ["other", "visits", "other"] := by decide
  exact ⟨h, hstops, rfl, rfl, converges h hstops⟩

end Migration

end VisitLog

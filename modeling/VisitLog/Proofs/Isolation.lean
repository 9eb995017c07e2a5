import Mathlib.Data.Fintype.EquivFin
import Mathlib.Data.String.Basic
import VisitLog.Database.Planner
import VisitLog.Proofs.Atomicity
import VisitLog.Proofs.Hiding
import VisitLog.Proofs.Statements

/-!
# Stores on one database

Several stores can have their tables in one database. An operation of a store writes rows of its own
table and nothing else (`Operation.sameElsewhere_settle`), so a run of operations leaves to another
store what it read before. The database tells tables apart by name without the case of letters,
while stores are opened under names that differ in the case of letters only as well; these have one
table together.

Main statement: `Store.isolated_iff`.
-/

namespace VisitLog

open Text

/-- The database can be reached and has the table of the store. -/
def Pool.Serves (p : Pool) (s : Store) : Prop :=
  p.isClosed = false ∧ ∃ rows, p.Holds s rows

/-! ## What an operation leaves alone -/

namespace Operation

variable [Engine]

variable {s : Store} {now : Instant} {p p' : Pool}

/-- A write changes the rows of its own table, or nothing. -/
theorem eq_or_withRows_of_write {w : Write} {v : Visitor}
    (h : (s.write w now v p).result = .ok p') :
    p' = p ∨ p.Serves s ∧ ∃ rows, p' = p.withRows s rows := by
  have out := s.outcome_write w now v p
  generalize s.write w now v p = a at out h
  cases out with
  | nameless | refused => cases h
  | unchanged =>
    cases h
    exact .inl rfl
  | stored _ _ hp hrows =>
    cases h
    exact .inr ⟨⟨hp, _, hrows⟩, _, rfl⟩

/-- An operation that succeeds writes rows of its table, if it writes anything. -/
theorem eq_or_withRows {op : Operation} (h : op.result s now p = .ok p') :
    p' = p ∨ p.Serves s ∧ ∃ rows, p' = p.withRows s rows := by
  cases op with
  | create v =>
    rw [result, Store.result_create] at h
    obtain ⟨hp, rows, hrows, -, rfl⟩ := Pool.change_insert_eq_ok.1 h
    exact .inr ⟨⟨hp, rows, hrows⟩, _, rfl⟩
  | createBatch vs =>
    cases vs with
    | nil =>
      cases h
      exact .inl rfl
    | cons v vs =>
      rw [result, Store.map_createBatch (List.cons_ne_nil v vs)] at h
      obtain ⟨hp, rows, hrows, -, -, rfl⟩ := Pool.change_insertAll_eq_ok.1 h
      exact .inr ⟨⟨hp, rows, hrows⟩, _, rfl⟩
  | update v => exact eq_or_withRows_of_write (w := .update) h
  | softDelete v => exact eq_or_withRows_of_write (w := .softDelete) h
  | softDeleteById id =>
    obtain ⟨v, -, h⟩ := Store.softDeleteById_eq_ok.1 h
    exact eq_or_withRows_of_write h
  | delete v | deleteById id =>
    obtain ⟨-, hp, rows, hrows, rfl⟩ := Store.deleteById_eq_ok.1 h
    exact .inr ⟨⟨hp, rows, hrows⟩, _, rfl⟩
  | purge olderThan =>
    rw [result] at h
    cases hpurge : s.purge olderThan p with
    | error failure =>
      rw [hpurge] at h
      cases h
    | ok counted =>
      rw [hpurge] at h
      cases h
      obtain ⟨hp, rows, hrows, -, hcounted⟩ := Store.purge_eq_ok.1 hpurge
      exact .inr ⟨⟨hp, rows, hrows⟩, _, hcounted⟩

theorem sameElsewhere_settle (op : Operation) (s : Store) (now : Instant) (p : Pool) :
    Pool.SameElsewhere s p (p.settle (op.result s now p)).1 := by
  cases h : op.result s now p with
  | error failure => exact .refl s p
  | ok p' =>
    obtain rfl | ⟨-, rows, rfl⟩ := eq_or_withRows h
    · exact .refl s _
    · exact Pool.sameElsewhere_withRows p s rows

theorem settle_of_not_serves (hp : ¬p.Serves s) (op : Operation) (now : Instant) :
    (p.settle (op.result s now p)).1 = p := by
  cases h : op.result s now p with
  | error failure => rfl
  | ok p' => exact (eq_or_withRows h).resolve_right fun hserves => hp hserves.1

end Operation

namespace Store

/-- The database after some operations of the store, each at its own time. One that fails changes
nothing. -/
def operate [Engine] (s : Store) (ops : List (Operation × Instant)) (p : Pool) : Pool :=
  ops.foldl (fun p a => (p.settle (a.1.result s a.2 p)).1) p

variable {s t : Store} {p p' : Pool} {rows : Rows}

theorem sameElsewhere_operate [Engine] (s : Store) (ops : List (Operation × Instant)) (p : Pool) :
    Pool.SameElsewhere s p (s.operate ops p) := by
  induction ops generalizing p with
  | nil => exact .refl s p
  | cons a ops ih => exact (a.1.sameElsewhere_settle s a.2 p).trans (ih _)

theorem operate_of_not_serves [Engine] (hp : ¬p.Serves s) (ops : List (Operation × Instant)) :
    s.operate ops p = p := by
  induction ops with
  | nil => rfl
  | cons a ops ih => rwa [operate, List.foldl_cons, Operation.settle_of_not_serves hp]

/-! ## What a store reads -/

/-- Whoever reads through the store cannot tell two databases apart. -/
structure ReadsSame [Engine] (t : Store) (p p' : Pool) : Prop where
  list : ∀ now o, t.list now o p' = t.list now o p
  count : ∀ now o, t.count now o p' = t.count now o p
  find : ∀ now id, t.find now id p' = t.find now id p

theorem ReadsSame.refl [Engine] (t : Store) (p : Pool) : t.ReadsSame p p :=
  ⟨fun _ _ => rfl, fun _ _ => rfl, fun _ _ => rfl⟩

theorem read_congr {α : Type} {f : Database → Except Fault α} (hclosed : p'.isClosed = p.isClosed)
    (h : f p'.database = f p.database) : p'.read f = p.read f := by
  rw [Pool.read, Pool.read, hclosed, h]

/-- A store reads its own table only, once that was created. -/
theorem readsSame_of_table? [Engine] (hclosed : p'.isClosed = p.isClosed)
    (hcreated : (p.database.table? t.table).isSome)
    (h : p'.database.table? t.table = p.database.table? t.table) : t.ReadsSame p p' := by
  obtain ⟨found, hfound⟩ := Option.isSome_iff_exists.1 hcreated
  rw [hfound] at h
  have hlist (now : Instant) (o : Options) : t.list now o p' = t.list now o p := by
    unfold list
    cases hq : Query.ofOptions t.table now o with
    | error failure => rfl
    | ok q =>
      refine read_congr hclosed ?_
      rw [Database.list, Database.list, Query.table_of_ofOptions hq, h, hfound]
  refine ⟨hlist, fun now o => ?_, fun now id => ?_⟩
  · unfold count
    cases hq : Query.ofOptions t.table now { o with countOnly := true } with
    | error failure => rfl
    | ok q =>
      refine read_congr hclosed ?_
      rw [Database.count, Database.count, Query.table_of_ofOptions hq, h, hfound]
  · unfold find
    rw [hlist]

theorem readsSame_operate [Engine] (h : sameLetters s.table t.table = false)
    (hcreated : (p.database.table? t.table).isSome) (ops : List (Operation × Instant)) :
    t.ReadsSame p (s.operate ops p) :=
  have helsewhere := s.sameElsewhere_operate ops p
  readsSame_of_table? helsewhere.isClosed hcreated (helsewhere.others t.table h)

/-! ## One table under two names -/

theorem count_all [Engine] (hp : p.isClosed = false) (h : p.Holds s rows) (now : Instant) :
    s.count now { withDeleted := true } p = .ok rows.length := by
  refine (Pool.read_count_of_holds (q := ⟨s.table, [], none, none, none, none⟩) hp h rfl).trans ?_
  rw [Query.refusal?_eq_none (Nat.zero_le _) (List.forall_mem_nil _), Query.count]
  exact congrArg (fun rows : Rows => Except.ok rows.length) (List.filter_eq_self.2 fun _ _ => rfl)

theorem exists_free (rows : Rows) : ∃ id, rows.hasId id = false := by
  obtain ⟨id, hid⟩ :=
    Infinite.exists_notMem_finset (rows.map fun r => (r.value .id).toText).toFinset
  refine ⟨id, Rows.hasId_eq_false.2 fun r hr hrid => hid ?_⟩
  rw [List.mem_toFinset]
  exact List.mem_map.2 ⟨r, hr, by rw [hrid, Stored.toText_text]⟩

/-- What is stored through one of two names with the same letters is counted under the other. -/
theorem exists_not_readsSame [Engine] (h : sameLetters s.table t.table) (hp : p.Serves s) :
    ∃ ops, ¬t.ReadsSame p (s.operate ops p) := by
  obtain ⟨hp, rows, hrows⟩ := hp
  obtain ⟨id, hid⟩ := exists_free rows
  obtain ⟨v, p', hcreate⟩ := exists_create_eq_ok (v := Visitor.blank.set .id id) ⟨0, 0⟩ hp hrows hid
  obtain ⟨-, rows', hrows', -, rfl⟩ := create_eq_ok hcreate
  cases hrows.unique hrows'
  -- Under either name it is the same table, so the record that is new in one is new in the other.
  have hother {q : Pool} {rows : Rows} (hq : q.Holds s rows) : q.Holds t rows := by
    obtain ⟨name, hq⟩ := hq
    exact ⟨name, Database.table?_congr h q.database ▸ hq⟩
  refine ⟨[(.create (Visitor.blank.set .id id), ⟨0, 0⟩)], fun hsame => ?_⟩
  have hcount := hsame.count ⟨0, 0⟩ { withDeleted := true }
  have hsettle : s.operate [(.create (Visitor.blank.set .id id), ⟨0, 0⟩)] p =
      p.withRows s (rows ++ [Row.ofVisitor (dated ⟨0, 0⟩ (Visitor.blank.set .id id))]) := by
    rw [operate, List.foldl_cons, List.foldl_nil, Operation.result, hcreate]
    rfl
  rw [hsettle, count_all (p := p.withRows s _) hp (hother (hrows.withRows _)),
    count_all hp (hother hrows), List.length_append] at hcount
  exact absurd (Except.ok.inj hcount) (Nat.succ_ne_self _)

theorem ofName_eq_ok {name : String} : ofName name = .ok s ↔ Sql.isPlainIdentifier name ∧
    s = ⟨name⟩ := by
  unfold ofName
  split
  · next hname =>
    rw [String.isEmpty_iff.1 hname]
    exact iff_of_false nofun fun h => absurd h.1 (by decide)
  · split
    · next hplain => exact ⟨fun h => ⟨hplain, (Except.ok.inj h).symm⟩, fun h =>
        congrArg Except.ok h.2.symm⟩
    · next hplain => exact iff_of_false nofun fun h => hplain h.1

/-- A store that was opened has the table that it was opened for. -/
theorem table_of_openTable {name : String} {automigrate : Bool}
    (h : (openTable name automigrate p).2 = .ok s) :
    s.table = name := by
  unfold openTable at h
  split at h
  · cases h
  · next hname =>
    obtain ⟨-, rfl⟩ := ofName_eq_ok.1 hname
    split at h
    · split at h <;> cases h
      rfl
    · cases h
      rfl

/-! ## Two stores -/

/-- Two stores were opened under the names `a` and `b`, and the table of the second one was created;
a name without such a table may be that of one in which the engine tells about the others. Whatever
is done through the first store in a database, the second one reads what it read before: exactly if
the names differ in more than the case of letters, or nothing can be done as the database cannot be
reached or has no table for the first store. -/
theorem isolated_iff [Engine] {a b : String} {migratesA migratesB : Bool} {p₀ p₁ : Pool}
    (hs : (openTable a migratesA p₀).2 = .ok s) (ht : (openTable b migratesB p₁).2 = .ok t)
    (hcreated : (p.database.table? b).isSome) :
    (∀ ops, t.ReadsSame p (s.operate ops p)) ↔ sameLetters a b = false ∨ ¬p.Serves s := by
  obtain rfl := table_of_openTable hs
  obtain rfl := table_of_openTable ht
  constructor
  · intro hsame
    refine or_iff_not_imp_left.2 fun hletters hp => ?_
    obtain ⟨ops, hops⟩ := exists_not_readsSame (Bool.eq_true_of_not_eq_false hletters) hp
    exact hops (hsame ops)
  · rintro (hletters | hp) ops
    · exact readsSame_operate hletters hcreated ops
    · rw [operate_of_not_serves hp]
      exact .refl t p

/-- A new database on which two stores were opened. -/
def shared (a b : String) : Pool :=
  (openTable b true (openTable a true {}).1).1

/-- Some visits are stored through one of the two stores. -/
def stores : List (Operation × Instant) :=
  [(.create (.visit "a" "/" ""), ⟨0, 0⟩),
    (.createBatch [.visit "b" "/old" "", .visit "c" "/" ""], ⟨30, 0⟩)]

theorem isolated_iff_apart :
    (openTable "visits" true {}).2 = .ok ⟨"visits"⟩ ∧
      (openTable "other" true (openTable "visits" true {}).1).2 = .ok ⟨"other"⟩ ∧
      (∀ ops, ReadsSame ⟨"other"⟩ (shared "visits" "other")
        (operate ⟨"visits"⟩ ops (shared "visits" "other"))) ∧
      count ⟨"visits"⟩ ⟨60, 0⟩ {} (operate ⟨"visits"⟩ stores (shared "visits" "other")) = .ok 3 ∧
      count ⟨"other"⟩ ⟨60, 0⟩ {} (operate ⟨"visits"⟩ stores (shared "visits" "other")) = .ok 0 := by
  have hs : (openTable "visits" true {}).2 = .ok ⟨"visits"⟩ := rfl
  have ht : (openTable "other" true (openTable "visits" true {}).1).2 = .ok ⟨"other"⟩ := rfl
  exact ⟨hs, ht, (isolated_iff hs ht rfl).2 (.inl (by decide)), rfl, rfl⟩

/-- Two different names can be names of one table. -/
theorem not_isolated_shared :
    ¬∀ (a b : String) (s t : Store) (p q : Pool), a ≠ b → openTable a true {} = (p, .ok s) →
      openTable b true p = (q, .ok t) → ∀ ops, t.ReadsSame q (s.operate ops q) := by
  intro h
  have hsame := h "visits" "Visits" ⟨"visits"⟩ ⟨"Visits"⟩ _ _ (by decide) rfl rfl
  have hserves : (shared "visits" "Visits").Serves ⟨"visits"⟩ := ⟨rfl, [], "visits", rfl⟩
  obtain ⟨ops, hops⟩ := exists_not_readsSame (t := ⟨"Visits"⟩) (by decide) hserves
  exact hops (hsame ops)

end Store

end VisitLog

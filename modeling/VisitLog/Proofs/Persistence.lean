import VisitLog.Database.Planner
import VisitLog.Proofs.Atomicity
import VisitLog.Proofs.Timelines

/-!
# Writes that succeed

A write that succeeds leaves its record clean, whether there was a row to write or not: the database
counts no rows for it. So the changes of the record are in the table exactly if a row of its
identifier stood there and the datetime columns keep the texts they were given (`Store.stores_iff`).
Only a removal of the row, by its identifier or by a purge, takes it away from clients that hold a
copy (`Operation.hasId_settle`).

Main statement: `Clients.confirmed`.
-/

namespace VisitLog

open Function

/-! ## Rows that are there -/

/-- The table of the store has a row of the identifier. -/
def Pool.HasId (p : Pool) (s : Store) (id : String) : Prop :=
  ∃ rows, p.Holds s rows ∧ rows.hasId id

theorem Pool.HasId.of_holds {p : Pool} {s : Store} {id : String} {rows : Rows} (h : p.HasId s id)
    (hrows : p.Holds s rows) : rows.hasId id := by
  obtain ⟨rows', hrows', hid⟩ := h
  rwa [hrows.unique hrows']

namespace Rows

variable {rows : Rows} {id : String}

theorem hasId_iff : rows.hasId id ↔ ∃ r ∈ rows, r.hasId id :=
  List.any_eq_true

theorem hasId_update [Engine] (rows : Rows) (other id : String) (v : Visitor) :
    (rows.update other (Store.written v)).hasId id = rows.hasId id := by
  rw [hasId, update, List.any_map, hasId]
  congr 1
  funext r
  rw [Function.comp_apply]
  split
  · exact Row.hasId_write_written r v id
  · rfl

theorem hasId_erase {other : String} (h : other ≠ id) :
    (rows.erase other).hasId id = rows.hasId id := by
  rw [Bool.eq_iff_iff, hasId_iff, hasId_iff]
  refine exists_congr fun r => ?_
  rw [erase, List.mem_filter, and_assoc]
  refine and_congr_right fun _ => and_iff_right_of_imp fun hr => ?_
  simp only [Row.hasId, beq_iff_eq] at hr
  simp [Row.hasId, hr, h.symm]

theorem update_of_not_hasId [Engine] (h : rows.hasId id = false) (fields : List (Column × String)) :
    rows.update id fields = rows := by
  refine (List.map_congr_left fun r hr => ?_).trans (List.map_id rows)
  rw [if_neg (List.any_eq_false.1 h r hr)]
  rfl

end Rows

/-! ## One write -/

/-- The changes of a record are in the table: a row of its identifier has the texts of the record in
these columns, the identifier aside. -/
def Pool.Stores (p : Pool) (s : Store) (changed : Column → Bool) (v : Visitor) : Prop :=
  ∃ rows r, p.Holds s rows ∧ r ∈ rows ∧ r.hasId (v.value .id) ∧
    ∀ c, c ≠ .id → changed c → r.toVisitor.value c = v.value c

/-- The datetime columns give back the changed texts of a record, but for those that the write
replaces. -/
def Write.Keeps [Engine] (w : Write) (v : Visitor) : Prop :=
  ∀ c : Column, c.isDatetime → v.dirty c → ¬w.stamps c →
    (Stored.ofText true (v.value c)).toText = v.value c

namespace Store

variable {s : Store} {w : Write} {now : Instant} {v : Visitor} {p p' : Pool} {c : Column}

def sent (w : Write) (now : Instant) (v : Visitor) : Visitor :=
  stamped now (w.submitted now v)

theorem id_sent (w : Write) (now : Instant) (v : Visitor) :
    (sent w now v).value .id = v.value .id :=
  id_submitted w now v

theorem dirty_sent (hc : v.dirty c) (w : Write) (now : Instant) : (sent w now v).dirty c := by
  rw [sent, stamped, Visitor.dirty_set, Write.dirty_submitted hc w now, Bool.or_true]

theorem value_sent (hc : ¬w.stamps c) (now : Instant) (v : Visitor) :
    (sent w now v).value c = v.value c := by
  rw [sent, stamped, Visitor.value_set, if_neg fun e => hc (.inl e),
    Write.submitted_of_not_stamps hc]

theorem value_sent_of_stamps (hc : w.stamps c) (now : Instant) (v : Visitor) :
    (sent w now v).value c = now.layout := by
  rw [sent, stamped, Visitor.value_set]
  split
  · rfl
  · next hne => exact Write.submitted_of_stamps hc hne now v

variable [Engine]

/-- A write of a changed record that succeeds is one statement on the row of the record, and the
record is clean. -/
theorem write_of_ok (hv : v.isDirty) (h : (s.write w now v p).result = .ok p') :
    (s.write w now v p).record = (sent w now v).clean ∧ ∃ rows, p.Holds s rows ∧
      p' = p.withRows s (rows.update (v.value .id) (written (sent w now v))) := by
  obtain ⟨c, hc, hdirty⟩ := List.any_eq_true.1 hv
  have hsubmitted : (w.submitted now v).isDirty :=
    List.any_eq_true.2 ⟨c, hc, Write.dirty_submitted hdirty w now⟩
  have hid := id_submitted w now v
  have out := s.outcome_write w now v p
  generalize s.write w now v p = a at out h ⊢
  cases out with
  | nameless | refused => cases h
  | unchanged _ hclean => simp [hclean] at hsubmitted
  | stored _ _ _ hrows =>
    cases h
    exact ⟨rfl, _, hrows, by rw [hid]; rfl⟩

/-- The row of a record gives back a changed column exactly if the column keeps its text. -/
theorem toText_written_iff (r : Row) (hne : c ≠ .id) (hc : v.dirty c) :
    ((r.write (written (sent w now v))).toVisitor.value c = (sent w now v).value c) ↔
      (c.isDatetime → ¬w.stamps c → (Stored.ofText true (v.value c)).toText = v.value c) := by
  rw [Row.value_toVisitor, Row.value_write_written, if_pos ⟨dirty_sent hc w now, hne⟩]
  by_cases hstamps : w.stamps c
  · rw [value_sent_of_stamps hstamps, now.isKept_layout.ofText]
    exact iff_of_true rfl fun _ h => absurd hstamps h
  · rw [value_sent hstamps]
    cases c.isDatetime with
    | false => exact iff_of_true rfl nofun
    | true => exact ⟨fun h _ _ => h, fun h => h rfl hstamps⟩

/-- The changes of a record are in the table after a write exactly if its row was there and keeps
them. -/
theorem stores_iff (hv : v.isDirty) (h : (s.write w now v p).result = .ok p') :
    p'.Stores s v.dirty (s.write w now v p).record ↔ p.HasId s (v.value .id) ∧ w.Keeps v := by
  obtain ⟨hrecord, rows, hrows, rfl⟩ := write_of_ok hv h
  rw [hrecord]
  constructor
  · rintro ⟨rows', r', hrows', hr', hid, hvalues⟩
    cases (hrows.withRows _).unique hrows'
    rw [Visitor.value_clean, id_sent] at hid
    obtain ⟨r, hr, rfl⟩ := List.mem_map.1 hr'
    by_cases hrid : r.hasId (v.value .id)
    · rw [if_pos hrid] at hvalues
      refine ⟨⟨rows, hrows, Rows.hasId_iff.2 ⟨r, hr, hrid⟩⟩, fun c hdatetime hc => ?_⟩
      have hne : c ≠ .id := by
        rintro rfl
        cases hdatetime
      exact (toText_written_iff r hne hc).1 (hvalues c hne hc) hdatetime
    · rw [if_neg hrid] at hid
      exact absurd hid hrid
  · rintro ⟨hid, hkeeps⟩
    obtain ⟨r, hr, hrid⟩ := Rows.hasId_iff.1 (hid.of_holds hrows)
    refine ⟨_, r.write (written (sent w now v)), hrows.withRows _, ?_, ?_, fun c hne hc => ?_⟩
    · exact List.mem_map.2 ⟨r, hr, if_pos hrid⟩
    · rw [Row.hasId_write_written, Visitor.value_clean, id_sent]
      exact hrid
    · exact (toText_written_iff r hne hc).2 fun hdatetime => hkeeps c hdatetime hc

end Store

/-! ## Removals -/

/-- The operation can remove the row of an identifier: it deletes that row for good, or it purges
the table. -/
def Operation.MayRemove (id : String) : Operation → Prop
  | delete v => v.value .id = id
  | deleteById other => other = id
  | purge _ => True
  | _ => False

namespace Operation

variable {s : Store} {now : Instant} {p p' : Pool} {id : String}

/-- No write removes the row of another identifier. -/
theorem hasId_write [Engine] (w : Write) {v : Visitor} (h : (s.write w now v p).result = .ok p')
    (hid : p.HasId s id) : p'.HasId s id := by
  have out := s.outcome_write w now v p
  generalize s.write w now v p = a at out h
  cases out with
  | nameless | refused => cases h
  | unchanged =>
    cases h
    exact hid
  | stored _ _ _ hrows =>
    cases h
    refine ⟨_, hrows.withRows _, ?_⟩
    rw [Rows.hasId_update]
    exact hid.of_holds hrows

theorem hasId_deleteById {other : String} (h : s.deleteById other p = .ok p') (hne : other ≠ id)
    (hid : p.HasId s id) : p'.HasId s id := by
  obtain ⟨-, -, rows, hrows, rfl⟩ := Store.deleteById_eq_ok.1 h
  refine ⟨_, hrows.withRows _, ?_⟩
  rw [Rows.hasId_erase hne]
  exact hid.of_holds hrows

theorem hasId_append {rows : Rows} (hrows : p.Holds s rows) (rows' : Rows) (hid : p.HasId s id) :
    (p.withRows s (rows ++ rows')).HasId s id := by
  refine ⟨_, hrows.withRows _, ?_⟩
  rw [Rows.hasId_append, hid.of_holds hrows, Bool.true_or]

/-- No other operation takes a row away, whether it succeeds or fails. -/
theorem hasId_settle [Engine] (op : Operation) (hid : p.HasId s id) (hop : ¬op.MayRemove id) :
    (p.settle (op.result s now p)).1.HasId s id := by
  cases h : op.result s now p with
  | error failure => exact hid
  | ok p' =>
    change p'.HasId s id
    cases op with
    | create v =>
      rw [result, Store.result_create] at h
      obtain ⟨-, rows, hrows, -, rfl⟩ := Pool.change_insert_eq_ok.1 h
      exact hasId_append hrows _ hid
    | createBatch vs =>
      cases vs with
      | nil =>
        cases h
        exact hid
      | cons v vs =>
        rw [result, Store.map_createBatch (List.cons_ne_nil v vs)] at h
        obtain ⟨-, rows, hrows, -, -, rfl⟩ := Pool.change_insertAll_eq_ok.1 h
        exact hasId_append hrows _ hid
    | update v => exact hasId_write .update h hid
    | softDelete v => exact hasId_write .softDelete h hid
    | softDeleteById other =>
      obtain ⟨v, -, h⟩ := Store.softDeleteById_eq_ok.1 h
      exact hasId_write .softDelete h hid
    | delete v => exact hasId_deleteById h hop hid
    | deleteById other => exact hasId_deleteById h hop hid
    | purge olderThan => exact absurd trivial hop

end Operation

/-! ## Runs of clients -/

/-- Clients with a record each, and the database that they share. -/
structure Clients (ι : Type) where
  records : ι → Visitor
  pool : Pool

namespace Clients

section

variable [Engine]

/-- What happens: a client takes up a record, which it has made, read or changed, or writes the one
that it has; or somebody asks for another operation of the store. -/
inductive Action (ι : Type) where
  | take (i : ι) (v : Visitor)
  | write (i : ι) (w : Write) (now : Instant)
  | operate (op : Operation) (now : Instant)

def attempt {ι : Type} (s : Store) (i : ι) (w : Write) (now : Instant) (x : Clients ι) : Attempt :=
  s.write w now (x.records i) x.pool

section

variable {ι : Type} [DecidableEq ι]

def act (s : Store) (x : Clients ι) : Action ι → Clients ι
  | .take i v => { x with records := update x.records i v }
  | .write i w now =>
    { records := update x.records i (x.attempt s i w now).record
      pool := (x.pool.settle (x.attempt s i w now).result).1 }
  | .operate op now => { x with pool := (x.pool.settle (op.result s now x.pool)).1 }

def run (s : Store) (x : Clients ι) (as : List (Action ι)) : Clients ι :=
  as.foldl (act s) x

def Action.MayRemove (id : String) : Action ι → Prop
  | .operate op _ => op.MayRemove id
  | _ => False

variable {s : Store} {x y : Clients ι} {as : List (Action ι)} {id : String}

theorem hasId_act {a : Action ι} (hid : x.pool.HasId s id) (ha : ¬a.MayRemove id) :
    (x.act s a).pool.HasId s id := by
  cases a with
  | take => exact hid
  | write i w now =>
    cases w with
    | update => exact Operation.hasId_settle (.update (x.records i)) hid not_false
    | softDelete => exact Operation.hasId_settle (.softDelete (x.records i)) hid not_false
  | operate op now => exact Operation.hasId_settle op hid ha

/-- A row that no action removes is there at the end of a run. -/
theorem hasId_run (hid : x.pool.HasId s id) (has : ∀ a ∈ as, ¬a.MayRemove id) :
    (x.run s as).pool.HasId s id := by
  induction as generalizing x with
  | nil => exact hid
  | cons a as ih =>
    rw [List.forall_mem_cons] at has
    exact ih (hasId_act hid has.1) has.2

/-- What it means that a client's write of a changed record succeeds in the state `y`, to which some
actions have led from `x`, and leaves the database `p`. `clean`: the record counts as saved.
`stored_iff`: its changes are in the table exactly if its row was there and keeps them. `stored`: so
they are if the row was there in `x` and no action removed it. `lost`: if the row was not there,
nothing is written. -/
structure Confirmed (s : Store) (x : Clients ι) (as : List (Action ι)) (y : Clients ι) (i : ι)
    (w : Write) (now : Instant)
    (p : Pool) : Prop where
  clean : (y.attempt s i w now).record.isDirty = false
  stored_iff : p.Stores s (y.records i).dirty (y.attempt s i w now).record ↔
    y.pool.HasId s ((y.records i).value .id) ∧ w.Keeps (y.records i)
  stored : x.pool.HasId s ((y.records i).value .id) →
    (∀ a ∈ as, ¬a.MayRemove ((y.records i).value .id)) → w.Keeps (y.records i) →
    p.Stores s (y.records i).dirty (y.attempt s i w now).record
  lost : ¬y.pool.HasId s ((y.records i).value .id) → ∀ rows, p.Holds s rows ↔ y.pool.Holds s rows

/-- The success of a write says that the record is clean, and that its changes are stored if its row
was there. -/
theorem confirmed {i : ι} {w : Write} {now : Instant} {p : Pool} (hy : x.run s as = y)
    (hv : (y.records i).isDirty) (h : (y.attempt s i w now).result = .ok p) :
    x.Confirmed s as y i w now p := by
  subst hy
  have hstores := Store.stores_iff hv h
  obtain ⟨hrecord, rows, hrows, hp⟩ := Store.write_of_ok hv h
  refine ⟨?_, hstores, fun hid has hkeeps => hstores.2 ⟨hasId_run hid has, hkeeps⟩,
    fun hid rows' => ?_⟩
  · rw [attempt, hrecord]
    exact Visitor.isDirty_clean _
  · have hfree := Bool.eq_false_iff.2 fun hid' => hid ⟨rows, hrows, hid'⟩
    rw [Rows.update_of_not_hasId hfree] at hp
    have hp' : p.Holds s rows := hp ▸ hrows.withRows rows
    exact ⟨fun h' => hp'.unique h' ▸ hrows, fun h' => hrows.unique h' ▸ hp'⟩

end

/-! ## A row that was removed -/

def visit : Visitor := Store.dated ⟨0, 0⟩ (.visit "a" "/" "1970-01-01 00:00:00")

/-- A visit is stored, and a client takes a copy of it to another path. -/
def edits : List (Action Bool) :=
  [.operate (.create visit) ⟨0, 0⟩, .take false (visit.clean.set .path "/new")]

def beginning : Clients Bool :=
  { records := fun _ => .blank, pool := .ofVisits [] }

def edited : Clients Bool := beginning.run ⟨"visits"⟩ edits

end

/-- Before the client writes its copy, another one removes the row. -/
def removal : List (Action Bool) :=
  edits ++ [.operate (.deleteById "a") ⟨30, 0⟩]

theorem confirmed_edited :
    (edited.attempt ⟨"visits"⟩ false .update ⟨60, 0⟩).result =
        .ok (edited.act ⟨"visits"⟩ (.write false .update ⟨60, 0⟩)).pool ∧
      beginning.Confirmed ⟨"visits"⟩ edits edited false .update ⟨60, 0⟩
        (edited.act ⟨"visits"⟩ (.write false .update ⟨60, 0⟩)).pool ∧
      ((edited.act ⟨"visits"⟩ (.write false .update ⟨60, 0⟩)).pool.database.tables.map fun t =>
        match t.contents with
        | .visits rows => rows.map fun r => r.toVisitor.value .path
        | _ => []) = [["/new"]] :=
  ⟨rfl, confirmed rfl (by decide) rfl, by decide⟩

/-- The write of a client whose row was removed succeeds all the same. -/
theorem not_confirmed_removed :
    ¬∀ (x : Clients Bool) (as : List (Action Bool)) (i : Bool) (w : Write)
      (now : Instant) (p : Pool), ((x.run ⟨"visits"⟩ as).records i).isDirty →
        ((x.run ⟨"visits"⟩ as).records i).value .id ≠ "" →
      ((x.run ⟨"visits"⟩ as).attempt ⟨"visits"⟩ i w now).result = .ok p →
      p.Stores ⟨"visits"⟩ ((x.run ⟨"visits"⟩ as).records i).dirty
        ((x.run ⟨"visits"⟩ as).attempt ⟨"visits"⟩ i w now).record := by
  intro h
  have hstored := h beginning removal false .update ⟨60, 0⟩ _ (by decide) (by decide) rfl
  obtain ⟨hid, -⟩ := (Store.stores_iff (by decide) rfl).1 hstored
  have hrows : (beginning.run ⟨"visits"⟩ removal).pool.Holds ⟨"visits"⟩ [] := ⟨"visits", rfl⟩
  exact absurd (hid.of_holds hrows) (by decide)

end Clients

end VisitLog

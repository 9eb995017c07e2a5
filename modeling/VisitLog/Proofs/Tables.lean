import Mathlib.Data.List.Forall2
import VisitLog.Store

/-!
# The rows that a store reaches

`Pool.Holds` is the view of a pool that the statements about stores use: the rows in the store's
table. Each operation of `Pool.change` is described through it once (`change_eq_ok`, `rows_eq_ok`),
and `Pool.withRows` is what a statement on visitor rows leaves behind.

`Pool.Frame` says that nothing changed but rows that pass a test, `Pool.Gains` that nothing changed
but one new row; `Pool.HasRow` names the one row of an identifier.
-/

namespace VisitLog

open Text

namespace Database

/-- The rows of a table are read whole, under the name that the table was created with. -/
theorem rows_eq_ok {db : Database} {column table : String} {name : String} {rows : Rows} :
    db.rows column table = .ok (name, rows) ↔ db.table? table = some ⟨name, .visits rows⟩ := by
  unfold Database.rows
  constructor
  · intro h
    split at h
    · cases h
    · next t ht =>
      split at h
      · next hc => cases h; rw [ht, ← hc]
      · cases h
  · intro h
    rw [h]

theorem setContents_setContents (db : Database) (table : String) (contents contents' : Contents) :
    (db.setContents table contents).setContents table contents' =
    db.setContents table contents' := by
  simp only [setContents, List.map_map]
  congr 2
  funext t
  rw [Function.comp_apply]
  split <;> rfl

end Database

/-- Identifiers are texts, and no two rows have the same one. -/
structure Rows.IsKeyed (rows : Rows) : Prop where
  text : ∀ r ∈ rows, r.hasId (r.toVisitor.value .id)
  distinct : rows.Pairwise fun a b => a.value .id ≠ b.value .id

/-- In a keyed table one row has the identifier of a row. -/
theorem Rows.IsKeyed.filter_hasId {rows : Rows} {r : Row} (h : rows.IsKeyed) (hr : r ∈ rows) :
    rows.filter (Row.hasId (r.toVisitor.value .id)) = [r] := by
  have hid := h.text r hr
  have hid' : r.value .id = .text (r.toVisitor.value .id) := beq_iff_eq.1 hid
  have hdistinct := h.distinct
  generalize r.toVisitor.value .id = id at hid hid' ⊢
  clear h
  induction hdistinct with
  | nil => cases hr
  | @cons x rows hx _ ih =>
    rcases List.mem_cons.1 hr with rfl | hr
    · have hrest : rows.filter (Row.hasId id) = [] := by
        refine List.filter_eq_nil_iff.2 fun y hy hyid => hx y hy ?_
        rw [hid', beq_iff_eq.1 hyid]
      rw [List.filter_cons_of_pos hid, hrest]
    · have hxid : ¬x.hasId id := by
        intro hxid
        refine hx r hr ?_
        rw [hid', beq_iff_eq.1 hxid]
      rw [List.filter_cons_of_neg hxid, ih hr]

namespace Rows

variable {rows rows' : Rows} {table : String}

theorem hasId_append (rows rows' : Rows) (id : String) :
    (rows ++ rows').hasId id = (rows.hasId id || rows'.hasId id) :=
  List.any_append

theorem hasId_eq_false {id : String} :
    rows.hasId id = false ↔ ∀ r ∈ rows, r.value .id ≠ .text id := by
  simp only [hasId, List.any_eq_false, Row.hasId, beq_iff_eq, ne_eq]

theorem hasId_singleton [Engine] {v : Visitor} {id : String} :
    hasId [Row.ofVisitor v] id = false ↔ v.value .id ≠ id := by
  rw [hasId_eq_false, List.forall_mem_singleton]
  exact not_congr (Stored.text.injEq .. ▸ Iff.rfl)

/-- A batch is inserted exactly when all its identifiers are free and different. -/
theorem insertAll?_eq_ok [Engine] {vs : List Visitor} : insertAll? table rows vs = .ok rows' ↔
    (∀ v ∈ vs, rows.hasId (v.value .id) = false) ∧
      (vs.Pairwise fun v w => v.value .id ≠ w.value .id) ∧
      rows' = rows ++ vs.map Row.ofVisitor := by
  induction vs generalizing rows with
  | nil =>
    refine ⟨fun h => ⟨nofun, .nil, ?_⟩, fun ⟨_, _, h⟩ => ?_⟩
    · rw [List.map_nil, List.append_nil]
      exact (Except.ok.inj h).symm
    · rw [h, List.map_nil, List.append_nil]
      rfl
  | cons v vs ih =>
    rw [insertAll?, List.forall_mem_cons, List.pairwise_cons]
    constructor
    · intro h
      split at h
      · next rows'' hv =>
        obtain ⟨hid, rfl⟩ := insert?_eq_ok.1 hv
        obtain ⟨hids, hdistinct, rfl⟩ := ih.1 h
        simp only [hasId_append, Bool.or_eq_false_iff, hasId_singleton] at hids
        refine ⟨⟨hid, fun w hw => (hids w hw).1⟩, ⟨fun w hw => (hids w hw).2, hdistinct⟩, ?_⟩
        rw [List.append_assoc]
        rfl
      · cases h
    · rintro ⟨⟨hid, hids⟩, ⟨hv, hdistinct⟩, rfl⟩
      rw [insert?_eq_ok.2 ⟨hid, rfl⟩]
      refine ih.2 ⟨fun w hw => ?_, hdistinct, ?_⟩
      · rw [hasId_append, hids w hw]
        exact hasId_singleton.2 (hv w hw)
      · rw [List.append_assoc]
        rfl

namespace IsKeyed

theorem eq_of_hasId {r r' : Row} (h : rows.IsKeyed) (hr : r ∈ rows) (hr' : r' ∈ rows)
    (hid : r'.hasId (r.toVisitor.value .id)) : r' = r := by
  have hmem : r' ∈ rows.filter (Row.hasId (r.toVisitor.value .id)) := List.mem_filter.2 ⟨hr', hid⟩
  rw [h.filter_hasId hr] at hmem
  exact List.mem_singleton.1 hmem

theorem filter (h : rows.IsKeyed) (f : Row → Bool) : IsKeyed (rows.filter f) where
  text r hr := h.text r (List.mem_filter.1 hr).1
  distinct := h.distinct.sublist List.filter_sublist

/-- Records with free and different identifiers leave a table keyed. -/
theorem append [Engine] {vs : List Visitor} (h : rows.IsKeyed)
    (hfree : ∀ v ∈ vs, rows.hasId (v.value .id) = false)
    (hdistinct : vs.Pairwise fun v w => v.value .id ≠ w.value .id) :
    IsKeyed (rows ++ vs.map Row.ofVisitor) where
  text := by
    refine List.forall_mem_append.2 ⟨h.text, List.forall_mem_map.2 fun v _ => ?_⟩
    exact beq_self_eq_true (Stored.text (v.value .id))
  distinct := by
    refine List.pairwise_append.2 ⟨h.distinct, List.pairwise_map.2 (hdistinct.imp fun hne e => ?_),
      ?_⟩
    · exact hne (Stored.text.inj e)
    · intro r hr r' hr'
      obtain ⟨v, hv, rfl⟩ := List.mem_map.1 hr'
      exact hasId_eq_false.1 (hfree v hv) r hr

end IsKeyed

end Rows

namespace Pool

/-- The table of the store holds these rows. -/
def Holds (p : Pool) (s : Store) (rows : Rows) : Prop :=
  ∃ name, p.database.table? s.table = some ⟨name, .visits rows⟩

/-- The pool with other rows in the table of the store. -/
def withRows (p : Pool) (s : Store) (rows : Rows) : Pool :=
  { p with database := p.database.setContents s.table (.visits rows) }

/-- The row is the only one of this identifier in the table of the store. -/
def HasRow (p : Pool) (s : Store) (id : String) (r : Row) : Prop :=
  ∃ rows, p.Holds s rows ∧ rows.filter (Row.hasId id) = [r]

/-- Between two pools nothing changed but the rows of the store. -/
structure SameElsewhere (s : Store) (p p' : Pool) : Prop where
  isClosed : p'.isClosed = p.isClosed
  indexes : p'.database.indexes = p.database.indexes
  others : ∀ name, sameLetters s.table name = false →
    p'.database.table? name = p.database.table? name

/-- Between two pools nothing changed but rows of the store that pass a test. -/
structure Frame (s : Store) (touched : Row → Prop) (p p' : Pool) : Prop
    extends SameElsewhere s p p' where
  rows : ∀ rows, p.Holds s rows → ∃ rows', p'.Holds s rows' ∧
    List.Forall₂ (fun r r' => touched r ∨ r' = r) rows rows'

/-- Between two pools nothing changed but that the store gained a row. -/
structure Gains (s : Store) (r : Row) (p p' : Pool) : Prop extends SameElsewhere s p p' where
  rows : ∀ rows, p.Holds s rows → p'.Holds s (rows ++ [r])

variable {p p' : Pool} {s : Store} {rows rows' : Rows} {id : String} {r r' : Row}

/-! ## Rows -/

theorem Holds.unique (h : p.Holds s rows) (h' : p.Holds s rows') : rows = rows' := by
  obtain ⟨name, h⟩ := h
  obtain ⟨name', h'⟩ := h'
  rw [h] at h'
  cases h'
  rfl

theorem Holds.withRows (h : p.Holds s rows) (rows' : Rows) :
    (p.withRows s rows').Holds s rows' := by
  obtain ⟨name, h⟩ := h
  exact ⟨name, Database.table?_setContents_self h⟩

theorem table?_withRows_other {name : String} (h : sameLetters s.table name = false) :
    (p.withRows s rows).database.table? name = p.database.table? name :=
  Database.table?_setContents_other h

theorem withRows_withRows (p : Pool) (s : Store) (rows rows' : Rows) :
    (p.withRows s rows).withRows s rows' = p.withRows s rows' := by
  simp only [withRows, Database.setContents_setContents]

theorem HasRow.unique (h : p.HasRow s id r) (h' : p.HasRow s id r') : r = r' := by
  obtain ⟨rows, hp, h⟩ := h
  obtain ⟨rows', hp', h'⟩ := h'
  cases hp.unique hp'
  rw [h] at h'
  cases h'
  rfl

theorem HasRow.hasId (h : p.HasRow s id r) : r.hasId id := by
  obtain ⟨rows, -, h⟩ := h
  have hr : r ∈ rows.filter (Row.hasId id) := h ▸ List.mem_singleton_self r
  exact (List.mem_filter.1 hr).2

/-! ## Frames -/

theorem SameElsewhere.refl (s : Store) (p : Pool) : SameElsewhere s p p where
  isClosed := rfl
  indexes := rfl
  others _ _ := rfl

theorem SameElsewhere.trans {p'' : Pool} (h : SameElsewhere s p p') (h' : SameElsewhere s p' p'') :
    SameElsewhere s p p'' where
  isClosed := h'.isClosed.trans h.isClosed
  indexes := h'.indexes.trans h.indexes
  others name hname := (h'.others name hname).trans (h.others name hname)

theorem sameElsewhere_withRows (p : Pool) (s : Store) (rows : Rows) :
    SameElsewhere s p (p.withRows s rows) where
  isClosed := rfl
  indexes := rfl
  others _ := table?_withRows_other

theorem Frame.refl (s : Store) (touched : Row → Prop) (p : Pool) : Frame s touched p p where
  toSameElsewhere := .refl s p
  rows rows h := ⟨rows, h, List.forall₂_same.2 fun _ _ => .inr rfl⟩

theorem Frame.mono {touched touched' : Row → Prop} (h : Frame s touched p p')
    (hsub : ∀ r, touched r → touched' r) : Frame s touched' p p' where
  toSameElsewhere := h.toSameElsewhere
  rows rows hrows := by
    obtain ⟨rows', hrows', hall⟩ := h.rows rows hrows
    exact ⟨rows', hrows', hall.imp fun r r' => Or.imp_left (hsub r)⟩

/-- An update changes only rows of its identifier. -/
theorem Frame.update [Engine] (h : p.Holds s rows) (id : String) (fields : List (Column × String)) :
    Frame s (fun r => r.hasId id) p (p.withRows s (rows.update id fields)) where
  toSameElsewhere := sameElsewhere_withRows ..
  rows rows' h' := by
    cases h.unique h'
    refine ⟨_, h.withRows _, ?_⟩
    rw [Rows.update, List.forall₂_map_right_iff]
    refine List.forall₂_same.2 fun r _ => ?_
    split
    · next hid => exact .inl hid
    · exact .inr rfl

theorem Gains.append (h : p.Holds s rows) (r : Row) : Gains s r p (p.withRows s (rows ++ [r])) where
  toSameElsewhere := sameElsewhere_withRows ..
  rows rows' h' := by
    cases h.unique h'
    exact h.withRows _

/-! ## Reading and changing -/

theorem read_eq_ok {α : Type} {f : Database → Except Fault α} {a : α} :
    p.read f = .ok a ↔ p.isClosed = false ∧ f p.database = .ok a := by
  unfold read
  cases hc : p.isClosed with
  | true => simp
  | false => cases f p.database <;> simp

theorem read_of_isClosed {α : Type} (h : p.isClosed) (f : Database → Except Fault α) :
    p.read f = .error .poolClosed :=
  if_pos h

theorem read_of_isOpen {α : Type} (hp : p.isClosed = false) (f : Database → Except Fault α) :
    p.read f = (f p.database).mapError Failure.database := by
  unfold read
  rw [hp]
  cases f p.database <;> rfl

/-- A change succeeds on a pool that is open if its statement does. -/
theorem change_eq_ok {f : Database → Except Fault Database} :
    p.change f = .ok p' ↔
      p.isClosed = false ∧ ∃ db, f p.database = .ok db ∧ p' = { p with database := db } := by
  unfold change
  constructor
  · intro h
    split at h
    · next db hdb =>
      cases h
      obtain ⟨hc, hdb⟩ := read_eq_ok.1 hdb
      exact ⟨hc, db, hdb, rfl⟩
    · cases h
  · rintro ⟨hc, db, hdb, rfl⟩
    rw [read_eq_ok.2 ⟨hc, hdb⟩]

/-- What a statement that rewrites the rows of a table amounts to. -/
theorem change_rows_eq_ok {column : String} {f : String × Rows → Except Fault Rows} :
    p.change (fun db => do
        let named ← db.rows column s.table
        let rows ← f named
        return db.setContents s.table (.visits rows)) = .ok p' ↔
      p.isClosed = false ∧ ∃ name rows rows', p.database.table? s.table =
        some ⟨name, .visits rows⟩ ∧ f (name, rows) = .ok rows' ∧ p' = p.withRows s rows' := by
  rw [change_eq_ok]
  refine and_congr_right fun _ => ⟨?_, ?_⟩
  · rintro ⟨db, hdb, rfl⟩
    obtain ⟨⟨name, rows⟩, hrows, hdb⟩ := bind_eq_ok.1 hdb
    obtain ⟨rows', hf, hdb⟩ := bind_eq_ok.1 hdb
    cases hdb
    exact ⟨name, rows, rows', Database.rows_eq_ok.1 hrows, hf, rfl⟩
  · rintro ⟨name, rows, rows', hrows, hf, rfl⟩
    refine ⟨_, ?_, rfl⟩
    refine bind_eq_ok.2 ⟨_, Database.rows_eq_ok.2 hrows, ?_⟩
    exact bind_eq_ok.2 ⟨rows', hf, rfl⟩

theorem change_insert_eq_ok [Engine] {v : Visitor} :
    p.change (Database.insert s.table v) = .ok p' ↔
      p.isClosed = false ∧ ∃ rows, p.Holds s rows ∧ rows.hasId (v.value .id) = false ∧
        p' = p.withRows s (rows ++ [Row.ofVisitor v]) := by
  refine Iff.trans (change_rows_eq_ok (f := fun named => named.2.insert? named.1 v)) ?_
  refine and_congr_right fun _ => ⟨?_, ?_⟩
  · rintro ⟨name, rows, rows', hrows, hf, rfl⟩
    obtain ⟨hid, rfl⟩ := Rows.insert?_eq_ok.1 hf
    exact ⟨rows, ⟨name, hrows⟩, hid, rfl⟩
  · rintro ⟨rows, ⟨name, hrows⟩, hid, rfl⟩
    exact ⟨name, rows, _, hrows, Rows.insert?_eq_ok.2 ⟨hid, rfl⟩, rfl⟩

theorem change_update_eq_ok [Engine] {fields : List (Column × String)} :
    p.change (Database.update s.table id fields) = .ok p' ↔
      p.isClosed = false ∧ ∃ rows, p.Holds s rows ∧ p' = p.withRows s (rows.update id fields) := by
  refine Iff.trans (change_rows_eq_ok (f := fun named => .ok (named.2.update id fields))) ?_
  refine and_congr_right fun _ => ⟨?_, ?_⟩
  · rintro ⟨name, rows, rows', hrows, hf, rfl⟩
    cases hf
    exact ⟨rows, ⟨name, hrows⟩, rfl⟩
  · rintro ⟨rows, ⟨name, hrows⟩, rfl⟩
    exact ⟨name, rows, _, hrows, rfl, rfl⟩

theorem change_insertAll_eq_ok [Engine] {vs : List Visitor} :
    p.change (Database.insertAll s.table vs) = .ok p' ↔
      p.isClosed = false ∧ ∃ rows, p.Holds s rows ∧ (∀ v ∈ vs, rows.hasId (v.value .id) = false) ∧
        (vs.Pairwise fun v w => v.value .id ≠ w.value .id) ∧
        p' = p.withRows s (rows ++ vs.map Row.ofVisitor) := by
  refine Iff.trans (change_rows_eq_ok (f := fun named => Rows.insertAll? named.1 named.2 vs)) ?_
  refine and_congr_right fun _ => ⟨?_, ?_⟩
  · rintro ⟨name, rows, rows', hrows, hf, rfl⟩
    obtain ⟨hids, hdistinct, rfl⟩ := Rows.insertAll?_eq_ok.1 hf
    exact ⟨rows, ⟨name, hrows⟩, hids, hdistinct, rfl⟩
  · rintro ⟨rows, ⟨name, hrows⟩, hids, hdistinct, rfl⟩
    exact ⟨name, rows, _, hrows, Rows.insertAll?_eq_ok.2 ⟨hids, hdistinct, rfl⟩, rfl⟩

theorem change_delete_eq_ok :
    p.change (Database.delete s.table id) = .ok p' ↔
      p.isClosed = false ∧ ∃ rows, p.Holds s rows ∧ p' = p.withRows s (rows.erase id) := by
  refine Iff.trans (change_rows_eq_ok (f := fun named => .ok (named.2.erase id))) ?_
  refine and_congr_right fun _ => ⟨?_, ?_⟩
  · rintro ⟨name, rows, rows', hrows, hf, rfl⟩
    cases hf
    exact ⟨rows, ⟨name, hrows⟩, rfl⟩
  · rintro ⟨rows, ⟨name, hrows⟩, rfl⟩
    exact ⟨name, rows, _, hrows, rfl, rfl⟩

theorem read_purge_eq_ok [Engine] {cutoff : String} {n : Nat} {db : Database} :
    p.read (Database.purge s.table cutoff) = .ok (n, db) ↔
      p.isClosed = false ∧ ∃ rows, p.Holds s rows ∧ n = rows.length - (rows.purge cutoff).length ∧
        db = (p.withRows s (rows.purge cutoff)).database := by
  rw [read_eq_ok]
  refine and_congr_right fun _ => ⟨?_, ?_⟩
  · intro h
    obtain ⟨⟨name, rows⟩, hrows, h⟩ := bind_eq_ok.1 h
    cases h
    exact ⟨rows, ⟨name, Database.rows_eq_ok.1 hrows⟩, rfl, rfl⟩
  · rintro ⟨rows, ⟨name, hrows⟩, rfl, rfl⟩
    exact bind_eq_ok.2 ⟨_, Database.rows_eq_ok.2 hrows, rfl⟩

/-! ## A table of visits -/

/-- A database with the table of a store only. -/
def ofRows (s : Store) (rows : Rows) : Pool :=
  { database := { tables := [⟨s.table, .visits rows⟩] } }

theorem holds_ofRows (s : Store) (rows : Rows) : (ofRows s rows).Holds s rows :=
  ⟨s.table, List.find?_cons_of_pos (sameLetters_refl _)⟩

/-- A database with one table, which holds some visits. -/
def ofVisits [Engine] (vs : List Visitor) : Pool :=
  ofRows ⟨"visits"⟩ (vs.map Row.ofVisitor)

theorem holds_ofVisits [Engine] (vs : List Visitor) :
    (ofVisits vs).Holds ⟨"visits"⟩ (vs.map Row.ofVisitor) :=
  holds_ofRows ..

end Pool

/-- A visit of a path, never deleted. -/
def Visitor.visit (id path createdAt : String) : Visitor :=
  ((((blank.set .id id).set .path path).set .createdAt createdAt).set .updatedAt createdAt).set
    .deletedAt never

end VisitLog

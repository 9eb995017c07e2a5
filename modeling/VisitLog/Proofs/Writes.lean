import VisitLog.Proofs.KeptText
import VisitLog.Proofs.Tables

/-!
# What a write does

An update or a soft delete of a record ends in one of four ways, listed once in `Store.Outcome`: the
record has no identifier, nothing in it changed, the database refused, or the changed columns are in
its row. Everything said about runs of clients is derived from `Store.outcome_write` and from
`Row.value_write_written`, which says what the row then holds. A creation adds one row
(`create_eq_ok`).
-/

namespace VisitLog

/-- What a client asks of a store for its record. -/
inductive Write where
  | update
  | softDelete
  deriving DecidableEq, Repr

/-- The record as it is submitted: a soft delete has set the time of deletion. -/
def Write.submitted (w : Write) (now : Instant) (v : Visitor) : Visitor :=
  match w with
  | update => v
  | softDelete => v.set .deletedAt now.layout

namespace Store

/-- Carries out a write. -/
def write [Engine] (s : Store) (w : Write) (now : Instant) (v : Visitor) (p : Pool) : Attempt :=
  match w with
  | .update => s.update now v p
  | .softDelete => s.softDelete now v p

/-- The record with the stamp of a write. -/
def stamped (now : Instant) (v : Visitor) : Visitor :=
  v.set .updatedAt now.layout

/-- How a write of a submitted record can end. -/
inductive Outcome [Engine] (s : Store) (now : Instant) (v : Visitor) (p : Pool) : Attempt → Prop
  | nameless (hid : v.value .id = "") : Outcome s now v p ⟨v, .error .idRequired⟩
  | unchanged (hid : v.value .id ≠ "") (hv : v.isDirty = false) : Outcome s now v p ⟨v, .ok p⟩
  | refused (hid : v.value .id ≠ "") (hv : v.isDirty)
      (hp : ∀ rows, p.isClosed = false → ¬p.Holds s rows) (failure : Failure) :
    Outcome s now v p ⟨stamped now v, .error failure⟩
  | stored {rows : Rows} (hid : v.value .id ≠ "") (hv : v.isDirty) (hp : p.isClosed = false)
      (hrows : p.Holds s rows) : Outcome s now v p ⟨(stamped now v).clean,
        .ok (p.withRows s (rows.update (v.value .id) (written (stamped now v))))⟩

/-- An update writes what is dirty to the rows of the identifier, or fails and leaves all as it was.
-/
theorem outcome_update [Engine] (s : Store) (now : Instant) (v : Visitor) (p : Pool) :
    Outcome s now v p (s.update now v p) := by
  unfold update
  split
  · next hid => exact .nameless (String.isEmpty_iff.1 hid)
  next hid =>
  have hid : v.value .id ≠ "" := fun e => hid (String.isEmpty_iff.2 e)
  split
  · next hv => exact .unchanged hid (by simpa using hv)
  next hv =>
  have hv : v.isDirty := by simpa using hv
  dsimp only
  split
  · next p' h =>
    obtain ⟨hp, rows, hrows, rfl⟩ := Pool.change_update_eq_ok.1 h
    exact .stored hid hv hp hrows
  · next failure h =>
    refine .refused hid hv (fun rows hp hrows => ?_) failure
    rw [Pool.change_update_eq_ok.2 ⟨hp, rows, hrows, rfl⟩] at h
    cases h

theorem outcome_write [Engine] (s : Store) (w : Write) (now : Instant) (v : Visitor) (p : Pool) :
    Outcome s now (w.submitted now v) p (s.write w now v p) := by
  cases w with
  | update => exact outcome_update ..
  | softDelete => exact outcome_update ..

theorem id_submitted (w : Write) (now : Instant) (v : Visitor) :
    (w.submitted now v).value .id = v.value .id := by
  cases w <;> rfl

/-- A write of a record that has an identifier succeeds on an open database with the table. -/
theorem exists_write_eq_ok [Engine] {s : Store} {v : Visitor} {p : Pool} {rows : Rows} (w : Write)
    (now : Instant) (hid : v.value .id ≠ "") (hp : p.isClosed = false) (hrows : p.Holds s rows) :
    ∃ p', (s.write w now v p).result = .ok p' := by
  rw [← id_submitted w now v] at hid
  have out := s.outcome_write w now v p
  generalize s.write w now v p = a at out ⊢
  cases out with
  | nameless h => exact absurd h hid
  | unchanged => exact ⟨p, rfl⟩
  | refused _ _ h => exact absurd hrows (h rows hp)
  | stored => exact ⟨_, rfl⟩

/-- The record as a creation stores it. -/
def dated (now : Instant) (v : Visitor) : Visitor :=
  (v.set .createdAt now.layout).set .updatedAt now.layout

theorem create_eq_ok [Engine] {s : Store} {now : Instant} {v v' : Visitor} {p p' : Pool}
    (h : s.create now v p = ⟨v', .ok p'⟩) :
    v' = (dated now v).clean ∧ ∃ rows, p.Holds s rows ∧ rows.hasId (v.value .id) = false ∧
      p' = p.withRows s (rows ++ [.ofVisitor (dated now v)]) := by
  unfold create at h
  dsimp only at h
  split at h
  · next hp =>
    cases h
    obtain ⟨-, rows, hrows, hid, rfl⟩ := Pool.change_insert_eq_ok.1 hp
    exact ⟨rfl, rows, hrows, hid, rfl⟩
  · cases h

theorem exists_create_eq_ok [Engine] {s : Store} {v : Visitor} {p : Pool} {rows : Rows}
    (now : Instant) (hp : p.isClosed = false) (hrows : p.Holds s rows)
    (hid : rows.hasId (v.value .id) = false) :
    ∃ v' p', s.create now v p = ⟨v', .ok p'⟩ := by
  have hinsert := Pool.change_insert_eq_ok (v := dated now v).2 ⟨hp, rows, hrows, hid, rfl⟩
  unfold create
  unfold dated at hinsert
  dsimp only
  rw [hinsert]
  exact ⟨_, _, rfl⟩

theorem mem_written {v : Visitor} {c : Column} {t : String} :
    (c, t) ∈ written v ↔ v.dirty c ∧ c ≠ .id ∧ t = v.value c := by
  rw [written, List.mem_filter, Visitor.mem_changed, decide_eq_true_eq]
  exact ⟨fun ⟨⟨hd, ht⟩, hc⟩ => ⟨hd, hc, ht⟩, fun ⟨hd, hc, ht⟩ => ⟨⟨hd, ht⟩, hc⟩⟩

end Store

namespace Visitor

/-- Every dirty column keeps the text that the record has in it. -/
def KeepsDirty (v : Visitor) : Prop :=
  ∀ c : Column, v.dirty c → c.isDatetime → Stored.IsKept (v.value c)

namespace KeepsDirty

variable {v : Visitor}

theorem ofText [Engine] (h : v.KeepsDirty) {c : Column} (hc : v.dirty c) :
    Stored.ofText c.isDatetime (v.value c) = .text (v.value c) := by
  cases hd : c.isDatetime with
  | false => rfl
  | true => exact (h c hc hd).ofText true

theorem set (h : v.KeepsDirty) {c : Column} {t : String} (ht : c.isDatetime → Stored.IsKept t) :
    (v.set c t).KeepsDirty := by
  intro x hx hd
  rw [value_set]
  split
  · next e => exact ht (e ▸ hd)
  · next e =>
    rw [dirty_set, Bool.or_eq_true, decide_eq_true_eq] at hx
    exact h x (hx.resolve_left e) hd

theorem submitted (h : v.KeepsDirty) (w : Write) (now : Instant) :
    (w.submitted now v).KeepsDirty := by
  cases w with
  | update => exact h
  | softDelete => exact h.set fun _ => now.isKept_layout

theorem stamped (h : v.KeepsDirty) (now : Instant) : (Store.stamped now v).KeepsDirty :=
  h.set fun _ => now.isKept_layout

theorem clean (v : Visitor) : v.clean.KeepsDirty :=
  fun _ hc => absurd hc Bool.false_ne_true

end KeepsDirty

theorem dirty_of_isDirty {v : Visitor} (h : v.isDirty = false) (c : Column) : v.dirty c = false :=
  Bool.eq_false_iff.2 (List.any_eq_false.1 h c c.mem_all)

theorem isDirty_clean (v : Visitor) : v.clean.isDirty = false :=
  List.any_eq_false.2 fun _ _ => Bool.false_ne_true

end Visitor

namespace Row

variable [Engine]

/-- A write puts the changed columns into a row, but for the identifier, and leaves all others. -/
theorem value_write_written (r : Row) (v : Visitor) (c : Column) :
    (r.write (Store.written v)).value c =
      if v.dirty c ∧ c ≠ .id then .ofText c.isDatetime (v.value c) else r.value c := by
  simp only [write]
  split
  · next f hf =>
    obtain ⟨hd, hc, ht⟩ := Store.mem_written.1 (List.mem_of_find?_eq_some hf)
    have hfc : f.1 = c := by simpa using List.find?_some hf
    subst hfc
    rw [if_pos ⟨hd, hc⟩, ht]
  · next hf =>
    rw [if_neg]
    rintro ⟨hd, hc⟩
    have := List.find?_eq_none.1 hf _ (Store.mem_written.2 ⟨hd, hc, rfl⟩)
    exact this (by simp)

@[simp] theorem hasId_write_written (r : Row) (v : Visitor) (id : String) :
    (r.write (Store.written v)).hasId id = r.hasId id := by
  simp [hasId, value_write_written]

end Row

namespace Rows

variable [Engine]

/-- A write changes no identifier, so it may come before or after a choice by identifier. -/
theorem filter_update (rows : Rows) (id other : String) (v : Visitor) :
    (rows.update id (Store.written v)).filter (Row.hasId other) =
      Rows.update (rows.filter (Row.hasId other)) id (Store.written v) := by
  rw [update, update, List.filter_map]
  congr 1
  refine List.filter_congr fun r _ => ?_
  rw [Function.comp_apply]
  split
  · exact Row.hasId_write_written r v other
  · rfl

/-- An update keeps the identifiers of a table different, as it does not write them. -/
theorem IsKeyed.update {rows : Rows} (h : rows.IsKeyed) (id : String) (v : Visitor) :
    IsKeyed (rows.update id (Store.written v)) := by
  have hsame : ∀ r : Row, (if r.hasId id then r.write (Store.written v) else r).value .id =
      r.value .id := by
    intro r
    split
    · rw [Row.value_write_written, if_neg fun hc => hc.2 rfl]
    · rfl
  refine ⟨List.forall_mem_map.2 fun r hr => ?_, List.pairwise_map.2 (h.distinct.imp fun hne => ?_)⟩
  · rw [Row.hasId, Row.value_toVisitor, hsame]
    exact h.text r hr
  · rw [hsame, hsame]
    exact hne

end Rows

namespace Pool

variable [Engine]

variable {p p' : Pool} {s : Store} {rows : Rows} {id : String} {r : Row}

/-- A write changes at most the row of its record. -/
theorem Frame.write {w : Write} {now : Instant} {v : Visitor}
    (h : (s.write w now v p).result = .ok p') : Frame s (fun r => r.hasId (v.value .id)) p p' := by
  have hid := Store.id_submitted w now v
  have out := s.outcome_write w now v p
  generalize s.write w now v p = a at out h
  cases out with
  | nameless | refused => cases h
  | unchanged => cases h; exact .refl ..
  | stored _ _ _ hrows => cases h; rw [hid]; exact .update hrows ..

/-- The row of a new record is the only one of its identifier. -/
theorem HasRow.append {v : Visitor} (h : p.Holds s rows) (hid : rows.hasId (v.value .id) = false) :
    (p.withRows s (rows ++ [.ofVisitor v])).HasRow s (v.value .id) (.ofVisitor v) := by
  refine ⟨_, h.withRows _, ?_⟩
  have hnone : rows.filter (Row.hasId (v.value .id)) = [] :=
    List.filter_eq_nil_iff.2 (List.any_eq_false.1 hid)
  have hself : (Row.ofVisitor v).hasId (v.value .id) := beq_self_eq_true _
  rw [List.filter_append, hnone, List.nil_append, List.filter_cons_of_pos hself, List.filter_nil]

/-- A write of the row of an identifier. -/
theorem HasRow.update (h : p.HasRow s id r) (hrows : p.Holds s rows) (v : Visitor) :
    (p.withRows s (rows.update id (Store.written v))).HasRow s id (r.write (Store.written v)) := by
  have hid := h.hasId
  obtain ⟨rows', hrows', h⟩ := h
  cases hrows.unique hrows'
  refine ⟨_, hrows.withRows _, ?_⟩
  rw [Rows.filter_update, h, Rows.update, List.map_cons, if_pos hid, List.map_nil]

end Pool

end VisitLog

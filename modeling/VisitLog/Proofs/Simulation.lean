import VisitLog.Database.Planner
import VisitLog.Proofs.ById
import VisitLog.Proofs.Writes

/-!
# A record and its row

A client creates a record or finds it, sets columns, and writes the record from time to time.
Whatever it does, its record and the row in the table agree in every column that is not dirty
(`Row.Agrees`): a setter makes its column dirty, a write that fails leaves the row as it was, and a
write that succeeds puts every dirty column into the row, but for the identifier, which no client
sets.

Main statement: `Store.simulates`.
-/

namespace VisitLog

open Text

/-! ## Agreement -/

/-- The row has the text of the record in every column that is not dirty. -/
def Row.Agrees (r : Row) (v : Visitor) : Prop :=
  ∀ c, v.dirty c = false → r.toVisitor.value c = v.value c

namespace Row.Agrees

variable {r : Row} {v : Visitor}

theorem set (h : r.Agrees v) (c : Column) (t : String) : r.Agrees (v.set c t) := by
  intro x hx
  rw [Visitor.dirty_set, Bool.or_eq_false_iff, decide_eq_false_iff_not] at hx
  rw [Visitor.value_set, if_neg hx.1]
  exact h x hx.2

theorem submitted (h : r.Agrees v) (w : Write) (now : Instant) : r.Agrees (w.submitted now v) := by
  cases w with
  | update => exact h
  | softDelete => exact h.set .deletedAt now.layout

/-- A row that agrees has the whole record once the dirty columns are written. -/
theorem write [Engine] (h : r.Agrees v) (hv : v.KeepsDirty) (hid : r.hasId (v.value .id)) :
    (r.write (Store.written v)).Agrees v.clean := by
  intro c _
  rw [value_toVisitor, value_write_written]
  split
  · next hc => rw [hv.ofText hc.1, Stored.toText_text, Visitor.value_clean]
  · next hc =>
    cases hd : v.dirty c with
    | false => exact h c hd
    | true =>
      have hcid : c = .id := Classical.byContradiction fun hne => hc ⟨hd, hne⟩
      rw [hcid, beq_iff_eq.1 hid]
      rfl

end Row.Agrees

/-! ## Editors -/

/-- A client with its record, the database, and the clock of the last write that changed the row. -/
structure Editor where
  record : Visitor
  pool : Pool
  stamp : String

namespace Editor

variable {s : Store} {x y : Editor}

/-- The client after a write. The clock counts if the write succeeds and something is dirty. -/
def write [Engine] (s : Store) (w : Write) (now : Instant) (x : Editor) : Editor :=
  let a := s.write w now x.record x.pool
  match a.result with
  | .ok p =>
    { record := a.record, pool := p
      stamp := if (w.submitted now x.record).isDirty then now.layout else x.stamp }
  | .error _ => { x with record := a.record }

/-- A client creates a record, or finds one in a table where no two rows have the same
identifier. -/
inductive Starts [Engine] (s : Store) : Editor → Prop
  | created {now : Instant} {v v' : Visitor} {p p' : Pool}
      (hv : Instant.isLayout (v.value .deletedAt))
    (h : s.create now v p = ⟨v', .ok p'⟩) : Starts s ⟨v', p', now.layout⟩
  | found {now : Instant} {id : String} {v : Visitor} {p : Pool}
    (hids : ∀ rows, p.Holds s rows → rows.IsKeyed) (h : s.find now id p = .ok (some v)) :
    Starts s ⟨v, p, v.value .updatedAt⟩

/-- A setter, a write, or anything that others do to the database while they leave the row alone. -/
inductive Step [Engine] (s : Store) : Editor → Editor → Prop
  | set {v : Visitor} {p : Pool} {stamp : String} (c : Column) (t : String) (hc : c ≠ .id)
    (ht : c.isDatetime → Instant.isLayout t) : Step s ⟨v, p, stamp⟩ ⟨v.set c t, p, stamp⟩
  | write (x : Editor) (w : Write) (now : Instant) : Step s x (x.write s w now)
  | elsewhere {v : Visitor} {p p' : Pool} {stamp : String}
    (h : ∀ r, p.HasRow s (v.value .id) r → p'.HasRow s (v.value .id) r) :
    Step s ⟨v, p, stamp⟩ ⟨v, p', stamp⟩

/-- The states that a client can come to. -/
inductive Reached [Engine] (s : Store) : Editor → Prop
  | start {x : Editor} (h : Starts s x) : Reached s x
  | step {x y : Editor} (h : Reached s x) (hxy : Step s x y) : Reached s y

/-- What every client keeps to. -/
structure Invariant (s : Store) (x : Editor) : Prop where
  keeps : x.record.KeepsDirty
  row : ∃ r, x.pool.HasRow s (x.record.value .id) r ∧ r.Agrees x.record ∧
    r.toVisitor.value .updatedAt = x.stamp

/-- The row has the record, which is clean, with the clock of the last write. -/
structure IsSettled (s : Store) (x : Editor) : Prop where
  clean : x.record.isDirty = false
  row : ∃ r, x.pool.HasRow s (x.record.value .id) r ∧ r.toVisitor.data = x.record.data ∧
    r.toVisitor.value .updatedAt = x.stamp

/-! ## The invariant -/

theorem Invariant.isSettled (h : x.Invariant s) (hclean : x.record.isDirty = false) :
    x.IsSettled s := by
  obtain ⟨-, r, hrow, hagree, hstamp⟩ := h
  refine ⟨hclean, r, hrow, List.map_congr_left fun c _ => ?_, hstamp⟩
  rw [hagree c (Visitor.dirty_of_isDirty hclean c)]

/-- A record that was created agrees with its row. -/
theorem invariant_created [Engine] {now : Instant} {v v' : Visitor} {p p' : Pool}
    (hv : Instant.isLayout (v.value .deletedAt)) (h : s.create now v p = ⟨v', .ok p'⟩) :
    Invariant s ⟨v', p', now.layout⟩ := by
  obtain ⟨rfl, rows, hrows, hid, rfl⟩ := Store.create_eq_ok h
  have hkept : (Store.dated now v).IsKept := by
    intro c hc
    cases c with
    | createdAt => exact now.isKept_layout
    | updatedAt => exact now.isKept_layout
    | deletedAt => exact Instant.isKept_of_isLayout hv
    | _ => cases hc
  have hagree : (Row.ofVisitor (Store.dated now v)).Agrees (Store.dated now v).clean := by
    intro c _
    rw [Row.toVisitor_ofVisitor hkept]
  exact ⟨.clean _, _, Pool.HasRow.append hrows hid, hagree, hagree .updatedAt rfl⟩

theorem invariant_found [Engine] {now : Instant} {id : String} {v : Visitor} {p : Pool}
    (hids : ∀ rows, p.Holds s rows → rows.IsKeyed) (h : s.find now id p = .ok (some v)) :
    Invariant s ⟨v, p, v.value .updatedAt⟩ := by
  have hid : id ≠ "" := by
    rintro rfl
    cases h
  obtain ⟨rows, r, hrows, hr, -, rfl⟩ := Store.exists_candidate_of_find hid h
  have hrow := (hids rows hrows).filter_hasId hr
  exact ⟨.clean r.toVisitor, r, ⟨rows, hrows, hrow⟩, fun c _ => rfl, rfl⟩

theorem Invariant.set (h : x.Invariant s) {c : Column} {t : String} (hc : c ≠ .id)
    (ht : c.isDatetime → Instant.isLayout t) : Invariant s ⟨x.record.set c t, x.pool, x.stamp⟩ := by
  obtain ⟨hkeeps, r, hrow, hagree, hstamp⟩ := h
  refine ⟨hkeeps.set fun hd => Instant.isKept_of_isLayout (ht hd), r, ?_, hagree.set c t, hstamp⟩
  rw [Visitor.value_set, if_neg (Ne.symm hc)]
  exact hrow

/-- A write, successful or not, keeps the record and the row together. -/
theorem Invariant.write [Engine] (h : x.Invariant s) (w : Write) (now : Instant) :
    (x.write s w now).Invariant s := by
  obtain ⟨hkeeps, r, hrow, hagree, hstamp⟩ := h
  rw [← Store.id_submitted w now] at hrow
  have hkeeps := hkeeps.submitted w now
  have hagree := hagree.submitted w now
  have out := s.outcome_write w now x.record x.pool
  unfold Editor.write
  generalize s.write w now x.record x.pool = a at out ⊢
  generalize w.submitted now x.record = v at *
  cases out with
  | nameless => exact ⟨hkeeps, r, hrow, hagree, hstamp⟩
  | unchanged _ hv =>
    refine ⟨hkeeps, r, hrow, hagree, ?_⟩
    rw [hv]
    exact hstamp
  | refused => exact ⟨hkeeps.stamped now, r, hrow, hagree.set .updatedAt now.layout, hstamp⟩
  | stored _ hv _ hrows =>
    have hwritten : (r.write (Store.written (Store.stamped now v))).Agrees
        (Store.stamped now v).clean :=
      (hagree.set .updatedAt now.layout).write (hkeeps.stamped now) hrow.hasId
    refine ⟨.clean _, _, hrow.update hrows (Store.stamped now v), hwritten, ?_⟩
    rw [if_pos hv]
    exact hwritten .updatedAt rfl

theorem Step.invariant [Engine] (h : Step s x y) (hx : x.Invariant s) : y.Invariant s := by
  cases h with
  | set c t hc ht => exact hx.set hc ht
  | write _ w now => exact hx.write w now
  | elsewhere h =>
    obtain ⟨hkeeps, r, hrow, hagree, hstamp⟩ := hx
    exact ⟨hkeeps, r, h r hrow, hagree, hstamp⟩

theorem Reached.invariant [Engine] (h : Reached s x) : x.Invariant s := by
  induction h with
  | start h =>
    cases h with
    | created hv h => exact invariant_created hv h
    | found hids h => exact invariant_found hids h
  | step _ hxy ih => exact hxy.invariant ih

/-- A write that succeeds leaves nothing dirty. -/
theorem isDirty_write [Engine] {w : Write} {now : Instant} {p : Pool}
    (h : (s.write w now x.record x.pool).result = .ok p) :
    (x.write s w now).record.isDirty = false := by
  have out := s.outcome_write w now x.record x.pool
  unfold Editor.write
  generalize s.write w now x.record x.pool = a at out h ⊢
  cases out with
  | nameless => cases h
  | unchanged _ hv => exact hv
  | refused => cases h
  | stored => exact Visitor.isDirty_clean _

end Editor

/-! ## Every run -/

/-- Records and rows stay together in every run of a client of the store. On an open database the
creation of a record whose identifier is free succeeds, and so does every write of a record that has
one. -/
structure Store.Simulates [Engine] (s : Store) : Prop where
  agrees : ∀ x, Editor.Reached s x →
    ∃ r, x.pool.HasRow s (x.record.value .id) r ∧ r.Agrees x.record
  created : ∀ now v v' p p', Instant.isLayout (v.value .deletedAt) →
    s.create now v p = ⟨v', .ok p'⟩ → (Editor.mk v' p' now.layout).IsSettled s ∧
    p.Gains s (.ofVisitor v') p'
  written : ∀ x w now p', Editor.Reached s x → (s.write w now x.record x.pool).result = .ok p' →
    (x.write s w now).IsSettled s ∧ (x.write s w now).pool = p' ∧
      x.pool.Frame s (fun r => r.hasId (x.record.value .id)) p'
  creates : ∀ now v p rows, p.isClosed = false → p.Holds s rows → rows.hasId (v.value .id) = false →
    ∃ v' p', s.create now v p = ⟨v', .ok p'⟩
  writes : ∀ x w now, Editor.Reached s x → x.pool.isClosed = false → x.record.value .id ≠ "" →
    ∃ p', (s.write w now x.record x.pool).result = .ok p'

/-- A record and its row stay together: whatever one client does with the record, the row has the
record's value in every column that is not dirty, and all of its values after each write. -/
theorem Store.simulates [Engine] (s : Store) : s.Simulates where
  agrees x hx := by
    obtain ⟨-, r, hrow, hagree, -⟩ := hx.invariant
    exact ⟨r, hrow, hagree⟩
  created now v v' p p' hv h := by
    refine ⟨(Editor.invariant_created hv h).isSettled ?_, ?_⟩
    · rw [(create_eq_ok h).1]
      exact Visitor.isDirty_clean _
    · obtain ⟨rfl, rows, hrows, -, rfl⟩ := create_eq_ok h
      exact .append hrows _
  written x w now p' hx h := by
    refine ⟨(hx.invariant.write w now).isSettled (Editor.isDirty_write h), ?_, .write h⟩
    rw [Editor.write, h]
  creates now v p rows hp hrows hid := exists_create_eq_ok now hp hrows hid
  writes x w now hx hp hid := by
    obtain ⟨-, r, ⟨rows, hrows, -⟩, -⟩ := hx.invariant
    exact exists_write_eq_ok w now hid hp hrows

namespace Editor

section

variable [Engine]

/-- A client that creates a record and then changes its path. -/
def draft : Visitor := .visit "a" "/" "2024-01-01 00:00:00"

def drafted : Editor :=
  { record := (Store.dated ⟨0, 0⟩ draft).clean
    pool := (Pool.ofVisits []).withRows ⟨"visits"⟩ [.ofVisitor (Store.dated ⟨0, 0⟩ draft)]
    stamp := "1970-01-01 00:00:00" }

def redrafted : Editor :=
  { drafted with record := drafted.record.set .path "/new" }

end

theorem reached_redrafted : Reached ⟨"visits"⟩ redrafted :=
  have hcreate : Store.create ⟨"visits"⟩ ⟨0, 0⟩ draft (Pool.ofVisits []) =
      ⟨drafted.record, .ok drafted.pool⟩ := rfl
  .step (.start (.created (by decide) hcreate)) (.set .path "/new" (by decide) (by decide))

theorem simulates_redrafted :
    (redrafted.write ⟨"visits"⟩ .softDelete ⟨60, 0⟩).IsSettled ⟨"visits"⟩ ∧
      (redrafted.write ⟨"visits"⟩ .softDelete ⟨60, 0⟩).stamp = "1970-01-01 00:01:00" :=
  ⟨((Store.simulates ⟨"visits"⟩).written redrafted .softDelete ⟨60, 0⟩ _ reached_redrafted rfl).1,
    by decide⟩

end Editor

end VisitLog

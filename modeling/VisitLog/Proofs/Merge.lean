import Mathlib.Logic.Function.Basic
import VisitLog.Database.Planner
import VisitLog.Proofs.Writes

/-!
# Concurrent edits

Any number of clients hold copies of one record, from different moments, and write them in any
order. A write touches the dirty columns only, so the row holds in each column what the last call in
which the column was dirty had in it (`Merges.merged`). Columns are dirty where their client has set
them (`Merges.edited`), hence edits of different columns all last, and no stale copy undoes a
deletion.

Main statement: `Editors.merges`.
-/

namespace VisitLog

open Function

/-- The columns that a write itself sets in the copy of its client. -/
def Write.edited : Write → List Column
  | update => []
  | softDelete => [.deletedAt]

/-- A write that succeeded: its client, the copy it was called with, and the columns that the client
had set in this copy since it was hydrated or last written. -/
structure Call (ι : Type) where
  client : ι
  write : Write
  now : Instant
  copy : Visitor
  edited : List Column

/-- The record as it was submitted. -/
def Call.record {ι : Type} (k : Call ι) : Visitor :=
  k.write.submitted k.now k.copy

/-- Clients with a copy each and the columns they have set in it, the database, and the calls so
far, the last one first. -/
structure Editors (ι : Type) where
  copies : ι → Visitor
  edited : ι → List Column
  pool : Pool
  calls : List (Call ι)

/-- The record is a copy from the row of an identifier, with these columns set by its client. -/
structure Visitor.IsCopy (id : String) (edited : List Column) (v : Visitor) : Prop where
  id : v.value .id = id
  keeps : v.KeepsDirty
  dirty : ∀ c, c ≠ .updatedAt → (v.dirty c ↔ c ∈ edited)

namespace Visitor.IsCopy

variable {id : String} {edited : List Column} {v : Visitor}

theorem set (h : v.IsCopy id edited) {c : Column} {t : String} (hc : c ≠ .id)
    (ht : c.isDatetime → Stored.IsKept t) : (v.set c t).IsCopy id (c :: edited) where
  id := by
    rw [value_set, if_neg (Ne.symm hc)]
    exact h.id
  keeps := h.keeps.set ht
  dirty x hx := by
    rw [dirty_set, Bool.or_eq_true, decide_eq_true_eq, List.mem_cons, h.dirty x hx]

theorem submitted (h : v.IsCopy id edited) (w : Write) (now : Instant) :
    (w.submitted now v).IsCopy id (w.edited ++ edited) := by
  cases w with
  | update => exact h
  | softDelete => exact h.set (by decide) fun _ => now.isKept_layout

/-- The stamp of a write is no edit of the client. -/
theorem stamped (h : v.IsCopy id edited) (now : Instant) :
    (Store.stamped now v).IsCopy id edited where
  id := h.id
  keeps := h.keeps.stamped now
  dirty x hx := by
    rw [Store.stamped, dirty_set, Bool.or_eq_true, decide_eq_true_eq, or_iff_right hx]
    exact h.dirty x hx

theorem clean (h : v.IsCopy id edited) : v.clean.IsCopy id [] where
  id := h.id
  keeps := .clean v
  dirty _ _ := iff_of_false Bool.false_ne_true List.not_mem_nil

theorem unchanged (h : v.IsCopy id edited) (hv : v.isDirty = false) : v.IsCopy id [] where
  id := h.id
  keeps := h.keeps
  dirty c _ := by
    rw [dirty_of_isDirty hv c]
    exact iff_of_false Bool.false_ne_true List.not_mem_nil

theorem ofRow {r : Row} (h : r.hasId id) : r.toVisitor.IsCopy id [] where
  id := congrArg Stored.toText (beq_iff_eq.1 h)
  keeps := .clean r.toVisitor
  dirty _ _ := iff_of_false Bool.false_ne_true List.not_mem_nil

end Visitor.IsCopy

namespace Editors

variable {ι : Type} {s : Store} {id : String} {r₀ : Row} {e e' : Editors ι}

/-! ## Runs -/

/-- A client writes its copy. -/
def call [Engine] [DecidableEq ι] (s : Store) (i : ι) (w : Write) (now : Instant)
    (e : Editors ι) : Editors ι :=
  let a := s.write w now (e.copies i) e.pool
  let edited := w.edited ++ e.edited i
  match a.result with
  | .ok p =>
    { copies := update e.copies i a.record, edited := update e.edited i [], pool := p
      calls := ⟨i, w, now, e.copies i, edited⟩ :: e.calls }
  | .error _ =>
    { e with copies := update e.copies i a.record, edited := update e.edited i edited }

/-- The row stands in the table, and every client has an unchanged copy of it from some moment. -/
structure Starts (s : Store) (id : String) (r₀ : Row) (e : Editors ι) : Prop where
  row : e.pool.HasRow s id r₀
  copies : ∀ i, ∃ r : Row, r.hasId id ∧ e.copies i = r.toVisitor
  edited : ∀ i, e.edited i = []
  calls : e.calls = []

/-- A client sets a column of its copy, takes a new copy or writes the one it has; or others do
something to the database while they leave the row alone. -/
inductive Step [Engine] [DecidableEq ι] (s : Store) (id : String) : Editors ι → Editors ι → Prop
  | set (e : Editors ι) (i : ι) (c : Column) (t : String) (hc : c ≠ .id)
    (ht : c.isDatetime → Instant.isLayout t) :
    Step s id e { e with copies := update e.copies i ((e.copies i).set c t)
                         edited := update e.edited i (c :: e.edited i) }
  | load (e : Editors ι) (i : ι) {r : Row} (hr : e.pool.HasRow s id r) :
    Step s id e { e with copies := update e.copies i r.toVisitor
                         edited := update e.edited i [] }
  | call (e : Editors ι) (i : ι) (w : Write) (now : Instant) : Step s id e (e.call s i w now)
  | elsewhere (e : Editors ι) {p : Pool} (h : ∀ r, e.pool.HasRow s id r → p.HasRow s id r) :
    Step s id e { e with pool := p }

/-- The states that clients of a row can come to. -/
inductive Reached [Engine] [DecidableEq ι] (s : Store) (id : String) (r₀ : Row) : Editors ι → Prop
  | start {e : Editors ι} (h : Starts s id r₀ e) : Reached s id r₀ e
  | step {e e' : Editors ι} (h : Reached s id r₀ e) (he : Step s id e e') : Reached s id r₀ e'

/-- The value that the last call left in a column, or the one that was there at first. -/
def merged (r₀ : Row) (c : Column) (calls : List (Call ι)) : Stored :=
  match calls.find? fun k => k.record.dirty c with
  | some k => .text (k.record.value c)
  | none => r₀.value c

theorem merged_cons (r₀ : Row) (c : Column) (k : Call ι) (calls : List (Call ι)) :
    merged r₀ c (k :: calls) =
      if k.record.dirty c then .text (k.record.value c) else merged r₀ c calls := by
  rw [merged, List.find?_cons]
  cases k.record.dirty c <;> rfl

/-! ## The invariant -/

/-- What all clients keep to. -/
structure Invariant (s : Store) (id : String) (r₀ : Row) (e : Editors ι) : Prop where
  copies : ∀ i, (e.copies i).IsCopy id (e.edited i)
  calls : ∀ k ∈ e.calls, k.record.IsCopy id k.edited
  row : ∃ r, e.pool.HasRow s id r ∧
    ∀ c, c ≠ .id → c ≠ .updatedAt → r.value c = merged r₀ c e.calls

theorem Starts.invariant (h : Starts s id r₀ e) : e.Invariant s id r₀ where
  copies i := by
    obtain ⟨r, hr, hcopy⟩ := h.copies i
    rw [hcopy, h.edited i]
    exact .ofRow hr
  calls k hk := by
    rw [h.calls] at hk
    cases hk
  row := by
    refine ⟨r₀, h.row, fun c _ _ => ?_⟩
    rw [h.calls]
    rfl

section
variable [DecidableEq ι]

/-- A client changes its copy, and no other does. -/
theorem Invariant.update_copy (h : e.Invariant s id r₀) {i : ι} {v : Visitor} {edited : List Column}
    (hv : v.IsCopy id edited) (j : ι) :
    (update e.copies i v j).IsCopy id (update e.edited i edited j) := by
  by_cases hj : j = i
  · rw [hj, update_self, update_self]
    exact hv
  · rw [update_of_ne hj, update_of_ne hj]
    exact h.copies j

variable [Engine]

/-- One call of one editor keeps what the merge rests on: each column has the value of the last call
that wrote it. -/
theorem Invariant.call (h : e.Invariant s id r₀) (i : ι) (w : Write) (now : Instant) :
    (e.call s i w now).Invariant s id r₀ := by
  have hcopy := (h.copies i).submitted w now
  obtain ⟨r, hrow, hvalue⟩ := h.row
  have out := s.outcome_write w now (e.copies i) e.pool
  unfold Editors.call
  generalize s.write w now (e.copies i) e.pool = a at out ⊢
  cases out with
  | nameless => exact ⟨h.update_copy hcopy, h.calls, h.row⟩
  | unchanged _ hv =>
    refine ⟨h.update_copy (hcopy.unchanged hv), List.forall_mem_cons.2 ⟨hcopy, h.calls⟩, r, hrow,
      ?_⟩
    intro c hid hstamp
    rw [merged_cons, Call.record, Visitor.dirty_of_isDirty hv c]
    exact hvalue c hid hstamp
  | refused => exact ⟨h.update_copy (hcopy.stamped now), h.calls, h.row⟩
  | stored _ _ _ hrows =>
    rw [hcopy.id]
    refine ⟨h.update_copy (hcopy.stamped now).clean, List.forall_mem_cons.2 ⟨hcopy, h.calls⟩, _,
      hrow.update hrows _, ?_⟩
    intro c hid hstamp
    rw [Row.value_write_written, merged_cons, Call.record, Store.stamped, Visitor.dirty_set,
      Visitor.value_set, if_neg hstamp, decide_eq_false hstamp, Bool.false_or]
    cases hd : (w.submitted now (e.copies i)).dirty c with
    | true => rw [if_pos ⟨rfl, hid⟩, hcopy.keeps.ofText hd, if_pos rfl]
    | false =>
      rw [if_neg fun hc => Bool.false_ne_true hc.1, if_neg Bool.false_ne_true]
      exact hvalue c hid hstamp

theorem Step.invariant (h : Step s id e e') (he : e.Invariant s id r₀) : e'.Invariant s id r₀ := by
  cases h with
  | set i c t hc ht =>
    exact ⟨he.update_copy ((he.copies i).set hc fun hd => Instant.isKept_of_isLayout (ht hd)),
      he.calls, he.row⟩
  | load i hr => exact ⟨he.update_copy (.ofRow hr.hasId), he.calls, he.row⟩
  | call i w now => exact he.call i w now
  | elsewhere h =>
    obtain ⟨r, hr, hvalue⟩ := he.row
    exact ⟨he.copies, he.calls, r, h r hr, hvalue⟩

theorem Reached.invariant (h : Reached s id r₀ e) : e.Invariant s id r₀ := by
  induction h with
  | start h => exact h.invariant
  | step _ he ih => exact he.invariant ih

end

/-! ## What lasts -/

/-- A call lasts in a column as long as no later one has the column dirty. -/
theorem merged_append {later earlier : List (Call ι)} {k : Call ι} {c : Column}
    (hk : k.record.dirty c) (hlater : ∀ k' ∈ later, k'.record.dirty c = false) :
    merged r₀ c (later ++ k :: earlier) = .text (k.record.value c) := by
  induction later with
  | nil => rw [List.nil_append, merged_cons, if_pos hk]
  | cons k' later ih =>
    rw [List.forall_mem_cons] at hlater
    rw [List.cons_append, merged_cons, hlater.1, if_neg Bool.false_ne_true]
    exact ih hlater.2

/-- What is in the row after some calls. The identifier and the stamp of a write are apart: no
client sets the one, and every write that stores something sets the other. On an open database every
call succeeds. -/
structure Merges [Engine] [DecidableEq ι] (s : Store) (id : String) (r₀ : Row)
    (e : Editors ι) : Prop where
  merged : ∃ r, e.pool.HasRow s id r ∧
    ∀ c, c ≠ .id → c ≠ .updatedAt → r.value c = merged r₀ c e.calls
  edited : ∀ k ∈ e.calls, ∀ c, c ≠ .updatedAt → (k.record.dirty c ↔ c ∈ k.edited)
  disjoint : (e.calls.Pairwise fun k k' => ∀ c, c ≠ .updatedAt →
      ¬(k.record.dirty c ∧ k'.record.dirty c)) →
    ∀ r, e.pool.HasRow s id r → ∀ k ∈ e.calls, ∀ c, c ≠ .id → c ≠ .updatedAt → k.record.dirty c →
      r.value c = .text (k.record.value c)
  deleted : ∀ later k earlier, e.calls = later ++ k :: earlier → k.write = .softDelete →
    (∀ k' ∈ later, .deletedAt ∉ k'.edited) →
    ∀ r, e.pool.HasRow s id r → r.value .deletedAt = .text k.now.layout
  succeeds : e.pool.isClosed = false → id ≠ "" → ∀ i w now,
    ∃ k, k.client = i ∧ k.write = w ∧ k.now = now ∧ (e.call s i w now).calls = k :: e.calls

/-- The row holds in every column what the last call in which it was dirty had in it, whatever the
order of the calls and however old the copies. -/
theorem merges [Engine] [DecidableEq ι] (h : Reached s id r₀ e) : e.Merges s id r₀ := by
  obtain ⟨hcopies, hcalls, r, hrow, hvalue⟩ := h.invariant
  have hedited : ∀ k ∈ e.calls, ∀ c, c ≠ .updatedAt → (k.record.dirty c ↔ c ∈ k.edited) :=
    fun k hk => (hcalls k hk).dirty
  refine ⟨⟨r, hrow, hvalue⟩, hedited, ?_, ?_, ?_⟩
  · intro hdisjoint r' hrow' k hk c hid hstamp hd
    cases hrow.unique hrow'
    obtain ⟨later, earlier, hsplit⟩ := List.append_of_mem hk
    rw [hvalue c hid hstamp, hsplit]
    rw [hsplit, List.pairwise_append] at hdisjoint
    refine merged_append hd fun k' hk' => Bool.eq_false_iff.2 fun hd' => ?_
    exact hdisjoint.2.2 k' hk' k List.mem_cons_self c hstamp ⟨hd', hd⟩
  · intro later k earlier hsplit hdelete hlater r' hrow'
    cases hrow.unique hrow'
    have hrecord : k.record = k.copy.set .deletedAt k.now.layout := by
      rw [Call.record, hdelete]
      rfl
    have hd : k.record.dirty .deletedAt := by
      rw [hrecord]
      rfl
    rw [hvalue .deletedAt (by decide) (by decide), hsplit, merged_append hd, hrecord]
    · rfl
    · intro k' hk'
      have hmem : k' ∈ e.calls := by
        rw [hsplit]
        exact List.mem_append_left _ hk'
      refine Bool.eq_false_iff.2 fun hd' => hlater k' hk' ?_
      exact (hedited k' hmem .deletedAt (by decide)).1 hd'
  · intro hp hid i w now
    rw [← (hcopies i).id] at hid
    obtain ⟨rows, hrows, -⟩ := hrow
    obtain ⟨p', hp'⟩ := Store.exists_write_eq_ok w now hid hp hrows
    rw [call, hp']
    exact ⟨_, rfl, rfl, rfl, rfl⟩

/-- A visit that one client deletes while another one moves it to a new path. -/
def movedVisit : Visitor := .visit "a" "/" "2024-01-01 00:00:00"

def start [Engine] : Editors Bool :=
  { copies := fun _ => (Row.ofVisitor movedVisit).toVisitor, edited := fun _ => []
    pool := .ofVisits [movedVisit], calls := [] }

def moving [Engine] : Editors Bool :=
  { start with copies := update start.copies false ((start.copies false).set .path "/new")
               edited := update start.edited false (.path :: start.edited false) }

def moved [Engine] : Editors Bool :=
  (moving.call ⟨"visits"⟩ true .softDelete ⟨0, 0⟩).call ⟨"visits"⟩ false .update ⟨0, 1⟩

theorem starts_start [Engine] : Starts ⟨"visits"⟩ "a" (.ofVisitor movedVisit) start where
  row := ⟨_, Pool.holds_ofVisits _, rfl⟩
  copies _ := ⟨.ofVisitor movedVisit, rfl, rfl⟩
  edited _ := rfl
  calls := rfl

theorem reached_moved [Engine] : Reached ⟨"visits"⟩ "a" (.ofVisitor movedVisit) moved :=
  .step (.step (.step (.start starts_start)
    (.set start false .path "/new" (by decide) (by decide)))
    (.call moving true .softDelete ⟨0, 0⟩))
    (.call _ false .update ⟨0, 1⟩)

theorem merges_moved :
    moved.Merges ⟨"visits"⟩ "a" (.ofVisitor movedVisit) ∧
      moved.calls.map Call.edited = [[.path], [.deletedAt]] ∧
      Editors.merged (.ofVisitor movedVisit) .path moved.calls = .text "/new" ∧
      Editors.merged (.ofVisitor movedVisit) .deletedAt moved.calls = .text "1970-01-01 00:00:00" :=
  ⟨merges reached_moved, by decide, by decide, by decide⟩

end Editors

end VisitLog

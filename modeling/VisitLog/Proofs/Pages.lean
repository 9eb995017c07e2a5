import Mathlib.Data.Int.Range
import VisitLog.Dashboard.Lists
import VisitLog.Database.Planner
import VisitLog.Proofs.Counting

/-!
# Pages of the dashboard

The pages of a list come from its options one by one, and their number from a count.
`Paging.Partition` says that both fit together: joined, the pages are the list, and none is empty
but those behind the last. That is so on an engine that arranges rows alike with and without limit
and offset (`Engine.IsSteady`). No page number is so high that its offset would be cut to 64 bits
(`Paging.InBounds`).

Main statement: `Dashboard.Listing.exists_pages`.
-/

namespace VisitLog

open Text

namespace Paging

/-! ## Numbers of pages -/

variable {α : Type} {n w k : Int}

theorem saturate_eq (hlow : leastInt ≤ n) (hhigh : n ≤ greatestInt) : saturate n = n := by
  unfold saturate
  omega

/-- Saturation keeps a bound that is an integer of 64 bits. -/
theorem le_saturate (hn : n ≤ greatestInt) (h : n ≤ k) : n ≤ saturate k := by
  unfold saturate
  omega

/-- All pages that can be reached are within 64 bits. -/
theorem mul_le_greatestInt (hk : k ≤ maxPage) (hk0 : 0 ≤ k) (hw : w ≤ maxPerPage) :
    k * w ≤ greatestInt :=
  calc
    k * w ≤ k * maxPerPage := Int.mul_le_mul_of_nonneg_left hw hk0
    _ ≤ maxPage * maxPerPage := Int.mul_le_mul_of_nonneg_right hk (by decide)
    _ ≤ greatestInt := by decide

theorem offset_eq (hk : 1 ≤ k) (hmax : k ≤ maxPage) (hw : 1 ≤ w) (hw' : w ≤ maxPerPage) :
    offset ⟨k, w⟩ = (k - 1) * w := by
  have hbefore : saturate (k - 1) = k - 1 := by
    refine saturate_eq ?_ ?_
    · exact Int.le_trans (by decide) (Int.sub_nonneg_of_le hk)
    · exact Int.le_trans (Int.le_trans (Int.sub_le_self _ (by decide)) hmax) (by decide)
  have hrows : 0 ≤ (k - 1) * w := Int.mul_nonneg (by omega) (by omega)
  rw [offset, hbefore]
  exact saturate_eq (Int.le_trans (by decide) hrows) (mul_le_greatestInt (by omega) (by omega) hw')

/-- The page can be shown, and its offset is not cut to 64 bits. -/
structure InBounds (p : Paging) : Prop where
  page : 1 ≤ p.page ∧ p.page ≤ maxPage
  perPage : 1 ≤ p.perPage ∧ p.perPage ≤ maxPerPage
  offset : p.offset = (p.page - 1) * p.perPage

theorem inBounds_ofParameters (ps : Parameters) : (ofParameters ps).InBounds := by
  have hmax : (ofParameters ps).page ≤ maxPage := Int.min_le_right ..
  obtain ⟨hlow, hhigh⟩ := perPage_le ps
  exact ⟨⟨one_le_page ps, hmax⟩, ⟨hlow, hhigh⟩, offset_eq (one_le_page ps) hmax hlow hhigh⟩

/-- Behind the last page there is no row. -/
theorem le_offset {m : Int} (hm : 0 ≤ m) (hmax : m ≤ maxPage) (hw : 1 ≤ w) (hw' : w ≤ maxPerPage)
    (hn : n ≤ m * w)
    (hk : m < k) : n ≤ offset ⟨k, w⟩ := by
  have hpage : m ≤ saturate (k - 1) := le_saturate (Int.le_trans hmax (by decide)) (by omega)
  have hrows : m * w ≤ saturate (k - 1) * w := Int.mul_le_mul_of_nonneg_right hpage (by omega)
  exact Int.le_trans hn (le_saturate (mul_le_greatestInt hmax hm hw') hrows)

/-- The pages are as many as the rows need. -/
theorem totalPages_cases (hn : 0 ≤ n) (hw : 1 ≤ w) :
    1 ≤ totalPages n w ∧ n ≤ totalPages n w * w ∧
    (totalPages n w = 1 ∨ (totalPages n w - 1) * w < n) := by
  have hself : max w 1 = w := by omega
  have hdiv : totalPages n w = max ((n + w - 1) / w) 1 := by
    rw [totalPages, hself, Int.tdiv_eq_ediv_of_nonneg (by omega)]
  have hlow : w * ((n + w - 1) / w) ≤ n + w - 1 := Int.mul_ediv_self_le (by omega)
  have hhigh : n + w - 1 < w * ((n + w - 1) / w) + w := Int.lt_mul_ediv_self_add (by omega)
  rw [hdiv]
  -- `d` pages are enough and `d - 1` are not, but an empty list has a page too.
  generalize (n + w - 1) / w = d at hlow hhigh
  rw [Int.mul_comm w d] at hlow hhigh
  by_cases hd : 1 ≤ d
  · rw [max_eq_left hd, Int.sub_mul]
    exact ⟨hd, by omega, .inr (by omega)⟩
  · have hnone : d * w ≤ 0 := Int.mul_nonpos_of_nonpos_of_nonneg (by omega) (by omega)
    rw [max_eq_right (by omega)]
    exact ⟨Int.le_refl _, by omega, .inl rfl⟩

theorem totalPages_le (hn : 0 ≤ n) (hw : 1 ≤ w) (h : n ≤ maxPage * w) :
    totalPages n w ≤ maxPage := by
  obtain ⟨-, -, hone | hlast⟩ := totalPages_cases hn hw
  · rw [hone]
    decide
  · have hlt : totalPages n w - 1 < maxPage :=
      Int.lt_of_mul_lt_mul_right (Int.lt_of_lt_of_le hlast h) (by omega)
    omega

/-! ## Lists by pages -/

/-- A list on `m` pages of `w` rows: `joined`, the pages are the list. All before the last one are
`full`, the `last` one has a row if there is any, and those `beyond` have none. -/
structure Partition (m w : Int) (xs : List α) (page : Int → List α) : Prop where
  joined : (Int.range 1 (m + 1)).flatMap page = xs
  full : ∀ k, 1 ≤ k → k < m → ((page k).length : Int) = w
  last : xs ≠ [] → page m ≠ []
  beyond : ∀ k, m < k → page k = []

/-- A list up to some page is its pages in order. -/
theorem flatMap_pages (xs : List α) (w m : Nat) :
    (List.range m).flatMap (fun i => (xs.drop (i * w)).take w) = xs.take (m * w) := by
  induction m with
  | zero => simp
  | succ m ih =>
    rw [List.range_succ, List.flatMap_append, ih, List.flatMap_singleton,
      Nat.succ_mul, List.take_add]

/-- The rows of a page by its offset. -/
def rows (w : Int) (xs : List α) (k : Int) : List α :=
  (xs.drop (offset ⟨k, w⟩).toNat).take w.toNat

theorem length_rows (hk : 1 ≤ k) (hmax : k ≤ maxPage) (hw : 1 ≤ w) (hw' : w ≤ maxPerPage)
    (xs : List α) :
    ((rows w xs k).length : Int) = min w (max 0 (xs.length - (k - 1) * w)) := by
  have hbefore : 0 ≤ (k - 1) * w := Int.mul_nonneg (by omega) (by omega)
  rw [rows, offset_eq hk hmax hw hw', List.length_take, List.length_drop]
  omega

/-- Cutting a list into pages of one size loses nothing, and only the last page may be shorter. -/
theorem partition_rows {m : Int} {xs : List α} (hm : 1 ≤ m) (hmax : m ≤ maxPage) (hw : 1 ≤ w)
    (hw' : w ≤ maxPerPage) (hall : xs.length ≤ m * w)
    (hlast : m = 1 ∨ (m - 1) * w < xs.length) :
    Partition m w xs (rows w xs) := by
  constructor
  case joined =>
    have hpage (i : Nat) (hi : i ∈ List.range m.toNat) : rows w xs (1 + i) =
        (xs.drop (i * w.toNat)).take w.toNat := by
      have hi := List.mem_range.1 hi
      rw [rows, offset_eq (by omega) (by omega) hw hw', add_sub_cancel_left,
        Int.toNat_mul (by omega) (by omega), Int.toNat_natCast]
    rw [Int.range, add_sub_cancel_right, List.flatMap_map, List.flatMap_congr hpage, flatMap_pages]
    refine List.take_of_length_le ?_
    rw [← Int.toNat_mul (by omega) (by omega)]
    omega
  case full =>
    intro k hk hk'
    have hrows : k * w ≤ (m - 1) * w := Int.mul_le_mul_of_nonneg_right (by omega) (by omega)
    rw [length_rows hk (by omega) hw hw', Int.sub_mul]
    omega
  case last =>
    intro hne hnil
    have hn := List.length_pos_iff.2 hne
    have hlength := length_rows hm hmax hw hw' xs
    rw [hnil, List.length_nil] at hlength
    rcases hlast with rfl | hlast
    · rw [Int.sub_self, Int.zero_mul] at hlength
      omega
    · omega
  case beyond =>
    intro k hk
    have hrows := le_offset (by omega) hmax hw hw' hall hk
    rw [rows, List.drop_eq_nil_of_le (by omega), List.take_nil]

end Paging

namespace Store

variable {s : Store} {o : Options} {p : Pool} {rows : Rows}

/-- The matching rows in an order of which every page is cut. -/
theorem exists_lists [Engine] (hsteady : Engine.IsSteady) (now : Instant) (hp : p.isClosed = false)
    (h : p.Holds s rows) (ho : o.isInvalid = false)
    (hvalues : o.filterValues + 2 ≤ Database.mostValues) :
    ∃ vs : List Visitor, vs.Perm ((o.matching now rows).map Row.toVisitor) ∧
      ∀ limit offset, o.Gives (s.list now { o with limit := limit, offset := offset } p)
        ({ o with limit := limit, offset := offset }.cut vs) := by
  obtain ⟨q, hq, -⟩ := Query.ofOptions_eq_ok s.table now ho
  obtain ⟨htable, hconditions, hdistinct, horder, -⟩ := Query.ofOptions_cases hq
  refine ⟨(Engine.arrange q (o.matching now rows)).map Row.toVisitor,
    (Engine.perm_arrange q _).map _, fun limit offset => ?_⟩
  obtain ⟨q', hq', -⟩ :=
    Query.ofOptions_eq_ok (o := { o with limit := limit, offset := offset }) s.table now ho
  obtain ⟨htable', hconditions', hdistinct', horder', -⟩ := Query.ofOptions_cases hq'
  -- Limit and offset are in neither the conditions nor the order, so all pages are cut out of one
  -- list.
  have hsame : q' = { q with limit := q'.limit, offset := q'.offset } := by
    cases q
    cases q'
    cases htable.trans htable'.symm
    cases hconditions.trans hconditions'.symm
    cases hdistinct.trans hdistinct'.symm
    cases horder.trans horder'.symm
    rfl
  have hrows : Engine.arrange q' (o.matching now rows) = Engine.arrange q (o.matching now rows) :=
    (congrArg (Engine.arrange · (o.matching now rows)) hsame).trans (hsteady ..)
  rw [← hrows]
  exact gives_list hp h hq' (Nat.le_trans (Options.valueCount_le _) hvalues)

end Store

/-- The query for all visits under filters, newest first. -/
def Filters.unpaged (f : Filters) : Options :=
  { f.options ⟨1, 1⟩ with limit := 0, offset := 0 }

namespace Dashboard.Listing

open Paging

section

variable [Engine]

variable {s : Store} {now : Instant} {p : Pool} {rows : Rows} {f : Filters} {perPage : Int}

/-- The list `vs` under filters and its pages. `count`, `list`: a count says how many there are.
`perm`, `live`: every matching row comes once, and all of them are live. `page`, `load`: a page by
its options, and as the dashboard loads it. `partition`: if the last page can be reached, the pages
partition the list. Filters that look in paths for a text that is too long may give a fault
instead. -/
structure Pages (s : Store) (now : Instant) (p : Pool) (rows : Rows) (f : Filters) (perPage : Int)
    (vs : List Visitor) (pageOf : Int → List Visitor) : Prop where
  count : f.unpaged.Gives (s.count now f.unpaged p) vs.length
  list : f.unpaged.Gives (s.list now f.unpaged p) vs
  perm : vs.Perm ((f.unpaged.matching now rows).map Row.toVisitor)
  live : ∀ r ∈ f.unpaged.matching now rows, r.isLive now
  page : ∀ k, f.unpaged.Gives (s.list now (f.options ⟨k, perPage⟩) p) (pageOf k)
  load : ∀ ps : Parameters, (Paging.ofParameters ps).perPage = perPage →
    f.unpaged.Gives (load s now ps f p)
      ⟨pageOf (Paging.ofParameters ps).page, .ofParameters ps, vs.length, f⟩
  partition : vs.length ≤ maxPage * perPage → Paging.totalPages vs.length perPage ≤ maxPage ∧
    Partition (Paging.totalPages vs.length perPage) perPage vs pageOf

/-- The pages of a list are the list in pieces, and what parameters ask for is always a page. -/
theorem exists_pages (hsteady : Engine.IsSteady) (now : Instant) (f : Filters)
    (hp : p.isClosed = false) (h : p.Holds s rows) (hw : 1 ≤ perPage)
    (hw' : perPage ≤ maxPerPage) :
    (∃ vs pageOf, Pages s now p rows f perPage vs pageOf) ∧
    ∀ ps, (Paging.ofParameters ps).InBounds := by
  refine ⟨?_, inBounds_ofParameters⟩
  have hvalues : f.unpaged.filterValues + 2 ≤ Database.mostValues :=
    Nat.le_trans (Nat.add_le_add_right (Options.filterValues_le f.unpaged) 2)
      (by decide : 0 + 7 + 2 ≤ 32766)
  obtain ⟨vs, hperm, hlist⟩ := Store.exists_lists (o := f.unpaged) hsteady now hp h rfl hvalues
  have hcount := Store.count_of_matching (o := f.unpaged) hp h rfl
    (Nat.le_trans (Nat.le_add_right ..) hvalues) hperm
  have hpage (k : Int) :
      f.unpaged.Gives (s.list now (f.options ⟨k, perPage⟩) p) (Paging.rows perPage vs k) := by
    have hcut : (f.options ⟨k, perPage⟩).cut vs = Paging.rows perPage vs k :=
      if_pos (Int.lt_of_lt_of_le Int.zero_lt_one hw)
    rw [← hcut]
    exact hlist _ _
  have hwhole : f.unpaged.Gives (s.list now f.unpaged p) vs := by
    have hcut : f.unpaged.cut vs = vs := Options.cut_of_unbounded (o := f.unpaged) rfl rfl vs
    have hall := hlist 0 0
    change f.unpaged.Gives (s.list now f.unpaged p) (f.unpaged.cut vs) at hall
    rwa [hcut] at hall
  refine ⟨vs, Paging.rows perPage vs, hcount, hwhole, hperm, ?live, hpage, ?load, ?partition⟩
  case live =>
    intro r hr
    rw [← Condition.holds_live]
    exact List.all_eq_true.1 (List.mem_filter.1 hr).2 _ (Query.mem_conditionsOf rfl)
  case load =>
    rintro ps rfl
    refine (hpage _).bind fun _ => hcount.bind fun _ => .inl rfl
  case partition =>
    intro hn
    obtain ⟨hm, hall, hlast⟩ := totalPages_cases (Int.natCast_nonneg vs.length) hw
    have hmax := totalPages_le (Int.natCast_nonneg _) hw hn
    exact ⟨hmax, partition_rows hm hmax hw hw' hall hlast⟩

end

theorem exists_pages_someVisits : Engine.IsSteady ∧ ∃ vs pageOf,
    Pages ⟨"visits"⟩ ⟨0, 0⟩ (Pool.ofVisits Store.someVisits) (Store.someVisits.map Row.ofVisitor)
      {} 3 vs pageOf ∧ vs.length = 4 ∧ pageOf 1 ++ pageOf 2 = vs ∧ (pageOf 1).length = 3 ∧
        pageOf 2 ≠ [] ∧ pageOf 3 = [] := by
  have hw : (1 : Int) ≤ 3 := by decide
  have hw' : 3 ≤ maxPerPage := by decide
  obtain ⟨⟨vs, pageOf, hpages⟩, -⟩ :=
    exists_pages Planner.isSteady ⟨0, 0⟩ {} rfl (Pool.holds_ofVisits Store.someVisits) hw hw'
  have hcount : Store.count ⟨"visits"⟩ ⟨0, 0⟩ (Filters.unpaged {})
      (Pool.ofVisits Store.someVisits) = .ok 4 := rfl
  have hlength : vs.length = 4 := Except.ok.inj ((hpages.count.eq_ok rfl).symm.trans hcount)
  have htotal : Paging.totalPages vs.length 3 = 2 := by
    rw [hlength]
    decide
  obtain ⟨-, hpartition⟩ := hpages.partition (by rw [hlength]; decide)
  rw [htotal] at hpartition
  have hne : vs ≠ [] := List.ne_nil_of_length_pos (by omega)
  have hjoined := hpartition.joined
  have hrange : Int.range 1 (2 + 1) = [1, 2] := by decide
  rw [hrange, List.flatMap_cons, List.flatMap_singleton] at hjoined
  have hfull : ((pageOf 1).length : Int) = 3 := hpartition.full 1 (by decide) (by decide)
  exact ⟨Planner.isSteady, vs, pageOf, hpages, hlength, hjoined, by omega, hpartition.last hne,
    hpartition.beyond 3 (by decide)⟩

/-- Filters on a part of paths alone. -/
theorem looksFor_options {part : String} (h : filled? (some part) = some part) (paging : Paging) :
    (Filters.options { pathContains := part } paging).LooksFor part where
  conditions now := by
    have hpath : Query.pathCondition (Filters.options { pathContains := part } paging) =
        some (.like .path ("%" ++ part ++ "%")) := by
      change (filled? (some part)).map (fun part => Condition.like .path ("%" ++ part ++ "%")) = _
      rw [h]
      rfl
    change ([none, none, none,
      Query.pathCondition (Filters.options { pathContains := part } paging), none, none, none,
      some (.above .deletedAt now.layout)].filterMap fun c => c) = _
    rw [hpath]
    rfl
  distinct := rfl
  orderBy := rfl
  countOnly := rfl

theorem looksFor_unpaged {part : String} (h : filled? (some part) = some part) :
    (Filters.unpaged { pathContains := part }).LooksFor part :=
  have hone := looksFor_options h ⟨1, 1⟩
  ⟨hone.conditions, hone.distinct, hone.orderBy, hone.countOnly⟩

/-- No visit has a text of 49999 octets in its path, but the first page of those with it cannot be
listed. -/
theorem not_pages_long :
    Store.count ⟨"visits"⟩ ⟨30, 0⟩ (Filters.unpaged { pathContains := Text.repeated 49999 })
        (.ofVisits [goneVisit]) = .ok 0 ∧
      Store.list ⟨"visits"⟩ ⟨30, 0⟩
        (Filters.options { pathContains := Text.repeated 49999 } ⟨1, defaultPerPage⟩)
        (.ofVisits [goneVisit]) = .error (.database .patternTooLong) := by
  have hpart := Text.filled?_repeated (n := 49999) (by decide)
  have hlong : Options.longestPart < (Text.repeated 49999).utf8ByteSize := by
    rw [Text.utf8ByteSize_repeated]
    decide
  exact ⟨(looksFor_unpaged hpart).count_goneVisit, (looksFor_options hpart _).list_goneVisit hlong⟩

end Dashboard.Listing

end VisitLog

import Mathlib.Data.Finset.Card
import Mathlib.Data.Finset.Image
import VisitLog.Database.Planner
import VisitLog.Proofs.Admission
import VisitLog.Proofs.Agreement
import VisitLog.Proofs.Forms
import VisitLog.Proofs.Hiding

/-!
# Counts and listings

A count and a listing of the same options look at the same rows, those that meet the conditions
(`Options.matching`). A listing puts them in order and cuts a page out of them
(`Store.exists_list`), a count is about all of them (`Store.count_of_matching`), so the one says how
long the other is. Only a text that is too long to be looked for may fail the one and not the other.

Main statement: `Service.counts`.
-/

namespace VisitLog

open Text Http

/-! ## Rows that match options -/

namespace Text

variable {given : Option String}

theorem asks_of_filled?_eq_none {test : String → Bool} (h : filled? given = none) :
    asks given test := by
  rw [← all_filled?, h]
  rfl

theorem asks_isNamed {c : Column} (h : filled? given = some c.name) :
    asks given Column.isNamed := by
  rw [← all_filled?, h, Option.all_some, Column.isNamed, Column.ofName?_name]
  rfl

end Text

namespace Options

/-- The rows that meet the conditions of options at a clock. -/
def matching [Engine] (o : Options) (now : Instant) (rows : Rows) : Rows :=
  rows.filter fun r => (Query.conditionsOf now o).all (Condition.holds r)

/-- The options without page and order. -/
def filtersOnly (o : Options) : Options :=
  { o with offset := 0, limit := 0, sortOrder := none, orderBy := none }

theorem valueCount_filtersOnly (o : Options) : o.filtersOnly.valueCount = o.filterValues := by
  change (o.filterValues + if o.countOnly then 0 else 0) = o.filterValues
  rw [ite_self, Nat.add_zero]

theorem isInvalid_filtersOnly {o : Options} (ho : asks o.distinct Column.isNamed) :
    o.filtersOnly.isInvalid = false := by
  change (!asks o.distinct Column.isNamed || (!o.countOnly && false)) = false
  rw [ho, Bool.and_false]
  rfl

variable {α : Type}

theorem cut_of_unbounded {o : Options} (hlimit : o.limit = 0) (hoffset : o.offset = 0)
    (xs : List α) :
    o.cut xs = xs := by
  unfold cut
  rw [hlimit, hoffset]
  split
  · rfl
  · rfl

theorem length_cut {o : Options} (ho : o.countOnly = false) (hlimit : 0 < o.limit)
    (hoffset : 0 ≤ o.offset)
    (xs : List α) : ((o.cut xs).length : Int) = min o.limit (max 0 (xs.length - o.offset)) := by
  rw [cut, ho, if_neg Bool.false_ne_true, if_pos hlimit, List.length_take, List.length_drop]
  omega

end Options

namespace Query

variable {o : Options} {now : Instant} {table : String} {q q' : Query}

theorem filter_admits [Engine] (hq : ofOptions table now o = .ok q) (rows : Rows) :
    rows.filter q.admits = o.matching now rows := by
  obtain ⟨-, hconditions, -⟩ := ofOptions_cases hq
  refine List.filter_congr fun r _ => ?_
  rw [admits, hconditions]

/-- A count binds the values of its filters. -/
theorem valuesOf_counting (hq : q.conditions = conditionsOf now o) :
    q.valuesOf .counting = o.filterValues := by
  rw [valuesOf, valueCount, hq, sum_conditionsOf]

end Query

/-! ## Different values -/

theorem nodup_eraseDups {α : Type} [BEq α] [LawfulBEq α] : ∀ l : List α, l.eraseDups.Nodup
  | [] => .nil
  | a :: l => by
    rw [List.eraseDups_cons, List.nodup_cons, List.mem_eraseDups]
    exact ⟨fun h => by simpa using (List.mem_filter.1 h).2, nodup_eraseDups _⟩
  termination_by l => l.length
  decreasing_by exact Nat.lt_succ_of_le (List.length_filter_le _ _)

theorem length_eraseDups {α : Type} [DecidableEq α] (l : List α) :
    l.eraseDups.length = l.toFinset.card := by
  rw [← List.toFinset_card_of_nodup (nodup_eraseDups l)]
  exact congrArg Finset.card
    (Finset.ext fun a => by rw [List.mem_toFinset, List.mem_toFinset, List.mem_eraseDups])

/-- Rows store different values where their records have different texts. -/
theorem length_eraseDups_values {c : Column} {rows : Rows} {vs : List Visitor}
    (hrows : rows.IsText c)
    (h : vs.Perm (rows.map Row.toVisitor)) :
    (rows.map fun r => r.value c).eraseDups.length = (vs.map fun v => v.value c).toFinset.card := by
  have hstored : (rows.map fun r => r.value c) =
      ((rows.map Row.toVisitor).map fun v => v.value c).map .text := by
    rw [List.map_map, List.map_map]
    exact List.map_congr_left hrows
  have himage (l : List String) : (l.map Stored.text).toFinset = l.toFinset.image .text :=
    Multiset.toFinset_map Stored.text l
  rw [length_eraseDups, hstored, himage, Finset.card_image_of_injective _ fun _ _ =>
    Stored.text.inj]
  exact congrArg Finset.card (List.toFinset_eq_of_perm _ _ (h.symm.map _))

/-! ## Listings and counts of a store -/

namespace Store

variable [Engine]

variable {s : Store} {now : Instant} {o : Options} {p : Pool} {rows : Rows}

/-- A listing gives a page of the matching rows, as its query arranges them. -/
theorem gives_list {q : Query} (hp : p.isClosed = false) (h : p.Holds s rows)
    (hq : Query.ofOptions s.table now o = .ok q) (hvalues : o.valueCount ≤ Database.mostValues) :
    o.Gives (s.list now o p)
      (o.cut ((Engine.arrange q (o.matching now rows)).map Row.toVisitor)) := by
  have hmeans := Query.means_of_ofOptions hq
  rw [list, hq, ← hmeans.page, ← Query.map_page, ← Query.filter_admits hq]
  change o.Gives (p.read (Database.list q)) _
  rw [Pool.read_list_of_holds hp h hmeans.table]
  cases hsearch : o.isSearchable with
  | true =>
    rw [hmeans.refusal?_eq_none hvalues hsearch]
    exact .inl rfl
  | false =>
    rcases hmeans.refusal?_cases rows hvalues with hrefusal | hrefusal
    · rw [hrefusal]
      exact .inl rfl
    · rw [hrefusal]
      exact .inr ⟨hsearch, rfl⟩

theorem exists_list (now : Instant) (hp : p.isClosed = false) (h : p.Holds s rows)
    (ho : o.isInvalid = false)
    (hvalues : o.valueCount ≤ Database.mostValues) :
    ∃ vs : List Visitor, vs.Perm ((o.matching now rows).map Row.toVisitor) ∧
      o.Gives (s.list now o p) (o.cut vs) := by
  obtain ⟨q, hq, -⟩ := Query.ofOptions_eq_ok s.table now ho
  exact ⟨_, (Engine.perm_arrange q _).map Row.toVisitor, gives_list hp h hq hvalues⟩

theorem exists_list_filtersOnly (now : Instant) (hp : p.isClosed = false) (h : p.Holds s rows)
    (ho : asks o.distinct Column.isNamed) (hvalues : o.filterValues ≤ Database.mostValues) :
    ∃ vs : List Visitor, vs.Perm ((o.matching now rows).map Row.toVisitor) ∧
      o.Gives (s.list now o.filtersOnly p) vs := by
  obtain ⟨vs, hperm, hlist⟩ :=
      exists_list (o := o.filtersOnly) now hp h (Options.isInvalid_filtersOnly ho)
    (Nat.le_trans (Nat.le_of_eq o.valueCount_filtersOnly) hvalues)
  rw [Options.cut_of_unbounded rfl rfl] at hlist
  exact ⟨vs, hperm, hlist⟩

/-- What a count of a known column reads. -/
theorem exists_count_eq (now : Instant) (hp : p.isClosed = false) (h : p.Holds s rows)
    (ho : asks o.distinct Column.isNamed) :
    ∃ q : Query, q.conditions = Query.conditionsOf now o ∧
      q.distinct = (filled? o.distinct).bind Column.ofName? ∧
      s.count now o p =
        match q.refusal? .counting rows with
        | some fault => .error (.database fault)
        | none => .ok (q.count rows) := by
  have hvalid : Options.isInvalid { o with countOnly := true } = false := by
    rw [Options.isInvalid, ho]
    rfl
  obtain ⟨q, hq, -⟩ := Query.ofOptions_eq_ok s.table now hvalid
  obtain ⟨htable, hconditions, hdistinct, -⟩ := Query.ofOptions_cases hq
  refine ⟨q, hconditions, hdistinct, ?_⟩
  rw [count, hq]
  exact Pool.read_count_of_holds hp h htable

/-- A count is the size of what the query admits, and that is what the options match. -/
theorem exists_count (now : Instant) (hp : p.isClosed = false) (h : p.Holds s rows)
    (ho : asks o.distinct Column.isNamed) (hvalues : o.filterValues ≤ Database.mostValues) :
    ∃ q : Query, q.distinct = (filled? o.distinct).bind Column.ofName? ∧
      rows.filter q.admits = o.matching now rows ∧ o.Gives (s.count now o p) (q.count rows) := by
  obtain ⟨q, hconditions, hdistinct, hcount⟩ := exists_count_eq now hp h ho
  refine ⟨q, hdistinct, List.filter_congr fun r _ => congrArg (List.all · _) hconditions, ?_⟩
  have hvalues : ¬Database.mostValues < q.valuesOf .counting := by
    rw [Query.valuesOf_counting hconditions]
    exact Nat.not_lt.2 hvalues
  rw [hcount, Query.refusal?, if_neg hvalues]
  cases hsearch : o.isSearchable with
  | true =>
    rw [Query.isTooComplex_of_isSearchable hconditions hsearch]
    exact .inl rfl
  | false =>
    cases q.isTooComplex .counting rows with
    | true => exact .inr ⟨hsearch, rfl⟩
    | false => exact .inl rfl

theorem count_of_matching {vs : List Visitor} (hp : p.isClosed = false) (h : p.Holds s rows)
    (ho : filled? o.distinct = none) (hvalues : o.filterValues ≤ Database.mostValues)
    (hvs : vs.Perm ((o.matching now rows).map Row.toVisitor)) :
    o.Gives (s.count now o p) vs.length := by
  obtain ⟨q, hdistinct, hrows, hcount⟩ := exists_count now hp h (asks_of_filled?_eq_none ho) hvalues
  rwa [Query.count, hrows, hdistinct, ho, Option.bind_none, ← List.length_map,
    ← hvs.length_eq] at hcount

theorem count_of_distinct {c : Column} {vs : List Visitor} (hp : p.isClosed = false)
    (h : p.Holds s rows) (hrows : ∀ r ∈ rows, r.InLayout) (ho : filled? o.distinct = some c.name)
    (hvalues : o.filterValues ≤ Database.mostValues)
    (hvs : vs.Perm ((o.matching now rows).map Row.toVisitor)) :
    o.Gives (s.count now o p) (vs.map fun v => v.value c).toFinset.card := by
  obtain ⟨q, hdistinct, hmatching, hcount⟩ := exists_count now hp h (asks_isNamed ho) hvalues
  have htext : Rows.IsText (o.matching now rows) c :=
    fun r hr => (hrows r (List.mem_of_mem_filter hr)).value c
  rw [ho, Option.bind_some, Column.ofName?_name] at hdistinct
  rw [Query.count, hmatching, hdistinct] at hcount
  dsimp only at hcount
  rwa [length_eraseDups_values htext hvs] at hcount

/-- Too many values are too many for both. -/
theorem list_and_count_of_lt (now : Instant) (hp : p.isClosed = false) (h : p.Holds s rows)
    (ho : asks o.distinct Column.isNamed) (hvalues : Database.mostValues < o.filterValues) :
    s.list now o.filtersOnly p = .error (.database .tooManyValues) ∧
      s.count now o p = .error (.database .tooManyValues) := by
  obtain ⟨q, hmeans, hlist⟩ := exists_list_eq now hp h (Options.isInvalid_filtersOnly ho)
  obtain ⟨q', hconditions, -, hcount⟩ := exists_count_eq now hp h ho
  constructor
  · rw [hlist, hmeans.refusal?_of_lt (o.valueCount_filtersOnly ▸ hvalues)]
  · rw [hcount, Query.refusal?, Query.valuesOf_counting hconditions, if_pos hvalues]

end Store

/-! ## Counts by requests -/

namespace Options

/-- The number that parameters give by a name, or a fallback. -/
def numberOf (ps : List (String × String)) (name : String) (fallback : Int) : Int :=
  match ps.lookup name with
  | some value => (readInteger value.toList).toOption.getD fallback
  | none => fallback

/-- What a query that is accepted asks for. -/
theorem ofQuery_cases {query : String} {o : Options} (h : ofQuery query = .ok o) :
    o.distinct = (Form.fields query.toList).lookup "distinct" ∧
      o.orderBy = some (((Form.fields query.toList).lookup "order_by").getD "created_at") ∧
      o.limit = max 1 (min maxLimit (numberOf (Form.fields query.toList) "limit" defaultLimit)) ∧
      o.offset = max 0 (numberOf (Form.fields query.toList) "offset" 0) ∧ o.countOnly = false := by
  unfold ofQuery at h
  split at h
  · next known hknown =>
    cases h
    have hlookup (name : String) (hname : name ∈ textNames ∨ name ∈ integerNames ∨
      name = flagName) :
        (Form.fields query.toList).lookup name = known.lookup name :=
      (lookup_of_collect hname hknown).symm
    have hnumber (name : String) (hname : name ∈ integerNames) (fallback : Int) :
        numberOf (Form.fields query.toList) name fallback = numberOf known name fallback := by
      rw [numberOf, numberOf, hlookup name (.inr (.inl hname))]
    rw [hlookup "distinct" (.inl (by decide)), hlookup "order_by" (.inl (by decide)),
      hnumber "limit" (by decide), hnumber "offset" (by decide)]
    exact ⟨rfl, rfl, rfl, rfl, rfl⟩
  · cases h

end Options

/-- The response brings this JSON value. -/
def Http.Response.Brings (response : Response) (value : Json) : Prop :=
  response.status = 200 ∧ response.body = value.text

namespace Service

variable {s : Service} {now : Instant} {random : Nat} {e : Endpoint} {r : Request}
    {t : ServiceState} {rows : Rows}

theorem brings_withOptions {α : Type} {f : Options → Except Failure α} {o : Options} {a : α}
    (json : α → Json) (ho : Options.ofQuery (r.query.getD "") = .ok o)
    (ha : f o = .ok a) :
    (withOptions r f json).Brings (json a) := by
  unfold withOptions
  rw [ho]
  change (resultResponse (f o) json).Brings _
  rw [ha]
  exact ⟨rfl, rfl⟩

section

variable [Engine]

/-- A request that fetches something from behind the gate is answered by the endpoint. -/
theorem status_body_serve (now : Instant) (random : Nat) (t : ServiceState) (hr : s.Reaches r e)
    (he : e.isGuarded) (hget : r.method = "GET") :
    (s.serve now random r t).1.status = (s.answer now random e r t).1.status ∧
      (s.serve now random r t).1.body = (s.answer now random e r t).1.body := by
  obtain ⟨cookie, hjudge⟩ := hr.gate he
  have hfinished (response : Response) : finished e r.method response = response := by
    unfold finished
    dsimp only
    rw [if_pos hr.method, hget]
    exact if_neg (by decide)
  rw [serve_of_isGuarded s now random t hr.path he, hfinished, enter, hjudge, answerMethod,
    if_pos hr.method]
  cases cookie <;> exact ⟨rfl, rfl⟩

theorem brings_serve {value : Json} (hr : s.Reaches r e) (he : e.isGuarded)
    (hget : r.method = "GET")
    (h : (s.answer now random e r t).1.Brings value) : (s.serve now random r t).1.Brings value := by
  obtain ⟨hstatus, hbody⟩ := status_body_serve now random t hr he hget
  exact ⟨hstatus.trans h.1, hbody.trans h.2⟩

/-- How counts and listings go together. `rows`: without `distinct` a count is the length of the
listing with the same filters. `values`: with it, the number of different values in that listing.
`refused`: both are refused for too many values. `paging`: page and order do not matter. `page`:
within the limits of the engine a page of the API is as long as its bounds and the count say. -/
structure Counts (s : Service) (now : Instant) (t : ServiceState) : Prop where
  rows : ∀ o : Options, filled? o.distinct = none → o.filterValues ≤ Database.mostValues →
    ∃ vs, o.Gives (s.store.list now o.filtersOnly t.pool) vs ∧
      o.Gives (s.store.count now o t.pool) vs.length
  values : ∀ (o : Options) (c : Column), filled? o.distinct = some c.name →
    o.filterValues ≤ Database.mostValues →
    ∃ vs, o.Gives (s.store.list now o.filtersOnly t.pool) vs ∧
      o.Gives (s.store.count now o t.pool) (vs.map fun v => v.value c).toFinset.card
  refused : ∀ o : Options, asks o.distinct Column.isNamed → Database.mostValues < o.filterValues →
    s.store.list now o.filtersOnly t.pool = .error (.database .tooManyValues) ∧
      s.store.count now o t.pool = .error (.database .tooManyValues)
  paging : ∀ o o' : Options, o.filtersOnly = o'.filtersOnly →
    s.store.count now o t.pool = s.store.count now o' t.pool
  page : ∀ (r r' : Request) (random random' : Nat), s.Reaches r .visitors →
    s.Reaches r' .visitorCount → r.method = "GET" → r'.method = "GET" → r'.query = r.query →
    (∃ o, Options.ofQuery (r.query.getD "") = .ok o ∧ o.isWithinLimits) →
    filled? (r.parameters.lookup "distinct") = none → asks (r.parameters.lookup "order_by")
      Column.isNamed →
    ∃ (vs : List Visitor) (n : Nat), (s.serve now random r t).1.Brings (.arr (vs.map visitorJson)) ∧
      (s.serve now random' r' t).1.Brings (.obj [("count", .num (natText n))]) ∧
      (vs.length : Int) = min (max 1 (min 500 (Options.numberOf r.parameters "limit" 50)))
        (max 0 (n - max 0 (Options.numberOf r.parameters "offset" 0)))

/-- Counts agree with lists, through the store and through the service. -/
theorem counts (hp : t.pool.isClosed = false) (h : t.pool.Holds s.store rows)
    (hrows : ∀ r ∈ rows, r.InLayout) :
    s.Counts now t where
  rows o ho hvalues := by
    obtain ⟨vs, hperm, hlist⟩ :=
      Store.exists_list_filtersOnly now hp h (asks_of_filled?_eq_none ho) hvalues
    exact ⟨vs, hlist, Store.count_of_matching hp h ho hvalues hperm⟩
  values o c ho hvalues := by
    obtain ⟨vs, hperm, hlist⟩ := Store.exists_list_filtersOnly now hp h (asks_isNamed ho) hvalues
    exact ⟨vs, hlist, Store.count_of_distinct hp h hrows ho hvalues hperm⟩
  refused o ho hvalues := Store.list_and_count_of_lt now hp h ho hvalues
  paging o o' ho := by
    have hfilters (o : Options) : s.store.count now o t.pool = s.store.count now
        o.filtersOnly t.pool := rfl
    rw [hfilters o, hfilters o', ho]
  page r r' random random' hr hr' hget hget' hquery haccepted hdistinct horder := by
    obtain ⟨o, ho, hlimits⟩ := haccepted
    rw [Options.isWithinLimits, Bool.and_eq_true, decide_eq_true_eq] at hlimits
    obtain ⟨hvalues, hsearch⟩ := hlimits
    obtain ⟨hod, hoo, hol, hof, hoc⟩ := Options.ofQuery_cases ho
    change o.distinct = r.parameters.lookup "distinct" at hod
    rw [← hod] at hdistinct
    have hcolumn : asks o.orderBy Column.isNamed := by
      rw [hoo]
      change asks (some ((r.parameters.lookup "order_by").getD "created_at")) Column.isNamed
      cases hgiven : r.parameters.lookup "order_by" with
      | none => decide
      | some name => exact hgiven ▸ horder
    have hvalid : o.isInvalid = false := by
      rw [Options.isInvalid, asks_of_filled?_eq_none hdistinct, hcolumn,
        Bool.not_true, Bool.and_false]
      rfl
    obtain ⟨vs, hperm, hlist⟩ := Store.exists_list now hp h hvalid hvalues
    have hcount := Store.count_of_matching hp h hdistinct
      (Nat.le_trans (Nat.le_add_right ..) hvalues) hperm
    refine ⟨o.cut vs, vs.length, brings_serve hr rfl hget ?_, brings_serve hr' rfl hget' ?_, ?_⟩
    · exact brings_withOptions _ ho (hlist.eq_ok hsearch)
    · exact brings_withOptions _ (hquery ▸ ho) (hcount.eq_ok hsearch)
    · rw [Options.length_cut hoc (hol ▸ by omega) (hof ▸ by omega), hol, hof]
      rfl

end

/-- A service with a token, and its state with some visits. -/
def watched : Service := .ofSettings guarded ⟨"visits"⟩

def visited : ServiceState := { loneState with pool := .ofVisits Store.someVisits }

/-- The administrator asks for two visits behind the first one, or for the number of all. -/
def fetch (path : String) : Request :=
  { path := path, query := some "limit=2&offset=1&order_by=path"
    headers := [("authorization", "Bearer 0123456789abcdef")] }

/-- The administrator looks for a part of paths. -/
def search (path part : String) : Request :=
  { path := path, query := some (String.ofList (Form.encode [("path_contains", part)]))
    headers := [("authorization", "Bearer 0123456789abcdef")] }

/-- The token in the header is enough. -/
theorem judge_watched (h : r.headers = [("authorization", "Bearer 0123456789abcdef")]) :
    watched.gate.judge r = .admitted none := by
  have hbearer : Gate.bearer? r.headers = some guarded.admin.token := by
    rw [h]
    decide
  exact (Gate.judge_of_bearer hbearer).trans (if_pos (beq_self_eq_true _))

theorem reaches_fetch {path : String} (hpath : Endpoint.ofPath? path = some e)
    (hmethod : "GET" ∈ e.methods) :
    watched.Reaches (fetch path) e where
  path := hpath
  method := hmethod
  gate _ := ⟨none, judge_watched rfl⟩

theorem counts_visited : (∀ r ∈ Store.someVisits.map Row.ofVisitor, r.InLayout) ∧
    watched.Counts ⟨0, 0⟩ visited ∧ ∃ (vs : List Visitor) (n : Nat),
      (watched.serve ⟨0, 0⟩ 0 (fetch "/v1/visitors") visited).1.Brings (.arr (vs.map visitorJson)) ∧
      (watched.serve ⟨0, 0⟩ 0 (fetch "/v1/visitors/count") visited).1.Brings
        (.obj [("count", .num (natText n))]) ∧
      (vs.length : Int) = min 2 (max 0 (n - 1 : Int)) := by
  have hrows : ∀ r ∈ Store.someVisits.map Row.ofVisitor, r.InLayout :=
    Store.inLayout_of_all (by decide)
  have hcounts : watched.Counts ⟨0, 0⟩ visited := counts rfl (Pool.holds_ofVisits _) hrows
  have hlimit : Options.numberOf (fetch "/v1/visitors").parameters "limit" 50 = 2 := by decide
  have hoffset : Options.numberOf (fetch "/v1/visitors").parameters "offset" 0 = 1 := by decide
  have hpage := hcounts.page (fetch "/v1/visitors") (fetch "/v1/visitors/count") 0 0
    (reaches_fetch rfl (by decide))
    (reaches_fetch rfl (by decide)) rfl rfl rfl ⟨_, rfl, by decide⟩ (by decide) (by decide)
  rw [hlimit, hoffset] at hpage
  exact ⟨hrows, hcounts, hpage⟩

theorem reaches_search (path part : String) (hpath : Endpoint.ofPath? path = some e)
    (hmethod : "GET" ∈ e.methods) : watched.Reaches (search path part) e where
  path := hpath
  method := hmethod
  gate _ := ⟨none, judge_watched rfl⟩

theorem ofQuery_search (path part : String) : Options.ofQuery ((search path part).query.getD "") =
    .ok (.ofKnown [("path_contains", part)]) := by
  have hfields : Form.fields (String.ofList (Form.encode [("path_contains", part)])).toList =
      [("path_contains", part)] := by
    rw [String.toList_ofList, Form.fields_encode]
  change Options.ofQuery (String.ofList (Form.encode [("path_contains", part)])) = _
  rw [Options.ofQuery, hfields]
  rfl

/-- The state with a deleted visit. -/
def bygone : ServiceState := { loneState with pool := .ofVisits [goneVisit] }

theorem brings_search {part : String} (h : filled? (some part) = some part) :
    (watched.serve ⟨30, 0⟩ 0 (search "/v1/visitors/count" part) bygone).1.Brings
      (.obj [("count", .num (natText 0))]) := by
  have hreaches := reaches_search (e := .visitorCount) "/v1/visitors/count" part rfl (by decide)
  have hcount := (Options.looksFor_ofKnown h).count_goneVisit
  refine brings_serve hreaches rfl rfl ?_
  rw [answer]
  dsimp only
  rw [countVisitors, withOptions, ofQuery_search]
  change (resultResponse (Store.count ⟨"visits"⟩ ⟨30, 0⟩ _ (.ofVisits [goneVisit])) _).Brings _
  rw [hcount]
  exact ⟨rfl, rfl⟩

theorem status_search {part : String} (h : filled? (some part) = some part)
    (hlong : Options.longestPart < part.utf8ByteSize) :
    (watched.serve ⟨30, 0⟩ 0 (search "/v1/visitors" part) bygone).1.status = 500 := by
  have hreaches := reaches_search (e := .visitors) "/v1/visitors" part rfl (by decide)
  have hlist := (Options.looksFor_ofKnown h).list_goneVisit hlong
  refine (status_body_serve _ _ _ hreaches rfl rfl).1.trans ?_
  change (watched.listVisitors ⟨30, 0⟩ (search "/v1/visitors" part) bygone).status = 500
  rw [listVisitors, withOptions, ofQuery_search]
  change (resultResponse (Store.list ⟨"visits"⟩ ⟨30, 0⟩ _ (.ofVisits [goneVisit])) _).status = 500
  rw [hlist]
  rfl

/-- No visit has a text of 49999 octets in its path, but the visits with it cannot be listed. -/
theorem not_counts_long :
    (watched.serve ⟨30, 0⟩ 0 (search "/v1/visitors/count" (Text.repeated 49999)) bygone).1.Brings
        (.obj [("count", .num (natText 0))]) ∧
      (watched.serve ⟨30, 0⟩ 0 (search "/v1/visitors" (Text.repeated 49999))
        bygone).1.status = 500 := by
  have hpart := Text.filled?_repeated (n := 49999) (by decide)
  have hlong : Options.longestPart < (Text.repeated 49999).utf8ByteSize := by
    rw [Text.utf8ByteSize_repeated]
    decide
  exact ⟨brings_search hpart, status_search hpart hlong⟩

end Service

end VisitLog

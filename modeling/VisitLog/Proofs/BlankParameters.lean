import VisitLog.Database.Planner
import VisitLog.Proofs.Counting
import VisitLog.Proofs.Forms

/-!
# Blank parameters

To a query a blank text is an absent one, since every text of its options goes through `filled?`
(`Query.ofOptions_filled`). Only `order_by` has a default of its own: without it visits come newest
first, and with a blank one they have no order (`Service.not_ignoresBlank_of_mem`).

Main statement: `Service.ignoresBlank_iff`.
-/

namespace VisitLog

open Text Http

/-! ## Without blank parameters -/

namespace Text

theorem isBlank_of_trimChars_eq_nil {cs : List Char} {c : Char} (h : trimChars cs = [])
    (hc : c ∈ cs) : isBlank c := by
  rw [trimChars, trimEnd_eq_rdropWhile, List.rdropWhile_eq_nil_iff] at h
  rw [← List.takeWhile_append_dropWhile (p := isBlank) (l := cs), List.mem_append] at hc
  rcases hc with htake | hdrop
  · exact List.mem_takeWhile_imp htake
  · exact h c hdrop

end Text

namespace Parameters

variable {names : List String} {name value : String} {ps : Parameters}

/-- The parameter has one of these names and is blank. -/
def isBlankOf (names : List String) (p : String × String) : Bool :=
  decide (p.1 ∈ names) && trim p.2 == ""

/-- The parameters but for the blank ones with these names. -/
def withoutBlank (names : List String) (ps : Parameters) : Parameters :=
  ps.filter fun p => !isBlankOf names p

theorem isBlankOf_iff : isBlankOf names (name, value) ↔ name ∈ names ∧ trim value = "" := by
  rw [isBlankOf, Bool.and_eq_true, decide_eq_true_eq, beq_iff_eq]

theorem withoutBlank_cons_of_blank {p : String × String} (h : isBlankOf names p) :
    withoutBlank names (p :: ps) = withoutBlank names ps :=
  List.filter_cons_of_neg (by rw [h]; decide)

theorem withoutBlank_cons {p : String × String} (h : isBlankOf names p = false) :
    withoutBlank names (p :: ps) = p :: withoutBlank names ps :=
  List.filter_cons_of_pos (by rw [h]; rfl)

theorem withoutBlank_nil : withoutBlank names [] = [] := rfl

theorem withoutBlank_append (names : List String) (ps qs : Parameters) :
    withoutBlank names (ps ++ qs) = withoutBlank names ps ++ withoutBlank names qs :=
  List.filter_append ..

/-- The values of other names stay. -/
theorem lookup_withoutBlank_of_notMem (h : name ∉ names) (ps : Parameters) :
    (withoutBlank names ps).lookup name = ps.lookup name := by
  induction ps with
  | nil => rfl
  | cons p ps ih =>
    cases hblank : isBlankOf names p with
    | true =>
      have hne : (name == p.1) = false := by
        refine beq_eq_false_iff_ne.2 fun e => h ?_
        rw [e]
        exact (isBlankOf_iff.1 hblank).1
      rw [withoutBlank_cons_of_blank hblank, ih, List.lookup_cons, hne]
    | false => rw [withoutBlank_cons hblank, List.lookup_cons, List.lookup_cons, ih]

/-- With one value for each name, a value stays or was blank. -/
theorem lookup_withoutBlank (hnodup : (ps.map Prod.fst).Nodup) (names : List String)
    (name : String) :
    (withoutBlank names ps).lookup name = ps.lookup name ∨
      (withoutBlank names ps).lookup name = none ∧ ∃ value, ps.lookup name = some value ∧
      trim value = "" := by
  induction ps with
  | nil => exact .inl rfl
  | cons p ps ih =>
    obtain ⟨given, value⟩ := p
    rw [List.map_cons, List.nodup_cons] at hnodup
    cases hblank : isBlankOf names (given, value) with
    | true =>
      rw [withoutBlank_cons_of_blank hblank]
      by_cases hname : name = given
      · subst hname
        right
        refine ⟨List.lookup_eq_none_iff.2 fun p hp => ?_, value, List.lookup_cons_self,
          (isBlankOf_iff.1 hblank).2⟩
        exact bne_iff_ne.2 fun e => hnodup.1 (List.mem_map.2 ⟨p, List.mem_of_mem_filter hp, e.symm⟩)
      · rw [List.lookup_cons, beq_eq_false_iff_ne.2 hname]
        exact ih hnodup.2
    | false =>
      rw [withoutBlank_cons hblank, List.lookup_cons, List.lookup_cons]
      cases name == given with
      | true => exact .inl rfl
      | false => exact ih hnodup.2

theorem filled?_lookup_withoutBlank (hnodup : (ps.map Prod.fst).Nodup) (names : List String)
    (name : String) :
    filled? ((withoutBlank names ps).lookup name) = filled? (ps.lookup name) := by
  rcases lookup_withoutBlank hnodup names name with h | ⟨hnone, value, hvalue, hblank⟩
  · rw [h]
  · rw [hnone, hvalue, filled?_some, if_pos hblank]
    rfl

end Parameters

namespace Options

open Parameters

variable {names : List String} {ps seen known : List (String × String)} {s : String}

/-- A blank list has no members. -/
theorem members_of_blank (h : trim s = "") : members s = [] := by
  have hchars : trimChars s.toList = [] := by
    rw [← toList_trim, h]
    rfl
  have hcomma : ',' ∉ s.toList := by
    intro hmem
    have hblank := isBlank_of_trimChars_eq_nil hchars hmem
    revert hblank
    decide
  rw [members, splitAt_of_not_mem hcomma, List.filterMap_cons, String.ofList_toList,
    filled?_some, if_pos h]
  rfl

/-- What is collected without blank parameters is what is collected but for these. -/
theorem collect_withoutBlank (hnames : ∀ name ∈ names, name ∈ textNames)
    (h : collect seen ps = .ok known) :
    collect (withoutBlank names seen) (withoutBlank names ps) = .ok (withoutBlank names known) := by
  fun_induction collect seen ps with
  | case1 seen =>
    cases h
    rfl
  | case2 | case3 => cases h
  | case4 seen name value ps hknown hnew hfit ih =>
    have hrest := ih h
    rw [withoutBlank_append] at hrest
    cases hblank : isBlankOf names (name, value) with
    | true =>
      rw [withoutBlank_cons_of_blank hblank] at hrest ⊢
      rwa [withoutBlank_nil, List.append_nil] at hrest
    | false =>
      have hstill : ¬(withoutBlank names seen).any fun p => p.1 == name := by
        intro hany
        obtain ⟨p, hp, hname⟩ := List.any_eq_true.1 hany
        exact hnew (List.any_eq_true.2 ⟨p, List.mem_of_mem_filter hp, hname⟩)
      rw [withoutBlank_cons hblank] at hrest ⊢
      rw [collect, if_pos hknown, if_neg hstill, hfit]
      exact hrest
  | case5 seen name value ps hunknown ih =>
    have hblank : isBlankOf names (name, value) = false := by
      refine Bool.eq_false_iff.2 fun hblank => hunknown (.inl ?_)
      exact hnames name (isBlankOf_iff.1 hblank).1
    rw [withoutBlank_cons hblank, collect, if_neg hunknown]
    exact ih h

/-- Each known parameter is there once. -/
theorem nodup_of_collect (h : collect seen ps = .ok known) (hseen : (seen.map Prod.fst).Nodup) :
    (known.map Prod.fst).Nodup := by
  fun_induction collect seen ps with
  | case1 seen =>
    cases h
    exact hseen
  | case2 | case3 => cases h
  | case4 seen name value ps hknown hnew hfit ih =>
    refine ih h ?_
    rw [List.map_append, List.map_singleton, ← List.concat_eq_append]
    refine hseen.concat fun hmem => hnew ?_
    obtain ⟨p, hp, hname⟩ := List.mem_map.1 hmem
    exact List.any_eq_true.2 ⟨p, hp, beq_iff_eq.2 hname⟩
  | case5 seen name value ps hunknown ih => exact ih h hseen

/-! ## Options of the same texts -/

/-- The options with each text trimmed, and without the blank ones. -/
def filled (o : Options) : Options :=
  { o with
    id := filled? o.id
    distinct := filled? o.distinct
    country := filled? o.country
    pathContains := filled? o.pathContains
    pathExact := filled? o.pathExact
    deviceType := filled? o.deviceType
    createdFrom := filled? o.createdFrom
    createdTo := filled? o.createdTo
    sortOrder := filled? o.sortOrder
    orderBy := filled? o.orderBy }

end Options

theorem Text.filled?_filled? (given : Option String) : filled? (filled? given) = filled? given := by
  cases given with
  | none => rfl
  | some s =>
    rw [filled?_some]
    split
    · rfl
    · next h => rw [filled?_some, trim_trim, if_neg h]

/-- A query does not tell a blank option from one that is absent. -/
theorem Query.ofOptions_filled (table : String) (now : Instant) (o : Options) :
    ofOptions table now o.filled = ofOptions table now o := by
  have hcolumn (purpose : String) (given : Option String) :
      columnOf purpose (filled? given) = columnOf purpose given := by
    rw [columnOf, columnOf, filled?_filled?]
  have hdirection : directionOf (filled? o.sortOrder) = directionOf o.sortOrder := by
    rw [directionOf, directionOf, filled?_filled?]
  have hconditions : conditionsOf now o.filled = conditionsOf now o := by
    simp only [conditionsOf, pathCondition, Options.filled, filled?_filled?]
    rfl
  unfold ofOptions
  rw [hconditions, Options.filled]
  dsimp only
  rw [hcolumn, hcolumn, hdirection]

namespace Store

variable [Engine]

variable {o o' : Options}

theorem list_congr (h : o.filled = o'.filled) (s : Store) (now : Instant) (p : Pool) :
    s.list now o p = s.list now o' p := by
  rw [list, list, ← Query.ofOptions_filled, h, Query.ofOptions_filled]

/-- For a count the order and the page do not matter. -/
theorem count_congr (h : o.filled.filtersOnly = o'.filled.filtersOnly) (s : Store) (now : Instant)
    (p : Pool) :
    s.count now o p = s.count now o' p := by
  have hfilled (o : Options) : s.count now o p = s.count now o.filled.filtersOnly p := by
    have hquery := Query.ofOptions_filled s.table now { o.filtersOnly with countOnly := true }
    change s.count now o.filtersOnly p = _
    rw [count, ← hquery]
    rfl
  rw [hfilled o, h, ← hfilled o']

end Store

namespace Options

open Parameters

variable {names : List String} {ps : List (String × String)}

/-- Without blank parameters the options are the same, but for the order. -/
theorem filled_ofKnown_withoutBlank (hnames : ∀ name ∈ names, name ∈ textNames)
    (hnodup : (ps.map Prod.fst).Nodup) :
    (ofKnown (withoutBlank names ps)).filled =
      { (ofKnown ps).filled with orderBy := (ofKnown (withoutBlank names ps)).filled.orderBy } := by
  have htext := filled?_lookup_withoutBlank hnodup names
  have hids : (((withoutBlank names ps).lookup "id_in").map members).getD [] =
      ((ps.lookup "id_in").map members).getD [] := by
    rcases lookup_withoutBlank hnodup names "id_in" with h | ⟨hnone, value, hvalue, hblank⟩
    · rw [h]
    · rw [hnone, hvalue, Option.map_some, members_of_blank hblank]
      rfl
  have hother (name : String) (hname : name ∉ textNames) : (withoutBlank names ps).lookup name =
      ps.lookup name :=
    lookup_withoutBlank_of_notMem (fun hmem => hname (hnames name hmem)) ps
  have hlimit := hother "limit" (by decide)
  have hoffset := hother "offset" (by decide)
  have hflag := hother flagName (by decide)
  simp only [filled, ofKnown, htext, hids, hlimit, hoffset, hflag]

theorem orderBy_ofKnown_withoutBlank (horder : "order_by" ∉ names) :
    (ofKnown (withoutBlank names ps)).filled.orderBy = (ofKnown ps).filled.orderBy := by
  simp only [filled, ofKnown, lookup_withoutBlank_of_notMem horder]

end Options

/-! ## Requests without blank parameters -/

/-- The request `r'` is `r` without its blank parameters of these names. -/
structure Http.Request.WithoutBlank (names : List String) (r r' : Request) : Prop where
  parameters : r'.parameters = Parameters.withoutBlank names r.parameters
  rest : ∃ query, r' = { r with query := query }

namespace Http.Request.WithoutBlank

variable {names : List String} {r r' : Request}

/-- Accepted parameters have each name once, so dropping blank ones drops the options of their names
and nothing else. -/
theorem exists_ofKnown (h : r.WithoutBlank names r')
    (hnames : ∀ name ∈ names, name ∈ Options.textNames) {o : Options}
    (ho : Options.ofQuery (r.query.getD "") = .ok o) :
    ∃ known : Parameters, (known.map Prod.fst).Nodup ∧ o = Options.ofKnown known ∧
      Options.ofQuery (r'.query.getD "") = .ok (Options.ofKnown (known.withoutBlank names)) := by
  unfold Options.ofQuery at ho
  split at ho
  · next known hknown =>
    cases ho
    have hcollect := Options.collect_withoutBlank hnames hknown
    change Options.collect [] (Parameters.withoutBlank names r.parameters) = _ at hcollect
    rw [← h.parameters, Request.parameters] at hcollect
    refine ⟨known, Options.nodup_of_collect hknown List.nodup_nil, rfl, ?_⟩
    unfold Options.ofQuery
    rw [hcollect]
  · cases ho

/-- The token in the query is not one of the texts. -/
theorem judge_eq (h : r.WithoutBlank names r') (hnames : ∀ name ∈ names, name ∈ Options.textNames)
    (g : Gate) :
    g.judge r' = g.judge r := by
  have htoken : "token" ∉ names := by
    intro hmem
    have htext := hnames "token" hmem
    revert htext
    decide
  have hheaders : r'.headers = r.headers := by
    obtain ⟨query, rfl⟩ := h.rest
    rfl
  have hquery : Gate.queryToken? r' = Gate.queryToken? r := by
    rw [Gate.queryToken?, h.parameters, Parameters.lookup_withoutBlank_of_notMem htoken,
      Gate.queryToken?]
  rw [Gate.judge, Gate.judge, hheaders, hquery]

end Http.Request.WithoutBlank

namespace Service

variable {s : Service} {now : Instant} {random : Nat} {e : Endpoint} {r r' : Request}
    {t : ServiceState}
  {names : List String}

/-- Dropping blank parameters does not change the answer, as long as the order is not among them. -/
theorem answer_withoutBlank [Engine] (he : e = .visitors ∨ e = .visitorCount)
    (hnames : ∀ name ∈ names, name ∈ Options.textNames) (horder : e = .visitors →
      "order_by" ∉ names)
    (haccepted : ∃ o, Options.ofQuery (r.query.getD "") = .ok o) (hr : r.WithoutBlank names r') :
    s.answer now random e r' t = s.answer now random e r t := by
  obtain ⟨o, ho⟩ := haccepted
  obtain ⟨known, hnodup, rfl, ho'⟩ := hr.exists_ofKnown hnames ho
  have hoptions := Options.filled_ofKnown_withoutBlank hnames hnodup
  rcases he with rfl | rfl
  · have hsame : (Options.ofKnown (Parameters.withoutBlank names known)).filled =
        (Options.ofKnown known).filled := by
      rw [hoptions, Options.orderBy_ofKnown_withoutBlank (horder rfl)]
    have hlist := Store.list_congr hsame s.store now t.pool
    simp only [answer, listVisitors, withOptions, ho, ho', hlist]
  · have hsame : (Options.ofKnown (Parameters.withoutBlank names known)).filled.filtersOnly =
        (Options.ofKnown known).filled.filtersOnly := by
      rw [hoptions]
      rfl
    have hcount := Store.count_congr hsame s.store now t.pool
    simp only [answer, countVisitors, withOptions, ho, ho', hcount]

/-- Nor does it change anything on the way to the answer: the path, the gate and the limiter do not
look at those parameters. -/
theorem serve_withoutBlank [Engine] (hpath : Endpoint.ofPath? r.path = some e)
    (he : e = .visitors ∨ e = .visitorCount) (hnames : ∀ name ∈ names, name ∈ Options.textNames)
    (horder : e = .visitors →
      "order_by" ∉ names)
    (haccepted : ∃ o, Options.ofQuery (r.query.getD "") = .ok o) (hr : r.WithoutBlank names r') :
    s.serve now random r' t = s.serve now random r t := by
  have hguarded : e.isGuarded := by
    rcases he with rfl | rfl
    · rfl
    · rfl
  have hanswer : s.answer now random e r' t = s.answer now random e r t :=
    answer_withoutBlank he hnames horder haccepted hr
  have hsame : r'.method = r.method ∧ r'.path = r.path := by
    obtain ⟨query, rfl⟩ := hr.rest
    exact ⟨rfl, rfl⟩
  obtain ⟨hmethod, hpath'⟩ := hsame
  have hrefusal (why : Gate.Refusal) : Gate.refusal r' why = Gate.refusal r why := by
    rw [Gate.refusal, Gate.refusal, hpath']
  have henter : s.enter now random e r' t = s.enter now random e r t := by
    simp only [enter, hr.judge_eq hnames, answerMethod, hmethod, hanswer, hrefusal]
  rw [serve_of_isGuarded s now random t hpath hguarded, serve_of_isGuarded s now random t
    (hpath' ▸ hpath) hguarded, henter, hmethod]

/-- Without its blank parameters of these names an accepted query of the endpoint has the same
answer. -/
def IgnoresBlank [Engine] (names : List String) (e : Endpoint) : Prop :=
  ∀ (s : Service) (now : Instant) (random : Nat) (r r' : Request) (t : ServiceState),
    Endpoint.ofPath? r.path = some e → (∃ o, Options.ofQuery (r.query.getD "") = .ok o) →
    r.WithoutBlank names r' → s.serve now random r' t = s.serve now random r t

/-! ## A blank order -/

/-- A listing begins with the identifier of its first record. -/
theorem exists_text_visitors (v : Visitor) (js : List Json) :
    ∃ rest, (Json.arr (visitorJson v :: js)).text.toList = "[\x7b\"id\":\"".toList ++
    (Json.quoteChars (v.value .id).toList ++ '"' :: rest) := by
  have hdata : v.data = (.id, v.value .id) :: v.data.tail := rfl
  rw [Json.text, visitorJson, hdata, List.map_cons, Json.text, Json.text, Json.quote, Json.quote]
  simp only [String.toList_append, String.toList_ofList, List.append_assoc]
  exact ⟨_, rfl⟩

theorem exists_ids_of_text_eq {v w : Visitor} {js ks : List Json}
    (h : (Json.arr (visitorJson v :: js)).text = (Json.arr (visitorJson w :: ks)).text) :
    ∃ rest rest', Json.quoteChars (v.value .id).toList ++ '"' :: rest =
      Json.quoteChars (w.value .id).toList ++ '"' :: rest' := by
  obtain ⟨rest, hv⟩ := exists_text_visitors v js
  obtain ⟨rest', hw⟩ := exists_text_visitors w ks
  rw [h, hw] at hv
  exact ⟨rest, rest', (List.append_cancel_left hv).symm⟩

/-- Two visits, stored in the order in which they came. -/
def olderVisit : Visitor := .visit "a" "/" "2024-01-01 00:00:00"

def newerVisit : Visitor := .visit "b" "/" "2024-01-02 00:00:00"

def twoRows : Rows := [.ofVisitor olderVisit, .ofVisitor newerVisit]

def twoVisited : ServiceState := { loneState with pool := .ofVisits [olderVisit, newerVisit] }

/-- The administrator asks for visits. -/
def ask (query : String) : Request := { fetch "/v1/visitors" with query := some query }

theorem reaches_ask (query : String) : watched.Reaches (ask query) .visitors where
  path := rfl
  method := List.mem_cons_self
  gate _ := ⟨none, judge_watched rfl⟩

/-- What is asked of the two visits. -/
def twoQuery (order : Option Order) : Query where
  table := "visits"
  conditions := [.above .deletedAt (Instant.layout ⟨0, 0⟩)]
  distinct := none
  order := order
  limit := some 50
  offset := none

theorem list_twoVisited {o : Options} {order : Option Order} {rows : Rows}
    (hq : Query.ofOptions "visits" ⟨0, 0⟩ o = .ok (twoQuery order))
    (hrows : Engine.arrange (twoQuery order) twoRows = rows) :
    watched.store.list ⟨0, 0⟩ o twoVisited.pool = .ok ((rows.take 50).map Row.toVisitor) := by
  have hholds : twoVisited.pool.Holds ⟨"visits"⟩ twoRows :=
    Pool.holds_ofVisits [olderVisit, newerVisit]
  have hlist := Pool.read_list_of_holds (q := twoQuery order) rfl hholds rfl
  have hrefusal : (twoQuery order).refusal? .listing twoRows = none :=
    Query.refusal?_eq_none (show 2 ≤ Database.mostValues by decide)
      (List.forall_mem_singleton.2 rfl)
  have hrun : (twoQuery order).run twoRows = rows.take 50 := by
    have hall : twoRows.filter (twoQuery order).admits = twoRows := rfl
    rw [Query.run, hall, hrows]
    rfl
  rw [hrefusal, hrun] at hlist
  refine Eq.trans ?_ hlist
  change (Query.ofOptions "visits" ⟨0, 0⟩ o >>= _) = _
  rw [hq]
  rfl

theorem arrange_unordered : Engine.arrange (twoQuery none) twoRows = twoRows :=
  List.mergeSort_of_pairwise (by decide)

theorem arrange_newestFirst :
    Engine.arrange (twoQuery (some ⟨.createdAt, .descending⟩)) twoRows = twoRows.reverse := by
  change Rows.downwards .createdAt twoRows = twoRows.reverse
  have hnewer :
      ¬((Row.ofVisitor newerVisit).value .createdAt).atMost
        ((Row.ofVisitor olderVisit).value .createdAt) := by
    decide
  simp [Rows.downwards, twoRows, List.mergeSort, List.MergeSort.Internal.splitInTwo, hnewer]

/-- A blank order is none, while visits come newest first when no order is given. The usual engine
then reads along the times of deletion. -/
theorem not_ignoresBlank_of_mem (horder : "order_by" ∈ names) : ¬IgnoresBlank names .visitors := by
  intro h
  have hwithout : (ask "order_by=").WithoutBlank names (ask "") := by
    refine ⟨?_, "", rfl⟩
    have hblank : Parameters.isBlankOf names ("order_by", "") :=
      Parameters.isBlankOf_iff.2 ⟨horder, rfl⟩
    have hparameters : (ask "order_by=").parameters = [("order_by", "")] := by decide
    rw [hparameters, Parameters.withoutBlank_cons_of_blank hblank]
    rfl
  have hserve := h watched ⟨0, 0⟩ 0 (ask "order_by=") (ask "") twoVisited rfl ⟨_, rfl⟩ hwithout
  have hblank : (watched.serve ⟨0, 0⟩ 0 (ask "order_by=") twoVisited).1.Brings
      (.arr ((twoRows.map Row.toVisitor).map visitorJson)) :=
    brings_serve (reaches_ask "order_by=") rfl rfl
      (brings_withOptions (r := ask "order_by=") _ rfl (list_twoVisited rfl arrange_unordered))
  have habsent : (watched.serve ⟨0, 0⟩ 0 (ask "") twoVisited).1.Brings
      (.arr ((twoRows.reverse.map Row.toVisitor).map visitorJson)) :=
    brings_serve (reaches_ask "") rfl rfl
      (brings_withOptions (r := ask "") _ rfl (list_twoVisited rfl arrange_newestFirst))
  have htext := habsent.2.symm.trans ((congrArg (fun reply => reply.1.body) hserve).trans hblank.2)
  obtain ⟨rest, rest', hids⟩ := exists_ids_of_text_eq htext
  have hne : 'b' :: '"' :: rest ≠ 'a' :: '"' :: rest' := by simp
  exact hne hids

/-- Whatever the engine, the blank parameters of these names are as good as absent ones. -/
theorem ignoresBlank [Engine] (hnames : ∀ name ∈ names, name ∈ Options.textNames)
    (he : e = .visitors ∨ e = .visitorCount) (horder : e = .visitors → "order_by" ∉ names) :
    IgnoresBlank names e :=
  fun _ _ _ _ _ _ hpath haccepted hr => serve_withoutBlank hpath he hnames horder haccepted hr

/-- With the usual engine, blank parameters are as good as absent ones exactly if the order of a
listing is not among them; and then they are so with every engine. -/
theorem ignoresBlank_iff (hnames : ∀ name ∈ names, name ∈ Options.textNames)
    (he : e = .visitors ∨ e = .visitorCount) :
    (IgnoresBlank names e ↔ (e = .visitors → "order_by" ∉ names)) ∧
      ((e = .visitors → "order_by" ∉ names) → ∀ [Engine], IgnoresBlank names e) := by
  refine ⟨⟨?_, ignoresBlank hnames he⟩, fun horder _ => ignoresBlank hnames he horder⟩
  rintro h rfl horder
  exact not_ignoresBlank_of_mem horder h

/-- The texts but for the column of the order. -/
def filterNames : List String :=
  ["id_in", "distinct", "country", "path_contains", "path_exact", "device_type", "from",
    "to", "sort_order"]

theorem ignoresBlank_iff_filters : (∀ name ∈ filterNames, name ∈ Options.textNames) ∧
    "order_by" ∉ filterNames ∧ watched.serve ⟨0, 0⟩ 0 (ask "order_by=path&limit=1") twoVisited =
      watched.serve ⟨0, 0⟩ 0 (ask "from=+&order_by=path&id_in=&limit=1") twoVisited := by
  have hnames : ∀ name ∈ filterNames, name ∈ Options.textNames := by decide
  have horder : "order_by" ∉ filterNames := by decide
  have hignores : IgnoresBlank filterNames .visitors :=
    (ignoresBlank_iff hnames (.inl rfl)).1.2 fun _ => horder
  have hwithout : (ask "from=+&order_by=path&id_in=&limit=1").WithoutBlank filterNames
      (ask "order_by=path&limit=1") :=
    ⟨by decide, _, rfl⟩
  exact ⟨hnames, horder, hignores watched ⟨0, 0⟩ 0 _ _ twoVisited rfl ⟨_, rfl⟩ hwithout⟩

/-- A blank `order_by` changes the page. -/
theorem not_ignoresBlank_orderBy : ¬IgnoresBlank Options.textNames .visitors :=
  not_ignoresBlank_of_mem (by decide)

end Service

end VisitLog

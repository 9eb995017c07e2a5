import VisitLog.Dashboard.Lists
import VisitLog.Proofs.Forms
import VisitLog.Proofs.Pages

/-!
# Links keep the selection

Links of the dashboard carry the filters and the page of the list that they stand on. What a request
for such a link asks for is read by `Filters.ofParameters` and `Paging.ofParameters` again. A link
carries either a named range or explicit bounds, so bounds are lost if they are given beside a range
that has no meaning (`Filters.ofParameters_linkTo`).

Main statements: `Filters.keepsSelection` and, for the links between the pages of a list,
`Filters.exists_href_pageLink`.
-/

namespace VisitLog

open Text

/-! ## Parameters by name -/

namespace Parameters

variable {ps : Parameters} {name value : String}

theorem eq_of_mem {p : String × String} (hnodup : (ps.map Prod.fst).Nodup) (h : (name, value) ∈ ps)
    (hp : p ∈ ps)
    (hname : p.1 = name) : p = (name, value) :=
  List.inj_on_of_nodup_map hnodup hp h hname

theorem text_of_mem (hnodup : (ps.map Prod.fst).Nodup) (h : (name, value) ∈ ps) :
    ps.text name = trim value := by
  have hget : ps.get? name = some value := by
    obtain ⟨p, hp⟩ := Option.isSome_iff_exists.1 (List.find?_isSome (p := fun p => p.1 == name).2
      ⟨_, List.mem_reverse.2 h, beq_self_eq_true name⟩)
    have hname := List.find?_some hp
    rw [get?, hp, eq_of_mem hnodup h (List.mem_reverse.1 (List.mem_of_find?_eq_some hp))
      (beq_iff_eq.1 hname)]
    rfl
  rw [text, hget]

theorem text_of_absent (h : ∀ p ∈ ps, p.1 ≠ name) : ps.text name = "" := by
  have hget : ps.get? name = none := by
    rw [get?, List.find?_eq_none.2 fun p hp => ?_]
    · rfl
    · exact fun hname => h p (List.mem_reverse.1 hp) (beq_iff_eq.1 hname)
  rw [text, hget]

/-- Without its empty values a query asks for the same. -/
theorem text_filter (hnodup : (ps.map Prod.fst).Nodup) (h : (name, value) ∈ ps) :
    text (ps.filter fun p => !p.2.isEmpty) name = trim value := by
  by_cases hvalue : value = ""
  · subst hvalue
    refine text_of_absent fun p hp hname => ?_
    obtain ⟨hp, hne⟩ := List.mem_filter.1 hp
    rw [eq_of_mem hnodup h hp hname] at hne
    cases hne
  · refine text_of_mem (hnodup.sublist (List.filter_sublist.map Prod.fst))
      (List.mem_filter.2 ⟨h, ?_⟩)
    simpa using hvalue

theorem text_cons_of_ne {given : String} (h : given ≠ name) :
    text ((given, value) :: ps) name = text ps name := by
  have hget : get? ((given, value) :: ps) name = ps.get? name := by
    rw [get?, List.reverse_cons, List.find?_append, List.find?_singleton, if_neg fun hname =>
      h (beq_iff_eq.1 hname), Option.or_none, get?]
  rw [text, text, hget]

theorem trim_text (ps : Parameters) (name : String) : trim (ps.text name) = ps.text name := by
  unfold text
  split
  · exact trim_trim _
  · rfl

end Parameters

namespace Paging

theorem trim_intText {n : Int} (h : 0 ≤ n) : trim (intText n) = intText n :=
  trim_of_isDigit fun _ hc => isDigit_of_mem_intText h hc

/-- A number reads back from its text. -/
theorem positive_intText {n : Int} (hpos : 0 < n) (hmax : n ≤ greatestInt) (fallback : Int) :
    positive (intText n) fallback = n := by
  have hdigits : intOfDigits? (trimChars (intText n).toList) = some n := by
    have htrim := congrArg String.toList (trim_intText (Int.le_of_lt hpos))
    rw [toList_trim] at htrim
    rw [htrim, intOfDigits?_intText (Int.le_of_lt hpos)]
  rw [positive, hdigits]
  exact if_pos ⟨hpos, hmax⟩

end Paging

namespace Filters

/-- A link to a page of the dashboard that carries filters and the page of a list. -/
def linkTo (f : Filters) (paging : Paging) (page : String) : String :=
  Page.address page
    (f.pairs ++ [("per_page", intText paging.perPage), ("page", intText paging.page)])

/-- Links to other pages of a list are links that carry its filters. -/
theorem pageLink_pairs (l : Dashboard.Listing) (path : String) (target : Int)
    (content : List Html) :
    Dashboard.pageLink path l.pairs target content = .element "a" [.text "class" "page-link",
      .text "href" (l.filters.linkTo ⟨target, l.paging.perPage⟩ path)] content := by
  rw [Dashboard.pageLink, Dashboard.Listing.pairs, List.append_assoc]
  rfl

/-- The filters as they were sent. -/
def given (ps : Parameters) : Filters where
  range := ps.text "range"
  createdFrom := ps.text "from"
  createdTo := ps.text "to"
  country := ps.text "country"
  device := ps.text "device"
  pathContains := ps.text "path_contains"
  pathExact := ps.text "path_exact"
  browser := ps.text "browser"

/-- The filters with the bounds of a named range. -/
def resolve (f : Filters) (now : Instant) : Filters :=
  match bounds? f.range now with
  | some (start, stop) => { f with createdFrom := start.rfc3339, createdTo := stop.rfc3339 }
  | none => f

theorem ofParameters_eq (ps : Parameters) (now : Instant) :
    ofParameters ps now = (given ps).resolve now := rfl

/-- The filters without explicit bounds. -/
def unbounded (f : Filters) : Filters :=
  { f with createdFrom := "", createdTo := "" }

theorem unbounded_eq_iff {f : Filters} : f.unbounded = f ↔ f.createdFrom = "" ∧
    f.createdTo = "" := by
  cases f
  simp [unbounded, eq_comm]

/-- All filters by name, and the page of the list. -/
def named (f : Filters) (paging : Paging) : Parameters :=
  (if f.range.isEmpty then [("from", f.createdFrom), ("to", f.createdTo)]
    else [("range", f.range)]) ++ [("country", f.country), ("device", f.device),
    ("path_contains", f.pathContains), ("path_exact", f.pathExact),
      ("browser", f.browser), ("per_page", intText paging.perPage), ("page", intText paging.page)]

variable {f : Filters} {paging : Paging} {name value : String}

theorem nodup_named (f : Filters) (paging : Paging) : ((f.named paging).map Prod.fst).Nodup := by
  unfold named
  cases f.range.isEmpty <;> simp

theorem parametersOf_linkTo (f : Filters) (paging : Paging) (page : String) :
    Page.parametersOf (f.linkTo paging page) = ("path", page) :: (f.named paging).filter fun p =>
    !p.2.isEmpty := by
  rw [linkTo, Page.parametersOf_address, pairs, List.filter_append, List.filter_filter]
  simp only [Bool.and_self]
  rw [← List.filter_append, List.append_assoc]
  rfl

/-- What a link carries under a name. -/
theorem text_linkTo (page : String) (hname : "path" ≠ name) (h : (name, value) ∈ f.named paging) :
    Parameters.text (Page.parametersOf (f.linkTo paging page)) name = trim value := by
  rw [parametersOf_linkTo, Parameters.text_cons_of_ne hname]
  exact Parameters.text_filter (nodup_named f paging) h

theorem text_linkTo_of_absent (page : String) (hname : "path" ≠ name)
    (h : ∀ p ∈ f.named paging, p.1 ≠ name) :
    Parameters.text (Page.parametersOf (f.linkTo paging page)) name = "" := by
  rw [parametersOf_linkTo, Parameters.text_cons_of_ne hname]
  exact Parameters.text_of_absent fun p hp => h p (List.mem_filter.1 hp).1

/-- The page of a list is kept. -/
theorem paging_linkTo (f : Filters) (ps : Parameters) (page : String) :
    Paging.ofParameters (Page.parametersOf (f.linkTo (Paging.ofParameters ps) page)) =
    Paging.ofParameters ps := by
  obtain ⟨⟨hpage, hmaxPage⟩, ⟨hperPage, hmaxPerPage⟩, -⟩ := Paging.inBounds_ofParameters ps
  generalize Paging.ofParameters ps = paging at *
  have hnumber {name : String} {n : Int} (hname : "path" ≠ name)
    (hmem : (name, intText n) ∈ f.named paging)
      (hpos : 1 ≤ n) (hmax : n ≤ greatestInt) (fallback : Int) :
      Paging.positive (Parameters.text (Page.parametersOf (f.linkTo paging page)) name)
        fallback = n := by
    rw [text_linkTo page hname hmem, Paging.trim_intText (by omega),
      Paging.positive_intText (by omega) hmax]
  have hgreatest : Paging.maxPerPage ≤ greatestInt ∧ Paging.maxPage ≤ greatestInt := by decide
  rw [Paging.ofParameters, hnumber (n := paging.page) (by decide)
    (List.mem_append_right _ (by simp)) hpage (by omega), hnumber (n := paging.perPage) (by decide)
    (List.mem_append_right _ (by simp)) hperPage (by omega), Int.min_eq_left hmaxPage,
      Paging.clampPerPage, if_neg (by omega), Int.min_eq_left hmaxPerPage]

/-- The filters that a link carries are those that were sent, without bounds beside a range. -/
theorem given_linkTo (ps : Parameters) (paging : Paging) (page : String) :
    given (Page.parametersOf ((given ps).linkTo paging page)) =
      if (given ps).range = "" then given ps else (given ps).unbounded := by
  have hkept (name sent : String) (hname : "path" ≠ name)
    (hmem : (name, ps.text sent) ∈ (given ps).named paging) :
      Parameters.text (Page.parametersOf ((given ps).linkTo paging page)) name = ps.text sent := by
    rw [text_linkTo page hname hmem, Parameters.trim_text]
  have habsent (name : String) (hname : "path" ≠ name)
    (h : ∀ p ∈ (given ps).named paging, p.1 ≠ name) :
      Parameters.text (Page.parametersOf ((given ps).linkTo paging page)) name = "" :=
    text_linkTo_of_absent page hname h
  have hcountry := hkept "country" "country" (by decide) (List.mem_append_right _ (by simp [given]))
  have hdevice := hkept "device" "device" (by decide) (List.mem_append_right _ (by simp [given]))
  have hcontains := hkept "path_contains" "path_contains" (by decide)
    (List.mem_append_right _ (by simp [given]))
  have hexact := hkept "path_exact" "path_exact" (by decide)
    (List.mem_append_right _ (by simp [given]))
  have hbrowser := hkept "browser" "browser" (by decide) (List.mem_append_right _ (by simp [given]))
  by_cases hrange : (given ps).range = ""
  · have hsent : ps.text "range" = "" := hrange
    have hempty := habsent "range" (by decide) (by simp [named, hrange])
    have hfrom := hkept "from" "from" (by decide) (by simp [named, hsent, given])
    have hto := hkept "to" "to" (by decide) (by simp [named, hsent, given])
    rw [if_pos hrange, given, hempty, hfrom, hto, hcountry, hdevice, hcontains, hexact,
      hbrowser, ← hrange]
    rfl
  · have hsent : ps.text "range" ≠ "" := hrange
    have hnamed := hkept "range" "range" (by decide) (by simp [named, hsent, given])
    have hfrom := habsent "from" (by decide) (by simp [named, hrange])
    have hto := habsent "to" (by decide) (by simp [named, hrange])
    rw [if_neg hrange, given, hnamed, hfrom, hto, hcountry, hdevice, hcontains, hexact, hbrowser]
    rfl

theorem bounds?_empty (now : Instant) : bounds? "" now = none := rfl

/-- A range wins over bounds, so links carry the same with and without its bounds. -/
theorem pairs_resolve (f : Filters) (now : Instant) : (f.resolve now).pairs = f.pairs := by
  unfold resolve
  split
  · next hbounds =>
    have hrange : ¬f.range.isEmpty := by
      intro hempty
      rw [String.isEmpty_iff.1 hempty, bounds?_empty] at hbounds
      cases hbounds
    rw [pairs, pairs, if_neg hrange, if_neg hrange]
  · rfl

theorem range_resolve (f : Filters) (now : Instant) : (f.resolve now).range = f.range := by
  unfold resolve
  split <;> rfl

/-- What a link asks for: the filters that it was made from, without bounds if they stand beside a
range that has no meaning. -/
theorem ofParameters_linkTo (ps : Parameters) (now : Instant) (paging : Paging) (page : String) :
    ofParameters (Page.parametersOf ((ofParameters ps now).linkTo paging page)) now =
      if (ofParameters ps now).range = "" ∨
      (bounds? (ofParameters ps now).range now).isSome then ofParameters ps now
      else (ofParameters ps now).unbounded := by
  rw [ofParameters_eq, ofParameters_eq, linkTo, pairs_resolve, ← linkTo,
    given_linkTo, range_resolve]
  generalize given ps = f
  by_cases hrange : f.range = ""
  · rw [if_pos hrange, if_pos (.inl hrange)]
  · rw [if_neg hrange]
    cases hbounds : bounds? f.range now with
    | none =>
      have hunbounded : bounds? f.unbounded.range now = none := hbounds
      rw [if_neg (by simp [hrange]), resolve, hunbounded, resolve, hbounds]
    | some bounds =>
      have hunbounded : bounds? f.unbounded.range now = some bounds := hbounds
      rw [if_pos (.inr rfl), resolve, hunbounded, resolve, hbounds]
      rfl

/-- A request for a link to another page of a list is for the filters of the list, but for bounds
beside a range without a meaning. -/
theorem exists_href_pageLink {l : Dashboard.Listing} {ps : Parameters} {now : Instant}
    (hl : l.filters = ofParameters ps now) (path : String) (target : Int) (content : List Html) :
    ∃ href, Dashboard.pageLink path l.pairs target content =
        .element "a" [.text "class" "page-link", .text "href" href] content ∧
      ofParameters (Page.parametersOf href) now =
        if l.filters.range = "" ∨ (bounds? l.filters.range now).isSome then l.filters
        else l.filters.unbounded := by
  refine ⟨_, pageLink_pairs l path target content, ?_⟩
  rw [hl]
  exact ofParameters_linkTo ps now _ path

/-- What a request for a link asks for, that stands on a list with these filters. -/
structure KeepsSelection (f : Filters) (paging : Paging) (now : Instant)
    (again : Parameters) : Prop where
  paging : Paging.ofParameters again = paging
  /-- Bounds beside a range without a meaning are lost, nothing else. -/
  filters : ofParameters again now = if f.range = "" ∨ (bounds? f.range now).isSome then f
    else f.unbounded
  filters_iff : ofParameters again now = f ↔
    f.range = "" ∨ (bounds? f.range now).isSome ∨ f.createdFrom = "" ∧ f.createdTo = ""

/-- Links keep the page size, the page and the filters, except for bounds beside a range that has no
meaning. -/
theorem keepsSelection (ps : Parameters) (now : Instant) (page : String) :
    KeepsSelection (ofParameters ps now) (Paging.ofParameters ps) now
      (Page.parametersOf ((ofParameters ps now).linkTo (Paging.ofParameters ps) page)) := by
  have hfilters := ofParameters_linkTo ps now (Paging.ofParameters ps) page
  refine ⟨paging_linkTo _ ps page, hfilters, ?_⟩
  rw [hfilters]
  split
  · next hrange => exact iff_of_true rfl (hrange.imp_right .inl)
  · next hrange =>
    rw [not_or] at hrange
    rw [unbounded_eq_iff, or_iff_right hrange.1, or_iff_right hrange.2]

/-- Bounds beside a range that has no meaning. -/
def unknownRange : Parameters :=
  [("range", "week"), ("from", "2024-01-01"), ("to", "2024-01-31")]

theorem not_keepsSelection_unknownRange : ¬∀ (ps : Parameters) (now : Instant) (page : String),
    ofParameters (Page.parametersOf ((ofParameters ps now).linkTo (Paging.ofParameters ps) page))
      now = ofParameters ps now := by
  intro h
  have hkept := h unknownRange ⟨0, 0⟩ "/admin/home"
  have hrange : ¬((ofParameters unknownRange ⟨0, 0⟩).range = "" ∨
      (bounds? (ofParameters unknownRange ⟨0, 0⟩).range ⟨0, 0⟩).isSome) := by decide
  rw [ofParameters_linkTo, if_neg hrange, unbounded_eq_iff] at hkept
  exact absurd hkept.1 (by decide)

end Filters

end VisitLog

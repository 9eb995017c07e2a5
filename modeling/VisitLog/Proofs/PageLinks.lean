import Mathlib.Data.List.Nodup
import Mathlib.Data.List.Range
import VisitLog.Dashboard.Parts
import VisitLog.Proofs.Forms
import VisitLog.Proofs.Hyperlinks

/-!
# Links to the pages of a list

The links of a list are read off its markup: where they lead, what is written on them and whether
they are marked. All but the one to the previous page lead to pages of the list, whatever page is
shown. The page shown is what the request asks for, so it can lie behind the last one, and only just
behind it there still is a previous page.

Main statement: `Dashboard.leadsToPages_iff`.
-/

namespace VisitLog

/-- A link as it is shown. -/
structure ShownLink where
  target : String
  /-- The markup on the link. -/
  label : String
  /-- The item of the link is marked active. -/
  isActive : Bool
  deriving DecidableEq, Repr

namespace ShownLink

/-- The number on a link. -/
def number? (l : ShownLink) : Option Int :=
  Text.intOfDigits? l.label.toList

/-- The parameters that a request for the target has. -/
def parameters (l : ShownLink) : List (String × String) :=
  Page.parametersOf l.target

end ShownLink

namespace Html

mutual

/-- The links of a tree; items may be marked active around it and in it. -/
def shownLinks (isActive : Bool) : Html → List ShownLink
  | text _ => []
  | verbatim _ => []
  | element _ attributes content =>
    match attributes.findSome? Attribute.href? with
    | some target => [⟨target, renderAll content, isActive⟩]
    | none =>
      shownLinksAll (isActive || attributes.contains (.text "class" "page-item active")) content
  | void _ _ => []

/-- The links of trees in a row. -/
def shownLinksAll (isActive : Bool) : List Html → List ShownLink
  | [] => []
  | h :: hs => shownLinks isActive h ++ shownLinksAll isActive hs

end

theorem shownLinksAll_eq_flatMap (isActive : Bool) (hs : List Html) :
    shownLinksAll isActive hs = hs.flatMap (shownLinks isActive) := by
  induction hs with
  | nil => rfl
  | cons h hs ih => rw [shownLinksAll, ih, List.flatMap_cons]

theorem escape_of_isDigit {s : String} (h : ∀ c ∈ s.toList, c.isDigit) : escape s = s := by
  have hchar (c : Char) (hc : c ∈ s.toList) : escapeChar c = [c] := by
    have hdigit := h c hc
    unfold escapeChar
    split
    · exact absurd hdigit (by decide)
    · exact absurd hdigit (by decide)
    · exact absurd hdigit (by decide)
    · exact absurd hdigit (by decide)
    · exact absurd hdigit (by decide)
    · rfl
  rw [escape, escapeChars, List.flatMap_congr hchar, List.flatMap_singleton', String.ofList_toList]

end Html

namespace Dashboard

open Html Text

variable {path : String} {pairs : List (String × String)} {page totalPages n : Int}

/-! ## Pages to lead to -/

theorem mem_pageWindow :
    n ∈ pageWindow page totalPages ↔ max (page - 2) 1 ≤ n ∧
    n ≤ min (max (page - 2) 1 + 4) totalPages := by
  simp only [pageWindow, List.mem_map, List.mem_range]
  constructor
  · rintro ⟨i, hi, rfl⟩
    omega
  · intro h
    exact ⟨(n - max (page - 2) 1).toNat, by omega, by omega⟩

theorem isChain_pageWindow (page totalPages : Int) :
    (pageWindow page totalPages).IsChain fun a b => b = a + 1 := by
  rw [pageWindow, List.isChain_map, List.isChain_range]
  intro i _
  omega

theorem nodup_pageWindow (page totalPages : Int) : (pageWindow page totalPages).Nodup := by
  refine List.Nodup.map (fun i j h => ?_) List.nodup_range
  exact Int.ofNat_inj.1 (Int.add_left_cancel h)

theorem count_pageWindow (h : 1 ≤ page) (hlast : page ≤ totalPages) :
    (pageWindow page totalPages).count page = 1 :=
  List.count_eq_one_of_mem (nodup_pageWindow ..) (mem_pageWindow.2 (by omega))

/-- The page before the current one. -/
def previous (page : Int) : List Int :=
  if 1 < page then [page - 1] else []

/-- The page behind the current one. -/
def next (page totalPages : Int) : List Int :=
  if page < totalPages then [page + 1] else []

/-- The pages that links lead to exist, if the one before the current one does. -/
theorem bounds_of_mem_targets (h : 1 ≤ page) (hpage : page ≤ totalPages + 1)
    (hn : n ∈ previous page ++ pageWindow page totalPages ++ next page totalPages) : 1 ≤ n ∧
    n ≤ totalPages := by
  rcases List.mem_append.1 hn with hn | hn
  · rcases List.mem_append.1 hn with hn | hn
    · obtain ⟨hprev, hn⟩ := List.mem_ite_nil_right.1 hn
      rw [List.mem_singleton.1 hn]
      omega
    · have := mem_pageWindow.1 hn
      omega
  · obtain ⟨hnext, hn⟩ := List.mem_ite_nil_right.1 hn
    rw [List.mem_singleton.1 hn]
    omega

/-! ## Links that are shown -/

/-- What is written on the link to the previous page. -/
def prevLabel : String := "&laquo; Prev"

/-- What is written on the link to the next page. -/
def nextLabel : String := "Next &raquo;"

theorem intOfDigits?_prevLabel : intOfDigits? prevLabel.toList = none := by decide

theorem intOfDigits?_nextLabel : intOfDigits? nextLabel.toList = none := by decide

/-- The link to a page of a list. -/
def shownTo (path : String) (pairs : List (String × String)) (label : String) (isActive : Bool)
    (n : Int) : ShownLink :=
  ⟨Page.address path (pairs ++ [("page", intText n)]), label, isActive⟩

/-- The links to the pages of a list. -/
def listLinks (path : String) (pairs : List (String × String)) (page totalPages : Int) :
    List ShownLink :=
  shownLinksAll false (pagination path pairs page totalPages)

/-- The links of a list in a row: the one before, those of the window, and the one after. -/
theorem listLinks_eq (path : String) (pairs : List (String × String)) (page : Int)
    (h : 1 < totalPages) :
    listLinks path pairs page totalPages =
      (previous page).map (shownTo path pairs prevLabel false) ++
        (pageWindow page totalPages).map
          (fun n => shownTo path pairs (escape (intText n)) (n = page) n) ++
        (next page totalPages).map (shownTo path pairs nextLabel false) := by
  have hitem (cls : String) (n : Int) (content : List Html) :
      shownLinks false (ofClass "li" cls [pageLink path pairs n content]) =
        [shownTo path pairs (renderAll content) (cls = "page-item active") n] := by
    simp [ofClass, pageLink, shownLinks, shownLinksAll, Attribute.href?, shownTo, eq_comm]
  have hframe (items : List Html) :
      shownLinksAll false [plain "nav" [ofClass "ul" "pagination" items]] =
      items.flatMap (shownLinks false) := by
    simp [plain, ofClass, shownLinks, shownLinksAll, shownLinksAll_eq_flatMap, Attribute.href?]
  rw [listLinks, pagination, if_neg (Int.not_le.2 h)]
  simp only [hframe, List.flatMap_append]
  congr 1
  · congr 1
    · unfold previous
      split <;> simp [hitem, render, renderAll, prevLabel]
    · rw [List.flatMap_map, List.map_eq_flatMap]
      refine List.flatMap_congr fun n _ => ?_
      rw [hitem]
      by_cases hn : n = page <;> simp [hn, renderAll, render]
  · unfold next
    split <;> simp [hitem, render, renderAll, nextLabel]

/-! ## What links carry -/

theorem escape_intText (h : 0 ≤ n) : escape (intText n) = intText n :=
  escape_of_isDigit fun _ hc => isDigit_of_mem_intText h hc

theorem intOfDigits?_of_mem_pageWindow (h : n ∈ pageWindow page totalPages) :
    intOfDigits? (escape (intText n)).toList = some n := by
  have hn : 0 ≤ n := by
    have := mem_pageWindow.1 h
    omega
  rw [escape_intText hn, intOfDigits?_intText hn]

/-- What a request for a page of a list carries: the path, the parameters that are not empty, and
the page. -/
def carried (path : String) (pairs : List (String × String)) (n : Int) : List (String × String) :=
  ("path", path) :: (pairs.filter fun p => !p.2.isEmpty) ++ [("page", intText n)]

theorem carried_inj {m : Int} (hm : 0 ≤ m) (hn : 0 ≤ n)
    (h : carried path pairs m = carried path pairs n) : m = n := by
  have htext : intText m = intText n := by simpa [carried] using h
  have hread := intOfDigits?_intText hm
  rw [htext, intOfDigits?_intText hn] at hread
  exact (Option.some.inj hread).symm

@[simp] theorem parameters_shownTo (label : String) (isActive : Bool) (n : Int) :
    (shownTo path pairs label isActive n).parameters = carried path pairs n := by
  have hne : (intText n).isEmpty = false := by
    unfold intText
    split <;> simp [← String.toList_eq_nil_iff, Bool.eq_false_iff]
  rw [ShownLink.parameters, shownTo, Page.parametersOf_address, List.filter_append, carried]
  simp [hne]

/-- The links lead to these pages of a list, in order, and carry the parameters there. -/
def LeadTo (path : String) (pairs : List (String × String)) (ls : List ShownLink)
    (ns : List Int) : Prop :=
  ls.map ShownLink.parameters = ns.map (carried path pairs)

theorem LeadTo.exists_page {ls : List ShownLink} {ns : List Int} (h : LeadTo path pairs ls ns)
    {l : ShownLink}
    (hl : l ∈ ls) : ∃ n ∈ ns, l.parameters = carried path pairs n := by
  have hmem : l.parameters ∈ ns.map (carried path pairs) := h ▸ List.mem_map_of_mem hl
  obtain ⟨n, hn, hcarried⟩ := List.mem_map.1 hmem
  exact ⟨n, hn, hcarried.symm⟩

theorem LeadTo.exists_link {ls : List ShownLink} {ns : List Int} (h : LeadTo path pairs ls ns)
    (hn : n ∈ ns) :
    ∃ l ∈ ls, l.parameters = carried path pairs n := by
  have hmem : carried path pairs n ∈ ls.map ShownLink.parameters := h ▸ List.mem_map_of_mem hn
  exact List.mem_map.1 hmem

/-- The links of a list that a test lets through lead to the pages whose links it lets through. -/
theorem leadTo_filter (path : String) (pairs : List (String × String)) (page : Int)
    (h : 1 < totalPages)
    (test : ShownLink → Bool) :
    LeadTo path pairs ((listLinks path pairs page totalPages).filter test)
      ((previous page).filter (fun n => test (shownTo path pairs prevLabel false n)) ++
        (pageWindow page totalPages).filter
          (fun n => test (shownTo path pairs (escape (intText n)) (n = page) n)) ++
        (next page totalPages).filter (fun n => test (shownTo path pairs nextLabel false n))) := by
  simp [LeadTo, listLinks_eq path pairs page h, List.filter_map, Function.comp_def]

theorem leadTo_listLinks (path : String) (pairs : List (String × String)) (page : Int)
    (h : 1 < totalPages) :
    LeadTo path pairs (listLinks path pairs page totalPages)
      (previous page ++ pageWindow page totalPages ++ next page totalPages) := by
  simpa using leadTo_filter path pairs page h fun _ => true

/-! ## Links by what is written on them -/

@[simp] theorem number?_prev (n : Int) : (shownTo path pairs prevLabel false n).number? = none :=
  intOfDigits?_prevLabel

@[simp] theorem number?_next (n : Int) : (shownTo path pairs nextLabel false n).number? = none :=
  intOfDigits?_nextLabel

theorem number?_of_mem (h : n ∈ pageWindow page totalPages) (isActive : Bool) :
    (shownTo path pairs (escape (intText n)) isActive n).number? = some n :=
  intOfDigits?_of_mem_pageWindow h

theorem numbers_listLinks (path : String) (pairs : List (String × String)) (page : Int)
    (h : 1 < totalPages) :
    (listLinks path pairs page totalPages).filterMap ShownLink.number? =
    pageWindow page totalPages := by
  have hnumber : ∀ n ∈ pageWindow page totalPages,
      (shownTo path pairs (escape (intText n)) (n = page) n).number? = some n :=
    fun n hn => number?_of_mem hn _
  simp [listLinks_eq path pairs page h, List.filterMap_append, List.filterMap_map,
    List.filterMap_congr hnumber]

theorem leadTo_numbers (h : 1 < totalPages) :
    LeadTo path pairs ((listLinks path pairs page totalPages).filter fun l => l.number?.isSome)
      (pageWindow page totalPages) := by
  have hall : (pageWindow page totalPages).filter
      (fun n => (shownTo path pairs (escape (intText n)) (n = page) n).number?.isSome) =
        pageWindow page totalPages :=
    List.filter_eq_self.2 fun n hn => by rw [number?_of_mem hn]; rfl
  simpa [hall] using leadTo_filter path pairs page h fun l => l.number?.isSome

theorem filter_label_eq_nil {label : String} (h : intOfDigits? label.toList = none) :
    (pageWindow page totalPages).filter (fun n => escape (intText n) == label) = [] := by
  refine List.filter_eq_nil_iff.2 fun n hn hlabel => ?_
  have hnumber := intOfDigits?_of_mem_pageWindow hn
  rw [eq_of_beq hlabel, h] at hnumber
  cases hnumber

theorem leadTo_prev (h : 1 < totalPages) :
    LeadTo path pairs ((listLinks path pairs page totalPages).filter fun l => l.label == prevLabel)
      (previous page) := by
  have hnext : (nextLabel == prevLabel) = false := by decide
  simpa [shownTo, hnext, filter_label_eq_nil intOfDigits?_prevLabel] using
    leadTo_filter path pairs page h fun l => l.label == prevLabel

theorem leadTo_next (h : 1 < totalPages) :
    LeadTo path pairs ((listLinks path pairs page totalPages).filter fun l => l.label == nextLabel)
      (next page totalPages) := by
  have hprev : (prevLabel == nextLabel) = false := by decide
  simpa [shownTo, hprev, filter_label_eq_nil intOfDigits?_nextLabel] using
    leadTo_filter path pairs page h fun l => l.label == nextLabel

theorem isActive_iff (h : 1 < totalPages) {l : ShownLink}
    (hl : l ∈ listLinks path pairs page totalPages) :
    l.isActive ↔ l.number? = some page := by
  rw [listLinks_eq path pairs page h] at hl
  simp only [List.mem_append, List.mem_map] at hl
  rcases hl with (⟨n, -, rfl⟩ | ⟨n, hn, rfl⟩) | ⟨n, -, rfl⟩
  · rw [number?_prev]
    simp [shownTo]
  · rw [number?_of_mem hn]
    simp [shownTo]
  · rw [number?_next]
    simp [shownTo]

/-! ## Links of a page -/

/-- The links around a page that exists. `current`: one has its number. `active`: that one is
marked. `prev`, `next`: the others lead to the pages before and behind it, as far as they exist. -/
structure Surrounds (path : String) (pairs : List (String × String)) (page totalPages : Int)
    (ls : List ShownLink) :
    Prop where
  current : (ls.filterMap ShownLink.number?).count page = 1
  active : ∀ l ∈ ls, l.isActive ↔ l.number? = some page
  prev : LeadTo path pairs (ls.filter fun l => l.label == prevLabel)
    (if 1 < page then [page - 1] else [])
  next : LeadTo path pairs (ls.filter fun l => l.label == nextLabel)
    (if page < totalPages then [page + 1] else [])

/-- Links lead to pages of a list. `targets`: every link leads to one, and carries the parameters
there. `numbered`: a number leads to its page. `chain`, `length`: the numbers follow each other, and
are at most five. `surrounds`: if the page shown exists and is not the only one, they surround
it. -/
structure LeadsToPages (path : String) (pairs : List (String × String)) (page totalPages : Int)
    (ls : List ShownLink) :
    Prop where
  targets : ∀ l ∈ ls, ∃ n, 1 ≤ n ∧ n ≤ totalPages ∧ l.parameters = carried path pairs n
  numbered : LeadTo path pairs (ls.filter fun l => l.number?.isSome)
    (ls.filterMap ShownLink.number?)
  chain : (ls.filterMap ShownLink.number?).IsChain fun a b => b = a + 1
  length : (ls.filterMap ShownLink.number?).length ≤ 5
  surrounds : page ≤ totalPages → 1 < totalPages → Surrounds path pairs page totalPages ls

/-- A list of one page has no links. -/
theorem leadsToPages_single (h : totalPages ≤ 1) :
    LeadsToPages path pairs page totalPages (listLinks path pairs page totalPages) := by
  have hnone : listLinks path pairs page totalPages = [] := by
    rw [listLinks, pagination_single h, shownLinksAll]
  rw [hnone]
  constructor
  case targets => simp
  case numbered => rfl
  case chain => exact .nil
  case length => simp
  case surrounds => exact fun _ hmany => absurd hmany (Int.not_lt.2 h)

/-- Further behind the last page, the page before the one shown does not exist either. -/
theorem le_of_leadsToPages (hmany : 1 < totalPages)
    (h : LeadsToPages path pairs page totalPages (listLinks path pairs page totalPages)) :
    page ≤ totalPages + 1 := by
  refine Int.not_lt.1 fun hbehind => ?_
  have hfirst : 1 < page := by omega
  have hprev : page - 1 ∈ previous page ++ pageWindow page totalPages ++ next page totalPages := by
    simp [previous, hfirst]
  obtain ⟨l, hl, hcarried⟩ := (leadTo_listLinks path pairs page hmany).exists_link hprev
  obtain ⟨n, hn, hlast, hparameters⟩ := h.targets l hl
  have hpage : page - 1 = n := carried_inj (by omega) (by omega) (hcarried.symm.trans hparameters)
  omega

/-- The links of a list lead to its pages exactly if there are none or the current page is at most
one past the last. -/
theorem leadsToPages_iff (path : String) (pairs : List (String × String)) (h : 1 ≤ page) :
    LeadsToPages path pairs page totalPages (listLinks path pairs page totalPages) ↔
      totalPages ≤ 1 ∨ page ≤ totalPages + 1 := by
  rcases Int.lt_or_le 1 totalPages with hmany | hsingle
  · refine ⟨fun hleads => .inr (le_of_leadsToPages hmany hleads), fun hpage => ?_⟩
    have hnumbers := numbers_listLinks path pairs page hmany
    constructor
    case targets =>
      intro l hl
      obtain ⟨n, hn, hcarried⟩ := (leadTo_listLinks path pairs page hmany).exists_page hl
      obtain ⟨hfirst, hlast⟩ := bounds_of_mem_targets h (by omega) hn
      exact ⟨n, hfirst, hlast, hcarried⟩
    case numbered =>
      rw [hnumbers]
      exact leadTo_numbers hmany
    case chain =>
      rw [hnumbers]
      exact isChain_pageWindow ..
    case length =>
      rw [hnumbers]
      exact length_pageWindow_le ..
    case surrounds =>
      intro hlast _
      constructor
      case current =>
        rw [hnumbers]
        exact count_pageWindow h hlast
      case active => exact fun l hl => isActive_iff hmany hl
      case prev => exact leadTo_prev hmany
      case next => exact leadTo_next hmany
  · exact iff_of_true (leadsToPages_single hsingle) (.inl hsingle)

theorem leadsToPages_iff_fifth : 1 ≤ (5 : Int) ∧
    LeadsToPages "/admin/visitor-activity" [("country", "DE")] 5 9
      (listLinks "/admin/visitor-activity" [("country", "DE")] 5 9) :=
  ⟨by decide, (leadsToPages_iff _ _ (by decide)).2 (.inr (by decide))⟩

/-- Behind the last of three pages, the link to the previous page leads to the fourth. -/
theorem not_leadsToPages_behind :
    ¬LeadsToPages "/admin/home" [] 5 3 (listLinks "/admin/home" [] 5 3) := by
  intro h
  have hlast : (5 : Int) ≤ 3 + 1 := le_of_leadsToPages (by decide) h
  exact absurd hlast (by decide)

end Dashboard

end VisitLog

import VisitLog.Proofs.Forms
import VisitLog.Proofs.Hyperlinks
import VisitLog.Service

/-!
# Where links of the dashboard lead

A link goes through two writers: its parameters are written as a form, and its address is escaped
where the page is written. Both are undone. Every page of the dashboard is a plain tree, part by
part, so the links in its text are those that it was made with: the addresses of pages with any
parameters, and those that the service was set up with.

Main statement: `Service.linksReadBack`.
-/

namespace VisitLog

namespace Dashboard

open Html Text

variable {good : String → Prop}

theorem leadsTo_crumbItems {cs : List Crumb} (h : ∀ c ∈ cs.dropLast, good c.url) :
    ∀ x ∈ crumbItems cs, LeadsTo good x := by
  fun_induction crumbItems cs with
  | case1 => simp
  | case2 c => simp [Attribute.LeadsTo, isName]
  | case3 c cs hcs ih =>
    rw [List.dropLast_cons_of_ne_nil (by simpa using hcs)] at h
    obtain ⟨hc, hrest⟩ := List.forall_mem_cons.1 h
    simpa [isName, hc] using ih hrest

theorem leadsTo_breadcrumbs {cs : List Crumb} (h : ∀ c ∈ cs.dropLast, good c.url) :
    ∀ x ∈ breadcrumbs cs, LeadsTo good x := by
  cases cs with
  | nil => simp [breadcrumbs]
  | cons c cs => simpa [breadcrumbs, Attribute.LeadsTo, isName] using leadsTo_crumbItems h

@[simp] theorem leadsTo_alertDanger (message : String) : LeadsTo good (alertDanger message) := by
  simp [alertDanger, Attribute.LeadsTo, isName]

@[simp] theorem leadsTo_alertInfo (message : String) : LeadsTo good (alertInfo message) := by
  simp [alertInfo, isName]

/-- The links between the pages of a list are all built from its address. -/
theorem leadsTo_pagination {path : String} {pairs : List (String × String)} (page totalPages : Int)
    (h : ∀ n, good (Page.address path (pairs ++ [("page", intText n)]))) :
    ∀ x ∈ pagination path pairs page totalPages, LeadsTo good x := by
  have hlink (n : Int) {content : List Html} (hcontent : ∀ x ∈ content, LeadsTo good x) :
      LeadsTo good (pageLink path pairs n content) := by
    simpa [pageLink, Attribute.LeadsTo, isName, h] using hcontent
  have hprev : IsInert "&laquo; Prev" := fun _ => rfl
  have hnext : IsInert "Next &raquo;" := fun _ => rfl
  unfold pagination
  split
  · simp
  · simp only [List.mem_singleton, forall_eq, leadsTo_plain, leadsTo_ofClass,
      List.forall_mem_append]
    refine ⟨rfl, rfl, ⟨?back, ?numbers⟩, ?forward⟩
    case back => split <;> simp [isName, hlink, hprev]
    case numbers => simp [isName, hlink]
    case forward => split <;> simp [isName, hlink, hnext]

section

variable {α : Type} {xs : List α} {row : α → List Html}

theorem leadsTo_table (headers : List String) (h : ∀ x ∈ xs, ∀ cell ∈ row x, LeadsTo good cell) :
    LeadsTo good (table headers (xs.map row)) := by
  simp only [table, leadsTo_ofClass, leadsTo_plain, List.forall_mem_cons, List.forall_mem_map]
  simpa [isName] using h

/-- A table, or the message that there is nothing to show. -/
theorem leadsTo_orTable (message : String) (headers : List String)
    (h : ∀ x ∈ xs, ∀ cell ∈ row x, LeadsTo good cell) :
    LeadsTo good (if xs.isEmpty then alertInfo message else table headers (xs.map row)) := by
  split
  · simp
  · exact leadsTo_table headers h

end

@[simp] theorem leadsTo_card {title : String} {body : List Html} :
    LeadsTo good (card title body) ↔ ∀ x ∈ body, LeadsTo good x := by
  simp [card, isName]

theorem leadsTo_filterForm (path : String) {fields : List Field}
    (h : ∀ f ∈ fields, '"' ∉ f.name.toList) :
    LeadsTo good (filterForm path fields) := by
  simp only [filterForm, leadsTo_element, List.forall_mem_append, List.forall_mem_cons,
    List.forall_mem_map]
  simpa [Attribute.LeadsTo, isName] using h

theorem isInert_styleSheet : IsInert styleSheet := by
  have hrules : ∀ r ∈ styleRules, IsInert r.1 ∧ IsInert r.2 := by
    simp only [styleRules, List.forall_mem_cons, List.not_mem_nil, false_imp_iff,
      implies_true, and_true]
    and_intros
    all_goals try with_reducible refine isInert_append ?_ ?_
    all_goals exact isInert_ofList rfl
  refine isInert_append (isInert_ofList rfl) (isInert_join (List.forall_mem_map.2 fun r hr => ?_))
  obtain ⟨hselector, hdeclarations⟩ := hrules r hr
  have hopen : IsInert (r.1 ++ " \x7b ") := isInert_append hselector (isInert_ofList rfl)
  exact isInert_append (isInert_append hopen hdeclarations) (isInert_ofList rfl)

theorem leadsTo_layout (title : String) {cs : List Crumb} {body : List Html}
    (hpages : ∀ p : Page, good (p.url [])) (hcs : ∀ c ∈ cs.dropLast, good c.url)
    (hbody : ∀ x ∈ body, LeadsTo good x) :
    ∀ x ∈ layout title cs body, LeadsTo good x := by
  have hdoctype : IsInert "<!DOCTYPE html>" := fun _ => rfl
  have hnewline : LeadsTo good newline := .verbatim fun _ => rfl
  simp only [layout, List.forall_mem_cons, List.forall_mem_append, List.forall_mem_flatMap,
    leadsTo_element, leadsTo_verbatim, leadsTo_plain]
  simp [Attribute.LeadsTo, isName, hdoctype, isInert_styleSheet, hnewline]
  exact ⟨fun p _ _ => hpages p, leadsTo_breadcrumbs hcs, hbody⟩

/-! ## Pages -/

section

variable {homeUrl websiteUrl : String} {s : Store} {now : Instant} {ps : Parameters} {p : Pool}

/-- The home page has no other links than those of its settings and those to the pages. -/
theorem leadsTo_homePage [Engine] (hhome : good homeUrl) (hwebsite : good websiteUrl)
    (hpages : ∀ (p : Page) pairs, good (p.url pairs)) (cache : StatsCache) :
    ∀ x ∈ (Home.render s homeUrl websiteUrl now p cache).1, LeadsTo good x := by
  refine leadsTo_layout _ (hpages · []) (by simpa using hhome) ?_
  simp only [List.cons_append, List.forall_mem_cons, List.forall_mem_append]
  refine ⟨?cards, ?numbers, ?website⟩
  case cards => simp [Home.pageCards, Home.pageCard, isName, hpages]
  case numbers =>
    split
    · next stats _ =>
      have hdays : LeadsTo good (Home.daysTable stats) := leadsTo_table _ (by simp)
      simp [Home.summaryCards, Home.stat, hdays, isName]
    · simp
  case website =>
    split
    · simp
    · simp [isName, hwebsite]

variable (hhome : good homeUrl) (hpages : ∀ (p : Page) pairs, good (p.url pairs))

include hpages in
theorem leadsTo_links (l : Listing) (page : Page) : ∀ x ∈ l.links page, LeadsTo good x :=
  leadsTo_pagination _ _ fun _ => hpages page _

include hpages in
theorem leadsTo_row (v : Visitor) : ∀ cell ∈ VisitorActivity.row v, LeadsTo good cell := by
  simp [VisitorActivity.row, VisitorActivity.deviceLabel, detailUrl, versioned, cut,
    Attribute.LeadsTo, isName, hpages]

include hpages in
theorem leadsTo_listBody (l : Listing) : ∀ x ∈ VisitorActivity.listBody l, LeadsTo good x := by
  simp only [VisitorActivity.listBody, List.forall_mem_cons, leadsTo_card]
  refine ⟨leadsTo_filterForm _ ?_, ⟨leadsTo_orTable _ _ ?_, ?_, leadsTo_links hpages l _⟩, by simp⟩
  · simp [Listing.commonFields]
  · exact fun v _ => leadsTo_row hpages v
  · simp [isName]

include hpages in
theorem leadsTo_detailBody (v : Visitor) (related : List Visitor) :
    ∀ x ∈ VisitorActivity.detailBody v related, LeadsTo good x := by
  simp only [VisitorActivity.detailBody, List.forall_mem_cons, leadsTo_card]
  refine ⟨⟨leadsTo_table _ ?_, by simp⟩, ⟨leadsTo_orTable _ _ ?_, by simp⟩, by simp⟩
  · simp
  · exact fun v _ => leadsTo_row hpages v

include hhome hpages in
theorem leadsTo_visitorActivity [Engine] : ∀ x ∈ VisitorActivity.render s homeUrl now ps p,
    LeadsTo good x := by
  simp only [VisitorActivity.render]
  split
  · refine leadsTo_layout _ (hpages · []) (by simp [trail, hhome, hpages]) ?_
    split
    · exact leadsTo_listBody hpages _
    · simp
  · refine leadsTo_layout _ (hpages · []) (by simp [trail, hhome, hpages]) ?_
    split
    · exact leadsTo_detailBody hpages _ _
    · simp
    · simp

theorem leadsTo_sessionBlocks (ss : List Session) : ∀ x ∈ VisitorPaths.sessionBlocks ss,
    LeadsTo good x := by
  have hblock (s : Session) : ∀ x ∈ VisitorPaths.sessionBlock s, LeadsTo good x := by
    have hsteps (step : SessionStep) : ∀ cell ∈ VisitorPaths.stepRow step, LeadsTo good cell := by
      simp [VisitorPaths.stepRow, cut]
    simp [VisitorPaths.sessionBlock, isName, leadsTo_table _ fun step _ => hsteps step]
  unfold VisitorPaths.sessionBlocks
  split
  · simp
  · simpa only [List.forall_mem_flatMap] using fun s _ => hblock s

include hpages in
theorem leadsTo_pathsBody (l : Listing) (ss : List Session) :
    ∀ x ∈ VisitorPaths.body l ss, LeadsTo good x := by
  simp only [VisitorPaths.body, List.forall_mem_cons, leadsTo_card]
  have hsessions : ∀ x ∈ VisitorPaths.sessionBlocks ss, LeadsTo good x := leadsTo_sessionBlocks ss
  refine ⟨leadsTo_filterForm _ ?_, ⟨leadsTo_orTable _ _ ?_, leadsTo_links hpages l _⟩,
    hsessions, by simp⟩
  · simp [Listing.commonFields]
  · simp [VisitorPaths.row, cut]

include hhome hpages in
theorem leadsTo_visitorPaths [Engine] : ∀ x ∈ VisitorPaths.render s homeUrl now ps p,
    LeadsTo good x := by
  refine leadsTo_layout _ (hpages · []) (by simp [trail, hhome, hpages]) ?_
  split
  · exact leadsTo_pathsBody hpages _ _
  · simp

include hpages in
theorem leadsTo_pageViewsBody (l : Listing) : ∀ x ∈ PageViews.body l, LeadsTo good x := by
  simp only [PageViews.body, List.forall_mem_cons, leadsTo_card]
  refine ⟨leadsTo_filterForm _ ?_, ⟨leadsTo_orTable _ _ ?_, leadsTo_links hpages l _⟩, by simp⟩
  · simp [Listing.commonFields]
  · simp [PageViews.row, detailUrl, versioned, cut, hpages]

include hhome hpages in
theorem leadsTo_pageViews [Engine] : ∀ x ∈ PageViews.render s homeUrl now ps p, LeadsTo good x := by
  refine leadsTo_layout _ (hpages · []) (by simp [trail, hhome, hpages]) ?_
  split
  · exact leadsTo_pageViewsBody hpages _
  · simp

end

end Dashboard

namespace Service

open Html

variable [Engine]

/-- A target of the links of the dashboard: the address of one of its pages, or one of those that
the service was set up with. -/
def IsTarget (s : Service) (u : String) : Prop :=
  u = s.homeUrl ∨ u = s.websiteUrl ∨ ∃ (p : Page) (pairs : List (String × String)), u = p.url pairs

/-- The markup of a page. -/
def markup (s : Service) (now : Instant) (p : Page) (ps : Parameters)
    (t : ServiceState) : List Html :=
  match p with
  | .home => (Dashboard.Home.render s.store s.homeUrl s.websiteUrl now t.pool t.cache).1
  | .visitorActivity => Dashboard.VisitorActivity.render s.store s.homeUrl now ps t.pool
  | .visitorPaths => Dashboard.VisitorPaths.render s.store s.homeUrl now ps t.pool
  | .pageViews => Dashboard.PageViews.render s.store s.homeUrl now ps t.pool

theorem leadsTo_markup (s : Service) (now : Instant) (p : Page) (ps : Parameters)
    (t : ServiceState) :
    ∀ x ∈ s.markup now p ps t, LeadsTo s.IsTarget x := by
  have hhome : s.IsTarget s.homeUrl := .inl rfl
  have hwebsite : s.IsTarget s.websiteUrl := .inr (.inl rfl)
  have hpages (p : Page) (pairs : List (String × String)) : s.IsTarget (p.url pairs) :=
    .inr (.inr ⟨p, pairs, rfl⟩)
  cases p with
  | home => exact Dashboard.leadsTo_homePage hhome hwebsite hpages _
  | visitorActivity => exact Dashboard.leadsTo_visitorActivity hhome hpages
  | visitorPaths => exact Dashboard.leadsTo_visitorPaths hhome hpages
  | pageViews => exact Dashboard.leadsTo_pageViews hhome hpages

/-- Links are read back. `parameters`: an address has its page and the parameters that are not
empty. `unescape`, `delimiters`, `ampersands`: an escaped text has its characters, no delimiter, and
no ampersand but those of entities. `link`: a link in a text has its target, whatever its label.
`pagination`, `pages`: the links in the text of a page are those of its tree, and lead to
targets. -/
structure LinksReadBack : Prop where
  parameters : ∀ (path : String) (pairs : List (String × String)),
    Page.parametersOf (Page.address path pairs) = ("path", path) :: pairs.filter
      fun p => !p.2.isEmpty
  unescape : ∀ s, unescape (escape s) = s
  delimiters : ∀ s, ∀ c ∈ ['<', '>', '"', '\''], c ∉ (escape s).toList
  ampersands : ∀ s before after, (escape s).toList = before ++ '&' :: after → ∃ e ∈ entities,
    e.toList <+: '&' :: after
  link : ∀ target label, linksIn (render (link target [.text label])) = [target]
  pagination : ∀ (path : String) (pairs : List (String × String)) (page totalPages : Int),
    ReadsBack (fun u => ∃ n, u = Page.address path (pairs ++ [("page", Text.intText n)]))
      (Dashboard.pagination path pairs page totalPages)
  pages : ∀ (s : Service) (now : Instant) (p : Page) (ps : Parameters) (t : ServiceState),
    (s.showPage now p ps t).1.body = renderAll (s.markup now p ps t) ∧
    ReadsBack s.IsTarget (s.markup now p ps t)

/-- Both encodings of a link are undone by reading it: that of its parameters and that of its text,
for the links that the pages show as well. -/
theorem linksReadBack : LinksReadBack where
  parameters := Page.parametersOf_address
  unescape := unescape_escape
  delimiters := by
    intro s c hc
    have hdelimiter : isDelimiter c := by
      simp only [List.mem_cons, List.not_mem_nil, or_false] at hc
      simpa [isDelimiter, or_assoc] using hc
    rw [escape, String.toList_ofList]
    exact not_mem_escapeChars hdelimiter _
  ampersands := by
    intro s before after h
    rw [escape, String.toList_ofList] at h
    exact exists_entity_of_escapeChars h
  link := by
    intro target label
    have hlink : ∀ x ∈ [Html.link target [.text label]], LeadsTo (fun _ => True) x := by simp
    have hread := linksIn_renderAll hlink
    rwa [renderAll, renderAll, String.append_empty] at hread
  pagination path pairs page totalPages :=
    readsBack (Dashboard.leadsTo_pagination _ _ fun n => ⟨n, rfl⟩)
  pages s now p ps t := by
    refine ⟨?_, readsBack (s.leadsTo_markup now p ps t)⟩
    cases p <;> rfl

end Service

end VisitLog

import VisitLog.Dashboard.Filters
import VisitLog.Dashboard.Parts
import VisitLog.Store

/-!
# Lists of visits

What the three list pages share: a page of visits under filters with the number of all that match,
the form and the page links that keep the filters.

Main statement: `load_eq_error_of_closed`.
-/

namespace VisitLog.Dashboard

open Html Text

/-- A page of visits under filters. -/
structure Listing where
  visitors : List Visitor
  paging : Paging
  totalCount : Nat
  filters : Filters

namespace Listing

/-- The number of pages. -/
def totalPages (l : Listing) : Int :=
  Paging.totalPages l.totalCount l.paging.perPage

/-- The page of visits that parameters ask for under filters. -/
def load [Engine] (s : Store) (now : Instant) (ps : Parameters) (filters : Filters) (p : Pool) :
    Except Failure Listing := do
  let paging := Paging.ofParameters ps
  let options := filters.options paging
  let visitors ← s.list now options p
  let count ← s.count now { options with limit := 0, offset := 0 } p
  return { visitors := visitors, paging := paging, totalCount := count, filters := filters }

/-- The parameters that links to other pages of the list carry. -/
def pairs (l : Listing) : List (String × String) :=
  l.filters.pairs ++ [("per_page", intText l.paging.perPage)]

/-- The links to other pages of the list. -/
def links (l : Listing) (page : Page) : List Html :=
  pagination page.path l.pairs l.paging.page l.totalPages

/-- The fields for bounds, country and device. -/
def commonFields (l : Listing) : List Field :=
  [⟨"from", "From", l.filters.createdFrom⟩, ⟨"to", "To", l.filters.createdTo⟩,
    ⟨"country", "Country (or empty)", l.filters.country⟩,
    ⟨"device", "Device type", l.filters.device⟩]

end Listing

/-- The trail to a page of the dashboard. -/
def trail (homeUrl : String) (rest : List Crumb) : List Crumb :=
  ⟨"Home", homeUrl⟩ :: ⟨"Visitor Analytics", Page.home.url []⟩ :: rest

/-- A text that is cut when it is long. -/
def cut (most : Nat) (s : String) : Html := .text (abbreviate most s)

/-- A name and its version. -/
def versioned (name version : String) : Html := .text (name ++ " " ++ version)

/-- The address of the page of one visit. -/
def detailUrl (v : Visitor) : String :=
  Page.visitorActivity.url [("visitor_id", v.value .id)]

theorem load_eq_error_of_closed [Engine] {s : Store} {now : Instant} {ps : Parameters}
    {filters : Filters} {p : Pool}
    (h : p.isClosed = true) : ∃ failure, Listing.load s now ps filters p =
    .error failure := by
  simp only [Listing.load, Store.list, Pool.read, h, if_true, bind, Except.bind]
  cases Query.ofOptions s.table now (filters.options (Paging.ofParameters ps)) <;> exact ⟨_, rfl⟩

end VisitLog.Dashboard

import VisitLog.Dashboard.Lists

/-!
# Page views

Every page view, newest first. The filter on the browser narrows the page that is shown; the number
of pages does not depend on it.

Main statement: `byBrowser_empty`.
-/

namespace VisitLog.Dashboard.PageViews

open Html Text

/-- The visits whose browser contains a text, whatever its case; an empty text keeps all. -/
def byBrowser (browser : String) (vs : List Visitor) : List Visitor :=
  if browser.isEmpty then vs
  else vs.filter fun v => containsText (lower (v.value .userBrowser)) (lower browser)

/-- A visit as a row. -/
def row (v : Visitor) : List Html :=
  [link (detailUrl v) [.text (v.value .createdAt)], cut 80 (v.value .path),
    .text (v.value .ipAddress), .text (v.value .country),
    versioned (v.value .userBrowser) (v.value .userBrowserVersion), .text (v.value .userDeviceType)]

/-- The list with its form. -/
def body (l : Listing) : List Html :=
  let shown :=
    if l.visitors.isEmpty then alertInfo "No page views found"
    else table ["Time", "Path", "IP address", "Country", "Browser", "Device"] (l.visitors.map row)
  [filterForm Page.pageViews.path (l.commonFields ++ [⟨"browser", "Browser", l.filters.browser⟩]),
    card "Page Views" (shown :: l.links .pageViews)]

/-- The list takes no filters on the path. -/
def filters (ps : Parameters) (now : Instant) : Filters :=
  { Filters.ofParameters ps now with pathContains := "", pathExact := "" }

/-- What the page shows. -/
def load [Engine] (s : Store) (now : Instant) (ps : Parameters) (p : Pool) :
    Except Failure Listing := do
  let l ← Listing.load s now ps (filters ps now) p
  return { l with visitors := byBrowser l.filters.browser l.visitors }

/-- The page that parameters ask for. -/
def render [Engine] (s : Store) (homeUrl : String) (now : Instant) (ps : Parameters)
    (p : Pool) : List Html :=
  let content :=
    match load s now ps p with
    | .ok l => body l
    | .error failure => [alertDanger failure.shown]
  layout "Page View Activity" (trail homeUrl [⟨"Page View Activity", ""⟩]) content

@[simp] theorem byBrowser_empty (vs : List Visitor) : byBrowser "" vs = vs := rfl

end VisitLog.Dashboard.PageViews

import VisitLog.Dashboard.Lists

/-!
# Visitor activity

The list of visits by time, country and device, and the page of one visit with related ones: recent
visits from the same address.

Main statement: `related_length_le`.
-/

namespace VisitLog.Dashboard.VisitorActivity

open Html Text

/-- Related visits are looked for among this many of the newest ones. -/
def relatedWindow : Int := 50

/-- Related visits are shown up to this number. -/
def relatedMost : Nat := 10

/-- The other visits from the address of a visit, among recent ones. -/
def related (v : Visitor) (recent : List Visitor) : List Visitor :=
  (recent.filter fun other =>
    other.value .id ≠ v.value .id ∧ other.value .ipAddress = v.value .ipAddress).take relatedMost

/-- The columns of the list. -/
def headers : List String :=
  ["Time", "IP address", "Country", "Device", "Browser", "OS", "Path", "Referrer"]

/-- The kind of device, with the device as its tooltip. -/
def deviceLabel (v : Visitor) : Html :=
  let kind := v.value .userDeviceType
  .element "span" [.text "class" "badge", .text "title" (v.value .userDevice)]
    [.text (if kind.isEmpty then "unknown" else kind)]

/-- A visit as a row: the cells in the order of the columns. -/
def row (v : Visitor) : List Html :=
  [.text (v.value .createdAt),
    link (detailUrl v) [.text (v.value .ipAddress)],
    .text (v.value .country),
    deviceLabel v,
    versioned (v.value .userBrowser) (v.value .userBrowserVersion),
    versioned (v.value .userOs) (v.value .userOsVersion),
    cut 60 (v.value .path),
    cut 40 (v.value .userReferrer)]

/-- Visits as a table. -/
def rowsTable (vs : List Visitor) : Html :=
  table headers (vs.map row)

/-- The list with its form. -/
def listBody (l : Listing) : List Html :=
  let shown := if l.visitors.isEmpty then alertInfo "No visitors found" else rowsTable l.visitors
  let footer :=
    ofClass "p" "muted"
      [.text ("Page " ++ intText l.paging.page ++ " of " ++ intText l.totalPages ++ " (" ++
        natText l.totalCount ++ " visits)")]
  [filterForm Page.visitorActivity.path l.commonFields,
    card "Visitor Activity" (shown :: footer :: l.links .visitorActivity)]

/-- The page of one visit. -/
def detailBody (v : Visitor) (related : List Visitor) : List Html :=
  [card "Visit" [table ["Field", "Value"] (v.data.map fun f => [.text f.1.name, .text f.2])],
    card "Related visits (same IP)"
      [if related.isEmpty then alertInfo "No other recent visits from this IP address"
        else rowsTable related]]

/-- The options that find the newest visits. -/
def recentOptions : Options :=
  { limit := relatedWindow, orderBy := some "created_at", sortOrder := some "DESC" }

/-- The visit of an identifier with its related ones. -/
def loadDetail [Engine] (s : Store) (now : Instant) (id : String) (p : Pool) :
    Except Failure (Option (Visitor × List Visitor)) := do
  match ← s.find now id p with
  | none => return none
  | some v =>
    let recent ← s.list now recentOptions p
    return some (v, related v recent)

/-- The list takes no filters on path and browser. -/
def filters (ps : Parameters) (now : Instant) : Filters :=
  { Filters.ofParameters ps now with pathContains := "", pathExact := "", browser := "" }

/-- The page that parameters ask for. -/
def render [Engine] (s : Store) (homeUrl : String) (now : Instant) (ps : Parameters)
    (p : Pool) : List Html :=
  let id := ps.text "visitor_id"
  let crumbs := trail homeUrl [⟨"Visitor Activity", Page.visitorActivity.url []⟩]
  if id.isEmpty then
    let body :=
      match Listing.load s now ps (filters ps now) p with
      | .ok l => listBody l
      | .error failure => [alertDanger failure.shown]
    layout "Visitor Activity" crumbs body
  else
    let body :=
      match loadDetail s now id p with
      | .ok (some (v, related)) => detailBody v related
      | .ok none => [alertDanger "Visitor not found"]
      | .error failure => [alertDanger failure.shown]
    layout "Visitor Activity" (crumbs ++ [⟨"Visit", ""⟩]) body

theorem related_length_le (v : Visitor) (recent : List Visitor) :
    (related v recent).length ≤ relatedMost := by
  simp only [related, List.length_take]
  omega

end VisitLog.Dashboard.VisitorActivity

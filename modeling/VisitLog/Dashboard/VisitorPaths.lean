import VisitLog.Dashboard.Lists
import VisitLog.Dashboard.Session

/-!
# Visitor paths

The list of visited paths, and the sessions of the last days.
-/

namespace VisitLog.Dashboard.VisitorPaths

open Html Text

/-- A visit as a row. -/
def row (v : Visitor) : List Html :=
  [.text (v.value .createdAt), cut 80 (v.value .path), .text (v.value .country),
    .text (v.value .userDeviceType), cut 40 (v.value .userReferrer)]

/-- Visits as a table. -/
def pathsTable (vs : List Visitor) : Html :=
  if vs.isEmpty then alertInfo "No visits found"
  else table ["Time", "Path", "Country", "Device", "Referrer"] (vs.map row)

/-- A step of a session as a row. -/
def stepRow (step : SessionStep) : List Html :=
  [.text step.time, cut 80 step.path, cut 40 step.referrer]

/-- A session: its address, the number of its steps, and the steps. -/
def sessionBlock (s : Session) : List Html :=
  [plain "h3"
      [.text s.ipAddress, .text " ",
        ofClass "span" "badge" [.text (natText s.steps.length ++ " visits")]],
    table ["Time", "Path", "Referrer"] (s.steps.map stepRow)]

/-- All sessions. -/
def sessionBlocks (ss : List Session) : List Html :=
  if ss.isEmpty then [alertInfo "No sessions in the last 31 days"] else ss.flatMap sessionBlock

/-- The list with its form, and the sessions. -/
def body (l : Listing) (sessions : List Session) : List Html :=
  [filterForm Page.visitorPaths.path
      (l.commonFields ++
        [⟨"path_contains", "Path contains", l.filters.pathContains⟩,
          ⟨"path_exact", "Exact path", l.filters.pathExact⟩]),
    card "Visited paths" (pathsTable l.visitors :: l.links .visitorPaths),
    card "Sessions" (sessionBlocks sessions)]

/-- The list takes no filter on the browser. -/
def filters (ps : Parameters) (now : Instant) : Filters :=
  { Filters.ofParameters ps now with browser := "" }

/-- What the page shows. -/
def load [Engine] (s : Store) (now : Instant) (ps : Parameters) (p : Pool) :
    Except Failure (Listing × List Session) := do
  let l ← Listing.load s now ps (filters ps now) p
  let sessions ← Session.recent s now p
  return (l, sessions)

/-- The page that parameters ask for. -/
def render [Engine] (s : Store) (homeUrl : String) (now : Instant) (ps : Parameters)
    (p : Pool) : List Html :=
  let content :=
    match load s now ps p with
    | .ok (l, sessions) => body l sessions
    | .error failure => [alertDanger failure.shown]
  layout "Visitor Paths" (trail homeUrl [⟨"Visitor Paths", ""⟩]) content

end VisitLog.Dashboard.VisitorPaths

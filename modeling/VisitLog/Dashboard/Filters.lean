import VisitLog.Calendar.Instant
import VisitLog.Dashboard.Paging
import VisitLog.Query.Options
import VisitLog.Text.Lowercase

/-!
# Dashboard filters

What the lists of the dashboard are narrowed to. A named range stands for bounds relative to the
clock and wins over explicit bounds; links carry the name of the range, so that it moves with the
clock.

Main statement: `pairs_ne_empty` (links carry no empty filter).
-/

namespace VisitLog

open Text

/-- The filters of a list; empty texts do not filter. -/
structure Filters where
  range : String := ""
  createdFrom : String := ""
  createdTo : String := ""
  country : String := ""
  device : String := ""
  pathContains : String := ""
  pathExact : String := ""
  browser : String := ""
  deriving DecidableEq, Repr, Inhabited

namespace Filters

/-- The filters as parameters of a link. -/
def pairs (f : Filters) : List (String × String) :=
  ((if f.range.isEmpty then [("from", f.createdFrom), ("to", f.createdTo)]
    else [("range", f.range)]) ++ [("country", f.country), ("device", f.device),
    ("path_contains", f.pathContains),
      ("path_exact", f.pathExact), ("browser", f.browser)]).filter fun p => !p.2.isEmpty

/-- Nothing is filtered. -/
def isEmpty (f : Filters) : Bool :=
  f.pairs.isEmpty

/-- The query for a page of visits, newest first. -/
def options (f : Filters) (paging : Paging) : Options :=
  { country := some f.country
    createdFrom := some f.createdFrom
    createdTo := some f.createdTo
    deviceType := some f.device
    pathContains := some f.pathContains
    pathExact := some f.pathExact
    limit := paging.perPage
    offset := paging.offset
    orderBy := some "created_at"
    sortOrder := some "DESC" }

/-- The bounds of a named range at a clock. -/
def bounds? (range : String) (now : Instant) : Option (Instant × Instant) :=
  let name := lower range
  if name ∈ ["24h", "last24hours", "last_24_hours"] then some (now.addDays (-1), now)
  else if name = "today" then
    let start := Instant.midnight now.date
    some (start, start.addDays 1)
  else if name ∈ ["7d", "last7days"] then some (now.addDays (-7), now)
  else if name ∈ ["30d", "last30days"] then some (now.addDays (-30), now)
  else none

/-- The filters that parameters ask for at a clock. -/
def ofParameters (ps : Parameters) (now : Instant) : Filters :=
  let given : Filters :=
    { range := ps.text "range"
      createdFrom := ps.text "from"
      createdTo := ps.text "to"
      country := ps.text "country"
      device := ps.text "device"
      pathContains := ps.text "path_contains"
      pathExact := ps.text "path_exact"
      browser := ps.text "browser" }
  match bounds? given.range now with
  | some (start, stop) => { given with createdFrom := start.rfc3339, createdTo := stop.rfc3339 }
  | none => given

theorem pairs_ne_empty {f : Filters} {p : String × String} (h : p ∈ f.pairs) : p.2 ≠ "" := by
  have := (List.mem_filter.1 h).2
  intro e
  simp [e] at this

end Filters

end VisitLog

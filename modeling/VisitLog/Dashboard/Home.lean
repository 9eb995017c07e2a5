import VisitLog.Dashboard.DailyStats
import VisitLog.Dashboard.Parts

/-!
# The home page of the dashboard

Links to the other pages, sums and averages of the last days, and the days themselves.
-/

namespace VisitLog.Dashboard.Home

open Html Text

/-- The days shown, today included. -/
def days : Nat := 31

/-- A link to a page with a sentence on it. -/
def pageCard (title : String) (page : Page) (sentence : String) : Html :=
  ofClass "div" "card stat"
    [ofClass "div" "card-body"
      [link (page.url []) [plain "strong" [.text title]], ofClass "p" "muted" [.text sentence]]]

/-- The links to the other pages. -/
def pageCards : Html :=
  ofClass "div" "stats"
    [pageCard "Visitor Activity" .visitorActivity "Track visitor interactions",
      pageCard "Visitor Paths" .visitorPaths "See how visitors move through the site",
      pageCard "Page View Activity" .pageViews "Every page view, newest first"]

/-- A number under its name. -/
def stat (label value : String) : Html :=
  ofClass "div" "stat" [ofClass "div" "muted" [.text label], ofClass "div" "value" [.text value]]

/-- Sums and averages. -/
def summaryCards (s : Summary) : Html :=
  ofClass "div" "stats"
    [stat "Total visits" (intText s.total), stat "Unique visits" (intText s.unique),
      stat "Avg visits / day" s.averageTotal.oneDecimal,
      stat "Avg unique / day" s.averageUnique.oneDecimal]

/-- The days, newest first. -/
def daysTable (stats : List (Date × DailyStats)) : Html :=
  table ["Date", "Unique visits", "Total visits"]
    (stats.reverse.map fun d =>
      [.text d.1.text, .text (intText d.2.unique), .text (intText d.2.total)])

/-- The days shown at a clock. -/
def shownDays (now : Instant) : List Date :=
  Date.range (now.date.addDays (1 - (days : Int))) now.date

/-- The page and the cache after it. -/
def render [Engine] (s : Store) (homeUrl websiteUrl : String) (now : Instant) (p : Pool)
    (cache : StatsCache) : List Html × StatsCache :=
  let (stats, cache) := DailyStats.ofDays s now p (shownDays now) cache
  let numbers :=
    match stats with
    | .ok stats =>
      [card ("Last " ++ natText days ++ " days")
          [summaryCards (Summary.ofDays (stats.map Prod.snd))],
        card "Daily visits" [daysTable stats]]
    | .error failure => [alertDanger failure.shown]
  let website :=
    if websiteUrl.isEmpty then []
    else [ofClass "p" "muted" [.text "Tracking ", link websiteUrl [.text websiteUrl]]]
  (layout "Dashboard" [⟨"Home", homeUrl⟩, ⟨"Visitor Analytics", ""⟩]
    (pageCards :: numbers ++ website), cache)

end VisitLog.Dashboard.Home

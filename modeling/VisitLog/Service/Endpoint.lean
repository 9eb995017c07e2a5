import VisitLog.Dashboard.Page
import VisitLog.Text.Search

/-!
# Endpoints

The paths that the service knows, and the methods that each of them answers.

Main statement: `ofPath?_page` (every page of the dashboard has its own path).
-/

namespace VisitLog

open Text

/-- What a path leads to. -/
inductive Endpoint where
  /-- The dashboard; the page is named in the query. -/
  | dashboard
  | page (p : Page)
  | visitors
  | visitorCount
  /-- One record, by its identifier as it stands in the path. -/
  | visitor (segment : List Char)
  | health
  /-- Where pages report their visits. -/
  | visits
  deriving DecidableEq, Repr

namespace Endpoint

/-- The part of a path behind `/v1/visitors/`, if it is one segment. -/
def segment? (path : String) : Option (List Char) :=
  match dropLiteral? "/v1/visitors/".toList path.toList with
  | some [] => none
  | some cs => if cs.contains '/' then none else some cs
  | none => none

/-- The endpoint of a path. -/
def ofPath? (path : String) : Option Endpoint :=
  match Page.all.find? fun p => p.path == path with
  | some p => some (page p)
  | none =>
    if path = Page.dashboard then some dashboard
    else if path = "/v1/visitors" then some visitors
    else if path = "/v1/visitors/count" then some visitorCount
    else if path = "/health" then some health
    else if path = "/v1/visits" then some visits
    else (segment? path).map visitor

/-- The methods that an endpoint answers. -/
def methods : Endpoint → List String
  | visitor _ => ["GET", "HEAD", "DELETE"]
  | visits => ["POST"]
  | _ => ["GET", "HEAD"]

/-- Only the administrator may use the endpoint. -/
def isGuarded : Endpoint → Bool
  | health | visits => false
  | _ => true

theorem ofPath?_page (p : Page) : ofPath? p.path = some (page p) := by
  cases p <;> rfl

end Endpoint

end VisitLog

import VisitLog.Text.Form

/-!
# Dashboard pages and their addresses

The four pages of the dashboard, and links to them. A link names its page in the query, followed by
the parameters that are not empty.

Main statement: `ofPath_path`.
-/

namespace VisitLog

/-- A page of the dashboard. -/
inductive Page where
  | home
  | visitorActivity
  | visitorPaths
  | pageViews
  deriving DecidableEq, Repr

namespace Page

/-- Every page, in the order of the navigation. -/
def all : List Page := [home, visitorActivity, visitorPaths, pageViews]

/-- The path of a page. -/
def path : Page → String
  | home => "/admin/home"
  | visitorActivity => "/admin/visitor-activity"
  | visitorPaths => "/admin/visitor-paths"
  | pageViews => "/admin/page-view-activity"

/-- The page of a path; all other paths lead home. -/
def ofPath (s : String) : Page :=
  (all.find? fun p => p.path == s).getD home

/-- The address of the dashboard. -/
def dashboard : String := "/admin"

/-- The address of a page path with parameters; empty ones are left out. -/
def address (path : String) (pairs : List (String × String)) : String :=
  dashboard ++ "?" ++
    String.ofList (Text.Form.encode (("path", path) :: pairs.filter fun p => !p.2.isEmpty))

/-- The address of a page with parameters. -/
def url (p : Page) (pairs : List (String × String)) : String :=
  address p.path pairs

theorem ofPath_path (p : Page) : ofPath p.path = p := by
  cases p <;> rfl

end Page

end VisitLog

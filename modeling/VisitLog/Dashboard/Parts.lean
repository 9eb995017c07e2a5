import VisitLog.Dashboard.Html
import VisitLog.Dashboard.Page
import VisitLog.Text.Digits

/-!
# Parts of dashboard pages

Breadcrumbs, alerts, page links, tables, cards, filter forms and the frame of a page.

Main statement: `pagination_single` (a list of one page has no page links).
-/

namespace VisitLog.Dashboard

open Html

/-- A step of the trail that leads to a page: its name and its address. -/
structure Crumb where
  name : String
  url : String
  deriving DecidableEq, Repr

/-- The trail up to the current page, which is last and is no link. -/
def crumbItems : List Crumb → List Html
  | [] => []
  | [c] =>
    [.element "li" [.text "class" "breadcrumb-item active", .text "aria-current" "page"]
      [.text c.name]]
  | c :: cs => ofClass "li" "breadcrumb-item" [link c.url [.text c.name]] :: crumbItems cs

/-- The trail; nothing for an empty one. -/
def breadcrumbs (cs : List Crumb) : List Html :=
  match cs with
  | [] => []
  | cs =>
    [.element "nav" [.text "aria-label" "breadcrumb"] [ofClass "ol" "breadcrumb" (crumbItems cs)]]

/-- A message that something failed. -/
def alertDanger (message : String) : Html :=
  .element "div" [.text "class" "alert alert-danger", .text "role" "alert"] [.text message]

/-- A message that nothing is there. -/
def alertInfo (message : String) : Html :=
  ofClass "div" "alert alert-info" [.text message]

/-! ## Page links -/

/-- The numbered links: five pages around the current one, as far as they exist. -/
def pageWindow (page totalPages : Int) : List Int :=
  let start := max (page - 2) 1
  let stop := min (start + 4) totalPages
  (List.range (stop + 1 - start).toNat).map fun i : Nat => start + i

/-- A link to a page of the list. -/
def pageLink (path : String) (pairs : List (String × String)) (target : Int) (content : List Html) :
    Html :=
  .element "a"
    [.text "class" "page-link",
      .text "href" (Page.address path (pairs ++ [("page", Text.intText target)]))]
    content

/-- The links before, to and after the pages around the current one. -/
def pagination (path : String) (pairs : List (String × String))
    (page totalPages : Int) : List Html :=
  if totalPages ≤ 1 then []
  else
    let item (target : Int) (content : List Html) :=
      ofClass "li" "page-item" [pageLink path pairs target content]
    let back := if 1 < page then [item (page - 1) [.verbatim "&laquo; Prev"]] else []
    let numbers := (pageWindow page totalPages).map fun target =>
      ofClass "li" (if target = page then "page-item active" else "page-item")
        [pageLink path pairs target [.text (Text.intText target)]]
    let forward := if page < totalPages then [item (page + 1) [.verbatim "Next &raquo;"]] else []
    [plain "nav" [ofClass "ul" "pagination" (back ++ numbers ++ forward)]]

/-! ## Tables, cards and forms -/

/-- A table with named columns. -/
def table (headers : List String) (rows : List (List Html)) : Html :=
  ofClass "table" "table"
    [plain "thead" [plain "tr" (headers.map fun h => plain "th" [.text h])],
      plain "tbody" (rows.map fun row => plain "tr" (row.map fun cell => plain "td" [cell]))]

/-- A box with a title. -/
def card (title : String) (body : List Html) : Html :=
  ofClass "div" "card" [ofClass "div" "card-header" [.text title], ofClass "div" "card-body" body]

/-- A text field of a form: its name, its label and the current value. -/
structure Field where
  name : String
  label : String
  value : String
  deriving DecidableEq, Repr

/-- The ranges that a form offers, with their labels. -/
def rangeChoices : List (String × String) :=
  [("", "Custom range"), ("24h", "Last 24 hours"), ("today", "Today"), ("7d", "Last 7 days"),
    ("30d", "Last 30 days")]

/-- The form that shows a page again with other filters. -/
def filterForm (path : String) (fields : List Field) : Html :=
  .element "form"
    [.text "class" "filters", .text "method" "get", .text "action" Page.dashboard]
    ([.void "input" [.text "type" "hidden", .text "name" "path", .text "value" path],
        .element "select" [.text "name" "range"]
          (rangeChoices.map fun r => .element "option" [.text "value" r.1] [.text r.2])] ++
      fields.map (fun f =>
        .void "input"
          [.text "type" "text", .verbatim "name" f.name, .text "placeholder" f.label,
            .text "value" f.value]) ++
      [.element "button" [.text "type" "submit"] [.text "Filter"]])

/-! ## The frame of a page -/

/-- The rules of the style sheet: selector and declarations. -/
def styleRules : List (String × String) := [
  ("body", "font-family: system-ui, sans-serif; margin: 0; background: #f5f6f8; color: #212529;"),
  ("header", "background: #212529; color: #fff; padding: 12px 24px;"),
  ("header a", "color: #fff; margin-right: 16px; text-decoration: none;"),
  ("main", "padding: 24px;"),
  (".breadcrumb", "list-style: none; display: flex; gap: 8px; padding: 0;"),
  (".breadcrumb-item + .breadcrumb-item::before",
    "content: '/'; margin-right: 8px; color: #6c757d;"),
  (".card",
    "background: #fff; border: 1px solid #dee2e6; border-radius: 6px; margin-bottom: 24px;"),
  (".card-header", "padding: 12px 16px; border-bottom: 1px solid #dee2e6; font-weight: 600;"),
  (".card-body", "padding: 16px;"),
  (".stats", "display: flex; gap: 16px; flex-wrap: wrap;"),
  (".stat", "flex: 1; min-width: 160px;"),
  (".stat .value", "font-size: 1.8em; font-weight: 700;"),
  (".table", "width: 100%; border-collapse: collapse;"),
  (".table th, .table td",
    "text-align: left; padding: 6px 8px; border-bottom: 1px solid #dee2e6; vertical-align: top;"),
  (".pagination", "list-style: none; display: flex; gap: 4px; padding: 0;"),
  (".page-link",
    "display: block; padding: 4px 10px; border: 1px solid #dee2e6; border-radius: 4px; " ++
      "text-decoration: none;"),
  (".page-item.active .page-link", "background: #0d6efd; color: #fff;"),
  (".alert", "padding: 12px 16px; border-radius: 6px; margin-bottom: 16px;"),
  (".alert-danger", "background: #f8d7da; color: #842029;"),
  (".alert-info", "background: #cff4fc; color: #055160;"),
  (".filters", "display: flex; gap: 8px; flex-wrap: wrap; margin-bottom: 16px;"),
  (".badge",
    "display: inline-block; padding: 2px 6px; border-radius: 4px; background: #e9ecef; " ++
      "font-size: 0.85em;"),
  (".muted", "color: #6c757d;")]

/-- The style sheet, a rule a line. -/
def styleSheet : String :=
  "\n" ++ String.join (styleRules.map fun r => r.1 ++ " \x7b " ++ r.2 ++ " \x7d\n")

/-- The end of a line. -/
def newline : Html := .verbatim "\n"

/-- The pages that every page leads to, with their names. -/
def navigation : List (Page × String) :=
  [(.home, "Dashboard"), (.visitorActivity, "Visitor Activity"), (.visitorPaths, "Visitor Paths"),
    (.pageViews, "Page View Activity")]

/-- A page: title, trail and content in the common frame. -/
def layout (title : String) (crumbs : List Crumb) (body : List Html) : List Html :=
  [.verbatim "<!DOCTYPE html>", newline,
    .element "html" [.text "lang" "en"]
      [newline,
        plain "head"
          [newline,
            .void "meta" [.text "charset" "utf-8"], newline,
            .void "meta"
              [.text "name" "viewport", .text "content" "width=device-width, initial-scale=1"],
            newline,
            plain "title" [.text title, .text " | Visitor Analytics"], newline,
            plain "style" [.verbatim styleSheet], newline],
        newline,
        plain "body"
          [newline,
            plain "header"
              (newline ::
                navigation.flatMap fun n => [link (n.1.url []) [.text n.2], newline]),
            newline,
            plain "main"
              ([newline] ++ breadcrumbs crumbs ++ [newline, plain "h1" [.text title], newline] ++
                body ++ [newline]),
            newline],
        newline]]

/-! ## Lemmas -/

theorem pagination_single {path : String} {pairs : List (String × String)} {page totalPages : Int}
    (h : totalPages ≤ 1) : pagination path pairs page totalPages = [] := by
  simp [pagination, h]

theorem length_pageWindow_le (page totalPages : Int) : (pageWindow page totalPages).length ≤ 5 := by
  simp only [pageWindow, List.length_map, List.length_range]
  omega

end VisitLog.Dashboard

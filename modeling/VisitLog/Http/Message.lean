import VisitLog.Failure
import VisitLog.Http.Address
import VisitLog.Json.Text
import VisitLog.Text.AsciiCase
import VisitLog.Text.Blank
import VisitLog.Text.Form

/-!
# Requests and responses

Messages as the service sees them: header names do not differ in case, and a header may be repeated.
Only header values of visible ASCII characters, blanks and tabs count as text.

Main statement: `text?_eq_none` (a value with other characters is no text).
-/

namespace VisitLog.Http

open Text

/-- A character that a header value may hold as text. -/
def isVisible (c : Char) : Bool :=
  (' ' ≤ c && c ≤ '~') || c = '\t'

/-- The text of a header value. -/
def text? (value : String) : Option String :=
  if value.toList.all isVisible then some value else none

/-- Headers in their order. -/
abbrev Headers := List (String × String)

namespace Headers

/-- The values of a header. -/
def values (hs : Headers) (name : String) : List String :=
  (hs.filter fun h => sameLetters h.1 name).map Prod.snd

/-- The first value of a header. -/
def first? (hs : Headers) (name : String) : Option String :=
  (hs.values name).head?

/-- The first value of a header, if it is text. -/
def text? (hs : Headers) (name : String) : Option String :=
  (hs.first? name).bind Http.text?

/-- The trimmed text of a header, empty if there is none. -/
def trimmed (hs : Headers) (name : String) : String :=
  match hs.text? name with
  | some s => trim s
  | none => ""

end Headers

/-- A request. -/
structure Request where
  method : String := "GET"
  /-- The path as it was sent, percent encoding included. -/
  path : String := "/"
  /-- What follows the question mark, if there is one. -/
  query : Option String := none
  headers : Headers := []
  /-- The octets of the body. -/
  body : List UInt8 := []
  /-- The address of the peer, as far as it is known. -/
  peer : Option Address := none
  deriving Repr

namespace Request

/-- Path and query of a target: a path, or a whole address with a scheme and a host; a host alone
has an empty path. What follows a hash sign is not part of either. -/
def splitTarget (target : String) : String × Option String :=
  let cs := target.toList.takeWhile fun c => c ≠ '#'
  let cs :=
    if cs.head? = some '/' then cs
    else
      match after? [':', '/', '/'] cs with
      | some rest =>
        match rest.dropWhile fun c => c ≠ '/' ∧ c ≠ '?' with
        | '/' :: cs => '/' :: cs
        | cs => '/' :: cs
      | none => if cs = ['*'] then cs else []
  match cutAt? '?' cs with
  | some (path, query) => (String.ofList path, some (String.ofList query))
  | none => (String.ofList cs, none)

/-- The named values of the query. -/
def parameters (r : Request) : List (String × String) :=
  Form.fields (r.query.getD "").toList

end Request

/-- A response. -/
structure Response where
  status : Nat
  headers : Headers := []
  body : String := ""
  deriving DecidableEq, Repr

namespace Response

/-- A response with a JSON body. -/
def json (status : Nat) (value : Json) : Response :=
  { status := status, headers := [("content-type", "application/json")], body := value.text }

/-- A response with a page. -/
def html (status : Nat) (body : String) : Response :=
  { status := status, headers := [("content-type", "text/html; charset=utf-8")], body := body }

/-- A response with a plain text. -/
def plain (status : Nat) (body : String) : Response :=
  { status := status, headers := [("content-type", "text/plain; charset=utf-8")], body := body }

/-- The response to a failed operation. -/
def ofFailure (f : Failure) : Response :=
  json f.status (.obj [("error", .str f.shown)])

/-- A response of a status alone. -/
def empty (status : Nat) : Response :=
  { status := status }

/-- The response with a header added. -/
def withHeader (r : Response) (name value : String) : Response :=
  { r with headers := r.headers ++ [(name, value)] }

/-- The response without its body. -/
def withoutBody (r : Response) : Response :=
  { r with body := "" }

end Response

theorem text?_eq_none {value : String} {c : Char} (h : c ∈ value.toList)
    (hc : isVisible c = false) :
    text? value = none := by
  unfold text?
  rw [if_neg]
  intro hall
  exact absurd (List.all_eq_true.1 hall c h) (by simp [hc])

end VisitLog.Http

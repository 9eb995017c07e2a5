import VisitLog.Http.Message
import VisitLog.Visit

/-!
# Capturing visits

What a request tells about the visit behind it: where the client is, and the headers that a record
keeps. Pages are tracked when they are fetched; the dashboard, the health check and the API are not.

Main statement: `isTracked_eq_false` (only fetched pages are tracked).
-/

namespace VisitLog

open Text Http

/-- The address of a client: the first hop of a forwarded request, the address that a proxy reports,
or the peer. Reported texts that are no addresses are passed over, and the others are kept as they
are. -/
def clientAddress (hs : Headers) (peer : Option Address) : String :=
  let forwarded :=
    trim (String.ofList ((splitAt ',' (hs.trimmed "x-forwarded-for").toList).headD []))
  let reported := hs.trimmed "x-real-ip"
  if (Address.ofText? forwarded).isSome then forwarded
  else if (Address.ofText? reported).isSome then reported
  else peer.elim "" Address.text

namespace Visit

/-- The visit of a path, as the headers of a request and its peer tell it. -/
def capture (countryHeader path : String) (hs : Headers) (peer : Option Address) : Visit :=
  { path := path
    ipAddress := clientAddress hs peer
    userAgent := hs.trimmed "user-agent"
    referrer := hs.trimmed "referer"
    acceptLanguage := hs.trimmed "accept-language"
    acceptEncoding := hs.trimmed "accept-encoding"
    country := hs.trimmed countryHeader }

end Visit

/-- The path belongs to the dashboard, the health check or the API. -/
def isInternal (path : String) : Bool :=
  path == "/admin" || path == "/health" ||
    ["/admin/", "/v1/"].any fun start => (dropLiteral? start.toList path.toList).isSome

/-- A request that is recorded as a visit. -/
def isTracked (method path : String) : Bool :=
  method == "GET" && !isInternal path

theorem isTracked_eq_false {method : String} (path : String) (h : method ≠ "GET") :
    isTracked method path = false := by
  simp [isTracked, h]

end VisitLog

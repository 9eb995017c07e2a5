import VisitLog.Http.Message

/-!
# The rate limit of the beacon

Clients are told apart by their address, as proxies report it or as the peer's. A `Limiter` decides
by the requests that it has seen, and `Limiter.refilling` is the usual one: every client may report
a number of visits at once, and one more as each interval passes.

Main statement: `lets_refilling_of_le` (a client that has waited for an interval is let through).
-/

namespace VisitLog

open Text Http

/-! ## Who a client is -/

/-- The first address in a list of forwarding hops. -/
def firstHop? (hs : Headers) : Option Address := do
  let value ← hs.text? "x-forwarded-for"
  (splitAt ',' value.toList).findSome? fun hop => Address.ofChars? (trimChars hop)

/-- The address that a proxy reports, which may not have blanks around it. -/
def reportedAddress? (hs : Headers) : Option Address :=
  (hs.text? "x-real-ip").bind Address.ofText?

namespace Forwarded

/-- A node of a forwarding header: the address in it, if it tells one; nothing if it is
malformed. -/
def node? (cs : List Char) : Option (Option Address) :=
  let bare (q : Char) (cs : List Char) : List Char :=
    ((cs.dropWhile fun c => c = q).reverse.dropWhile fun c => c = q).reverse
  let s := String.ofList (bare '\'' (bare '"' (trimChars cs)))
  if s == "unknown" then some none
  else
    match Address.ofSocket? s, Address.ofText? s with
    | some a, _ => some (some a)
    | none, some a => some (some a)
    | none, none =>
      match s.toList with
      | '_' :: _ => some none
      | '[' :: rest =>
        match rest.reverse with
        | ']' :: inner => (Address.ofChars? inner.reverse).map some
        | _ => none
      | _ => none

/-- The client in a stanza of parts between semicolons; nothing if a part is malformed. -/
def client? : (found : Option Address) → List (List Char) → Option (Option Address)
  | found, [] => some found
  | found, part :: parts =>
    match trimChars part with
    | [] => client? found parts
    | part =>
      match cutAt? '=' part with
      | none => none
      | some (key, value) =>
        let key := String.ofList (foldLetters key)
        if key == "for" then
          match node? value with
          | some address => client? address parts
          | none => none
        else if key == "by" ∧ (node? value).isNone then none
        else if key == "proto" ∧ String.ofList value ≠ "http" ∧
          String.ofList value ≠ "https" then none
        else client? found parts

/-- The clients in a header value, of which every stanza has to be well formed. -/
def clients? (value : String) : Option (List (Option Address)) :=
  (splitAt ',' (trimChars value.toList)).mapM fun stanza =>
    client? none (splitAt ';' (trimChars stanza))

/-- The first client that the forwarding headers tell. -/
def first? (hs : Headers) : Option Address :=
  (hs.values "forwarded").findSome? fun value =>
    ((Http.text? value).bind clients?).bind fun cs => cs.findSome? id

end Forwarded

/-- The address that a client is counted by. -/
def limitKey? (r : Request) : Option Address :=
  (((firstHop? r.headers).or (reportedAddress? r.headers)).or (Forwarded.first? r.headers)).or
    r.peer

/-! ## Limiters -/

/-- A request of a client, and when it came in milliseconds of the limiter's clock. -/
structure Knock where
  client : Address
  millis : Nat

/-- A rate limiter, by what it lets through after the knocks before, the latest of which comes
first. -/
structure Limiter where
  lets : (before : List Knock) → Knock → Bool

/-- What a limiter has seen. -/
structure Knocks where
  /-- The limiter's clock, in milliseconds. -/
  time : Nat := 0
  /-- The knocks so far, the latest first. -/
  before : List Knock := []

namespace Knocks

/-- The knock of a client now. -/
def next (k : Knocks) (client : Address) : Knock :=
  ⟨client, k.time⟩

/-- What is seen after a knock of a client. -/
def add (k : Knocks) (client : Address) : Knocks :=
  { k with before := k.next client :: k.before }

/-- What is seen some milliseconds later. -/
def wait (k : Knocks) (millis : Nat) : Knocks :=
  { k with time := k.time + millis }

end Knocks

namespace Limiter

/-- When the bucket of a client is full again: every request that is let through takes a token out
of it, and one token comes back per interval. -/
def fullAt (burst interval : Nat) (client : Address) : List Knock → Nat
  | [] => 0
  | k :: before =>
    let full := fullAt burst interval client before
    if k.client == client && full ≤ k.millis + (burst - 1) * interval then max full
      k.millis + interval
    else full

/-- The limiter whose clients have a bucket of tokens each, to which one token is added per
interval. -/
def refilling (burst interval : Nat) : Limiter :=
  ⟨fun before k => fullAt burst interval k.client before ≤ k.millis + (burst - 1) * interval⟩

/-! ## Lemmas -/

/-- The bucket of a client is full again a burst's worth of intervals after its last request, at the
latest. -/
theorem fullAt_le {burst interval last : Nat} (client : Address) {before : List Knock}
    (h : ∀ k ∈ before, k.millis ≤ last) :
    fullAt burst interval client before ≤ last + (burst - 1) * interval + interval := by
  induction before with
  | nil => exact Nat.zero_le _
  | cons k before ih =>
    obtain ⟨hk, hbefore⟩ := List.forall_mem_cons.1 h
    rw [fullAt]
    split
    · next hpasses =>
      have hfull := of_decide_eq_true (Bool.and_eq_true_iff.1 hpasses).2
      omega
    · exact ih hbefore

/-- Nobody is refused for ever: a client that has waited for an interval is let through. -/
theorem lets_refilling_of_le {burst interval last : Nat} {before : List Knock} {k : Knock}
    (h : ∀ k' ∈ before, k'.millis ≤ last) (hk : last + interval ≤ k.millis) :
    (refilling burst interval).lets before k := by
  have hfull : fullAt burst interval k.client before ≤ _ := fullAt_le k.client h
  rw [refilling, decide_eq_true_eq]
  omega

end Limiter

end VisitLog

import VisitLog.Database.Planner
import VisitLog.Proofs.Admission
import VisitLog.Proofs.Captures
import VisitLog.Service

/-!
# What requests put into the channel

A request is looked at twice: every request for a page is tracked before it is answered, and the
answer to a beacon records the visit that it reports. No request is counted both ways, since the
beacon has a path of the API, so the channel grows by one visit at most.

Main statement: `Service.accounts`.
-/

namespace VisitLog

open Text Http

theorem Text.length_le_utf8ByteSize (s : String) : s.toList.length ≤ s.utf8ByteSize := by
  induction s using String.push_induction with
  | empty => exact Nat.zero_le _
  | push s c ih =>
    have hc := c.utf8Size_pos
    rw [String.toList_push, List.length_append, List.length_singleton, String.utf8ByteSize_push]
    omega

theorem Text.isSome_dropLiteral? {l cs : List Char} : (dropLiteral? l cs).isSome ↔ l <+: cs := by
  constructor
  · intro h
    obtain ⟨rest, hrest⟩ := Option.isSome_iff_exists.1 h
    exact ⟨rest, (eq_append_of_dropLiteral? hrest).symm⟩
  · rintro ⟨rest, rfl⟩
    rw [dropLiteral?_append]
    rfl

/-! ## Room in the channel -/

namespace Channel

variable {c : Channel}

theorem waiting_offer_of_lt (v : Visitor) (h : c.waiting.length < c.capacity) :
    (c.offer v).waiting = c.waiting ++ [v] := by
  have hroom : ¬c.isFull := fun hfull => Nat.not_le.2 h (of_decide_eq_true hfull)
  rw [waiting_offer, if_neg hroom]

theorem offer_eq_or (c : Channel) (v : Visitor) :
    c.offer v = c ∨ ∃ w, c.offer v = { c with waiting := c.waiting ++ [w] } := by
  unfold offer
  split
  · exact .inl rfl
  · exact .inr ⟨v, rfl⟩

theorem grows_offer_iff {v : Visitor} :
    (∃ w, (c.offer v).waiting = c.waiting ++ [w]) ↔ c.waiting.length < c.capacity := by
  refine ⟨fun ⟨w, hw⟩ => Nat.not_le.1 fun hfull => ?_, fun h => ⟨v, waiting_offer_of_lt v h⟩⟩
  have hisFull : c.isFull := decide_eq_true hfull
  rw [waiting_offer, if_pos hisFull] at hw
  exact absurd (congrArg List.length hw) (by simp)

end Channel

/-! ## Requests that are visits -/

namespace Service

/-- The request fetches a page: neither the dashboard nor the health check nor the API. -/
structure FetchesPage (r : Request) : Prop where
  method : r.method = "GET"
  dashboard : r.path ≠ "/admin"
  health : r.path ≠ "/health"
  below : ¬"/admin/".toList <+: r.path.toList
  api : ¬"/v1/".toList <+: r.path.toList

/-- The body of the request is said to be JSON, is not too large and holds a beacon, whose path is
neither blank nor too long in octets. -/
structure Tells (r : Request) (b : Beacon) : Prop where
  isJson : Beacon.isJson r.headers
  size : r.body.length ≤ Beacon.maxSize
  body : Beacon.ofOctets (r.body.map UInt8.toNat) = .ok b
  filled : trim b.path ≠ ""
  short : (trim b.path).utf8ByteSize ≤ 512

/-- The request reports a visit: it sends a beacon, and the rate limiter lets its client through. -/
structure Reports (s : Service) (r : Request) (t : ServiceState) (b : Beacon) :
    Prop extends Tells r b where
  method : r.method = "POST"
  path : r.path = "/v1/visits"
  isLet : ∃ client, limitKey? r = some client ∧
    s.limiter.lets t.knocks.before (t.knocks.next client)

/-- The visit that a beacon reports: its own path, and its own referrer if it tells one. -/
def reportedVisit (s : Service) (r : Request) (b : Beacon) : Visit :=
  { Visit.capture s.countryHeader (trim b.path) r.headers r.peer with
    referrer := b.referrer.getD (r.headers.trimmed "referer") }

variable {s : Service} {now : Instant} {random : Nat} {e : Endpoint} {r : Request}
    {t : ServiceState} {b b' : Beacon}

theorem isTracked_iff : isTracked r.method r.path ↔ FetchesPage r := by
  have hinternal : isInternal r.path ↔ (r.path = "/admin" ∨ r.path = "/health") ∨
      "/admin/".toList <+: r.path.toList ∨ "/v1/".toList <+: r.path.toList := by
    simp only [isInternal, List.any_cons, List.any_nil, Bool.or_false, Bool.or_eq_true, beq_iff_eq,
      isSome_dropLiteral?]
  rw [isTracked, Bool.and_eq_true, beq_iff_eq, Bool.not_eq_true', ← Bool.not_eq_true, hinternal]
  constructor
  · rintro ⟨hget, h⟩
    exact ⟨hget, fun hp => h (.inl (.inl hp)), fun hp => h (.inl (.inr hp)), fun hp =>
      h (.inr (.inl hp)), fun hp => h (.inr (.inr hp))⟩
  · rintro ⟨hget, hadmin, hhealth, hbelow, hapi⟩
    exact ⟨hget, fun h => h.elim (Or.elim · hadmin hhealth) (Or.elim · hbelow hapi)⟩

theorem Reports.not_fetchesPage (h : s.Reports r t b) : ¬FetchesPage r := by
  intro hpage
  have hpost := h.method
  rw [hpage.method] at hpost
  exact absurd hpost (by decide)

theorem Reports.unique (h : s.Reports r t b) (h' : s.Reports r t b') : b = b' := by
  have hbody := h.body
  rw [h'.body] at hbody
  exact (Except.ok.inj hbody).symm

/-- A body is accepted exactly when it tells a visit. -/
theorem accepted_iff {visit : Visit} :
    (Beacon.ofRequest r).bind (Beacon.visit? s.countryHeader r) = .ok visit ↔ ∃ b, Tells r b ∧
    visit = s.reportedVisit r b := by
  refine Iff.trans bind_eq_ok ⟨?_, ?_⟩
  · rintro ⟨b, hbeacon, hvisit⟩
    obtain ⟨hjson, hsize, hbody⟩ := Beacon.ofRequest_eq_ok.1 hbeacon
    obtain ⟨hfilled, hshort, rfl⟩ := Beacon.visit?_eq_ok.1 hvisit
    exact ⟨b, ⟨hjson, hsize, hbody, hfilled, hshort⟩, rfl⟩
  · rintro ⟨b, h, rfl⟩
    exact ⟨b, Beacon.ofRequest_eq_ok.2 ⟨h.isJson, h.size, h.body⟩,
      Beacon.visit?_eq_ok.2 ⟨h.filled, h.short, rfl⟩⟩

theorem ofPath?_eq_visits {path : String} : Endpoint.ofPath? path = some .visits ↔
    path = "/v1/visits" := by
  refine ⟨fun h => ?_, fun h => h ▸ rfl⟩
  unfold Endpoint.ofPath? at h
  split at h
  · cases h
  · repeat (split at h; · first | assumption | cases h)
    obtain ⟨segment, -, hsegment⟩ := Option.map_eq_some_iff.1 h
    cases hsegment

/-! ## Answers that leave the channel alone -/

/-- Only the endpoint of reports sends anything. -/
theorem channel_answer [Engine] (he : e ≠ .visits) :
    (s.answer now random e r t).2.channel = t.channel := by
  cases e with
  | visits => exact absurd rfl he
  | visitors | visitorCount | health => rfl
  | dashboard =>
    unfold answer showPage
    dsimp only
    split <;> rfl
  | page p => cases p <;> rfl
  | visitor segment =>
    unfold answer deleteVisitor
    dsimp only
    split
    · rfl
    · split
      · split <;> rfl
      · rfl

theorem channel_answerMethod [Engine] (he : e ≠ .visits) :
    (s.answerMethod now random e r t).2.channel = t.channel := by
  unfold answerMethod
  split
  · exact channel_answer he
  · rfl

theorem channel_approach [Engine] (he : e ≠ .visits) :
    (s.approach now random e r t).2.channel = t.channel := by
  have henter : (s.enter now random e r t).2.channel = t.channel := by
    unfold enter
    split
    · rfl
    · next cookie _ => cases cookie <;> exact channel_answerMethod he
  unfold approach
  split
  · exact absurd rfl he
  · split
    · exact henter
    · exact channel_answerMethod he

/-! ## Answers to beacons -/

theorem report_of_tells (s : Service) (now : Instant) (random : Nat) (t : ServiceState)
    (h : Tells r b) :
    s.report now random r t =
      (.json 200 (.obj [("status", .str "accepted")]),
        record now random (s.reportedVisit r b) t) := by
  rw [report, accepted_iff.2 ⟨b, h, rfl⟩]

theorem channel_report (h : ∀ b, ¬Tells r b) : (s.report now random r t).2.channel = t.channel := by
  unfold report
  split
  · next visit hvisit =>
    obtain ⟨b, hb, -⟩ := accepted_iff.1 hvisit
    exact absurd hb (h b)
  · rfl

theorem channel_limited [Engine] (hpath : r.path = "/v1/visits") (h : ∀ b, ¬s.Reports r t b) :
    (s.limited now random .visits r t).2.channel = t.channel := by
  unfold limited
  split
  · rfl
  · next client hclient =>
    dsimp only
    split
    · next hlets =>
      unfold answerMethod
      split
      · next hmethod =>
        -- All but the body is as it has to be, so the body tells no visit.
        refine channel_report (t := { t with knocks := t.knocks.add client }) fun b hb => h b ?_
        exact { hb with
          method := List.mem_singleton.1 hmethod, path := hpath, isLet := ⟨client, hclient, hlets⟩ }
      · rfl
    · rfl

/-! ## Answers to requests -/

theorem track_of_not_fetchesPage (s : Service) (now : Instant) (random : Nat) (t : ServiceState)
    (h : ¬FetchesPage r) :
    s.track now random r t = t :=
  if_neg (mt isTracked_iff.1 h)

/-- No endpoint answers for a page, so the channel has the visit that was tracked. -/
theorem channel_serve_of_fetchesPage [Engine] (s : Service) (now : Instant) (random : Nat)
    (t : ServiceState)
    (h : FetchesPage r) :
    (s.serve now random r t).2.channel =
      t.channel.offer ((Visit.capture s.countryHeader r.path r.headers r.peer).toVisitor
        now random) := by
  have htracked := isTracked_iff.2 h
  have hpath : Endpoint.ofPath? r.path = none := by
    rw [isTracked, Bool.and_eq_true, Bool.not_eq_true'] at htracked
    cases hpath : Endpoint.ofPath? r.path with
    | none => rfl
    | some e => exact absurd (isInternal_of_ofPath? hpath) (Bool.eq_false_iff.1 htracked.2)
  rw [serve_unknown s now random t hpath]
  dsimp only
  rw [track, if_pos htracked]
  rfl

/-- A report that meets all conditions is accepted, and its visit is sent. -/
theorem serve_of_reports [Engine] (s : Service) (now : Instant) (random : Nat)
    (h : s.Reports r t b) :
    (s.serve now random r t).1.status = 200 ∧
      (s.serve now random r t).2.channel =
      t.channel.offer ((s.reportedVisit r b).toVisitor now random) := by
  obtain ⟨client, hclient, hlets⟩ := h.isLet
  have happroach : s.approach now random .visits r t =
      ((Response.json 200 (.obj [("status", .str "accepted")])).withHeader
        "access-control-allow-origin" "*", record now random (s.reportedVisit r b)
          { t with knocks := t.knocks.add client }) := by
    rw [approach, fromAnywhere, h.method, if_neg (by decide), limited, hclient]
    dsimp only
    rw [if_pos hlets]
    rw [answerMethod, h.method, if_pos (by decide), answer,
      report_of_tells s now random _ h.toTells]
  have hpath : Endpoint.ofPath? r.path = some .visits := ofPath?_eq_visits.2 h.path
  rw [serve, track_of_not_fetchesPage s now random t h.not_fetchesPage, hpath]
  dsimp only
  rw [happroach, h.method]
  exact ⟨rfl, rfl⟩

/-- A request that is neither a report nor a page of the site sends nothing. -/
theorem channel_serve_of_not [Engine] (s : Service) (now : Instant) (random : Nat)
    (hpage : ¬FetchesPage r)
    (h : ∀ b, ¬s.Reports r t b) : (s.serve now random r t).2.channel = t.channel := by
  rw [serve, track_of_not_fetchesPage s now random t hpage]
  cases hpath : Endpoint.ofPath? r.path with
  | none => rfl
  | some e =>
    by_cases he : e = .visits
    · subst he
      dsimp only
      unfold approach fromAnywhere
      dsimp only
      split
      · rfl
      · exact channel_limited (ofPath?_eq_visits.1 hpath) h
    · exact channel_approach he

/-! ## Every request -/

/-- How a request changes the channel. `once`: one visit is added at most. `grows`: one is added
exactly when there is room and the request fetches a page or reports a visit. `page`: the visit of a
page is captured from the request. `beacon`: the visit of a beacon has the trimmed path as it is,
and the referrer of the beacon, or else of the request, trimmed and cut to its column. `rejected`: a
request that fetches no page and is not answered with 200 adds nothing. -/
structure Accounts [Engine] (s : Service) (now : Instant) (random : Nat) (r : Request)
    (t : ServiceState) : Prop where
  once : (s.serve now random r t).2.channel = t.channel ∨
    ∃ v, (s.serve now random r t).2.channel = { t.channel with waiting := t.channel.waiting ++ [v] }
  grows : (∃ v, (s.serve now random r t).2.channel.waiting = t.channel.waiting ++ [v]) ↔
    t.channel.waiting.length < t.channel.capacity ∧ (FetchesPage r ∨ ∃ b, s.Reports r t b)
  page : FetchesPage r → t.channel.waiting.length < t.channel.capacity →
    (s.serve now random r t).2.channel.waiting = t.channel.waiting ++
      [(Visit.capture s.countryHeader r.path r.headers r.peer).toVisitor now random]
  beacon : ∀ b, s.Reports r t b → t.channel.waiting.length < t.channel.capacity →
    ∃ v, (s.serve now random r t).2.channel.waiting = t.channel.waiting ++ [v] ∧
      v = (s.reportedVisit r b).toVisitor now random ∧ v.value .path = trim b.path ∧
      v.value .userReferrer = clip 255 (trim (b.referrer.getD (r.headers.trimmed "referer")))
  rejected : ¬FetchesPage r → (s.serve now random r t).1.status ≠ 200 →
    (s.serve now random r t).2.channel = t.channel

/-- A path that is short in octets is not cut, since it has no more characters. -/
theorem path_reportedVisit (s : Service) (now : Instant) (random : Nat)
    (h : (trim b.path).utf8ByteSize ≤ 512) :
    ((s.reportedVisit r b).toVisitor now random).value .path = trim b.path := by
  have hvalue : ((s.reportedVisit r b).toVisitor now random).value .path = Visit.fitted .path
      (trim b.path) :=
    Visit.value_toVisitor_of_mem now random List.mem_cons_self
  have hlength : (trim b.path).toList.length ≤ Column.path.maxLength :=
    Nat.le_trans (length_le_utf8ByteSize _) h
  rw [hvalue, Visit.fitted, trim_trim, clip, List.take_of_length_le hlength, String.ofList_toList]

theorem referrer_reportedVisit (s : Service) (now : Instant) (random : Nat) (r : Request)
    (b : Beacon) :
    ((s.reportedVisit r b).toVisitor now random).value .userReferrer =
      clip 255 (trim (b.referrer.getD (r.headers.trimmed "referer"))) :=
  Visit.value_toVisitor_of_mem now random
    (by simp [Visit.fields, Visit.fitted, reportedVisit, Column.maxLength])

/-- Every report of a visit is accounted for: it is accepted and sent, or refused for one reason and
nothing is sent. -/
theorem accounts [Engine] (s : Service) (now : Instant) (random : Nat) (r : Request)
    (t : ServiceState) :
    s.Accounts now random r t := by
  by_cases hpage : FetchesPage r
  · have hchannel := channel_serve_of_fetchesPage s now random t hpage
    refine ⟨?_, ?_, fun _ hroom => ?_, fun b hb => absurd hpage hb.not_fetchesPage, fun hnot =>
      absurd hpage hnot⟩
    · rw [hchannel]
      exact Channel.offer_eq_or _ _
    · rw [hchannel, Channel.grows_offer_iff]
      exact ⟨fun hroom => ⟨hroom, .inl hpage⟩, And.left⟩
    · rw [hchannel, Channel.waiting_offer_of_lt _ hroom]
  · by_cases hreports : ∃ b, s.Reports r t b
    · obtain ⟨b, hb⟩ := hreports
      obtain ⟨hstatus, hchannel⟩ := serve_of_reports s now random hb
      refine ⟨?_, ?_, fun h => absurd h hpage, fun b' hb' hroom => ?_, fun _ hnot =>
        absurd hstatus hnot⟩
      · rw [hchannel]
        exact Channel.offer_eq_or _ _
      · rw [hchannel, Channel.grows_offer_iff]
        exact ⟨fun hroom => ⟨hroom, .inr ⟨b, hb⟩⟩, And.left⟩
      · cases hb.unique hb'
        refine ⟨_, ?_, rfl, path_reportedVisit s now random hb.short,
          referrer_reportedVisit s now random r b⟩
        rw [hchannel, Channel.waiting_offer_of_lt _ hroom]
    · have hchannel := channel_serve_of_not s now random hpage (not_exists.1 hreports)
      refine ⟨.inl hchannel, ?_, fun h => absurd h hpage, fun b hb => absurd ⟨b, hb⟩ hreports,
        fun _ _ => hchannel⟩
      rw [hchannel]
      refine iff_of_false ?_ fun h => h.2.elim hpage hreports
      rintro ⟨v, hv⟩
      exact absurd (congrArg List.length hv) (by simp)

/-- A page reports its path, with blanks around it. -/
def posted : Request :=
  { method := "POST", path := "/v1/visits", headers := [("content-type", "application/json")]
    body := (Utf8.encode "[\" /docs \",null]".toList).map .ofNat
    peer := some (.v4 [192, 0, 2, 1]) }

example : lone.Reports posted loneState ⟨" /docs ", none⟩ where
  isJson := by decide
  size := by decide
  body := by decide +kernel
  filled := by decide
  short := by decide
  method := rfl
  path := rfl
  isLet := ⟨.v4 [192, 0, 2, 1], by decide, by decide⟩

end Service

end VisitLog

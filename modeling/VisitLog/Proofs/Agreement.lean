import VisitLog.Service

/-!
# Runs side by side

Two states of the service answer a request alike as soon as the endpoint does that the request
reaches. What stands before the endpoint looks at the knocks that the rate limiter has seen only,
and changes only those and the channel, so a relation between states has to be kept by these two
changes (`Respects`).

Main statement: `Service.agree_serve`.
-/

namespace VisitLog.Service

open Http

/-- Two replies with the same response and related states. -/
structure Agree (R : ServiceState → ServiceState → Prop) (a b : Reply) : Prop where
  response : a.1 = b.1
  state : R a.2 b.2

/-- The rate limiter has seen the same in related states, and they stay related when both see or
record the same. -/
structure Respects (R : ServiceState → ServiceState → Prop) : Prop where
  knocks : ∀ t t', R t t' → t.knocks = t'.knocks
  knock : ∀ t t' knocks, R t t' → R { t with knocks := knocks } { t' with knocks := knocks }
  record : ∀ now random visit t t', R t t' →
    R (record now random visit t) (record now random visit t')

/-- The request gets to the endpoint: the path and the method lead there, and the gate lets it
in. -/
structure Reaches (s : Service) (r : Request) (e : Endpoint) : Prop where
  path : Endpoint.ofPath? r.path = some e
  method : r.method ∈ e.methods
  gate : e.isGuarded → ∃ cookie, s.gate.judge r = .admitted cookie

variable {R : ServiceState → ServiceState → Prop} {a b : Reply}

theorem Agree.map (h : Agree R a b) (f : Response → Response) : Agree R (f a.1, a.2)
    (f b.1, b.2) where
  response := congrArg f h.response
  state := h.state

variable {s : Service} {now : Instant} {random : Nat} {e : Endpoint} {r : Request}
    {t t' : ServiceState}

theorem agree_track (hR : Respects R) (h : R t t') : R (s.track now random r t)
    (s.track now random r t') := by
  unfold track
  split
  · exact hR.record _ _ _ _ _ h
  · exact h

theorem agree_report (hR : Respects R) (h : R t t') :
    Agree R (s.report now random r t) (s.report now random r t') := by
  unfold report
  split
  · exact ⟨rfl, hR.record _ _ _ _ _ h⟩
  · exact ⟨rfl, h⟩

variable [Engine]

theorem agree_answerMethod (h : R t t')
    (hanswer : r.method ∈ e.methods → Agree R (s.answer now random e r t)
      (s.answer now random e r t')) :
    Agree R (s.answerMethod now random e r t) (s.answerMethod now random e r t') := by
  unfold answerMethod
  split
  · next hmethod => exact hanswer hmethod
  · exact ⟨rfl, h⟩

theorem agree_enter (h : R t t')
    (hanswer : (∃ cookie, s.gate.judge r = .admitted cookie) →
      Agree R (s.answerMethod now random e r t) (s.answerMethod now random e r t')) :
    Agree R (s.enter now random e r t) (s.enter now random e r t') := by
  unfold enter
  split
  · exact ⟨rfl, h⟩
  · next cookie hjudge =>
    have hagree := hanswer ⟨cookie, hjudge⟩
    cases cookie with
    | none => exact hagree
    | some cookie => exact hagree.map fun response => response.withHeader "set-cookie" cookie

/-- A relation that the limiter respects is kept by the whole service if the answers keep it. -/
theorem agree_limited (hR : Respects R) (h : R t t')
    (hanswer : ∀ t t', R t t' →
      Agree R (s.answerMethod now random e r t) (s.answerMethod now random e r t')) :
    Agree R (s.limited now random e r t) (s.limited now random e r t') := by
  unfold limited
  rw [← hR.knocks _ _ h]
  split
  · exact ⟨rfl, h⟩
  · next client _ =>
    have hknock := hR.knock _ _ (t.knocks.add client) h
    dsimp only
    split
    · exact hanswer _ _ hknock
    · exact ⟨rfl, hknock⟩

theorem agree_fromAnywhere (hR : Respects R) (h : R t t')
    (hanswer : ∀ t t', R t t' →
      Agree R (s.answerMethod now random e r t) (s.answerMethod now random e r t')) :
    Agree R (s.fromAnywhere now random e r t) (s.fromAnywhere now random e r t') := by
  unfold fromAnywhere
  split
  · exact ⟨rfl, h⟩
  · exact (agree_limited hR h hanswer).map fun response =>
      response.withHeader "access-control-allow-origin" "*"

/-- Related states agree on a request if they do at the endpoint that the request reaches. -/
theorem agree_serve (hR : Respects R) (h : R t t')
    (hanswer : ∀ e, s.Reaches r e → ∀ t t', R t t' →
      Agree R (s.answer now random e r t) (s.answer now random e r t')) :
    Agree R (s.serve now random r t) (s.serve now random r t') := by
  have htrack : R (s.track now random r t) (s.track now random r t') := agree_track hR h
  unfold serve
  dsimp only
  split
  · exact ⟨rfl, htrack⟩
  · next e he =>
    have happroach : Agree R (s.approach now random e r (s.track now random r t))
        (s.approach now random e r (s.track now random r t')) := by
      -- The beacon is answered after the limiter has seen it, so not in `t` and `t'` themselves.
      have hmethod : (e.isGuarded → ∃ cookie, s.gate.judge r = .admitted cookie) → ∀ t t', R t t' →
          Agree R (s.answerMethod now random e r t) (s.answerMethod now random e r t') :=
        fun hgate t t' h => agree_answerMethod h fun hm => hanswer e ⟨he, hm, hgate⟩ t t' h
      unfold approach
      split
      · exact agree_fromAnywhere hR htrack (hmethod nofun)
      · split
        · exact agree_enter htrack fun hjudge => hmethod (fun _ => hjudge) _ _ htrack
        · next hopen => exact hmethod (fun hguarded => absurd hguarded hopen) _ _ htrack
    exact happroach.map (finished e r.method)

end VisitLog.Service

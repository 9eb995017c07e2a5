import VisitLog.Database.Planner
import VisitLog.Proofs.Agreement
import VisitLog.Proofs.Requests

/-!
# Requests without a credential

A request that shows no credential reaches the health check and the beacon only, which read nothing
from the database but whether it answers. So whatever is stored and whatever the dashboard has
counted, a run of such requests gets the same responses; to the table it does nothing, and the
worker only adds rows (`Pool.Grows`).

Main statement: `Service.confined`.
-/

namespace VisitLog

open Http

/-! ## Tables that grow -/

/-- Between two databases nothing changed but that rows were added behind those of the store. -/
structure Pool.Grows (s : Store) (p p' : Pool) : Prop extends SameElsewhere s p p' where
  rows : ∀ rows, p.Holds s rows → ∃ new, p'.Holds s (rows ++ new)

namespace Pool.Grows

variable {s : Store} {p p' p'' : Pool}

theorem refl (s : Store) (p : Pool) : Grows s p p where
  toSameElsewhere := .refl s p
  rows rows h := ⟨[], by rwa [List.append_nil]⟩

theorem trans (h : Grows s p p') (h' : Grows s p' p'') : Grows s p p'' where
  toSameElsewhere := h.toSameElsewhere.trans h'.toSameElsewhere
  rows rows hrows := by
    obtain ⟨new, hnew⟩ := h.rows rows hrows
    obtain ⟨new', hnew'⟩ := h'.rows _ hnew
    exact ⟨new ++ new', by rwa [← List.append_assoc]⟩

variable [Engine]

theorem createBatch {now : Instant} {vs : List Visitor} {n : Nat}
    (h : s.createBatch now vs p = .ok (n, p')) :
    Grows s p p' := by
  cases vs with
  | nil =>
    cases h
    exact refl s p
  | cons v vs =>
    obtain ⟨-, -, rows, hrows, -, -, rfl⟩ := (Store.createBatch_eq_ok (List.cons_ne_nil v vs)).1 h
    refine ⟨sameElsewhere_withRows .., fun rows' hrows' => ?_⟩
    cases hrows.unique hrows'
    exact ⟨_, hrows.withRows _⟩

theorem deliver (now later : Instant) (batch : List Visitor) (p : Pool) :
    Grows s p (Worker.deliver s now later batch p) := by
  unfold Worker.deliver
  split
  · next h => exact createBatch h
  · split
    · next h => exact createBatch h
    · exact refl s p

theorem deliverAll (now : Instant) (batches : List (List Visitor)) (p : Pool) :
    Grows s p (batches.foldl (fun p batch => Worker.deliver s now now batch p) p) := by
  induction batches generalizing p with
  | nil => exact refl s p
  | cons batch batches ih => exact (deliver now now batch p).trans (ih _)

theorem drain (now : Instant) (batchSize : Nat) (vs : List Visitor) (p : Pool) :
    Grows s p (Worker.drain s now batchSize vs p) :=
  deliverAll now _ p

end Pool.Grows

namespace Service

/-! ## Credentials -/

/-- The request shows a credential that the gate takes. -/
def HasCredential (s : Service) (r : Request) : Prop :=
  (∃ token, Gate.bearer? r.headers = some token ∧ s.gate.accepts token) ∨
    s.gate.hasCookie r.headers ∨ ∃ token, Gate.queryToken? r = some token ∧ s.gate.accepts token

/-- Whoever is admitted has a credential. -/
theorem hasCredential_of_judge {s : Service} {r : Request} {cookie : Option String}
    (h : s.gate.judge r = .admitted cookie) : s.HasCredential r := by
  unfold Gate.judge at h
  split at h
  · next token htoken =>
    split at h
    · next haccepts => exact .inl ⟨token, htoken, haccepts⟩
    · cases h
  · split at h
    · next hcookie => exact .inr (.inl hcookie)
    · split at h
      · next token htoken =>
        split at h
        · next haccepts => exact .inr (.inr ⟨token, htoken, haccepts⟩)
        · cases h
      · cases h

/-! ## One request -/

/-- Two states with these databases and the same channel, whose rate limiters have seen the same. -/
structure Beside (p p' : Pool) (t t' : ServiceState) : Prop where
  pool : t.pool = p
  pool' : t'.pool = p'
  channel : t.channel = t'.channel
  knocks : t.knocks = t'.knocks

variable {s : Service} {p p' : Pool} {t t' : ServiceState}

theorem Beside.respects (p p' : Pool) : Respects (Beside p p') where
  knocks _ _ h := h.knocks
  knock _ _ _ h := { h with knocks := rfl }
  record now random visit _ _ h := { h with
    channel := congrArg (fun c : Channel => c.offer (visit.toVisitor now random)) h.channel }

/-- A request without a credential is answered alike, and both databases are as they were. -/
theorem agree_serve_of_beside [Engine] {a : Arrival} (hclosed : p.isClosed = p'.isClosed)
    (h : Beside p p' t t')
    (ha : ¬s.HasCredential a.request) :
    Agree (Beside p p') (s.serve a.now a.random a.request t)
      (s.serve a.now a.random a.request t') := by
  refine agree_serve (Beside.respects p p') h fun e he t t' h => ?_
  have hopen : ¬e.isGuarded := fun hguarded => by
    obtain ⟨cookie, hjudge⟩ := he.gate hguarded
    exact ha (hasCredential_of_judge hjudge)
  cases e with
  | dashboard | page | visitors | visitorCount | visitor => exact absurd rfl hopen
  | visits => exact agree_report (Beside.respects p p') h
  | health =>
    refine ⟨?_, h⟩
    change health t = health t'
    unfold health Store.ping
    rw [h.channel, h.pool, h.pool', hclosed]

/-! ## Runs -/

/-- What happens: a request comes, or the worker stores the visits that wait. -/
inductive Event where
  | request (a : Arrival)
  | store (batchSize : Nat) (now : Instant)

/-- The responses to the requests among some events, and the state after them. -/
def run [Engine] (s : Service) : List Event → ServiceState → List Response × ServiceState
  | [], t => ([], t)
  | .request a :: es, t =>
    let (response, t) := s.serve a.now a.random a.request (t.wait a.millis)
    let (responses, t) := s.run es t
    (response :: responses, t)
  | .store batchSize now :: es, t => s.run es (Main.settled s batchSize now t)

/-- The two states differ in what is stored and in what the dashboard has counted at most. -/
structure SameOutside (t t' : ServiceState) : Prop where
  isClosed : t.pool.isClosed = t'.pool.isClosed
  channel : t.channel = t'.channel
  knocks : t.knocks = t'.knocks

theorem SameOutside.wait (h : SameOutside t t') (millis : Nat) :
    SameOutside (t.wait millis) (t'.wait millis) where
  isClosed := h.isClosed
  channel := h.channel
  knocks := congrArg (fun k : Knocks => k.wait millis) h.knocks

theorem SameOutside.settled [Engine] (h : SameOutside t t') (s : Service) (batchSize : Nat)
    (now : Instant) :
    SameOutside (Main.settled s batchSize now t) (Main.settled s batchSize now t') := by
  unfold Main.settled
  rw [← h.channel]
  refine ⟨?_, rfl, h.knocks⟩
  exact (Pool.Grows.drain ..).isClosed.trans (h.isClosed.trans (Pool.Grows.drain ..).isClosed.symm)

/-- The runs of events from two states get the same responses, and in each of them the rows that
were stored stay as they are and where they are. -/
structure Confined [Engine] (s : Service) (es : List Event) (t t' : ServiceState) : Prop where
  responses : (s.run es t).1 = (s.run es t').1
  kept : t.pool.Grows s.store (s.run es t).2.pool
  kept' : t'.pool.Grows s.store (s.run es t').2.pool

/-- Whoever has no credential learns nothing about the visits and changes none: two runs that differ
only in the visits and the cached counts give the same answers. -/
theorem confined [Engine] {es : List Event} (h : SameOutside t t')
    (hes : ∀ a, .request a ∈ es → ¬s.HasCredential a.request) : s.Confined es t t' := by
  -- Outside the databases the two states stay the same, and every event lets its own database grow.
  induction es generalizing t t' with
  | nil => exact ⟨rfl, .refl .., .refl ..⟩
  | cons e es ih =>
    have hrest := fun a ha => hes a (List.mem_cons_of_mem _ ha)
    cases e with
    | request a =>
      have hwait := h.wait a.millis
      have hagree := agree_serve_of_beside hwait.isClosed ⟨rfl, rfl, hwait.channel, hwait.knocks⟩
        (hes a List.mem_cons_self)
      have hstate := hagree.state
      obtain ⟨responses, kept, kept'⟩ :=
        ih ⟨by rw [hstate.pool, hstate.pool', hwait.isClosed], hstate.channel, hstate.knocks⟩ hrest
      rw [hstate.pool] at kept
      rw [hstate.pool'] at kept'
      exact ⟨List.cons_eq_cons.2 ⟨hagree.response, responses⟩, kept, kept'⟩
    | store batchSize now =>
      obtain ⟨responses, kept, kept'⟩ := ih (h.settled s batchSize now) hrest
      exact ⟨responses, (Pool.Grows.drain ..).trans kept, (Pool.Grows.drain ..).trans kept'⟩

/-- Somebody asks for the visits and tries to delete one, then fetches a page, and the visit to it
is stored. -/
def strangers : List Event :=
  [.request ⟨0, ⟨0, 0⟩, 0, { path := "/v1/visitors" }⟩,
    .request ⟨1000, ⟨1, 0⟩, 0, { method := "DELETE", path := "/v1/visitors/a" }⟩,
    .request ⟨1000, ⟨2, 0⟩, 0, { path := "/page" }⟩, .store 1 ⟨2, 0⟩,
    .request ⟨1000, ⟨3, 0⟩, 0, { path := "/health" }⟩]

theorem confined_knocks :
    SameOutside loneState { loneState with pool := .ofVisits [] } ∧
      lone.Confined strangers loneState { loneState with pool := .ofVisits [] } ∧
      (lone.run strangers loneState).1.map Response.status = [401, 401, 404, 200] := by
  have hsame : SameOutside loneState { loneState with pool := .ofVisits [] } := ⟨rfl, rfl, rfl⟩
  refine ⟨hsame, confined hsame fun a ha => ?_, rfl⟩
  have hnothing : a.request.headers = [] ∧ a.request.query = none := by
    simp only [strangers, List.mem_cons, Event.request.injEq, reduceCtorEq, List.not_mem_nil,
      or_false, false_or] at ha
    rcases ha with rfl | rfl | rfl | rfl <;> exact ⟨rfl, rfl⟩
  obtain ⟨hheaders, hquery⟩ := hnothing
  have hparameters : a.request.parameters = [] := by rw [Request.parameters, hquery]; rfl
  rintro (⟨token, htoken, -⟩ | hcookie | ⟨token, htoken, -⟩)
  · rw [hheaders] at htoken
    cases htoken
  · rw [hheaders] at hcookie
    cases hcookie
  · rw [Gate.queryToken?, hparameters] at htoken
    cases htoken

end Service

end VisitLog

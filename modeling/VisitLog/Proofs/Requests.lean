import VisitLog.Main
import VisitLog.Proofs.Lifecycle

/-!
# Requests and the pipeline

To the database and the channel an answer does one thing at most: it puts a visit into the channel,
or it deletes the record of an identifier (`Moves`). So the service, which answers requests one
after the other and stores the waiting visits after each, is a run of the pipeline, and what holds
in every such run holds of the service.

Main statements: `Service.moves_serve` and `Service.exists_isOrderly_session`.
-/

namespace VisitLog

open Text Http

variable [Engine]

namespace Service

/-! ## What an answer can do -/

/-- What an answer can do to the database and to the channel. -/
inductive Moves (s : Service) (now : Instant) (t t' : ServiceState) : Prop
  | still (hpool : t'.pool = t.pool) (hchannel : t'.channel = t.channel)
  | recorded (random : Nat) (visit : Visit) (hpool : t'.pool = t.pool)
    (hchannel : t'.channel = t.channel.offer (visit.toVisitor now random))
  | deleted (id : String) (hpool : s.store.softDeleteById now id t.pool = .ok t'.pool)
    (hchannel : t'.channel = t.channel)

variable (s : Service) (now : Instant) (random : Nat) (e : Endpoint) (r : Request)
    (t : ServiceState)

theorem moves_track : s.Moves now t (s.track now random r t) := by
  unfold track
  split
  · exact .recorded random _ rfl rfl
  · exact .still rfl rfl

theorem moves_report : s.Moves now t (s.report now random r t).2 := by
  unfold report
  split
  · exact .recorded random _ rfl rfl
  · exact .still rfl rfl

theorem moves_showPage (p : Page) (ps : Parameters) : s.Moves now t (s.showPage now p ps t).2 := by
  cases p <;> exact .still rfl rfl

theorem moves_deleteVisitor (id : String) : s.Moves now t (s.deleteVisitor now id t).2 := by
  unfold deleteVisitor
  split
  · next h => exact .deleted id h rfl
  · exact .still rfl rfl

/-- An answer sends visits, deletes the record of an identifier, or changes nothing of the pipeline.
-/
theorem moves_answer : s.Moves now t (s.answer now random e r t).2 := by
  cases e with
  | dashboard | page => exact s.moves_showPage now t _ _
  | visitors | visitorCount | health => exact .still rfl rfl
  | visits => exact s.moves_report now random r t
  | visitor segment =>
    unfold answer
    dsimp only
    split
    · exact .still rfl rfl
    · split
      · exact s.moves_deleteVisitor now t _
      · exact .still rfl rfl

theorem moves_answerMethod : s.Moves now t (s.answerMethod now random e r t).2 := by
  unfold answerMethod
  split
  · exact s.moves_answer now random e r t
  · exact .still rfl rfl

theorem moves_enter : s.Moves now t (s.enter now random e r t).2 := by
  unfold enter
  split
  · exact .still rfl rfl
  · next cookie _ => cases cookie <;> exact s.moves_answerMethod now random e r t

theorem moves_limited : s.Moves now t (s.limited now random e r t).2 := by
  unfold limited
  split
  · exact .still rfl rfl
  · next client _ =>
    dsimp only
    split
    · -- What the limiter has seen is neither in the database nor in the channel.
      cases s.moves_answerMethod now random e r { t with knocks := t.knocks.add client } with
      | still hpool hchannel => exact .still hpool hchannel
      | recorded random visit hpool hchannel => exact .recorded random visit hpool hchannel
      | deleted id hpool hchannel => exact .deleted id hpool hchannel
    · exact .still rfl rfl

theorem moves_approach : s.Moves now t (s.approach now random e r t).2 := by
  unfold approach
  split
  · unfold fromAnywhere
    split
    · exact .still rfl rfl
    · exact s.moves_limited now random .visits r t
  · split
    · exact s.moves_enter now random e r t
    · exact s.moves_answerMethod now random e r t

/-- A request is tracked, and then it is answered. -/
theorem moves_serve : s.Moves now t (s.track now random r t) ∧
    s.Moves now (s.track now random r t) (s.serve now random r t).2 := by
  refine ⟨s.moves_track now random r t, ?_⟩
  unfold serve
  dsimp only
  split
  · exact .still rfl rfl
  · exact s.moves_approach now random _ r _

/-! ## The run of a session -/

/-- A request, the time at which it comes, and what chance gives to its visit. -/
structure Arrival where
  /-- The milliseconds since the request before. -/
  millis : Nat
  now : Instant
  random : Nat
  request : Request

/-- The state once a request is answered and the waiting visits are stored. -/
def respond (batchSize : Nat) (t : ServiceState) (a : Arrival) : ServiceState :=
  Main.settled s batchSize a.now (s.serve a.now a.random a.request (t.wait a.millis)).2

/-- Between two requests, the service is where the pipeline is, and the worker has nothing to do. -/
structure Mirrors (batchSize : Nat) (t : ServiceState) (x : Pipeline) : Prop where
  pool : x.pool = t.pool
  channel : x.channel = t.channel
  isOpen : x.isOpen
  idle : x.IsIdle
  worker : x.worker = { batchSize := batchSize }

variable {s now random r t} {t' : ServiceState} {x : Pipeline} {batchSize : Nat}

/-- Each move of the service is one of the pipeline. -/
theorem Moves.exists_reached (h : s.Moves now t t') (hnow : x.now = now)
    (hx : Mirrors batchSize t x) :
    ∃ y, Pipeline.Reached s.store (Lifecycle.clients s.store) x y ∧ y.now = now ∧
    Mirrors batchSize t' y := by
  subst hnow
  cases h with
  | still hpool hchannel =>
    exact ⟨x, .refl, rfl,
      { hx with pool := hx.pool.trans hpool.symm, channel := hx.channel.trans hchannel.symm }⟩
  | recorded random visit hpool hchannel =>
    refine ⟨_, (Pipeline.Step.arrive x random visit hx.isOpen).reached, rfl,
      { hx with
        pool := hx.pool.trans hpool.symm
        idle := ⟨hx.idle.hand, hx.idle.isEnding⟩
        channel := ?_ }⟩
    rw [hchannel, ← hx.channel]
    rfl
  | deleted id hpool hchannel =>
    have hact : (Lifecycle.clients s.store).acts x.now x.pool t'.pool := by
      refine ⟨.softDeleteById id, .softDelete id, ?_⟩
      rw [Operation.result, hx.pool, hpool]
      rfl
    exact ⟨_, (Pipeline.Step.other x hact).reached, rfl,
      { hx with
        pool := rfl
        idle := ⟨hx.idle.hand, hx.idle.isEnding⟩
        channel := hx.channel.trans hchannel.symm }⟩

/-- The visits that wait are stored. -/
theorem exists_reached_settled (s : Service) (hnow : x.now = now) (hx : Mirrors batchSize t x) :
    ∃ y, Pipeline.Reached s.store (Lifecycle.clients s.store) x y ∧ y.now = now ∧
      Mirrors batchSize (Main.settled s batchSize now t) y := by
  subst hnow
  have hbuffer : x.worker.buffer = [] := by rw [hx.worker]
  obtain ⟨ds, hreached⟩ :=
    Pipeline.exists_reached_drain s.store (Lifecycle.clients s.store) hx.idle hbuffer
  refine ⟨_, hreached, rfl, ?_, ?_, hx.isOpen, ⟨hx.idle.hand, hx.idle.isEnding⟩, hx.worker⟩
  · unfold Main.settled
    rw [hx.worker, hx.pool, hx.channel]
  · unfold Main.settled
    rw [hx.channel]

theorem exists_reached_respond {a : Arrival} (hx : Mirrors batchSize t x) (hle : x.now ≤ a.now)
    (hmodern : a.now.IsModern) :
    ∃ y, Pipeline.Reached s.store (Lifecycle.clients s.store) x y ∧ y.now = a.now ∧
      Mirrors batchSize (s.respond batchSize t a) y := by
  have htick : Pipeline.Step s.store (Lifecycle.clients s.store) x { x with now := a.now } :=
    .tick x ⟨hle, hmodern⟩
  obtain ⟨htrack, hanswer⟩ := s.moves_serve a.now a.random a.request (t.wait a.millis)
  obtain ⟨y, hxy, hy, hmirrors⟩ := htrack.exists_reached (x := { x with now := a.now }) rfl
    { pool := hx.pool, channel := hx.channel, isOpen := hx.isOpen
      idle := ⟨hx.idle.hand, hx.idle.isEnding⟩, worker := hx.worker }
  obtain ⟨z, hyz, hz, hmirrors⟩ := hanswer.exists_reached hy hmirrors
  obtain ⟨w, hzw, hw, hmirrors⟩ := exists_reached_settled s hz hmirrors
  exact ⟨w, htick.reached.trans (hxy.trans (hyz.trans hzw)), hw, hmirrors⟩

/-- Requests that come one after the other are a run of the pipeline. -/
theorem exists_reached_session (as : List Arrival) (hx : Mirrors batchSize t x)
    (hmodern : ∀ a ∈ as, x.now ≤ a.now ∧ a.now.IsModern)
    (hsorted : as.Pairwise fun a b => a.now ≤ b.now) :
    ∃ y, Pipeline.Reached s.store (Lifecycle.clients s.store) x y ∧
      Mirrors batchSize (as.foldl (s.respond batchSize) t) y := by
  induction hsorted generalizing t x with
  | nil => exact ⟨x, .refl, hx⟩
  | @cons a as hfirst _ ih =>
    obtain ⟨hle, ha⟩ := hmodern a List.mem_cons_self
    obtain ⟨y, hxy, hy, hmirrors⟩ := exists_reached_respond (s := s) hx hle ha
    obtain ⟨z, hyz, hz⟩ :=
      ih hmirrors fun b hb => ⟨hy ▸ hfirst b hb, (hmodern b (List.mem_cons_of_mem _ hb)).2⟩
    exact ⟨z, hxy.trans hyz, hz⟩

/-- A service that starts with an empty table keeps it in order: the identifiers of its rows are
different, and their times are in order, whatever is asked of it. -/
theorem exists_isOrderly_session (as : List Arrival) {now : Instant} (hnow : now.IsModern)
    (hopen : t.pool.isClosed = false) (hrows : t.pool.Holds s.store [])
    (hwaiting : t.channel.waiting = []) (hmodern : ∀ a ∈ as, now ≤ a.now ∧ a.now.IsModern)
    (hsorted : as.Pairwise fun a b => a.now ≤ b.now) :
    ∃ rows y, (as.foldl (s.respond batchSize) t).pool.Holds s.store rows ∧
      Pipeline.Reached s.store (Lifecycle.clients s.store)
        (.start t.channel.capacity_pos batchSize now t.pool) y ∧
      Mirrors batchSize (as.foldl (s.respond batchSize) t) y ∧
        Lifecycle.IsOrderly s.store rows y := by
  have hchannel : { capacity := t.channel.capacity, capacity_pos := t.channel.capacity_pos } =
      t.channel := by
    rw [← hwaiting]
  have hstart : Mirrors batchSize t (.start t.channel.capacity_pos batchSize now t.pool) :=
    ⟨rfl, hchannel, rfl, ⟨rfl, rfl⟩, rfl⟩
  obtain ⟨y, hy, hmirrors⟩ := exists_reached_session as hstart hmodern hsorted
  obtain ⟨rows, horderly⟩ :=
    Lifecycle.exists_isOrderly hy (.start t.channel.capacity_pos batchSize now t.pool)
    (.start t.channel.capacity_pos hnow hopen hrows)
  exact ⟨rows, y, hmirrors.pool ▸ horderly.holds, hy, hmirrors, horderly⟩

end Service

end VisitLog

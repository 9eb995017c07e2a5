import VisitLog.Proofs.Pipeline
import VisitLog.WriteBehind.Schedule

/-!
# The worker in time is a pipeline

A schedule says when the worker meets its events. It follows a pipeline (`Mirrors`): the batch that
waits for its second attempt is the one in the hand of the worker, and everything that a schedule
does is a run of the pipeline. Each batch takes visits away and is met twice at most (`weight`), so
the fuel of a schedule is enough for all that is due (`not_isDue_catchUp`, `retry_takeAll`).

Main statement: `Schedule.exists_deliveries_close`.
-/

namespace VisitLog

namespace Schedule

/-! ## What is due -/

/-- Something happens before a time: a second attempt, or a timer that finds visits in the
buffer. -/
def IsDue (limit : Nat) (t : Schedule) : Prop :=
  match t.retry with
  | some (again, _) => again < limit
  | none => t.worker.buffer ≠ [] ∧ t.nextTimer < limit

/-- A bound on the attempts that are left, where the visits `vs` wait. -/
def weight (t : Schedule) (vs : List Visitor) : Nat :=
  2 * (vs.length + t.worker.buffer.length) + t.retry.toList.length

variable {t : Schedule} {vs batch : List Visitor} {again limit : Nat}

theorem waiting_meet [Engine] (t : Schedule) (e : WorkerEvent) :
    (t.meet e).waiting = t.waiting := by
  unfold meet hand
  dsimp only
  split
  · rfl
  · split <;> rfl

theorem worker_meet [Engine] (t : Schedule) (e : WorkerEvent) :
    (t.meet e).worker = (t.worker.step e).1 := by
  unfold meet hand
  dsimp only
  split
  · rfl
  · split <;> rfl

theorem retry_meet [Engine] (h : t.retry = none) (e : WorkerEvent) :
    (t.meet e).retry.toList.length ≤ (t.worker.step e).2.toList.length := by
  unfold meet hand
  dsimp only
  split
  · next hstep =>
    rw [hstep, h]
    exact Nat.le_refl 0
  · next hstep =>
    rw [hstep]
    split
    · rw [h]
      exact Nat.zero_le 1
    · exact Nat.le_refl 1

/-- An event weighs as much as the visit that it brings, and less if a batch is handed over. -/
theorem weight_meet [Engine] (h : t.retry = none) (e : WorkerEvent) (vs : List Visitor) :
    (t.meet e).weight vs + (t.worker.step e).2.toList.length ≤
      t.weight ((Worker.visitOf? e).toList ++ vs) := by
  have hflat := congrArg List.length (t.worker.flatten_step e)
  have hretry := retry_meet h e
  rw [weight, weight, worker_meet, h]
  cases hstep : (t.worker.step e).2 with
  | none =>
    rw [hstep] at hflat hretry
    simp only [Option.toList, List.flatten_nil, List.nil_append, List.length_append,
      List.length_nil] at *
    omega
  | some batch =>
    have hbatch := List.length_pos_iff.2 (Worker.batch_step hstep).1
    rw [hstep] at hflat hretry
    simp only [Option.toList, List.flatten_cons, List.flatten_nil, List.append_nil,
      List.length_append, List.length_cons, List.length_nil] at *
    omega

/-- A timer that finds visits in the buffer hands them over. -/
theorem weight_meet_timer [Engine] (h : t.retry = none) (hbuffer : t.worker.buffer ≠ []) :
    (t.meet .timer).weight (t.meet .timer).waiting < t.weight t.waiting := by
  have hbatch : (t.worker.step .timer).2.toList.length = 1 := by
    unfold Worker.step
    dsimp only
    split
    · next hnil => exact absurd hnil hbuffer
    · rfl
  have hmeet := weight_meet h .timer t.waiting
  rw [hbatch] at hmeet
  rw [waiting_meet]
  exact hmeet

theorem weight_take [Engine] (h : t.retry = none) (vs : List Visitor) :
    (t.take vs).weight (t.take vs).waiting ≤ t.weight vs := by
  induction vs generalizing t with
  | nil => exact Nat.le_refl _
  | cons v vs ih =>
    have hmeet : (t.meet (.received v)).weight vs ≤ t.weight (v :: vs) :=
      Nat.le_trans (Nat.le_add_right ..) (weight_meet h (.received v) vs)
    unfold take
    dsimp only
    split
    · exact hmeet
    · next hretry => exact Nat.le_trans (ih (Option.not_isSome_iff_eq_none.1 hretry)) hmeet

theorem weight_tryAgain [Engine] (h : t.retry = some (again, batch)) :
    (t.tryAgain batch).weight (t.tryAgain batch).waiting < t.weight t.waiting := by
  have hless : t.weight t.waiting =
      2 * (t.waiting.length + t.worker.buffer.length) + 1 := by
    rw [weight, h]
    rfl
  rw [hless]
  exact Nat.lt_succ_of_le (weight_take rfl _)

theorem weight_lt_fuel (t : Schedule) : t.weight t.waiting < t.fuel := by
  rw [weight, fuel]
  cases t.retry <;> simp only [Option.toList, List.length_nil, List.length_singleton] <;> omega

/-- Nothing before the time is left to do when the fuel was enough. -/
theorem not_isDue_catchUpFrom [Engine] {fuel : Nat} (h : t.weight t.waiting < fuel) (limit : Nat) :
    ¬(catchUpFrom fuel limit t).IsDue limit := by
  induction fuel generalizing t with
  | zero => exact absurd h (Nat.not_lt_zero _)
  | succ fuel ih =>
    unfold catchUpFrom
    split
    · next again batch hretry =>
      split
      · have hless := weight_tryAgain (t := { t with time := max t.time again }) hretry
        exact ih (Nat.lt_of_lt_of_le hless (Nat.le_of_lt_succ h))
      · next hlater =>
        rw [IsDue, hretry]
        exact hlater
    · next hretry =>
      split
      · next hempty =>
        rw [IsDue]
        dsimp only
        rw [hretry]
        exact fun hdue => hdue.1 (List.isEmpty_iff.1 hempty)
      · next hbuffer =>
        split
        · have hless := weight_meet_timer (t := { t with
            time := max t.time t.nextTimer, nextTimer := t.nextTimer + t.period })
            hretry fun hnil => hbuffer (List.isEmpty_iff.2 hnil)
          exact ih (Nat.lt_of_lt_of_le hless (Nat.le_of_lt_succ h))
        · next hlater =>
          rw [IsDue, hretry]
          exact fun hdue => hlater hdue.2

theorem not_isDue_catchUp [Engine] (limit : Nat) (t : Schedule) : ¬(t.catchUp limit).IsDue limit :=
  not_isDue_catchUpFrom t.weight_lt_fuel limit

/-- No batch waits for its second attempt when the fuel was enough. -/
theorem retry_takeAll [Engine] {fuel : Nat} (h : t.weight t.waiting ≤ fuel) :
    (takeAll fuel t).retry = none := by
  induction fuel generalizing t with
  | zero =>
    have hnone := Nat.eq_zero_of_le_zero (Nat.le_trans (Nat.le_add_left ..) h)
    exact Option.toList_eq_nil_iff.1 (List.length_eq_zero_iff.1 hnone)
  | succ fuel ih =>
    unfold takeAll
    split
    · next hretry => exact ih (Nat.le_of_lt_succ (Nat.lt_of_lt_of_le (weight_tryAgain hretry) h))
    · next hretry => exact hretry

/-! ## The pipeline that a schedule follows -/

/-- The pipeline is where the schedule is, while the visits `vs` wait. -/
structure Agrees (s : Store) (t : Schedule) (vs : List Visitor) (x : Pipeline) : Prop where
  store : t.store = s
  now : x.now = t.now
  pool : x.pool = t.pool
  waiting : x.channel.waiting = vs
  worker : x.worker = t.worker
  hand : x.hand = t.retry.map fun r => { batch := r.2, refusals := 1 }

/-- Between two events, the pipeline is where the schedule is. -/
structure Mirrors (s : Store) (t : Schedule) (x : Pipeline) :
    Prop extends t.Agrees s t.waiting x where
  rest : t.retry = none → t.waiting = []
  ended : x.isEnding → t.waiting = []

end Schedule

/-- The worker takes the pipeline from one state to the other, and nothing comes from outside. -/
structure Pipeline.Works [Engine] (s : Store) (around : Surroundings) (x y : Pipeline) : Prop where
  reached : Reached s around x y
  now : y.now = x.now
  accepted : y.accepted = x.accepted
  isOpen : y.isOpen = x.isOpen
  isEnding : y.isEnding = x.isEnding

namespace Pipeline

variable [Engine]

variable {s : Store} {around : Surroundings} {x y z : Pipeline}

theorem Works.refl (x : Pipeline) : Works s around x x :=
  ⟨.refl, rfl, rfl, rfl, rfl⟩

theorem Works.trans (h : Works s around x y) (h' : Works s around y z) : Works s around x z where
  reached := h.reached.trans h'.reached
  now := h'.now.trans h.now
  accepted := h'.accepted.trans h.accepted
  isOpen := h'.isOpen.trans h.isOpen
  isEnding := h'.isEnding.trans h.isEnding

theorem works_attempt {d : Delivery} (hd : x.hand = some d) : Works s around x (x.attempt s d) :=
  ⟨(Step.attempt x hd).reached, rfl, rfl, rfl, rfl⟩

end Pipeline

namespace Schedule

variable {s : Store} (around : Surroundings) {t : Schedule} {x : Pipeline} {vs batch : List Visitor}
  {again : Nat}

/-- No visits wait after the event. -/
theorem Agrees.mirrors [Engine] {e : WorkerEvent} (h : (t.meet e).Agrees s t.waiting x)
    (hwaiting : t.waiting = []) :
    (t.meet e).Mirrors s x := by
  have hmeet : (t.meet e).waiting = [] := (waiting_meet t e).trans hwaiting
  exact { hmeet ▸ hwaiting ▸ h with rest := fun _ => hmeet, ended := fun _ => hmeet }

/-- The first attempt at a batch. -/
theorem exists_hand [Engine] {handed : Option (List Visitor)}
    (h : t.Agrees s vs { x with hand := none })
    (hhand : x.hand = handed.map fun vs => { batch := vs }) :
    ∃ y, Pipeline.Works s around x y ∧ (t.hand handed).Agrees s vs y := by
  have hretry : t.retry = none := Option.map_eq_none_iff.1 h.hand.symm
  obtain ⟨now, pool, channel, isOpen, worker, tried, isEnding, accepted, deliveries⟩ := x
  obtain ⟨rfl, rfl, rfl, rfl, rfl, -⟩ := h
  cases handed with
  | none =>
    cases hhand
    exact ⟨_, .refl _, rfl, rfl, rfl, rfl, rfl, by rw [hand, hretry]; rfl⟩
  | some batch =>
    refine ⟨_, Pipeline.works_attempt hhand, ?_⟩
    unfold hand Pipeline.attempt Delivery.attempt
    dsimp only
    cases t.store.createBatch t.now batch t.pool with
    | ok stored => exact ⟨rfl, rfl, rfl, rfl, rfl, by rw [hretry]; rfl⟩
    | error failure => exact ⟨rfl, rfl, rfl, rfl, rfl, rfl⟩

theorem exists_meet [Engine] (h : t.Agrees s vs x) (hretry : t.retry = none) (e : WorkerEvent) :
    ∃ y, Pipeline.Works s around (x.meet e) y ∧ (t.meet e).Agrees s vs y := by
  refine exists_hand around (t := { t with worker := (t.worker.step e).1 })
    ⟨h.store, h.now, h.pool, h.waiting, ?_, ?_⟩ ?_
  · exact congrArg (fun w : Worker => (w.step e).1) h.worker
  · rw [hretry]
    rfl
  · unfold Pipeline.meet
    rw [h.worker]
    rfl

/-- The worker takes the visits that wait. -/
theorem exists_take [Engine] (h : t.Agrees s vs x) (hretry : t.retry = none)
    (hx : x.isEnding → vs = []) :
    ∃ y, Pipeline.Works s around x y ∧ (t.take vs).Mirrors s y := by
  have hidle : x.hand = none := h.hand.trans (congrArg _ hretry)
  induction vs generalizing t x with
  | nil => exact ⟨x, .refl x, { h with rest := fun _ => rfl, ended := fun _ => rfl }⟩
  | cons v vs ih =>
    have hopen : x.isEnding = false :=
      Bool.eq_false_iff.2 fun hending => List.cons_ne_nil v vs (hx hending)
    obtain ⟨y, hworks, hy⟩ := exists_meet around
      (x := { x with channel := { x.channel with waiting := vs } }) { h with waiting := rfl }
        hretry (.received v)
    have htake : Pipeline.Step s around x (x.take v vs) := .take x ⟨hidle, hopen⟩ h.waiting
    have hxy : Pipeline.Works s around x y :=
      .trans ⟨htake.reached, rfl, rfl, rfl, rfl⟩ hworks
    have hending : ¬y.isEnding := by
      rw [hxy.isEnding, hopen]
      decide
    unfold take
    dsimp only
    split
    · next hretry' =>
      refine ⟨y, hxy, { hy with rest := fun hnone => ?_, ended := fun h => absurd h hending }⟩
      dsimp only at hnone
      rw [hnone] at hretry'
      cases hretry'
    · next hretry' =>
      have hnone := Option.not_isSome_iff_eq_none.1 hretry'
      obtain ⟨z, hyz, hz⟩ :=
        ih hy hnone (fun h => absurd h hending) (hy.hand.trans (congrArg _ hnone))
      exact ⟨z, hxy.trans hyz, hz⟩

/-- The second attempt at a batch, and what the worker takes then. -/
theorem exists_tryAgain [Engine] (h : t.Mirrors s x) (hretry : t.retry = some (again, batch)) :
    ∃ y, Pipeline.Works s around x y ∧ (t.tryAgain batch).Mirrors s y := by
  have hd : x.hand = some { batch := batch, refusals := 1 } := h.hand.trans (congrArg _ hretry)
  have hover := Delivery.isOver_attempt (d := { batch := batch, refusals := 1 }) rfl s x.now x.pool
  have hagrees : Agrees s { t with
      pool := (Delivery.attempt s x.now { batch := batch, refusals := 1 } x.pool).2
      retry := none } t.waiting (x.attempt s { batch := batch, refusals := 1 }) := by
    rw [Pipeline.attempt_of_isOver hover]
    exact ⟨h.store, h.now, rfl, h.waiting, h.worker, rfl⟩
  have htryAgain : t.tryAgain batch = take { t with
      pool := (Delivery.attempt s x.now { batch := batch, refusals := 1 } x.pool).2
      retry := none } t.waiting := by
    unfold tryAgain Delivery.attempt
    rw [h.now, h.pool, h.store]
    cases s.createBatch t.now batch t.pool <;> rfl
  obtain ⟨y, hy, hmirrors⟩ := exists_take around hagrees rfl h.ended
  exact ⟨y, (Pipeline.works_attempt hd).trans hy, htryAgain ▸ hmirrors⟩

/-- Whatever a schedule does up to a time is work of the pipeline. -/
theorem exists_catchUpFrom [Engine] (h : t.Mirrors s x) (hx : x.isEnding = false)
    (fuel limit : Nat) :
    ∃ y, Pipeline.Works s around x y ∧ (catchUpFrom fuel limit t).Mirrors s y := by
  induction fuel generalizing t x with
  | zero => exact ⟨x, .refl x, h⟩
  | succ fuel ih =>
    unfold catchUpFrom
    split
    · next again batch hretry =>
      split
      · obtain ⟨y, hxy, hy⟩ := exists_tryAgain around
          (t := { t with time := max t.time again }) { h with } hretry
        obtain ⟨z, hyz, hz⟩ := ih hy (hxy.isEnding.trans hx)
        exact ⟨z, hxy.trans hyz, hz⟩
      · exact ⟨x, .refl x, h⟩
    · next hretry =>
      split
      · exact ⟨x, .refl x, { h with }⟩
      · split
        · have hidle : x.IsIdle := ⟨h.hand.trans (congrArg _ hretry), hx⟩
          have htimer : Pipeline.Step s around x (x.meet .timer) := .timer x hidle
          obtain ⟨y, hworks, hy⟩ := exists_meet around (t := { t with
            time := max t.time t.nextTimer, nextTimer := t.nextTimer + t.period })
              { h with } hretry .timer
          have hxy : Pipeline.Works s around x y :=
            .trans ⟨htimer.reached, rfl, rfl, rfl, rfl⟩ hworks
          obtain ⟨z, hyz, hz⟩ := ih (hy.mirrors (h.rest hretry)) (hxy.isEnding.trans hx)
          exact ⟨z, hxy.trans hyz, hz⟩
        · exact ⟨x, .refl x, h⟩

theorem exists_takeAll [Engine] (h : t.Mirrors s x) (fuel : Nat) :
    ∃ y, Pipeline.Works s around x y ∧ (takeAll fuel t).Mirrors s y := by
  induction fuel generalizing t x with
  | zero => exact ⟨x, .refl x, h⟩
  | succ fuel ih =>
    unfold takeAll
    split
    · next hretry =>
      obtain ⟨y, hxy, hy⟩ := exists_tryAgain around h hretry
      obtain ⟨z, hyz, hz⟩ := ih hy
      exact ⟨z, hxy.trans hyz, hz⟩
    · exact ⟨x, .refl x, h⟩

/-! ## What a schedule comes to -/

/-- What is asked of a schedule. -/
inductive Call where
  | send (random : Nat) (visit : Visit)
  | pass (millis : Nat)
  | settle

/-- The visit that is sent, captured at the clock. -/
def Call.visit? (now : Instant) : Call → Option Visitor
  | send random visit => some (visit.toVisitor now random)
  | pass _ | settle => none

/-- The schedule after a call. -/
def call [Engine] (t : Schedule) : Call → Schedule
  | .send random visit => t.send (visit.toVisitor t.now random)
  | .pass millis => t.pass millis
  | .settle => t.settle

/-- Sending to a schedule is an arrival in the pipeline and the work that follows at once. -/
theorem exists_send [Engine] (h : t.Mirrors s x) (hx : x.isEnding = false)
    (hroom : ¬x.channel.isFull) (v : Visitor) :
    ∃ y, Pipeline.Works s around (x.arrive v) y ∧ (t.send v).Mirrors s y := by
  have hwaiting : (x.arrive v).channel.waiting = t.waiting ++ [v] := by
    refine (x.channel.waiting_offer v).trans ?_
    rw [if_neg hroom, h.waiting]
  have hagrees : t.Agrees s (t.waiting ++ [v]) (x.arrive v) := { h with waiting := hwaiting }
  have hending : ¬(x.arrive v).isEnding := Bool.not_eq_true _ ▸ hx
  unfold send
  dsimp only
  split
  · next hretry =>
    refine ⟨_, .refl _,
      { hagrees with rest := fun hnone => ?_, ended := fun h => absurd h hending }⟩
    dsimp only at hnone
    rw [hnone] at hretry
    cases hretry
  · next hretry =>
    exact exists_take around hagrees (Option.not_isSome_iff_eq_none.1 hretry) fun h =>
      absurd h hending

theorem mirrors_start {capacity : Nat} (hcapacity : 0 < capacity) (s : Store) (now : Instant)
    (batchSize intervalSeconds : Nat) (p : Pool) :
    (start s now batchSize intervalSeconds p).Mirrors s (.start hcapacity batchSize now p) where
  store := rfl
  now := rfl
  pool := rfl
  waiting := rfl
  worker := rfl
  hand := rfl
  rest _ := rfl
  ended := nofun

/-- A call is a run of the pipeline as long as its channel has room. -/
theorem exists_reached_call [Engine] {capacity batchSize : Nat} (h : t.Mirrors s x)
    (hx : x.Invariant capacity batchSize) (hending : x.isEnding = false) (hopen : x.isOpen)
    (c : Call)
    (hroom : x.accepted.length + (c.visit? t.now).toList.length ≤ capacity) :
    ∃ y, Pipeline.Reached s around x y ∧ y.now = x.now ∧ y.isEnding = false ∧ y.isOpen ∧
      y.accepted = x.accepted ++ (c.visit? t.now).toList ∧ (t.call c).Mirrors s y := by
  cases c with
  | send random visit =>
    have hfree : ¬x.channel.isFull := by
      have hwaiting := congrArg List.length hx.conserved
      have hsize := hx.size
      simp only [Call.visit?, Option.toList_some, List.length_append,
        List.length_cons] at hroom hwaiting
      rw [Pipeline.isFull_iff hx.bounded]
      omega
    have harrive : Pipeline.Step s around x _ := .arrive x random visit hopen
    rw [h.now] at harrive
    obtain ⟨y, hxy, hy⟩ := exists_send around h hending hfree (visit.toVisitor t.now random)
    refine ⟨y, harrive.reached.trans hxy.reached, hxy.now, hxy.isEnding.trans hending,
      hxy.isOpen.trans hopen, ?_, hy⟩
    rw [hxy.accepted, Pipeline.accepted_arrive, if_neg hfree]
    rfl
  | pass millis =>
    obtain ⟨y, hxy, hy⟩ := exists_catchUpFrom around h hending t.fuel (t.time + millis)
    exact ⟨y, hxy.reached, hxy.now, hxy.isEnding.trans hending, hxy.isOpen.trans hopen,
      hxy.accepted.trans (List.append_nil _).symm, { hy with }⟩
  | settle =>
    obtain ⟨y, hxy, hy⟩ := exists_catchUpFrom around h hending t.fuel (t.time + 1)
    exact ⟨y, hxy.reached, hxy.now, hxy.isEnding.trans hending, hxy.isOpen.trans hopen,
      hxy.accepted.trans (List.append_nil _).symm, { hy with }⟩

/-- Calls are a run of the pipeline as long as its channel has room. -/
theorem exists_reached_calls [Engine] {capacity batchSize : Nat} (h : t.Mirrors s x)
    (hx : x.Invariant capacity batchSize) (hending : x.isEnding = false) (hopen : x.isOpen)
    (cs : List Call)
    (hroom : x.accepted.length + (cs.filterMap (Call.visit? t.now)).length ≤ capacity) :
    ∃ y, Pipeline.Reached s around x y ∧ y.isEnding = false ∧
      y.accepted = x.accepted ++ cs.filterMap (Call.visit? t.now) ∧
      (cs.foldl call t).Mirrors s y := by
  induction cs generalizing t x with
  | nil => exact ⟨x, .refl, hending, (List.append_nil _).symm, h⟩
  | cons c cs ih =>
    have hvisits : (c :: cs).filterMap (Call.visit? t.now) =
        (c.visit? t.now).toList ++ cs.filterMap (Call.visit? t.now) := by
      cases hc : c.visit? t.now <;> simp [hc]
    rw [hvisits, List.length_append] at hroom
    obtain ⟨y, hxy, hnow, hending', hopen', haccepted, hy⟩ :=
      exists_reached_call around h hx hending hopen c (by omega)
    have hsame : (t.call c).now = t.now := hy.now.symm.trans (hnow.trans h.now)
    obtain ⟨z, hyz, hz⟩ := ih hy (hxy.invariant hx) hending' hopen' (by
      rw [haccepted, hsame, List.length_append]
      omega)
    rw [hsame, haccepted, List.append_assoc, ← hvisits] at hz
    exact ⟨z, hxy.trans hyz, hz⟩

/-- When the channel is closed, the worker comes to its end. -/
theorem exists_reached_close [Engine] (h : t.Mirrors s x) (hending : x.isEnding = false) :
    ∃ y, Pipeline.Reached s around x y ∧ y.isEnding ∧ y.hand = none ∧ y.accepted = x.accepted ∧
      y.pool = t.close := by
  have hclose : Pipeline.Step s around x { x with isOpen := false } := .close x
  obtain ⟨y, hxy, hy⟩ := exists_takeAll around (x := { x with isOpen := false }) { h with } t.fuel
  have hretry := retry_takeAll (Nat.le_of_lt t.weight_lt_fuel)
  unfold close
  dsimp only
  generalize takeAll t.fuel t = t' at hy hretry
  have hwaiting := hy.rest hretry
  have hfinish : Pipeline.Step s around y y.finish := .finish y
    ⟨hy.hand.trans (congrArg _ hretry), hxy.isEnding.trans hending⟩ hxy.isOpen
      (hy.waiting.trans hwaiting)
  obtain ⟨z, hyz, hz⟩ := exists_meet around (x := { y with isEnding := true }) { hy.toAgrees with }
    hretry .closed
  obtain ⟨w, hzw, hw⟩ := exists_takeAll around (hz.mirrors hwaiting) 1
  have hlast : (takeAll 1 (t'.meet .closed)).retry = none := by
    refine retry_takeAll ?_
    rw [weight, waiting_meet, worker_meet, hwaiting, t'.worker.buffer_closed]
    exact Nat.le_trans (Nat.le_of_eq (Nat.zero_add _)) Option.length_toList_le
  refine ⟨w,
    hclose.reached.trans
      (hxy.reached.trans (hfinish.reached.trans (hyz.reached.trans hzw.reached))),
        hzw.isEnding.trans hyz.isEnding, hw.hand.trans (congrArg _ hlast), ?_, hw.pool⟩
  exact hzw.accepted.trans (hyz.accepted.trans hxy.accepted)

/-- Nothing happens around the worker. -/
def alone : Surroundings where
  ticks _ _ := False
  acts _ _ _ := False

/-- A worker in time puts what was sent to it into batches, in order, and behind the rows of the
table come those of the batches that were stored. -/
theorem exists_deliveries_close [Engine] (s : Store) (now : Instant)
    (batchSize intervalSeconds : Nat) (p : Pool)
    (cs : List Call) : ∃ ds : List Delivery,
      ds.flatMap Delivery.batch = cs.filterMap (Call.visit? now) ∧
      (∀ d ∈ ds, d.batch ≠ [] ∧ d.batch.length ≤ max batchSize 1 ∧ d.IsSettled) ∧
      ∀ rows rows', p.Holds s rows →
        (cs.foldl call (start s now batchSize intervalSeconds p)).close.Holds s rows' →
          rows' = rows ++ ds.flatMap Delivery.rows := by
  have hcapacity : 0 < (cs.filterMap (Call.visit? now)).length + 1 := Nat.succ_pos _
  have hstart := Pipeline.Invariant.start hcapacity batchSize now p
  obtain ⟨x, hx, hending, haccepted, hmirrors⟩ := exists_reached_calls alone
    (mirrors_start hcapacity s now batchSize intervalSeconds p) hstart rfl rfl cs
    (Nat.le_trans (Nat.le_of_eq (Nat.zero_add _)) (Nat.le_succ _))
  obtain ⟨y, hxy, hended, hhand, hsame, hpool⟩ := exists_reached_close alone hmirrors hending
  have hy := (hx.trans hxy).invariant hstart
  have hhanded : y.handed = y.deliveries := by
    rw [Pipeline.handed, hhand]
    exact List.append_nil _
  refine ⟨y.deliveries, ?_, fun d hd => ?_, fun rows rows' hrows hrows' => ?_⟩
  · have hconserved := hy.conserved
    obtain ⟨-, hbuffer, hwaiting⟩ := hy.ended hended
    rw [hbuffer, hwaiting, hhanded, hsame, haccepted] at hconserved
    exact (List.append_nil _).symm.trans hconserved.symm
  · obtain ⟨hne, hlength⟩ := hy.batches d (hhanded ▸ hd)
    exact ⟨hne, hy.fullSize ▸ hlength, hy.settled d hd⟩
  · have hkeeps : alone.Keeps s fun _ => true := fun _ _ _ hact => hact.elim
    have hledgered : (Pipeline.start hcapacity batchSize now p).Ledgered s
        (fun _ => true) rows := by
      intro rows'' hrows''
      cases hrows.unique hrows''
      exact (List.append_nil _).symm
    have hend := (hx.trans hxy).ledgered hstart hkeeps (fun _ _ _ => rfl) hledgered rows'
      (hpool ▸ hrows')
    rw [hhanded] at hend
    simpa using hend

end Schedule

end VisitLog

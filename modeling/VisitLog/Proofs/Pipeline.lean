import VisitLog.Database.Planner
import VisitLog.Proofs.Captures
import VisitLog.WriteBehind.Channel
import VisitLog.WriteBehind.Worker

/-!
# The write-behind pipeline

Visits arrive at the channel, the worker takes them one by one into its buffer and hands full
batches, what its timer finds, and at the end what is left to the store, which it tries twice at
most. Meanwhile the clock moves and others act on the database. `Pipeline` is such a system with a
ledger of what was accepted and of what became of each batch; at every moment the accepted visits
are, in order, those of the batches, of the buffer and of the channel (`Invariant.conserved`), since
each event moves visits from one of these to the next.

Main statement: `Pipeline.conserves`. A worker that drains the channel at once is one of the runs
(`exists_reached_drain`).
-/

namespace VisitLog

/-- A batch has at least one visit and not too many. -/
theorem Worker.batch_step {w : Worker} {e : WorkerEvent} {vs : List Visitor}
    (hvs : (w.step e).2 = some vs) :
    vs ≠ [] ∧ (w.buffer.length < w.fullSize → vs.length ≤ w.fullSize) := by
  unfold step at hvs
  cases e with
  | received v =>
    dsimp only at hvs
    split at hvs
    · cases hvs
      refine ⟨List.append_ne_nil_of_right_ne_nil _ (List.cons_ne_nil v []), fun h => ?_⟩
      rw [List.length_append, List.length_singleton]
      omega
    · cases hvs
  | timer | closed =>
    dsimp only at hvs
    split at hvs
    · cases hvs
    · next hne =>
      cases hvs
      exact ⟨hne, Nat.le_of_lt⟩

theorem Worker.buffer_closed (w : Worker) : (w.step .closed).1.buffer = [] := by
  unfold step
  dsimp only
  split
  · assumption
  · rfl

/-! ## Batches on their way to the store -/

/-- A batch that was handed over: how often the store refused it, and the clock at which it was
stored. -/
structure Delivery where
  batch : List Visitor
  refusals : Nat := 0
  storedAt : Option Instant := none

namespace Delivery

/-- The number of attempts after which a batch is dropped. -/
def attemptLimit : Nat := 2

/-- The attempts made so far. -/
def attempts (d : Delivery) : Nat :=
  d.refusals + d.storedAt.toList.length

/-- No other attempt follows. -/
def isOver (d : Delivery) : Bool :=
  d.storedAt.isSome || d.refusals = attemptLimit

/-- The rows that the batch became. -/
def rows [Engine] (d : Delivery) : Rows :=
  match d.storedAt with
  | some t => d.batch.map fun v => .ofVisitor (Store.stampCaptured t v)
  | none => []

/-- Another attempt to store the batch. -/
def attempt [Engine] (s : Store) (now : Instant) (d : Delivery) (p : Pool) : Delivery × Pool :=
  match s.createBatch now d.batch p with
  | .ok (_, p) => ({ d with storedAt := some now }, p)
  | .error _ => ({ d with refusals := d.refusals + 1 }, p)

/-- The batch was not stored yet, and may be tried again. -/
structure IsPending (d : Delivery) : Prop where
  unstored : d.storedAt = none
  refusals : d.refusals < attemptLimit

/-- The batch was stored at one of its attempts, the last one, or refused at all of them. -/
structure IsSettled (d : Delivery) : Prop where
  attempts : d.attempts ≤ attemptLimit
  dropped : d.storedAt = none → d.refusals = attemptLimit

/-- How an attempt ends: all rows of the batch are added behind the others, or nothing changes since
the table cannot be reached or an identifier is not free. -/
inductive Attempted [Engine] (s : Store) (now : Instant) (d : Delivery) (p : Pool) :
    Delivery × Pool → Prop
  | stored {rows : Rows} (hp : p.isClosed = false) (hrows : p.Holds s rows)
      (hfree : ∀ v ∈ d.batch, rows.hasId (v.value .id) = false)
      (hdistinct : d.batch.Pairwise fun v w => v.value .id ≠ w.value .id) :
    Attempted s now d p ({ d with storedAt := some now },
      p.withRows s (rows ++ ({ d with storedAt := some now } : Delivery).rows))
  | refused (h : ∀ rows, p.isClosed = false → p.Holds s rows →
      ¬((∀ v ∈ d.batch, rows.hasId (v.value .id) = false) ∧
        d.batch.Pairwise fun v w => v.value .id ≠ w.value .id)) :
    Attempted s now d p ({ d with refusals := d.refusals + 1 }, p)

variable {s : Store} {now : Instant} {d : Delivery} {p : Pool}

theorem attempted_attempt [Engine] (hd : d.batch ≠ []) (s : Store) (now : Instant) (p : Pool) :
    d.Attempted s now p (d.attempt s now p) := by
  unfold attempt
  split
  · next n p' h =>
    obtain ⟨-, hp, rows, hrows, hfree, hdistinct, rfl⟩ := (Store.createBatch_eq_ok hd).1 h
    exact .stored hp hrows hfree hdistinct
  · next failure h =>
    refine .refused fun rows hp hrows ⟨hfree, hdistinct⟩ => ?_
    rw [(Store.createBatch_eq_ok hd).2 ⟨rfl, hp, rows, hrows, hfree, hdistinct, rfl⟩] at h
    cases h

theorem IsPending.attempts_lt (h : d.IsPending) : d.attempts < attemptLimit := by
  rw [attempts, h.unstored]
  exact h.refusals

theorem IsPending.rows [Engine] (h : d.IsPending) : d.rows = [] := by
  rw [Delivery.rows, h.unstored]

theorem batch_attempt [Engine] (s : Store) (now : Instant) (d : Delivery) (p : Pool) :
    (d.attempt s now p).1.batch = d.batch := by
  unfold attempt
  split <;> rfl

theorem refusals_attempt [Engine] (h : ¬(d.attempt s now p).1.isOver) :
    (d.attempt s now p).1.refusals = d.refusals + 1 := by
  unfold attempt at h ⊢
  split at h
  · exact absurd (show isOver _ from rfl) h
  · rfl

theorem isOver_attempt [Engine] (h : d.refusals + 1 = attemptLimit) (s : Store) (now : Instant)
    (p : Pool) :
    (d.attempt s now p).1.isOver := by
  unfold attempt
  split
  · rfl
  · rw [isOver, Bool.or_eq_true, decide_eq_true_eq]
    exact .inr h

/-- After an attempt a batch is settled, or it may be tried once more. -/
theorem IsPending.attempt [Engine] (h : d.IsPending) (s : Store) (now : Instant) (p : Pool) :
    if (d.attempt s now p).1.isOver then (d.attempt s now p).1.IsSettled
    else (d.attempt s now p).1.IsPending := by
  obtain ⟨hnone, hlt⟩ := h
  unfold Delivery.attempt
  split
  · rw [if_pos (show isOver _ from rfl)]
    refine ⟨?_, nofun⟩
    dsimp only [attempts, Option.toList, List.length]
    omega
  · split
    · next hover =>
      simp only [isOver, hnone, Option.isSome_none, Bool.false_or, decide_eq_true_eq] at hover
      refine ⟨?_, fun _ => hover⟩
      dsimp only [attempts]
      rw [hnone]
      exact Nat.le_of_eq hover
    · next hover =>
      simp only [isOver, hnone, Option.isSome_none, Bool.false_or, decide_eq_true_eq] at hover
      exact ⟨hnone, by dsimp only; omega⟩

end Delivery

/-! ## Runs -/

/-- What happens around a pipeline: how its clock moves, and what others do to the database. -/
structure Surroundings where
  ticks : Instant → Instant → Prop
  acts : Instant → Pool → Pool → Prop

/-- The others leave alone all rows of the store that pass a test. -/
def Surroundings.Keeps (around : Surroundings) (s : Store) (mine : Row → Bool) : Prop :=
  ∀ t p p', around.acts t p p' → ∀ rows', p'.Holds s rows' →
    ∃ rows, p.Holds s rows ∧ rows'.filter mine = rows.filter mine

/-- The channel, the worker and the database, with a ledger. -/
structure Pipeline where
  now : Instant
  pool : Pool
  channel : Channel
  /-- More visits may arrive. -/
  isOpen : Bool := true
  worker : Worker
  /-- The batch that the worker is handing to the store. -/
  hand : Option Delivery := none
  /-- The worker has met the end of the channel. -/
  isEnding : Bool := false
  /-- The visits that found room in the channel, in order. -/
  accepted : List Visitor := []
  /-- The batches that are stored or dropped, in order. -/
  deliveries : List Delivery := []

namespace Pipeline

/-- A pipeline that was just set up, with a channel that has room. -/
def start {capacity : Nat} (hcapacity : 0 < capacity) (batchSize : Nat) (now : Instant) (p : Pool) :
    Pipeline :=
  { now := now
    pool := p
    channel := { capacity := capacity, capacity_pos := hcapacity }
    worker := { batchSize := batchSize } }

/-- The batches that were handed to the store, in order. -/
def handed (x : Pipeline) : List Delivery :=
  x.deliveries ++ x.hand.toList

/-- A visit arrives; what the channel has more than before is accepted. -/
def arrive (v : Visitor) (x : Pipeline) : Pipeline :=
  { x with channel := x.channel.offer v
           accepted := x.accepted ++ (x.channel.offer v).waiting.drop x.channel.waiting.length }

/-- The worker meets an event. -/
def meet (e : WorkerEvent) (x : Pipeline) : Pipeline :=
  { x with worker := (x.worker.step e).1
           hand := (x.worker.step e).2.map fun vs => { batch := vs } }

/-- The worker takes a visit and leaves the others in the channel. -/
def take (v : Visitor) (vs : List Visitor) (x : Pipeline) : Pipeline :=
  { x with channel := { x.channel with waiting := vs } }.meet (.received v)

/-- The worker finds the channel closed and empty. -/
def finish (x : Pipeline) : Pipeline :=
  { x with isEnding := true }.meet .closed

/-- The worker tries to store the batch in its hand. -/
def attempt [Engine] (s : Store) (d : Delivery) (x : Pipeline) : Pipeline :=
  let tried := d.attempt s x.now x.pool
  { x with pool := tried.2
           hand := if tried.1.isOver then none else some tried.1
           deliveries := if tried.1.isOver then x.deliveries ++ [tried.1] else x.deliveries }

/-- The worker waits for an event. -/
structure IsIdle (x : Pipeline) : Prop where
  hand : x.hand = none
  isEnding : x.isEnding = false

/-- One event, in the pipeline or around it. -/
inductive Step [Engine] (s : Store) (around : Surroundings) : Pipeline → Pipeline → Prop
  | tick (x : Pipeline) {t : Instant} (h : around.ticks x.now t) :
      Step s around x { x with now := t }
  | other (x : Pipeline) {p : Pool} (h : around.acts x.now x.pool p) :
    Step s around x { x with pool := p }
  | arrive (x : Pipeline) (random : Nat) (visit : Visit) (h : x.isOpen) :
    Step s around x (x.arrive (visit.toVisitor x.now random))
  | close (x : Pipeline) : Step s around x { x with isOpen := false }
  | take (x : Pipeline) {v : Visitor} {vs : List Visitor} (h : x.IsIdle)
    (hv : x.channel.waiting = v :: vs) : Step s around x (x.take v vs)
  | timer (x : Pipeline) (h : x.IsIdle) : Step s around x (x.meet .timer)
  | finish (x : Pipeline) (h : x.IsIdle) (hclosed : x.isOpen = false)
    (hempty : x.channel.waiting = []) : Step s around x x.finish
  | attempt (x : Pipeline) {d : Delivery} (h : x.hand = some d) : Step s around x (x.attempt s d)

/-- The second pipeline can come out of the first one. -/
inductive Reached [Engine] (s : Store) (around : Surroundings) (x : Pipeline) : Pipeline → Prop
  | refl : Reached s around x x
  | step {y z : Pipeline} (h : Reached s around x y) (hyz : Step s around y z) :
      Reached s around x z

variable {s : Store} {around : Surroundings} {x y z : Pipeline} {d : Delivery}

theorem Reached.trans [Engine] (hxy : Reached s around x y) (hyz : Reached s around y z) :
    Reached s around x z := by
  induction hyz with
  | refl => exact hxy
  | step _ hstep ih => exact ih.step hstep

theorem Step.reached [Engine] (h : Step s around x y) : Reached s around x y :=
  .step .refl h

/-! ## What an event moves -/

theorem accepted_arrive (v : Visitor) (x : Pipeline) :
    (x.arrive v).accepted = if x.channel.isFull then x.accepted else x.accepted ++ [v] := by
  unfold arrive
  dsimp only
  rw [Channel.waiting_offer]
  split
  · rw [List.drop_length, List.append_nil]
  · rw [List.drop_left]

theorem isFull_iff (h : x.channel.waiting.length ≤ x.channel.capacity) :
    x.channel.isFull ↔ x.channel.waiting.length = x.channel.capacity := by
  rw [Channel.isFull, decide_eq_true_eq]
  omega

/-- The visits in the hand and in the buffer of the worker are those of its buffer and the event
before. -/
theorem flatMap_meet (e : WorkerEvent) (x : Pipeline) :
    (x.meet e).hand.toList.flatMap Delivery.batch ++ (x.meet e).worker.buffer =
      x.worker.buffer ++ (Worker.visitOf? e).toList := by
  have hflat : (x.meet e).hand.toList.flatMap Delivery.batch =
      (x.worker.step e).2.toList.flatten := by
    unfold meet
    dsimp only
    cases (x.worker.step e).2 <;> rfl
  rw [hflat]
  exact x.worker.flatten_step e

theorem isPending_meet {e : WorkerEvent} (hd : (x.meet e).hand = some d) : d.IsPending := by
  obtain ⟨vs, -, rfl⟩ := Option.map_eq_some_iff.1 hd
  exact ⟨rfl, Nat.zero_lt_two⟩

theorem handed_of_hand (h : x.hand = some d) : x.handed = x.deliveries ++ [d] := by
  rw [handed, h]
  rfl

theorem mem_handed_of_hand (h : x.hand = some d) : d ∈ x.handed :=
  handed_of_hand h ▸ List.mem_concat_self

/-- An attempt hands over no other batch. -/
theorem handed_attempt [Engine] (s : Store) (d : Delivery) (x : Pipeline) :
    (x.attempt s d).handed = x.deliveries ++ [(d.attempt s x.now x.pool).1] := by
  unfold attempt handed
  dsimp only
  split
  · exact List.append_nil _
  · rfl

/-! ## The invariant -/

/-- What holds of a pipeline at every moment. -/
structure Invariant (capacity batchSize : Nat) (x : Pipeline) : Prop where
  size : x.channel.capacity = capacity
  fullSize : x.worker.fullSize = max batchSize 1
  bounded : x.channel.waiting.length ≤ x.channel.capacity
  captured : ∀ v ∈ x.accepted, v.IsCaptured
  conserved : x.accepted = x.handed.flatMap Delivery.batch ++ (x.worker.buffer ++ x.channel.waiting)
  batches : ∀ d ∈ x.handed, d.batch ≠ [] ∧ d.batch.length ≤ x.worker.fullSize
  buffer : x.worker.buffer.length < x.worker.fullSize
  settled : ∀ d ∈ x.deliveries, d.IsSettled
  pending : ∀ d, x.hand = some d → d.IsPending
  ended : x.isEnding → x.isOpen = false ∧ x.worker.buffer = [] ∧ x.channel.waiting = []

namespace Invariant

variable {capacity batchSize : Nat}

theorem start (hcapacity : 0 < capacity) (batchSize : Nat) (now : Instant) (p : Pool) :
    (start hcapacity batchSize now p).Invariant capacity batchSize where
  size := rfl
  fullSize := rfl
  bounded := Nat.zero_le _
  captured := nofun
  conserved := rfl
  batches := nofun
  buffer := Nat.lt_of_lt_of_le Nat.zero_lt_one (Nat.le_max_right ..)
  settled := nofun
  pending := nofun
  ended := nofun

/-- A visit that arrives is taken or dropped, and counted either way. -/
theorem arrive (h : x.Invariant capacity batchSize) (hopen : x.isOpen) {v : Visitor}
    (hv : v.IsCaptured) :
    (x.arrive v).Invariant capacity batchSize where
  size := (x.channel.capacity_offer v).trans h.size
  fullSize := h.fullSize
  bounded := Channel.length_offer_le v h.bounded
  captured := by
    rw [accepted_arrive]
    split
    · exact h.captured
    · exact List.forall_mem_append.2 ⟨h.captured, List.forall_mem_singleton.2 hv⟩
  conserved := by
    have hwaiting : (x.arrive v).channel.waiting = _ := x.channel.waiting_offer v
    rw [accepted_arrive, hwaiting]
    split
    · exact h.conserved
    · rw [h.conserved, List.append_assoc, List.append_assoc]
      rfl
  batches := h.batches
  buffer := h.buffer
  settled := h.settled
  pending := h.pending
  ended hending := by
    rw [(h.ended hending).1] at hopen
    cases hopen

/-- The worker meets an event, and the visit that it brings is taken out of the channel. -/
theorem meet (h : x.Invariant capacity batchSize) (hidle : x.IsIdle) {e : WorkerEvent}
    {vs : List Visitor} (hvs : x.channel.waiting = (Worker.visitOf? e).toList ++ vs) :
    ({ x with channel := { x.channel with waiting := vs } }.meet e).Invariant
      capacity batchSize := by
  have hmoved := flatMap_meet e { x with channel := { x.channel with waiting := vs } }
  have hhanded : x.handed = x.deliveries := by
    rw [handed, hidle.hand]
    exact List.append_nil _
  have hfullSize := x.worker.fullSize_step e
  refine ⟨h.size, hfullSize.trans h.fullSize, ?_, h.captured, ?_, ?_,
    Worker.length_buffer_step_lt e h.buffer, h.settled, fun d => isPending_meet, fun hending => ?_⟩
  · have hbounded := h.bounded
    rw [hvs, List.length_append] at hbounded
    exact Nat.le_trans (Nat.le_add_left ..) hbounded
  · refine h.conserved.trans ?_
    rw [hvs, hhanded, handed, List.flatMap_append, ← List.append_assoc x.worker.buffer, ← hmoved]
    simp only [List.append_assoc]
    rfl
  · refine List.forall_mem_append.2 ⟨fun d hd => ?_, fun d hd => ?_⟩
    · exact hfullSize.symm ▸ h.batches d (hhanded ▸ hd)
    · obtain ⟨batch, hbatch, rfl⟩ := Option.map_eq_some_iff.1 (Option.mem_toList.1 hd)
      exact hfullSize.symm ▸ (Worker.batch_step hbatch).imp_right fun hle => hle h.buffer
  · cases hidle.isEnding.symm.trans hending

theorem finish (h : x.Invariant capacity batchSize) (hidle : x.IsIdle) (hclosed : x.isOpen = false)
    (hempty : x.channel.waiting = []) : x.finish.Invariant capacity batchSize :=
  { h.meet hidle (show x.channel.waiting = (Worker.visitOf? .closed).toList ++ _ from rfl) with
    ended := fun _ => ⟨hclosed, x.worker.buffer_closed, hempty⟩ }

theorem attempt [Engine] (h : x.Invariant capacity batchSize) (hd : x.hand = some d) (s : Store) :
    (x.attempt s d).Invariant capacity batchSize := by
  have hnext := (h.pending d hd).attempt s x.now x.pool
  have hbatch := d.batch_attempt s x.now x.pool
  have hconserved := h.conserved
  have hbatches := h.batches
  rw [handed_of_hand hd] at hconserved hbatches
  refine { h with conserved := ?_, batches := ?_, settled := ?_, pending := ?_ }
  · rw [handed_attempt]
    refine hconserved.trans ?_
    rw [List.flatMap_append, List.flatMap_append, List.flatMap_singleton,
      List.flatMap_singleton, hbatch]
    rfl
  · rw [handed_attempt]
    rw [List.forall_mem_append, List.forall_mem_singleton] at hbatches ⊢
    rw [hbatch]
    exact hbatches
  · unfold Pipeline.attempt
    dsimp only
    split at hnext
    · next hover =>
      rw [if_pos hover]
      exact List.forall_mem_append.2 ⟨h.settled, List.forall_mem_singleton.2 hnext⟩
    · next hover =>
      rw [if_neg hover]
      exact h.settled
  · unfold Pipeline.attempt
    dsimp only
    split at hnext
    · next hover =>
      rw [if_pos hover]
      exact nofun
    · next hover =>
      rw [if_neg hover]
      rintro _ ⟨⟩
      exact hnext

theorem mem_accepted (h : x.Invariant capacity batchSize) (hd : x.hand = some d) {v : Visitor}
    (hv : v ∈ d.batch) : v ∈ x.accepted := by
  rw [h.conserved]
  exact List.mem_append_left _ (List.mem_flatMap.2 ⟨d, mem_handed_of_hand hd, hv⟩)

theorem attempted [Engine] (h : x.Invariant capacity batchSize) (hd : x.hand = some d) (s : Store) :
    d.Attempted s x.now x.pool (d.attempt s x.now x.pool) :=
  Delivery.attempted_attempt (h.batches d (mem_handed_of_hand hd)).1 s x.now x.pool

end Invariant

variable {capacity batchSize : Nat}

theorem Step.invariant [Engine] (h : Step s around x y) (hx : x.Invariant capacity batchSize) :
    y.Invariant capacity batchSize := by
  cases h with
  | tick | other => exact { hx with }
  | arrive random visit h => exact hx.arrive h (Visitor.isCaptured_toVisitor ..)
  | close => exact { hx with ended := fun hending => ⟨rfl, (hx.ended hending).2⟩ }
  | take h hv => exact hx.meet h hv
  | timer h => exact hx.meet (e := .timer) h rfl
  | finish h hclosed hempty => exact hx.finish h hclosed hempty
  | attempt h => exact hx.attempt h s

theorem Reached.invariant [Engine] (h : Reached s around x y)
    (hx : x.Invariant capacity batchSize) :
    y.Invariant capacity batchSize := by
  induction h with
  | refl => exact hx
  | step _ hyz ih => exact hyz.invariant ih

/-! ## What becomes of the table -/

theorem Step.accepted_prefix [Engine] (h : Step s around x y) : x.accepted <+: y.accepted := by
  cases h with
  | arrive => exact List.prefix_append ..
  | tick | other | close | take | timer | finish | attempt => exact List.prefix_rfl

/-- The rows of the store that pass a test are those from the beginning and then those of the
batches. -/
def Ledgered [Engine] (s : Store) (mine : Row → Bool) (rows₀ : Rows) (x : Pipeline) : Prop :=
  ∀ rows, x.pool.Holds s rows → rows.filter mine = rows₀.filter mine ++
    x.handed.flatMap Delivery.rows

namespace Ledgered

variable [Engine]

variable {mine : Row → Bool} {rows₀ : Rows}

/-- A batch that is handed over has no rows yet. -/
theorem meet (h : x.Ledgered s mine rows₀) (hidle : x.IsIdle) (e : WorkerEvent) :
    (x.meet e).Ledgered s mine rows₀ := by
  intro rows hrows
  rw [h rows hrows, handed, handed, hidle.hand]
  unfold Pipeline.meet
  cases (x.worker.step e).2 <;> simp [Delivery.rows]

theorem attempt (h : x.Ledgered s mine rows₀) (hx : x.Invariant capacity batchSize)
    (hmine : ∀ v ∈ x.accepted, ∀ t, mine (.ofVisitor (Store.stampCaptured t v)))
    (hd : x.hand = some d) :
    (x.attempt s d).Ledgered s mine rows₀ := by
  have htried := hx.attempted hd s
  rw [Ledgered, handed_attempt]
  rw [Ledgered, handed_of_hand hd] at h
  unfold Pipeline.attempt
  generalize d.attempt s x.now x.pool = tried at htried ⊢
  have hpending := (hx.pending d hd).rows
  cases htried with
  | @stored rows hp hrows =>
    intro rows' hrows'
    cases (hrows.withRows _).unique hrows'
    have hnew : (Delivery.rows { d with storedAt := some x.now }).filter mine =
        Delivery.rows { d with storedAt := some x.now } := by
      refine List.filter_eq_self.2 (List.forall_mem_map.2 fun v hv =>
        hmine v (hx.mem_accepted hd hv) x.now)
    rw [List.filter_append, h rows hrows, hnew]
    simp [hpending]
  | refused =>
    intro rows hrows
    rw [h rows hrows]
    simp [Delivery.rows, (hx.pending d hd).unstored]

end Ledgered

/-- What was stored of the accepted visits stays in the table through every run, as long as the
others keep to their rows. -/
theorem Reached.ledgered [Engine] {mine : Row → Bool} {rows : Rows} (h : Reached s around x y)
    (hx : x.Invariant capacity batchSize) (hkeeps : around.Keeps s mine)
    (hmine : ∀ v ∈ y.accepted, ∀ t, mine (.ofVisitor (Store.stampCaptured t v)))
    (hrows : x.Ledgered s mine rows) : y.Ledgered s mine rows := by
  induction h with
  | refl => exact hrows
  | @step y z h hyz ih =>
    have hmine' := fun v hv => hmine v (hyz.accepted_prefix.subset hv)
    have hy := ih hmine'
    cases hyz with
    | tick | arrive | close => exact hy
    | other hact =>
      intro rows' hrows'
      obtain ⟨rows'', hrows'', hsame⟩ := hkeeps _ _ _ hact rows' hrows'
      exact hsame.trans (hy rows'' hrows'')
    | take hidle =>
      exact Ledgered.meet (x := { y with channel := _ }) hy ⟨hidle.hand, hidle.isEnding⟩ _
    | timer hidle => exact hy.meet hidle _
    | finish hidle => exact hy.meet hidle _
    | attempt hd => exact hy.attempt (h.invariant hx) hmine' hd

/-! ## Runs of the worker alone -/

theorem deliver_eq [Engine] (s : Store) (now later : Instant) (vs : List Visitor) (p : Pool) :
    Worker.deliver s now later vs p =
      let first := ({ batch := vs } : Delivery).attempt s now p
      if first.1.isOver then first.2 else (first.1.attempt s later first.2).2 := by
  unfold Worker.deliver Delivery.attempt
  dsimp only
  cases s.createBatch now vs p with
  | ok stored => rfl
  | error failure =>
    dsimp only
    cases s.createBatch later vs p <;> rfl

theorem attempt_of_isOver [Engine] (h : (d.attempt s x.now x.pool).1.isOver) :
    x.attempt s d = { x with
      pool := (d.attempt s x.now x.pool).2, hand := none
      deliveries := x.deliveries ++ [(d.attempt s x.now x.pool).1] } := by
  unfold attempt
  dsimp only
  rw [if_pos h, if_pos h]

theorem attempt_of_not_isOver [Engine] (h : ¬(d.attempt s x.now x.pool).1.isOver) :
    x.attempt s d = { x with
      pool := (d.attempt s x.now x.pool).2, hand := some (d.attempt s x.now x.pool).1 } := by
  unfold attempt
  dsimp only
  rw [if_neg h, if_neg h]

/-- The worker stores its batch or drops it. -/
theorem exists_reached_deliver [Engine] (s : Store) (around : Surroundings) {vs : List Visitor}
    (hd : x.hand = some { batch := vs }) :
    ∃ ds, Reached s around x { x with
      pool := Worker.deliver s x.now x.now vs x.pool, hand := none, deliveries :=
        x.deliveries ++ ds } := by
  have hfirst : Reached s around x _ := (Step.attempt x hd).reached
  rw [deliver_eq]
  dsimp only
  split
  · next hover =>
    rw [attempt_of_isOver hover] at hfirst
    exact ⟨_, hfirst⟩
  · next hover =>
    rw [attempt_of_not_isOver hover] at hfirst
    have hlast :=
      Delivery.isOver_attempt (congrArg (· + 1) (Delivery.refusals_attempt hover)) s x.now
      (Delivery.attempt s x.now { batch := vs } x.pool).2
    have hsecond : Reached s around { x with
        pool := (Delivery.attempt s x.now { batch := vs } x.pool).2
        hand := some (Delivery.attempt s x.now { batch := vs } x.pool).1 } _ :=
      (Step.attempt _ rfl).reached
    rw [attempt_of_isOver hlast] at hsecond
    exact ⟨_, hfirst.trans hsecond⟩

/-- The worker meets an event and stores or drops the batch that it hands over. -/
theorem exists_reached_meet [Engine] (s : Store) (around : Surroundings) (hidle : x.IsIdle)
    (e : WorkerEvent) :
    ∃ ds, Reached s around (x.meet e) { x with
      worker := (x.worker.step e).1
      pool :=
        (x.worker.step e).2.toList.foldl (fun p vs => Worker.deliver s x.now x.now vs p) x.pool
      deliveries := x.deliveries ++ ds } := by
  obtain ⟨now, pool, channel, isOpen, worker, hand, isEnding, accepted, deliveries⟩ := x
  obtain ⟨rfl, rfl⟩ := hidle
  cases h : (worker.step e).2 with
  | none =>
    refine ⟨[], ?_⟩
    unfold meet
    dsimp only
    rw [h, List.append_nil]
    exact .refl
  | some vs =>
    have hhand :
      (meet e ⟨now, pool, channel, isOpen, worker, none, false, accepted, deliveries⟩).hand =
        some { batch := vs } := congrArg (Option.map _) h
    obtain ⟨ds, hds⟩ := exists_reached_deliver s around hhand
    exact ⟨ds, hds⟩

/-- The visits that wait, and then the timer. -/
def flush (vs : List Visitor) : List WorkerEvent :=
  vs.map .received ++ [.timer]

/-- The worker takes all visits that wait, and its timer fires. -/
theorem exists_reached_flush [Engine] (s : Store) (around : Surroundings) (hidle : x.IsIdle) :
    ∃ ds, Reached s around x { x with
      channel := x.channel.drain.2
      worker := (x.worker.run (flush x.channel.drain.1)).1
      pool := (x.worker.run (flush x.channel.drain.1)).2.foldl
        (fun p vs => Worker.deliver s x.now x.now vs p) x.pool
      deliveries := x.deliveries ++ ds } := by
  unfold Channel.drain
  dsimp only
  generalize hvs : x.channel.waiting = vs
  induction vs generalizing x with
  | nil =>
    obtain ⟨ds, hds⟩ := exists_reached_meet s around hidle .timer
    refine ⟨ds, (Step.timer x hidle).reached.trans ?_⟩
    have hempty : { x.channel with waiting := [] } = x.channel := by rw [← hvs]
    rw [hempty]
    simpa [flush, Worker.run] using hds
  | cons v vs ih =>
    obtain ⟨ds, hds⟩ := exists_reached_meet s around
      (x := { x with channel := { x.channel with waiting := vs } })
        ⟨hidle.hand, hidle.isEnding⟩ (.received v)
    obtain ⟨ds', hds'⟩ := ih (x := { x with
      channel := { x.channel with waiting := vs }
      worker := (x.worker.step (.received v)).1
      pool := (x.worker.step (.received v)).2.toList.foldl
        (fun p vs => Worker.deliver s x.now x.now vs p) x.pool
      deliveries := x.deliveries ++ ds }) ⟨hidle.hand, hidle.isEnding⟩ rfl
    refine ⟨ds ++ ds', (Step.take x hidle hvs).reached.trans (hds.trans ?_)⟩
    simpa [flush, Worker.run, List.foldl_append] using hds'

theorem run_flush (w : Worker) (vs : List Visitor) :
    w.run (flush vs) = w.run (vs.map .received ++ [.closed]) ∧
      (w.run (flush vs)).1 = { w with buffer := [] } := by
  unfold flush
  induction vs generalizing w with
  | nil =>
    obtain ⟨batchSize, buffer⟩ := w
    cases buffer <;> exact ⟨rfl, rfl⟩
  | cons v vs ih =>
    obtain ⟨hrun, hbuffer⟩ := ih (w.step (.received v)).1
    have hsize : (w.step (.received v)).1.batchSize = w.batchSize := by
      unfold Worker.step
      dsimp only
      split <;> rfl
    simp only [List.map_cons, List.cons_append, Worker.run, hrun, true_and] at hbuffer ⊢
    rw [hbuffer, hsize]

/-- Draining the channel through a new worker is a run. -/
theorem exists_reached_drain [Engine] (s : Store) (around : Surroundings) (hidle : x.IsIdle)
    (hbuffer : x.worker.buffer = []) :
    ∃ ds, Reached s around x { x with
      channel := x.channel.drain.2
      pool := Worker.drain s x.now x.worker.batchSize x.channel.drain.1 x.pool
      deliveries := x.deliveries ++ ds } := by
  obtain ⟨ds, hds⟩ := exists_reached_flush s around hidle
  obtain ⟨hrun, hworker⟩ := run_flush x.worker x.channel.drain.1
  have hnew : { x.worker with buffer := [] } = x.worker := by rw [← hbuffer]
  rw [hworker, hrun] at hds
  refine ⟨ds, ?_⟩
  unfold Worker.drain
  rw [hnew] at hds
  rw [hnew]
  exact hds

/-- The worker comes to the end of what it has in its hand, after the attempts that are left. -/
theorem exists_reached_free [Engine] (s : Store) (around : Surroundings)
    (hx : x.Invariant capacity batchSize) :
    ∃ y, Reached s around x y ∧ y.hand = none ∧ y.isOpen = x.isOpen ∧ y.isEnding = x.isEnding := by
  cases hd : x.hand with
  | none => exact ⟨x, .refl, hd, rfl, rfl⟩
  | some d =>
    obtain ⟨n, hn⟩ := Nat.exists_eq_add_of_le (Nat.le_of_lt (hx.pending d hd).refusals)
    induction n generalizing x d with
    | zero => exact absurd (hx.pending d hd).refusals (by omega)
    | succ n ih =>
      have hstep : Step s around x _ := .attempt x hd
      have hy := hstep.invariant hx
      by_cases hover : (d.attempt s x.now x.pool).1.isOver
      · rw [attempt_of_isOver hover] at hstep
        exact ⟨_, hstep.reached, rfl, rfl, rfl⟩
      · rw [attempt_of_not_isOver hover] at hstep hy
        have hrefusals := Delivery.refusals_attempt hover
        obtain ⟨y, hreached, hrest⟩ := ih hy _ rfl (by omega)
        exact ⟨y, hstep.reached.trans hreached, hrest⟩

/-- Once the channel is closed, the worker can come to its end. -/
theorem exists_reached_end [Engine] (s : Store) (around : Surroundings)
    (hx : x.Invariant capacity batchSize)
    (hclosed : x.isOpen = false) :
    ∃ y, Reached s around x y ∧ y.isEnding ∧ y.hand = none := by
  obtain ⟨y, hxy, hhand, hopen, -⟩ := exists_reached_free s around hx
  cases hending : y.isEnding with
  | true => exact ⟨y, hxy, hending, hhand⟩
  | false =>
    obtain ⟨ds, hflush⟩ := exists_reached_flush s around ⟨hhand, hending⟩
    have hz := hxy.trans (hflush.step (.finish _ ⟨hhand, hending⟩ (hopen.trans hclosed) rfl))
    obtain ⟨w, hw, hfree, -, hended⟩ := exists_reached_free s around (hz.invariant hx)
    exact ⟨w, hz.trans hw, hended, hfree⟩

/-! ## Every run -/

/-- What every run of a pipeline comes to. `bounded`, `full` and `room`: the channel stays within
its capacity, and a visit is dropped exactly when it is full. `conserved`: what was accepted is, in
order, in the batches that were handed over, in the buffer and in the channel. `attempted`: an
attempt adds all rows of its batch or changes nothing. `stored`: the rows that others do not touch
are those from the beginning and, once each, those of the batches that were stored. `ends`: once the
channel is closed, nothing keeps the worker from its end. -/
structure Conserves [Engine] (s : Store) (around : Surroundings) (capacity batchSize : Nat)
    (p : Pool)
    (x : Pipeline) : Prop where
  bounded : x.channel.waiting.length ≤ capacity
  full : ∀ v, x.channel.waiting.length = capacity → x.arrive v = x
  room : ∀ v, x.channel.waiting.length < capacity →
    (x.arrive v).accepted = x.accepted ++ [v] ∧ (x.arrive v).channel.waiting =
    x.channel.waiting ++ [v]
  conserved : x.accepted = x.handed.flatMap Delivery.batch ++ (x.worker.buffer ++ x.channel.waiting)
  batches : ∀ d ∈ x.handed, d.batch ≠ [] ∧ d.batch.length ≤ max batchSize 1
  buffer : x.worker.buffer.length < max batchSize 1
  ended : x.isEnding → x.worker.buffer = [] ∧ x.channel.waiting = []
  settled : ∀ d ∈ x.deliveries, d.attempts ≤ 2 ∧ (d.storedAt = none → d.refusals = 2)
  attempted : ∀ d, x.hand = some d →
    d.storedAt = none ∧ d.attempts < 2 ∧ d.Attempted s x.now x.pool (d.attempt s x.now x.pool)
  stored : ∀ mine : Row → Bool, around.Keeps s mine →
    (∀ v ∈ x.accepted, ∀ t, mine (.ofVisitor (Store.stampCaptured t v))) →
    ∀ rows rows', p.Holds s rows → x.pool.Holds s rows' →
      rows'.filter mine = rows.filter mine ++ x.handed.flatMap Delivery.rows
  columns : ∀ v ∈ x.accepted, ∀ t c, (Row.ofVisitor (Store.stampCaptured t v)).value c =
    .text (if c = .updatedAt then t.layout else v.value c)
  ends : x.isOpen = false → ∃ y, Reached s around x y ∧ y.isEnding ∧ y.hand = none

/-- No run of the pipeline loses, doubles or reorders a visit. -/
theorem conserves [Engine] {now : Instant} {p : Pool} (hcapacity : 0 < capacity)
    (h : Reached s around (start hcapacity batchSize now p) x) :
    x.Conserves s around capacity batchSize p := by
  have hx := h.invariant (.start hcapacity batchSize now p)
  have hbounded := hx.size ▸ hx.bounded
  have hfull := isFull_iff hx.bounded
  rw [hx.size] at hfull
  refine ⟨hbounded, fun v hlength => ?_, fun v hlength => ?_, hx.conserved,
    fun d hd => hx.fullSize ▸ hx.batches d hd, hx.fullSize ▸ hx.buffer, fun hending =>
    (hx.ended hending).2, fun d hd => ⟨(hx.settled d hd).attempts, (hx.settled d hd).dropped⟩,
      fun d hd => ?_,
    fun mine hkeeps hmine rows rows' hrows hrows' => ?_,
    fun v hv t c => Store.value_ofVisitor_stampCaptured (hx.captured v hv) t c,
    exists_reached_end s around hx⟩
  · have hoffer : x.channel.offer v = x.channel := if_pos (hfull.2 hlength)
    unfold arrive
    rw [hoffer, List.drop_length, List.append_nil]
  · have hroom : ¬x.channel.isFull := fun hf => Nat.ne_of_lt hlength (hfull.1 hf)
    have hwaiting : (x.arrive v).channel.waiting = _ := x.channel.waiting_offer v
    rw [accepted_arrive, hwaiting, if_neg hroom, if_neg hroom]
    exact ⟨rfl, rfl⟩
  · exact ⟨(hx.pending d hd).unstored, (hx.pending d hd).attempts_lt, hx.attempted hd s⟩
  · refine h.ledgered (.start hcapacity batchSize now p) hkeeps hmine
      (fun rows'' hrows'' => ?_) rows' hrows'
    cases hrows.unique hrows''
    exact (List.append_nil _).symm

/-- The database can go away and come back, as it was. -/
def outages : Surroundings where
  ticks _ _ := True
  acts _ p p' := ∃ isClosed, p' = { p with isClosed := isClosed }

/-- A visit of a path, captured at the start of 1970. -/
def early (random : Nat) (path : String) : Visitor :=
  Visit.toVisitor ⟨0, 0⟩ random { path := path }

/-- A database that cannot be reached. -/
def down [Engine] : Pool :=
  { Pool.ofVisits [] with isClosed := true }

/-- Two visits arrive at a channel for one. -/
def crowded [Engine] : Pipeline :=
  ((start Nat.one_pos 2 ⟨0, 0⟩ down).arrive (early 1 "/a")).arrive (early 2 "/b")

/-- A third one arrives after the first was taken, and makes a batch with it. -/
def handing [Engine] : Pipeline :=
  ((crowded.take (early 1 "/a") []).arrive (early 3 "/c")).take (early 3 "/c") []

def pair : Delivery :=
  { batch := [early 1 "/a", early 3 "/c"] }

/-- The batch was refused, and the database is back when it is tried again. -/
def resumed : Pipeline :=
  { handing.attempt ⟨"visits"⟩ pair with pool := { down with isClosed := false } }.attempt
    ⟨"visits"⟩ { pair with refusals := 1 }

theorem reached_handing : Reached ⟨"visits"⟩ outages (start Nat.one_pos 2 ⟨0, 0⟩ down) handing :=
  have hcrowded : Reached ⟨"visits"⟩ outages (start Nat.one_pos 2 ⟨0, 0⟩ down) crowded :=
    (Reached.refl.step (.arrive (start Nat.one_pos 2 ⟨0, 0⟩ down) 1 { path := "/a" } rfl)).step
      (.arrive _ 2 { path := "/b" } rfl)
  ((hcrowded.step (.take crowded ⟨rfl, rfl⟩ rfl)).step
    (.arrive (crowded.take (early 1 "/a") []) 3 { path := "/c" } rfl)).step
    (.take ((crowded.take (early 1 "/a") []).arrive (early 3 "/c")) ⟨rfl, rfl⟩ rfl)

theorem reached_resumed : Reached ⟨"visits"⟩ outages (start Nat.one_pos 2 ⟨0, 0⟩ down) resumed :=
  ((reached_handing.step (.attempt handing (d := pair) rfl)).step
    (.other (handing.attempt ⟨"visits"⟩ pair) ⟨false, rfl⟩)).step (.attempt _ rfl)

theorem conserves_resumed :
    resumed.Conserves ⟨"visits"⟩ outages 1 2 down ∧
      resumed.deliveries.map (fun d => (d.refusals, d.storedAt)) = [(1, some ⟨0, 0⟩)] :=
  ⟨conserves Nat.one_pos reached_resumed, by decide⟩

end Pipeline

end VisitLog

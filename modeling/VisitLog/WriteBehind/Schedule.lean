import VisitLog.WriteBehind.Worker

/-!
# The worker in time

A `Schedule` follows the worker on a clock of milliseconds: visits are sent to it, its timer fires
at regular times, and after a refused batch it does nothing until the batch is tried again. Storing
takes no time. A timer that fires while the worker waits for the second attempt counts afterwards.

Main statements: `waiting_take_suffix` (visits are taken in order) and `waiting_send_of_retry` (a
visit sent during the delay waits its turn).
-/

namespace VisitLog

/-- The worker at a moment. -/
structure Schedule where
  store : Store
  /-- The clock that stamps rows; it stands still. -/
  now : Instant
  worker : Worker
  /-- The time between two firings of the timer. -/
  period : Nat
  nextTimer : Nat
  time : Nat := 0
  /-- Visits that were sent and not yet taken. -/
  waiting : List Visitor := []
  /-- When a refused batch is tried again. -/
  retry : Option (Nat × List Visitor) := none
  pool : Pool

namespace Schedule

/-- The time from a refused batch to the second attempt. -/
def retryDelay : Nat := 500

/-- A worker that starts now; its timer fires after a whole interval, of one second at least. -/
def start (s : Store) (now : Instant) (batchSize intervalSeconds : Nat) (p : Pool) : Schedule :=
  let period := max intervalSeconds 1 * 1000
  { store := s, now := now, worker := { batchSize := batchSize }, period := period
    nextTimer := period, pool := p }

variable [Engine]

/-- Hands over a batch, if there is one, for the first time. -/
def hand (t : Schedule) (batch : Option (List Visitor)) : Schedule :=
  match batch with
  | none => t
  | some vs =>
    match t.store.createBatch t.now vs t.pool with
    | .ok (_, p) => { t with pool := p }
    | .error _ => { t with retry := some (t.time + retryDelay, vs) }

/-- The worker meets an event. -/
def meet (t : Schedule) (e : WorkerEvent) : Schedule :=
  match t.worker.step e with
  | (w, batch) => { t with worker := w }.hand batch

/-- Takes visits that wait, until a batch is refused. -/
def take (t : Schedule) : List Visitor → Schedule
  | [] => { t with waiting := [] }
  | v :: vs =>
    let t := t.meet (.received v)
    if t.retry.isSome then { t with waiting := vs } else t.take vs

/-- A visit is sent; a worker that is not waiting for a second attempt takes it at once. -/
def send (t : Schedule) (v : Visitor) : Schedule :=
  let vs := t.waiting ++ [v]
  if t.retry.isSome then { t with waiting := vs } else t.take vs

/-- The second attempt, after which the worker takes what waits. -/
def tryAgain (t : Schedule) (vs : List Visitor) : Schedule :=
  let p :=
    match t.store.createBatch t.now vs t.pool with
    | .ok (_, p) => p
    | .error _ => t.pool
  { t with pool := p, retry := none }.take t.waiting

/-- The next firing of the timer at or after a time. -/
def timerFrom (t : Schedule) (time : Nat) : Nat :=
  t.nextTimer + (time - t.nextTimer + t.period - 1) / t.period * t.period

/-- What happens before a time, in order; the fuel bounds the number of batches. -/
def catchUpFrom : (fuel : Nat) → (limit : Nat) → Schedule → Schedule
  | 0, _, t => t
  | fuel + 1, limit, t =>
    match t.retry with
    | some (again, vs) =>
      if again < limit then
        catchUpFrom fuel limit ({ t with time := max t.time again }.tryAgain vs)
      else t
    | none =>
      if t.worker.buffer.isEmpty then { t with nextTimer := t.timerFrom limit }
      else if t.nextTimer < limit then
        let fired := { t with time := max t.time t.nextTimer, nextTimer := t.nextTimer + t.period }
        catchUpFrom fuel limit (fired.meet .timer)
      else t

/-- The batches that can still be handed over, each met at most twice. -/
def fuel (t : Schedule) : Nat :=
  2 * (t.waiting.length + t.worker.buffer.length + 2)

/-- What happens before a time. -/
def catchUp (limit : Nat) (t : Schedule) : Schedule :=
  catchUpFrom t.fuel limit t

/-- The moment a number of milliseconds later, before anything that happens in its last instant. -/
def pass (millis : Nat) (t : Schedule) : Schedule :=
  let limit := t.time + millis
  { t.catchUp limit with time := limit }

/-- Everything that happens up to and in the current instant. -/
def settle (t : Schedule) : Schedule :=
  { t.catchUp (t.time + 1) with time := t.time }

/-- Second attempts until the worker has taken everything that waits. -/
def takeAll : (fuel : Nat) → Schedule → Schedule
  | 0, t => t
  | fuel + 1, t =>
    match t.retry with
    | some (_, vs) => takeAll fuel (t.tryAgain vs)
    | none => t

/-- The pool after the channel was closed and the worker ended. -/
def close (t : Schedule) : Pool :=
  let t := takeAll t.fuel t
  (takeAll 1 (t.meet .closed)).pool

/-! ## Lemmas -/

/-- What still waits after the worker took visits is the end of what waited. -/
theorem waiting_take_suffix (t : Schedule) (vs : List Visitor) : (t.take vs).waiting <:+ vs := by
  induction vs generalizing t with
  | nil => exact List.suffix_refl []
  | cons v vs ih =>
    rw [take]
    split
    · exact List.suffix_cons v vs
    · exact (ih _).trans (List.suffix_cons v vs)

/-- A visit that is sent while a batch waits for its second attempt waits behind the others. -/
theorem waiting_send_of_retry {t : Schedule} (v : Visitor) (h : t.retry.isSome) :
    (t.send v).waiting = t.waiting ++ [v] := by
  simp [send, h]

end Schedule

end VisitLog

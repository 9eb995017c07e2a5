import VisitLog.Store

/-!
# The write-behind worker

The worker collects visits in a buffer and hands them to the store in batches: when a batch is full,
when its timer fires, and when the channel is closed. A batch that the store refuses is tried once
more and then dropped.

Main statements: `flatten_run` (batches and buffer together are the visits received, in order) and
`length_buffer_step_lt` (the buffer stays shorter than a batch).
-/

namespace VisitLog

/-- What the worker waits for. -/
inductive WorkerEvent where
  | received (v : Visitor)
  | timer
  | closed

/-- The worker: its batch size and the visits it holds. -/
structure Worker where
  batchSize : Nat
  buffer : List Visitor := []

namespace Worker

/-- The number of visits that make a full batch; at least one. -/
def fullSize (w : Worker) : Nat :=
  max w.batchSize 1

/-- The worker after an event, and the batch that it hands over. -/
def step (w : Worker) : WorkerEvent → Worker × Option (List Visitor)
  | .received v =>
    let held := w.buffer ++ [v]
    if w.fullSize ≤ held.length then ({ w with buffer := [] }, some held)
    else ({ w with buffer := held }, none)
  | .timer | .closed =>
    match w.buffer with
    | [] => (w, none)
    | held => ({ w with buffer := [] }, some held)

/-- The worker after events, and the batches in their order. -/
def run (w : Worker) : List WorkerEvent → Worker × List (List Visitor)
  | [] => (w, [])
  | e :: es =>
    match w.step e with
    | (w, batch) =>
      match w.run es with
      | (w, batches) => (w, batch.toList ++ batches)

/-- The visit that an event brings. -/
def visitOf? : WorkerEvent → Option Visitor
  | .received v => some v
  | _ => none

/-- Hands a batch to the store: once, and once more if it is refused. -/
def deliver [Engine] (s : Store) (now later : Instant) (batch : List Visitor) (p : Pool) : Pool :=
  match s.createBatch now batch p with
  | .ok (_, p) => p
  | .error _ =>
    match s.createBatch later batch p with
    | .ok (_, p) => p
    | .error _ => p

/-- Runs waiting visits through a worker until none is left, at a clock that stands still. -/
def drain [Engine] (s : Store) (now : Instant) (batchSize : Nat) (vs : List Visitor)
    (p : Pool) : Pool :=
  let w : Worker := { batchSize := batchSize }
  (w.run (vs.map WorkerEvent.received ++ [.closed])).2.foldl
    (fun p batch => deliver s now now batch p) p

/-! ## Lemmas -/

theorem flatten_step (w : Worker) (e : WorkerEvent) :
    (w.step e).2.toList.flatten ++ (w.step e).1.buffer = w.buffer ++ (visitOf? e).toList := by
  cases e with
  | received v => unfold step; dsimp only; split <;> simp [visitOf?]
  | timer => unfold step; dsimp only; split <;> simp_all [visitOf?]
  | closed => unfold step; dsimp only; split <;> simp_all [visitOf?]

theorem flatten_run (w : Worker) (es : List WorkerEvent) :
    (w.run es).2.flatten ++ (w.run es).1.buffer = w.buffer ++ es.filterMap visitOf? := by
  induction es generalizing w with
  | nil => simp [run]
  | cons e es ih =>
    have hs := flatten_step w e
    have hr := ih (w.step e).1
    have hv : (e :: es).filterMap visitOf? = (visitOf? e).toList ++ es.filterMap visitOf? := by
      cases h : visitOf? e <;> simp [h]
    simp only [run, List.flatten_append, List.append_assoc, hv]
    rw [hr, ← List.append_assoc, hs, List.append_assoc]

theorem fullSize_step (w : Worker) (e : WorkerEvent) : (w.step e).1.fullSize = w.fullSize := by
  cases e <;> unfold step <;> dsimp only <;> split <;> rfl

/-- A worker hands its visits over before they fill a batch. -/
theorem length_buffer_step_lt {w : Worker} (e : WorkerEvent) (h : w.buffer.length < w.fullSize) :
    (w.step e).1.buffer.length < (w.step e).1.fullSize := by
  rw [fullSize_step]
  have h1 : 0 < w.fullSize := by unfold fullSize; omega
  cases e with
  | received v =>
    unfold step
    dsimp only
    split
    · exact h1
    · next hf => exact Nat.lt_of_not_le hf
  | timer => unfold step; dsimp only; split <;> assumption
  | closed => unfold step; dsimp only; split <;> assumption

end Worker

end VisitLog

import VisitLog.Store

/-!
# Sessions

Visits with the same fingerprint make a session; without a fingerprint the address stands in for it.
Sessions come in the order in which they are first seen, their steps in the order of the visits.

Main statements: `perm_steps_group` (every visit is one step) and `keys_group_nodup` (no two
sessions have one key).
-/

namespace VisitLog

/-- A visit within a session. -/
structure SessionStep where
  time : String
  path : String
  referrer : String
  deriving DecidableEq, Repr

/-- Visits of one client. -/
structure Session where
  /-- The fingerprint, or the address of visits that have none. -/
  key : String
  ipAddress : String
  steps : List SessionStep
  deriving DecidableEq, Repr

namespace Session

/-- The key of the session that a visit belongs to. -/
def keyOf (v : Visitor) : String :=
  if (v.value .fingerprint).isEmpty then v.value .ipAddress else v.value .fingerprint

/-- A visit as a step. -/
def stepOf (v : Visitor) : SessionStep :=
  { time := v.value .createdAt, path := v.value .path, referrer := v.value .userReferrer }

/-- The sessions with a step added to the one of its key, or to a new one. -/
def add : List Session → Visitor → List Session
  | [], v => [{ key := keyOf v, ipAddress := v.value .ipAddress, steps := [stepOf v] }]
  | s :: ss, v =>
    if s.key = keyOf v then { s with steps := s.steps ++ [stepOf v] } :: ss else s :: add ss v

/-- The sessions of visits. -/
def group (vs : List Visitor) : List Session :=
  vs.foldl add []

/-- Sessions cover the visits of this many days. -/
def windowDays : Int := 31

/-- Sessions are made of this many visits at most. -/
def windowVisits : Int := 1000

/-- The options that find the newest visits of the window. -/
def windowOptions (now : Instant) : Options :=
  { createdFrom := some (now.addDays (-windowDays)).layout
    orderBy := some "created_at"
    sortOrder := some "DESC"
    limit := windowVisits }

/-- The sessions of the newest visits of the window, the oldest step first. -/
def recent [Engine] (s : Store) (now : Instant) (p : Pool) : Except Failure (List Session) :=
  match s.list now (windowOptions now) p with
  | .ok vs => .ok (group vs.reverse)
  | .error failure => .error failure

/-- The steps of all sessions. -/
def allSteps (ss : List Session) : List SessionStep :=
  ss.flatMap steps

/-! ## Lemmas -/

theorem perm_steps_add (ss : List Session) (v : Visitor) :
    (allSteps (add ss v)).Perm (stepOf v :: allSteps ss) := by
  induction ss with
  | nil => exact List.Perm.refl _
  | cons s ss ih =>
    unfold add
    split
    · simp only [allSteps, List.flatMap_cons, List.append_assoc, List.singleton_append]
      exact List.perm_middle
    · simp only [allSteps, List.flatMap_cons] at ih ⊢
      exact (ih.append_left s.steps).trans List.perm_middle

theorem perm_steps_group (vs : List Visitor) : (allSteps (group vs)).Perm (vs.map stepOf) := by
  have h (ss : List Session) :
      (allSteps (vs.foldl add ss)).Perm (vs.map stepOf ++ allSteps ss) := by
    induction vs generalizing ss with
    | nil => exact List.Perm.refl _
    | cons v vs ih =>
      rw [List.foldl_cons, List.map_cons, List.cons_append]
      exact ((ih (add ss v)).trans ((perm_steps_add ss v).append_left _)).trans List.perm_middle
  simpa [group, allSteps] using h []

theorem mem_keys_add {ss : List Session} {v : Visitor} {k : String} :
    k ∈ (add ss v).map key ↔ k ∈ ss.map key ∨ k = keyOf v := by
  induction ss with
  | nil => simp [add]
  | cons s ss ih =>
    unfold add
    split
    · next h => simp only [List.map_cons, List.mem_cons, ← h]; grind
    · simp only [List.map_cons, List.mem_cons, ih, or_assoc]

theorem keys_add_nodup {ss : List Session} {v : Visitor} (h : (ss.map key).Nodup) :
    ((add ss v).map key).Nodup := by
  induction ss with
  | nil => simp [add]
  | cons s ss ih =>
    have hs := List.nodup_cons.1 h
    unfold add
    split
    · exact h
    · next hk =>
      refine List.nodup_cons.2 ⟨fun hm => ?_, ih hs.2⟩
      rcases mem_keys_add.1 hm with hm | hm
      · exact hs.1 hm
      · exact hk hm

theorem keys_group_nodup (vs : List Visitor) : ((group vs).map key).Nodup := by
  have h (ss : List Session) (hs : (ss.map key).Nodup) : ((vs.foldl add ss).map key).Nodup := by
    induction vs generalizing ss with
    | nil => exact hs
    | cons v vs ih => exact ih _ (keys_add_nodup hs)
  exact h [] List.nodup_nil

end Session

end VisitLog

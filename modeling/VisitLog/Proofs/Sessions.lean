import VisitLog.Dashboard.Session
import VisitLog.Database.Planner
import VisitLog.Proofs.DailyCounts

/-!
# Sessions of a window

Grouping loses no visit: a session has the steps of the visits with its key, in their order
(`steps_of_mem_group`). What is grouped are the newest visits of the window, so a visit that does
not fit in is not newer than one that does. The window compares texts, and up to the year 9999 these
compare like the seconds that they name (`inWindow_iff`); the text of a later clock comes before all
of them (`not_coversWindow_late`).

Main statement: `Session.exists_recent`.
-/

namespace VisitLog

open Text

namespace Session

/-! ## Grouping -/

/-- The steps of the visits with a key. -/
def stepsIn (k : String) (vs : List Visitor) : List SessionStep :=
  (vs.filter fun v => keyOf v = k).map stepOf

variable {ss : List Session} {x y : Session} {v : Visitor} {vs : List Visitor} {k : String}

theorem keyOf_eq_fingerprint (h : v.value .fingerprint ≠ "") : keyOf v = v.value .fingerprint := by
  rw [keyOf, if_neg (mt String.isEmpty_iff.1 h)]

theorem stepsIn_append (k : String) (vs ws : List Visitor) :
    stepsIn k (vs ++ ws) = stepsIn k vs ++ stepsIn k ws := by
  simp [stepsIn]

theorem stepsIn_singleton (k : String) (v : Visitor) :
    stepsIn k [v] = if keyOf v = k then [stepOf v] else [] := by
  by_cases h : keyOf v = k
  · simp [stepsIn, h]
  · simp [stepsIn, h]

theorem stepsIn_reverse (k : String) (vs : List Visitor) :
    stepsIn k vs.reverse = (stepsIn k vs).reverse := by
  simp [stepsIn]

theorem stepsIn_eq_nil (h : ∀ v ∈ vs, keyOf v ≠ k) : stepsIn k vs = [] := by
  simpa [stepsIn] using h

/-- Where keys are different, a step goes to the session of its key, or to a new one if there is
none. -/
theorem mem_add (hnodup : (ss.map key).Nodup) (hy : y ∈ add ss v) : y ∈ ss ∧ y.key ≠ keyOf v ∨
    (∃ x ∈ ss, x.key = keyOf v ∧ y = { x with steps := x.steps ++ [stepOf v] }) ∨
    keyOf v ∉ ss.map key ∧ y = { key := keyOf v, ipAddress := v.value .ipAddress, steps :=
      [stepOf v] } := by
  induction ss with
  | nil =>
    right; right
    exact ⟨List.not_mem_nil, List.mem_singleton.1 hy⟩
  | cons s ss ih =>
    rw [List.map_cons, List.nodup_cons] at hnodup
    obtain ⟨hs, hnodup⟩ := hnodup
    unfold add at hy
    split at hy
    · next hkey =>
      rcases List.mem_cons.1 hy with rfl | hy
      · right; left
        exact ⟨s, List.mem_cons_self, hkey, rfl⟩
      · left
        refine ⟨List.mem_cons_of_mem _ hy, fun h => hs ?_⟩
        rw [hkey, ← h]
        exact List.mem_map_of_mem hy
    · next hkey =>
      rcases List.mem_cons.1 hy with rfl | hy
      · left
        exact ⟨List.mem_cons_self, hkey⟩
      · rcases ih hnodup hy with ⟨hmem, h⟩ | ⟨x, hx, h⟩ | ⟨hnew, h⟩
        · left
          exact ⟨List.mem_cons_of_mem _ hmem, h⟩
        · right; left
          exact ⟨x, List.mem_cons_of_mem _ hx, h⟩
        · right; right
          refine ⟨fun hmem => ?_, h⟩
          rcases List.mem_cons.1 hmem with h | h
          · exact hkey h.symm
          · exact hnew h

theorem group_append (vs : List Visitor) (v : Visitor) : group (vs ++ [v]) = add (group vs) v := by
  simp [group]

theorem mem_keys_group : k ∈ (group vs).map key ↔ ∃ v ∈ vs, keyOf v = k := by
  induction vs using List.reverseRecOn with
  | nil => simp [group]
  | append_singleton vs v ih =>
    rw [group_append, mem_keys_add, ih]
    simp [or_and_right, exists_or, eq_comm]

/-- A session has the steps of the visits with its key, in their order. -/
theorem steps_of_mem_group (h : x ∈ group vs) : x.steps = stepsIn x.key vs := by
  induction vs using List.reverseRecOn generalizing x with
  | nil => simp [group] at h
  | append_singleton vs v ih =>
    rw [group_append] at h
    rw [stepsIn_append, stepsIn_singleton]
    rcases mem_add (keys_group_nodup vs) h with ⟨hmem, hkey⟩ | ⟨y, hy, hkey, rfl⟩ | ⟨hnew, rfl⟩
    · rw [ih hmem, if_neg hkey.symm, List.append_nil]
    · rw [ih hy, if_pos hkey.symm]
    · rw [if_pos rfl, stepsIn_eq_nil, List.nil_append]
      intro u hu hkey
      exact hnew (mem_keys_group.2 ⟨u, hu, hkey⟩)

/-! ## The window -/

/-- The time from which visits are in the window. -/
def windowStart (now : Instant) : Instant :=
  now.addDays (-windowDays)

/-- The visit is live, and it was made in the window. Texts are compared. -/
def inWindow (now : Instant) (v : Visitor) : Bool :=
  (windowStart now).layout ≤ v.value .createdAt && !v.isDeletedAt now

theorem inWindow_eq (now : Instant) (v : Visitor) : inWindow now v =
    (decide ((windowStart now).layout ≤ v.value .createdAt) && decide
      (now.layout < v.value .deletedAt)) := by
  simp only [inWindow, Visitor.isDeletedAt, decide_not, Bool.not_not]

/-- The visits of the window. -/
def window (now : Instant) (rows : Rows) : List Visitor :=
  (rows.map Row.toVisitor).filter (inWindow now)

/-- No visit is newer than one before it. -/
def IsNewestFirst (vs : List Visitor) : Prop :=
  vs.Pairwise fun u v => v.value .createdAt ≤ u.value .createdAt

variable {now : Instant} {s : Store} {p : Pool} {rows : Rows}

theorem isSound_windowStart (h : now.IsSound) : (windowStart now).IsSound :=
  Instant.isSound_addDays h _

theorem windowStart_le (now : Instant) : windowStart now ≤ now :=
  Instant.addDays_le (by decide)

/-- Where years have four digits, the window has the visits that were made at most so many days ago,
to the second, and that count as deleted only later. -/
theorem inWindow_iff {t u : Instant} (hnow : now.IsSound) (hyear : now.year ≤ 9999)
    (ht : t.Within 0 9999) (hu : u.Within 0 9999) (hcreated : v.value .createdAt = t.layout)
    (hdeleted : v.value .deletedAt = u.layout) :
    inWindow now v ↔ (now.addDays (-31)).truncated ≤ t.truncated ∧ now.truncated < u.truncated := by
  have hstart : (windowStart now).year ≤ 9999 :=
    Int.le_trans (Instant.year_le_year (windowStart_le now)) hyear
  rw [inWindow_eq, hcreated, hdeleted, Bool.and_eq_true, decide_eq_true_iff, decide_eq_true_iff,
    ← String.not_lt, Instant.lt_layout_iff_of_year_le (isSound_windowStart hnow) hstart
      ht, Instant.not_lt,
    Instant.layout_lt_iff_of_year_le hnow hyear hu]
  rfl

/-- The query for the newest visits of the window. -/
def windowQuery (s : Store) (now : Instant) : Query :=
  { table := s.table
    conditions := [.atLeast .createdAt (windowStart now).layout, .above .deletedAt now.layout]
    distinct := none
    order := some ⟨.createdAt, .descending⟩
    limit := some 1000
    offset := none }

/-- The options of the window give the query for the live rows of the last days. -/
theorem ofOptions_windowOptions (s : Store) (hnow : now.IsSound) :
    Query.ofOptions s.table now (windowOptions now) = .ok (windowQuery s now) := by
  have hconditions : Query.conditionsOf now (windowOptions now) =
      (windowQuery s now).conditions := by
    unfold Query.conditionsOf windowOptions
    dsimp only
    rw [Instant.filled?_layout, Option.map_some]
    have hnormalize := Instant.normalize_layout (isSound_windowStart hnow) false
    rw [windowStart] at hnormalize
    rw [hnormalize]
    rfl
  rw [Query.ofOptions, hconditions]
  rfl

theorem admits_windowQuery [Engine] (s : Store) (now : Instant) {r : Row}
    (hcreated : r.value .createdAt = .text (r.toVisitor.value .createdAt))
    (hdeleted : r.value .deletedAt = .text (r.toVisitor.value .deletedAt)) :
    (windowQuery s now).admits r = inWindow now r.toVisitor := by
  simp only [Query.admits, windowQuery, List.all_cons, List.all_nil, Bool.and_true]
  rw [Condition.holds_atLeast hcreated (Instant.isKept_layout _), Condition.holds_live,
    Row.isLive, hdeleted, Stored.less_text, inWindow_eq]

theorem refusal?_windowQuery [Engine] (s : Store) (now : Instant) (rows : Rows) :
    (windowQuery s now).refusal? .listing rows = none :=
  Query.refusal?_eq_none (show 3 ≤ Database.mostValues by decide)
    (List.forall_mem_cons.2 ⟨rfl, List.forall_mem_singleton.2 rfl⟩)

/-- The visits of the window as the engine lists them, if it is not to stop after some. -/
def listed [Engine] (s : Store) (now : Instant) (rows : Rows) : List Visitor :=
  (Engine.arrange (windowQuery s now) (rows.filter (windowQuery s now).admits)).map Row.toVisitor

/-- The sessions are made of the first visits that are listed, from the last of them on. -/
theorem recent_eq [Engine] (hp : p.isClosed = false) (h : p.Holds s rows) (hnow : now.IsSound) :
    recent s now p = .ok (group ((listed s now rows).take 1000).reverse) := by
  have hlist : s.list now (windowOptions now) p = .ok ((listed s now rows).take 1000) := by
    have hrun : (windowQuery s now).run rows =
        (Engine.arrange (windowQuery s now) (rows.filter (windowQuery s now).admits)).take 1000 :=
      rfl
    have hread := Pool.read_list_of_holds (q := windowQuery s now) hp h rfl
    rw [refusal?_windowQuery, hrun, List.map_take] at hread
    rw [Store.list, ofOptions_windowOptions s hnow]
    exact hread
  rw [recent, hlist]

theorem filter_admits_windowQuery [Engine] (s : Store) (now : Instant)
    (hcreated : rows.IsText .createdAt)
    (hdeleted : rows.IsText .deletedAt) :
    rows.filter (windowQuery s now).admits = rows.filter fun r => inWindow now r.toVisitor := by
  have hadmits : ∀ r ∈ rows, (windowQuery s now).admits r = inWindow now r.toVisitor :=
    fun r hr => admits_windowQuery s now (hcreated r hr) (hdeleted r hr)
  exact List.filter_congr hadmits

/-- What is listed are the visits of the window. -/
theorem perm_listed [Engine] (s : Store) (now : Instant) (hcreated : rows.IsText .createdAt)
    (hdeleted : rows.IsText .deletedAt) : (listed s now rows).Perm (window now rows) := by
  rw [window, List.filter_map, listed, filter_admits_windowQuery s now hcreated hdeleted]
  exact (Engine.perm_arrange _ _).map Row.toVisitor

/-- The newest visits are listed first. -/
theorem isNewestFirst_listed [Engine] (s : Store) (now : Instant)
    (hcreated : rows.IsText .createdAt) :
    IsNewestFirst (listed s now rows) := by
  have hperm := Engine.perm_arrange (windowQuery s now) (rows.filter (windowQuery s now).admits)
  have htext : Rows.IsText (rows.filter (windowQuery s now).admits) .createdAt :=
    fun r hr => hcreated r (List.mem_of_mem_filter hr)
  have hsorted := Engine.pairwise_arrange (q := windowQuery s now) rfl htext
  rw [IsNewestFirst, listed, List.pairwise_map]
  refine hsorted.imp_of_mem fun {a b} ha hb hab => ?_
  have hatMost : (b.value .createdAt).atMost (a.value .createdAt) := hab
  rw [htext.atMost (hperm.mem_iff.1 hb) (hperm.mem_iff.1 ha)] at hatMost
  exact of_decide_eq_true hatMost

/-! ## What sessions cover -/

/-- How sessions cover the window of a clock. `window`: its visits are either chosen or left out.
`length`: at most a thousand are chosen. `newest`: no visit that is left out is newer than a chosen
one. `steps`: the steps of all sessions are the chosen visits. `own`: a session has the steps of its
key. `ascending`: they come in the order of their times. `since`: a visit is in the window if it was
made in the last 31 days, to the second, and is live. -/
structure CoversWindow (now : Instant) (rows : Rows) (chosen left : List Visitor)
    (ss : List Session) : Prop where
  window : (chosen ++ left).Perm (window now rows)
  length : chosen.length = min 1000 (Session.window now rows).length
  newest : ∀ u ∈ chosen, ∀ v ∈ left, v.value .createdAt ≤ u.value .createdAt
  steps : (allSteps ss).Perm (chosen.map stepOf)
  own : ∀ x ∈ ss, x.steps.Perm (stepsIn x.key chosen)
  ascending : ∀ x ∈ ss, x.steps.Pairwise fun a b => a.time ≤ b.time
  since : ∀ v ∈ rows.map Row.toVisitor, ∀ t u : Instant, t.Within 0 9999 → u.Within 0 9999 →
    v.value .createdAt = t.layout → v.value .deletedAt = u.layout →
    (v ∈ chosen ++ left ↔ (now.addDays (-31)).truncated ≤ t.truncated ∧ now.truncated < u.truncated)

theorem pairwise_stepsIn {r : String → String → Prop} (k : String)
    (h : vs.Pairwise fun u v => r (u.value .createdAt) (v.value .createdAt)) :
    (stepsIn k vs).Pairwise fun a b => r a.time b.time := by
  rw [stepsIn, List.pairwise_map]
  exact h.filter _

/-- Grouped are the first thousand of the visits of the window, the newest ones first. -/
theorem coversWindow {l : List Visitor} (hnow : now.IsSound) (hyear : now.year ≤ 9999)
    (hperm : l.Perm (Session.window now rows)) (hsorted : IsNewestFirst l) :
    CoversWindow now rows (l.take 1000) (l.drop 1000) (group (l.take 1000).reverse) := by
  rw [IsNewestFirst, ← List.take_append_drop 1000 l, List.pairwise_append] at hsorted
  obtain ⟨hchosen, -, hnewest⟩ := hsorted
  constructor
  case window => rwa [List.take_append_drop]
  case length => rw [List.length_take, hperm.length_eq]
  case newest => exact hnewest
  case steps => exact (perm_steps_group _).trans ((List.reverse_perm _).map stepOf)
  case own =>
    intro x hx
    rw [steps_of_mem_group hx, stepsIn_reverse]
    exact List.reverse_perm _
  case ascending =>
    intro x hx
    rw [steps_of_mem_group hx]
    exact pairwise_stepsIn _ (List.pairwise_reverse.2 hchosen)
  case since =>
    intro v hv t u ht hu hcreated hdeleted
    rw [List.take_append_drop, hperm.mem_iff, Session.window, List.mem_filter, and_iff_right hv]
    exact inWindow_iff hnow hyear ht hu hcreated hdeleted

/-- Up to the year 9999 the sessions cover the newest visits of the window, whatever is in the
table. -/
theorem exists_recent [Engine] (hp : p.isClosed = false) (h : p.Holds s rows)
    (hrows : ∀ r ∈ rows, r.InLayout) (hnow : now.IsSound)
    (hyear : now.year ≤ 9999) :
    ∃ ss chosen left, recent s now p = .ok ss ∧ CoversWindow now rows chosen left ss := by
  have htext (c : Column) : rows.IsText c := fun r hr => (hrows r hr).value c
  have hperm := perm_listed s now (htext .createdAt) (htext .deletedAt)
  have hsorted := isNewestFirst_listed s now (htext .createdAt)
  exact ⟨_, _, _, recent_eq hp h hnow, coversWindow hnow hyear hperm hsorted⟩

/-- Visits around the start of a window, of two clients; one of them was deleted. -/
def recentVisits : List Visitor :=
  [.visit "a" "/c" "2024-06-30 10:10:00",
    (Visitor.visit "b" "/b" "2024-06-30 10:05:00").set .fingerprint "f",
    .visit "c" "/a" "2024-05-31 00:00:00", .visit "d" "/" "2024-05-30 23:59:59",
    (Visitor.visit "e" "/" "2024-06-01 00:00:00").set .deletedAt "2024-07-01 00:00:00"]

theorem exists_recent_july : (∀ r ∈ recentVisits.map Row.ofVisitor, r.InLayout) ∧
    ∃ ss chosen left, recent ⟨"visits"⟩ Retention.julyFirst (.ofVisits recentVisits) = .ok ss ∧
      CoversWindow Retention.julyFirst (recentVisits.map Row.ofVisitor) chosen left ss ∧
      chosen.length = 3 := by
  have hrows : ∀ r ∈ recentVisits.map Row.ofVisitor, r.InLayout := Store.inLayout_of_all (by decide)
  have hsound : Retention.julyFirst.IsSound := .inl (by decide)
  obtain ⟨ss, chosen, left, hrecent, hcovers⟩ :=
    exists_recent rfl (Pool.holds_ofVisits recentVisits) hrows hsound (by decide)
  exact ⟨hrows, ss, chosen, left, hrecent, hcovers, hcovers.length.trans (by decide)⟩

/-- A visit that was made and deleted in 2024. -/
def withdrawn : Visitor :=
  (Visitor.visit "a" "/" "2024-01-01 00:00:00").set .deletedAt "2024-02-01 00:00:00"

theorem toVisitor_withdrawn [Engine] : (Row.ofVisitor withdrawn).toVisitor = withdrawn.clean :=
  Row.toVisitor_ofVisitor (Visitor.inLayout_of_all (by decide)).isKept

/-- On the 18th of June of the year 10000 that visit is a step. -/
theorem not_coversWindow_late : ¬∀ (s : Store) (now : Instant) (p : Pool) (rows : Rows),
    p.isClosed = false → p.Holds s rows → (∀ r ∈ rows, r.InLayout) → now.IsSound →
      ∃ ss chosen left, recent s now p = .ok ss ∧ CoversWindow now rows chosen left ss := by
  intro hall
  have hrows : ∀ r ∈ [withdrawn].map Row.ofVisitor, r.InLayout := Store.inLayout_of_all (by decide)
  obtain ⟨ss, chosen, left, -, hcovers⟩ :=
    hall ⟨"visits"⟩ ⟨253416902400, 0⟩ _ _ rfl (Pool.holds_ofVisits [withdrawn]) hrows
      (.inl (by decide))
  have hmem : withdrawn.clean ∈ chosen ++ left := by
    rw [hcovers.window.mem_iff, window, List.map_singleton, List.map_singleton, toVisitor_withdrawn]
    exact List.mem_filter.2 ⟨List.mem_singleton_self _, by decide⟩
  have hrow : withdrawn.clean ∈ ([withdrawn].map Row.ofVisitor).map Row.toVisitor := by
    rw [List.map_singleton, List.map_singleton, toVisitor_withdrawn]
    exact List.mem_singleton_self _
  have hsince := hcovers.since withdrawn.clean hrow ⟨1704067200, 0⟩ ⟨1706745600, 0⟩
    ⟨.inl (by decide), by decide, by decide⟩ ⟨.inl (by decide), by decide, by decide⟩
      (by decide) (by decide)
  have hlater := (hsince.1 hmem).2
  rw [Instant.lt_iff] at hlater
  exact absurd hlater (by decide)

end Session

end VisitLog

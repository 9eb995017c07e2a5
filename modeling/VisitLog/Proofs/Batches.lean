import VisitLog.Database.Planner
import VisitLog.Proofs.Atomicity

/-!
# Batches as a whole

A batch adds one row per record, in order, or it leaves the table alone. Its statements run one by
one, so a record whose identifier is taken, by a row of the table or by a record in front of it, is
found when others are in the table already; the transaction takes those out again.

Main statement: `Store.storesWhole`.
-/

namespace VisitLog

namespace Store

section

variable [Engine]

variable {s : Store} {now : Instant} {v : Visitor} {vs : List Visitor} {p p' : Pool} {rows : Rows}
    {n : Nat}

/-- The row has the texts of a record, but for the stamps of a batch. -/
def IsBatchRow (now : Instant) (v : Visitor) (r : Row) : Prop :=
  ∀ c, r.value c =
    .text (if c = .updatedAt ∨ c = .createdAt ∧
      v.value .createdAt = "" then now.layout else v.value c)

theorem isBatchRow_ofVisitor (hv : v.IsKept) (now : Instant) :
    IsBatchRow now v (.ofVisitor (stampCaptured now v)) := by
  intro c
  rw [Row.value_ofVisitor (isKept_stampCaptured hv now), value_stampCaptured_eq]

/-- Whether a batch can be stored depends on identifiers alone. -/
theorem exists_createBatch_iff (hp : p.isClosed = false) (h : p.Holds s rows) :
    (∃ n p', s.createBatch now vs p = .ok (n, p')) ↔
      (vs.Pairwise fun v w => v.value .id ≠ w.value .id) ∧
        ∀ v ∈ vs, ∀ r ∈ rows, r.value .id ≠ .text (v.value .id) := by
  by_cases hvs : vs = []
  · subst hvs
    exact iff_of_true ⟨0, p, rfl⟩ ⟨.nil, nofun⟩
  · simp only [createBatch_eq_ok hvs, Rows.hasId_eq_false]
    constructor
    · rintro ⟨n, p', -, -, rows', hrows', hfree, hdistinct, -⟩
      cases h.unique hrows'
      exact ⟨hdistinct, hfree⟩
    · rintro ⟨hdistinct, hfree⟩
      exact ⟨_, _, rfl, hp, rows, h, hfree, hdistinct, rfl⟩

/-- A batch that is stored is behind the rows of the table, and nothing else changed. -/
theorem createBatch_adds (h : p.Holds s rows) (hstored : s.createBatch now vs p = .ok (n, p')) :
    n = vs.length ∧ p.SameElsewhere s p' ∧
      p'.Holds s (rows ++ vs.map fun v => .ofVisitor (stampCaptured now v)) := by
  by_cases hvs : vs = []
  · subst hvs
    cases hstored
    rw [List.map_nil, List.append_nil]
    exact ⟨rfl, .refl s p, h⟩
  · obtain ⟨hn, -, rows', hrows', -, -, rfl⟩ := (createBatch_eq_ok hvs).1 hstored
    cases h.unique hrows'
    exact ⟨hn, Pool.sameElsewhere_withRows .., h.withRows _⟩

/-- What a batch does to a table. `accepts`: it is stored exactly when its identifiers are different
and none of them is in the table. `stores`: then its length is returned, and behind the old rows
there is one row per record, in order, with the texts of the record but for the stamps; nothing else
in the database changed, and the statements of the batch come to just that. `refuses`: otherwise the
run of its statements fails and leaves the database as it was. `empty`: no records are stored in any
state. -/
structure StoresWhole (s : Store) (now : Instant) (vs : List Visitor) (p : Pool)
    (rows : Rows) : Prop where
  accepts : (∃ n p', s.createBatch now vs p = .ok (n, p')) ↔
    (vs.Pairwise fun v w => v.value .id ≠ w.value .id) ∧
      ∀ v ∈ vs, ∀ r ∈ rows, r.value .id ≠ .text (v.value .id)
  stores : ∀ n p', s.createBatch now vs p = .ok (n, p') →
    n = vs.length ∧ p.SameElsewhere s p' ∧
      (∃ new, p'.Holds s (rows ++ new) ∧
        List.Forall₂ (fun v r => v.IsKept → IsBatchRow now v r) vs new) ∧
      ((Operation.createBatch vs).plan s now p).run p = (p', none)
  refuses : ∀ failure, s.createBatch now vs p = .error failure →
    ((Operation.createBatch vs).plan s now p).run p = (p, some failure)
  empty : ∀ q : Pool, s.createBatch now [] q = .ok (0, q)

/-- A batch is stored whole or not at all. -/
theorem storesWhole (now : Instant) (vs : List Visitor) (hp : p.isClosed = false)
    (h : p.Holds s rows) :
    s.StoresWhole now vs p rows where
  accepts := exists_createBatch_iff hp h
  stores n p' hstored := by
    obtain ⟨hn, hsame, hrows⟩ := createBatch_adds h hstored
    refine ⟨hn, hsame, ⟨_, hrows, ?_⟩, ?_⟩
    · rw [List.forall₂_map_right_iff]
      exact List.forall₂_same.2 fun v _ hv => isBatchRow_ofVisitor hv now
    · rw [Operation.run_plan, Operation.result, hstored]
      rfl
  refuses failure hrefused := by
    rw [Operation.run_plan, Operation.result, hrefused]
    rfl
  empty _ := rfl

end

/-- A batch whose last record has the identifier of its first one. -/
def clashing : List Visitor :=
  [.visit "b" "/" "", .visit "c" "/" "2024-01-01 00:00:00", .visit "b" "/" ""]

theorem storesWhole_clashing :
    StoresWhole ⟨"visits"⟩ ⟨0, 0⟩ clashing (.ofVisits [.visit "a" "/" ""])
      [.ofVisitor (.visit "a" "/" "")] ∧ ¬∃ n p', createBatch ⟨"visits"⟩ ⟨0, 0⟩ clashing
        (.ofVisits [.visit "a" "/" ""]) = .ok (n, p') := by
  have hwhole : StoresWhole ⟨"visits"⟩ ⟨0, 0⟩ clashing (.ofVisits [.visit "a" "/" ""])
      [.ofVisitor (.visit "a" "/" "")] := storesWhole ⟨0, 0⟩ clashing rfl (Pool.holds_ofVisits _)
  refine ⟨hwhole, fun h => ?_⟩
  have hdistinct := (hwhole.accepts.1 h).1
  have hclash : ¬clashing.Pairwise fun v w => v.value .id ≠ w.value .id := by decide
  exact hclash hdistinct

end Store

end VisitLog

import Mathlib.Data.List.Nodup
import VisitLog.Proofs.KeptText
import VisitLog.Proofs.Tables
import VisitLog.Visit

/-!
# Captured records and their batches

The record of a visit carries the clock of its capture, an identifier made from that clock and the
mark of a record that was never deleted; what the visit itself says is in other columns. A batch
stores such a record with one column changed (`value_ofVisitor_stampCaptured`), and either all rows
of a batch are stored or none (`createBatch_eq_ok`).
-/

namespace VisitLog

open Text

theorem Instant.layout_ne_empty (t : Instant) : t.layout ≠ "" := by
  intro h
  have hchars : t.layoutChars = [] := String.ofList_injective h
  exact List.append_ne_nil_of_right_ne_nil _ (List.cons_ne_nil ' ' t.timeChars) hchars

/-! ## The record of a visit -/

namespace Visit

theorem value_setAll_of_not_mem {v : Visitor} {c : Column} {fs : List (Column × String)}
    (h : c ∉ fs.map Prod.fst) : (v.setAll fs).value c = v.value c := by
  induction fs generalizing v with
  | nil => rfl
  | cons f fs ih =>
    obtain ⟨hne, hmem⟩ := not_or.1 (mt List.mem_cons.2 h)
    exact (ih hmem).trans (if_neg hne)

/-- Setting columns leaves in each of them a text that it was set to. -/
theorem mem_setAll {v : Visitor} {c : Column} {fs : List (Column × String)}
    (h : c ∈ fs.map Prod.fst) :
    (c, (v.setAll fs).value c) ∈ fs := by
  induction fs generalizing v with
  | nil => cases h
  | cons f fs ih =>
    by_cases hc : c ∈ fs.map Prod.fst
    · exact List.mem_cons_of_mem _ (ih hc)
    · obtain rfl : c = f.1 := (List.mem_cons.1 h).resolve_right hc
      have hvalue : (v.setAll (f :: fs)).value f.1 = f.2 :=
        (value_setAll_of_not_mem hc).trans (if_pos rfl)
      rw [hvalue]
      exact List.mem_cons_self

/-- What a visit does not say is in its record as in any new one. -/
theorem value_toVisitor_of_not_mem {now : Instant} {random : Nat} {visit : Visit} {c : Column}
    (h : c ∉ visit.fields.map Prod.fst) (hc : c ≠ .fingerprint) :
    (visit.toVisitor now random).value c = (Visitor.fresh now random).value c :=
  (if_neg hc).trans (value_setAll_of_not_mem h)

/-- What a visit says is in its record as it says it. -/
theorem mem_fields_toVisitor {c : Column} (now : Instant) (random : Nat) (visit : Visit)
    (h : c ∈ visit.fields.map Prod.fst) : (c, (visit.toVisitor now random).value c) ∈
      visit.fields := by
  have hc : c ≠ .fingerprint := by
    rintro rfl
    simp [fields] at h
  have hvalue : (visit.toVisitor now random).value c =
      ((Visitor.fresh now random).setAll visit.fields).value c :=
    if_neg hc
  exact hvalue ▸ mem_setAll h

theorem nodup_fields (visit : Visit) : (visit.fields.map Prod.fst).Nodup := by
  change [Column.path, .ipAddress, .country, .userAgent, .userReferrer, .userAcceptLanguage,
    .userAcceptEncoding, .userBrowser, .userBrowserVersion, .userOs, .userOsVersion, .userDevice,
    .userDeviceType].Nodup
  decide

theorem value_toVisitor_of_mem {visit : Visit} {c : Column} {s : String} (now : Instant)
    (random : Nat)
    (h : (c, s) ∈ visit.fields) : (visit.toVisitor now random).value c = s := by
  have hvalue := visit.mem_fields_toVisitor now random (List.mem_map_of_mem (f := Prod.fst) h)
  exact congrArg Prod.snd (List.inj_on_of_nodup_map visit.nodup_fields hvalue h rfl)

variable (now : Instant) (random : Nat) (visit : Visit)

theorem id_toVisitor : (visit.toVisitor now random).value .id = Visitor.makeId now random :=
  value_toVisitor_of_not_mem (by simp [fields]) (by decide)

theorem createdAt_toVisitor : (visit.toVisitor now random).value .createdAt = now.layout :=
  value_toVisitor_of_not_mem (by simp [fields]) (by decide)

theorem updatedAt_toVisitor : (visit.toVisitor now random).value .updatedAt = now.layout :=
  value_toVisitor_of_not_mem (by simp [fields]) (by decide)

theorem deletedAt_toVisitor : (visit.toVisitor now random).value .deletedAt = Visitor.never :=
  value_toVisitor_of_not_mem (by simp [fields]) (by decide)

end Visit

namespace Visitor

/-- The record has the time of its capture, and datetime columns keep its datetimes. -/
structure IsCaptured (v : Visitor) : Prop where
  isKept : v.IsKept
  dated : v.value .createdAt ≠ ""

theorem isKept_never : Stored.IsKept never :=
  Instant.isKept_of_isLayout (by decide)

theorem isCaptured_toVisitor (now : Instant) (random : Nat) (visit : Visit) :
    (visit.toVisitor now random).IsCaptured where
  isKept c hc := by
    cases c with
    | createdAt => exact visit.createdAt_toVisitor now random ▸ now.isKept_layout
    | updatedAt => exact visit.updatedAt_toVisitor now random ▸ now.isKept_layout
    | deletedAt => exact visit.deletedAt_toVisitor now random ▸ isKept_never
    | _ => cases hc
  dated := visit.createdAt_toVisitor now random ▸ now.layout_ne_empty

end Visitor

/-! ## Batches -/

namespace Store

variable {s : Store} {now : Instant} {v : Visitor} {p p' : Pool}

theorem id_stampCaptured (now : Instant) (v : Visitor) :
    (stampCaptured now v).value .id = v.value .id := by
  unfold stampCaptured
  dsimp only
  split <;> rfl

/-- A batch stamps a record with its clock, also as the time of capture if that is missing. -/
theorem value_stampCaptured_eq (now : Instant) (v : Visitor) (c : Column) :
    (stampCaptured now v).value c = if c = .updatedAt ∨ c = .createdAt ∧
    v.value .createdAt = "" then now.layout else v.value c := by
  unfold stampCaptured
  dsimp only
  split
  · next hempty =>
    rw [String.isEmpty_iff] at hempty
    rw [Visitor.value_set, Visitor.value_set]
    by_cases hupdated : c = .updatedAt
    · rw [if_pos hupdated, if_pos (.inl hupdated)]
    · rw [if_neg hupdated]
      exact if_congr (by simp [hupdated, hempty]) rfl rfl
  · next hfilled =>
    rw [String.isEmpty_iff] at hfilled
    exact if_congr (by simp [hfilled]) rfl rfl

theorem value_stampCaptured (hv : v.value .createdAt ≠ "") (now : Instant) (c : Column) :
    (stampCaptured now v).value c = if c = .updatedAt then now.layout else v.value c :=
  (value_stampCaptured_eq now v c).trans (if_congr (by simp [hv]) rfl rfl)

theorem isKept_stampCaptured (hv : v.IsKept) (now : Instant) : (stampCaptured now v).IsKept := by
  intro c hc
  rw [value_stampCaptured_eq]
  split
  · exact now.isKept_layout
  · exact hv c hc

variable [Engine]

/-- A stored row is the captured record in every column but the stamp of its batch. -/
theorem value_ofVisitor_stampCaptured (hv : v.IsCaptured) (now : Instant) (c : Column) :
    (Row.ofVisitor (stampCaptured now v)).value c =
      .text (if c = .updatedAt then now.layout else v.value c) := by
  rw [Row.value_ofVisitor (isKept_stampCaptured hv.isKept now), value_stampCaptured hv.dated]

/-- A batch is stored exactly when the table can be reached and all its identifiers are free and
different. -/
theorem createBatch_eq_ok {vs : List Visitor} {n : Nat} (hvs : vs ≠ []) :
    s.createBatch now vs p = .ok (n, p') ↔ n = vs.length ∧ p.isClosed = false ∧
      ∃ rows, p.Holds s rows ∧ (∀ v ∈ vs, rows.hasId (v.value .id) = false) ∧
        (vs.Pairwise fun v w => v.value .id ≠ w.value .id) ∧
        p' = p.withRows s (rows ++ vs.map fun v => .ofVisitor (stampCaptured now v)) := by
  have hchange : p.change (Database.insertAll s.table (vs.map (stampCaptured now))) = .ok p' ↔ _ :=
    Pool.change_insertAll_eq_ok
  simp only [List.forall_mem_map, List.pairwise_map, id_stampCaptured, List.map_map] at hchange
  have hstore : s.createBatch now vs p = .ok (n, p') ↔
      n = vs.length ∧ p.change (Database.insertAll s.table (vs.map (stampCaptured now))) =
      .ok p' := by
    unfold createBatch
    split
    · exact absurd rfl hvs
    · split
      · next q hq =>
        rw [hq, Except.ok.injEq, Except.ok.injEq, Prod.mk.injEq, eq_comm]
      · next failure hq =>
        rw [hq]
        exact ⟨nofun, nofun⟩
  rw [hstore, hchange]
  rfl

end Store

end VisitLog

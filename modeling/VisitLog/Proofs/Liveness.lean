import VisitLog.Database.Planner
import VisitLog.Proofs.Batches
import VisitLog.Proofs.Counting

/-!
# Live records

A record is live if it counts as deleted only after the clock. The record itself says so by its text
(`Visitor.isDeletedAt`), a query by the stored value. A datetime column stores a text that spells a
number as that number, numbers come before all texts, and the number comes back as a text again. So
the two rules part where the time of deletion spells a number whose text comes after the clock, and
nowhere else.

Main statement: `Store.agreesOnLife_iff`.
-/

namespace VisitLog

open Text

namespace Stored

/-- No text comes before a number. -/
theorem less_value [Engine] (n : Numeral) (a : String) : (text a).less n.value = false := by
  unfold Numeral.value
  dsimp only
  repeat' split
  all_goals rfl

end Stored

namespace Row

variable {r : Row} {now : Instant} {deleted : String}

/-- The text of a row and its stored value say the same of its life, but for numbers whose text
comes after the clock. -/
theorem isDeletedAt_iff_isLive [Engine] (h : r.value .deletedAt = .ofText true deleted) :
    (r.toVisitor.isDeletedAt now = false ↔ r.isLive now) ↔
      ∀ n, Stored.numeral? deleted.toList = some n → n.value.toText ≤ now.layout := by
  have htext : r.toVisitor.isDeletedAt now = false ↔
      now.layout < (Stored.ofText true deleted).toText := by
    rw [Visitor.isDeletedAt, value_toVisitor, h]
    simp
  have hstored : r.isLive now = (Stored.text now.layout).less (.ofText true deleted) := by
    rw [isLive, h]
  rw [htext, hstored]
  cases hn : Stored.numeral? deleted.toList with
  | none =>
    rw [Stored.ofText_of_not_numeric hn, Stored.less_text, decide_eq_true_iff]
    refine iff_of_true Iff.rfl fun n hn => ?_
    cases hn
  | some n =>
    have hvalue : Stored.ofText true deleted = n.value := by
      simp [Stored.ofText, hn]
    rw [hvalue, Stored.less_value]
    constructor
    · intro hagrees m hm
      cases hm
      exact String.not_lt.1 fun hlater => Bool.false_ne_true (hagrees.1 hlater)
    · intro hnotLater
      exact iff_of_false (String.not_lt.2 (hnotLater n rfl)) Bool.false_ne_true

end Row

namespace Store

variable {s : Store} {now t : Instant} {id : String} {v w : Visitor} {p p' : Pool} {rows : Rows}
    {r : Row}

/-! ## A record that was stored -/

/-- The record was stored by a creation, or in a batch. -/
inductive Adds [Engine] (s : Store) (t : Instant) (v : Visitor) (p p' : Pool) : Prop
  | created {v' : Visitor} (h : s.create t v p = ⟨v', .ok p'⟩)
  | batched {vs : List Visitor} {n : Nat} (hv : v ∈ vs) (h : s.createBatch t vs p = .ok (n, p'))

/-- The records of a batch have rows of their own. -/
theorem hasRow_of_batch [Engine] {vs : List Visitor} (h : p.Holds s rows)
    (hfree : ∀ v ∈ vs, rows.hasId (v.value .id) = false)
    (hdistinct : vs.Pairwise fun v w => v.value .id ≠ w.value .id) (hv : v ∈ vs) :
    (p.withRows s (rows ++ vs.map fun v => .ofVisitor (stampCaptured t v))).HasRow s (v.value .id)
      (.ofVisitor (stampCaptured t v)) := by
  refine ⟨_, h.withRows _, ?_⟩
  have hold : rows.filter (Row.hasId (v.value .id)) = [] := by
    apply List.filter_eq_nil_iff.2
    exact List.any_eq_false.1 (hfree v hv)
  have hempty : Rows.IsKeyed [] := ⟨nofun, .nil⟩
  have hnew : Rows.IsKeyed ([] ++ (vs.map (stampCaptured t)).map Row.ofVisitor) := by
    apply hempty.append
    · intro _ _
      rfl
    · simpa only [List.pairwise_map, id_stampCaptured] using hdistinct
  rw [List.nil_append, List.map_map] at hnew
  have hone := hnew.filter_hasId (List.mem_map_of_mem hv)
  have hname : (Row.ofVisitor (stampCaptured t v)).toVisitor.value .id = v.value .id :=
    id_stampCaptured t v
  rw [Function.comp_apply, hname] at hone
  rw [List.filter_append, hold, List.nil_append]
  exact hone

/-- A record that was stored has one row, and its time of deletion is in it. -/
theorem Adds.exists_row [Engine] (h : s.Adds t v p p') : p'.isClosed = false ∧
    ∃ r, p'.HasRow s (v.value .id) r ∧ r.value .deletedAt = .ofText true (v.value .deletedAt) := by
  cases h with
  | created h =>
    have hp : p.isClosed = false := by
      by_contra hclosed
      have hresult : (s.create t v p).result = .error .poolClosed :=
        result_create_of_closed (by simpa using hclosed)
      rw [h] at hresult
      cases hresult
    obtain ⟨-, rows, hrows, hid, rfl⟩ := create_eq_ok h
    exact ⟨hp, _, Pool.HasRow.append (v := dated t v) hrows hid, rfl⟩
  | batched hv h =>
    obtain ⟨-, hp, rows, hrows, hfree, hdistinct, rfl⟩ :=
      (createBatch_eq_ok (List.ne_nil_of_mem hv)).1 h
    refine ⟨hp, _, hasRow_of_batch hrows hfree hdistinct hv, ?_⟩
    have hdeleted : (stampCaptured t v).value .deletedAt = v.value .deletedAt := by
      rw [value_stampCaptured_eq, if_neg (by simp)]
    rw [← hdeleted]
    rfl

/-! ## Reading it back -/

/-- The record comes back from the store, deleted or not: alone where its identifier is asked for,
and as the one with its identifier in every other listing. -/
structure ReadsBack [Engine] (s : Store) (now : Instant) (p : Pool) (w : Visitor) : Prop where
  alone : s.list now { id := some (w.value .id), withDeleted := true } p = .ok [w]
  among : ∀ rows o vs, p.Holds s rows → rows.IsKeyed → s.list now o p = .ok vs → ∀ u ∈ vs,
    u.value .id = w.value .id → u = w

theorem id_of_hasRow (h : p.HasRow s id r) : r.toVisitor.value .id = id := by
  rw [Row.value_toVisitor, beq_iff_eq.1 h.hasId, Stored.toText_text]

/-- A list by identifier that includes deleted rows finds the one row of the identifier. -/
theorem list_withDeleted_of_hasRow [Engine] (now : Instant) (hid : trim id = id) (hne : id ≠ "")
    (hp : p.isClosed = false)
    (h : p.HasRow s id r) : s.list now { id := some id, withDeleted := true } p =
    .ok [r.toVisitor] := by
  obtain ⟨rows, hrows, hone⟩ := h
  have hconditions : Query.conditionsOf now { id := some id, withDeleted := true } =
      [.equals .id id] := by
    have hfilled : filled? (some id) = some id := by
      rw [filled?_some, hid, if_neg hne]
    rw [Query.conditionsOf]
    dsimp only
    rw [hfilled]
    rfl
  have hvalues : Options.filterValues { id := some id, withDeleted := true } ≤
      Database.mostValues :=
    Nat.le_trans (Options.filterValues_le _) (by decide : 7 ≤ Database.mostValues)
  obtain ⟨vs, hperm, hlist⟩ :=
    exists_list_filtersOnly (o := { id := some id, withDeleted := true }) now hp hrows rfl hvalues
  have hmatching : Options.matching { id := some id, withDeleted := true } now rows = [r] := by
    rw [Options.matching, hconditions, ← hone]
    simp
  rw [hmatching, List.map_singleton, List.perm_singleton] at hperm
  rw [← hperm]
  exact hlist.eq_ok rfl

/-- A row comes back as the record that it holds, deleted or not. -/
theorem readsBack_of_hasRow [Engine] (now : Instant) (hid : trim id = id) (hne : id ≠ "")
    (hp : p.isClosed = false)
    (h : p.HasRow s id r) : s.ReadsBack now p r.toVisitor where
  alone := by
    rw [id_of_hasRow h]
    exact list_withDeleted_of_hasRow now hid hne hp h
  among rows o vs hrows hkeyed hlist u hu hname := by
    rw [id_of_hasRow h] at hname
    obtain ⟨q, hq, hread⟩ := bind_eq_ok.1 hlist
    rw [Pool.read_list_of_holds hp hrows (Query.means_of_ofOptions hq).table] at hread
    split at hread <;> cases hread
    obtain ⟨x, hx, rfl⟩ := List.mem_map.1 hu
    obtain ⟨hx, -⟩ := Query.mem_of_mem_run hx
    obtain ⟨rows', hrows', hone⟩ := h
    cases hrows.unique hrows'
    have hmem : x ∈ rows.filter (Row.hasId id) := List.mem_filter.2 ⟨hx, hname ▸ hkeyed.text x hx⟩
    rw [hone] at hmem
    rw [List.mem_singleton.1 hmem]

/-- The row of an identifier is found if it is live. -/
theorem find_of_hasRow [Engine] (now : Instant) (hid : trim id = id) (hne : id ≠ "")
    (hp : p.isClosed = false)
    (h : p.HasRow s id r) : s.find now id p =
    .ok (if r.isLive now then some r.toVisitor else none) := by
  obtain ⟨rows, hrows, hone⟩ := h
  obtain ⟨l, hl, hfind⟩ : ∃ l : Rows, l.Perm (rows.filter (isCandidate now id)) ∧
      s.find now id p = .ok (l.head?.map Row.toVisitor) := find_of_holds hne hp hrows
  have hcandidates : rows.filter (isCandidate now id) = [r].filter (Row.isLive now) := by
    rw [← hone, List.filter_filter]
    refine List.filter_congr fun x _ => ?_
    rw [isCandidate, hid, decide_eq_false hne, Bool.false_or, Bool.and_comm]
  rw [hcandidates] at hl
  rw [hfind]
  by_cases hlive : r.isLive now
  · rw [List.filter_cons_of_pos hlive, List.filter_nil, List.perm_singleton] at hl
    rw [hl, if_pos hlive]
    rfl
  · rw [List.filter_cons_of_neg hlive, List.filter_nil, List.perm_nil] at hl
    rw [hl, if_neg hlive]
    rfl

theorem find_eq_some_iff [Engine] (now : Instant) (hid : trim id = id) (hne : id ≠ "")
    (hp : p.isClosed = false)
    (h : p.HasRow s id r) : s.find now id p = .ok (some r.toVisitor) ↔ r.isLive now := by
  rw [find_of_hasRow now hid hne hp h]
  split
  · next hlive => exact iff_of_true rfl hlive
  · next hdead => exact iff_of_false nofun hdead

/-- A record that was stored is live by its own text exactly if the store finds it, unless its time
of deletion spells a number whose text comes after the clock. -/
theorem agreesOnLife_iff [Engine] (h : s.Adds t v p p') (hid : trim (v.value .id) = v.value .id)
    (hne : v.value .id ≠ "")
    (now : Instant) : ∃ w, w.value .id = v.value .id ∧ s.ReadsBack now p' w ∧
      ((w.isDeletedAt now = false ↔ s.find now (v.value .id) p' = .ok (some w)) ↔
        ∀ n, Stored.numeral? (v.value .deletedAt).toList = some n →
        n.value.toText ≤ now.layout) := by
  obtain ⟨hp, r, hrow, hdeleted⟩ := h.exists_row
  refine ⟨r.toVisitor, id_of_hasRow hrow, readsBack_of_hasRow now hid hne hp hrow, ?_⟩
  rw [find_eq_some_iff now hid hne hp hrow]
  exact Row.isDeletedAt_iff_isLive hdeleted

/-- A visit whose time of deletion is some text. -/
def numbered (deleted : String) : Visitor :=
  (Visitor.visit "a" "/" "2024-01-01 00:00:00").set .deletedAt deleted

theorem exists_adds_numbered [Engine] (deleted : String) :
    ∃ p', Adds ⟨"visits"⟩ ⟨0, 0⟩ (numbered deleted) (.ofVisits []) p' := by
  obtain ⟨v', p', h⟩ :=
      exists_create_eq_ok (v := numbered deleted) ⟨0, 0⟩ rfl (Pool.holds_ofVisits []) rfl
  exact ⟨p', .created h⟩

/-- The number 19 is before the clock as a number and as a text. -/
theorem agreesOnLife_iff_nineteen : ∃ p', Adds ⟨"visits"⟩ ⟨0, 0⟩ (numbered "+19.0")
    (.ofVisits []) p' ∧ trim "a" = "a" ∧ "a" ≠ "" ∧ ∃ w, w.value .id = "a" ∧
    ReadsBack ⟨"visits"⟩ ⟨0, 0⟩ p' w ∧
      (w.isDeletedAt ⟨0, 0⟩ = false ↔ find ⟨"visits"⟩ ⟨0, 0⟩ "a" p' = .ok (some w)) := by
  obtain ⟨p', h⟩ := exists_adds_numbered "+19.0"
  obtain ⟨w, hw, hback, hagrees⟩ := agreesOnLife_iff h (by decide) (by decide) ⟨0, 0⟩
  refine ⟨p', h, by decide, by decide, w, hw, hback, hagrees.2 ?_⟩
  intro n hn
  have hnumber : Stored.numeral? "+19.0".toList = some ⟨false, 190, -1, false, 19⟩ := by decide
  obtain rfl := Option.some.inj (hnumber.symm.trans hn)
  decide +kernel

/-- The number 99999 is before the clock, but its text comes after it. -/
theorem not_agreesOnLife_number : ¬∀ (s : Store) (t : Instant) (v : Visitor) (p p' : Pool),
    s.Adds t v p p' → trim (v.value .id) = v.value .id → v.value .id ≠ "" → ∀ now w, w.value .id =
    v.value .id → s.ReadsBack now p' w →
      (w.isDeletedAt now = false ↔ s.find now (v.value .id) p' = .ok (some w)) := by
  intro hall
  obtain ⟨p', h⟩ := exists_adds_numbered "99999"
  obtain ⟨hp, r, hrow, hdeleted⟩ := h.exists_row
  have hagrees := hall _ _ _ _ _ h (by decide) (by decide) ⟨0, 0⟩ r.toVisitor (id_of_hasRow hrow)
    (readsBack_of_hasRow ⟨0, 0⟩ (by decide) (by decide) hp hrow)
  rw [find_eq_some_iff ⟨0, 0⟩ (by decide) (by decide) hp hrow, Row.isDeletedAt_iff_isLive
    hdeleted] at hagrees
  have hnumber : Stored.numeral? "99999".toList = some ⟨false, 99999, 0, true, 99999⟩ := by decide
  exact absurd (hagrees _ hnumber) (by decide)

end Store

end VisitLog

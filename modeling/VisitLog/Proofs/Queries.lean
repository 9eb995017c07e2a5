import Mathlib.Algebra.GroupWithZero.Nat
import Mathlib.Data.List.DropRight
import VisitLog.Proofs.KeptText
import VisitLog.Proofs.Tables

/-!
# What queries answer

A listing answers with some arrangement of the rows that meet its conditions, cut to a page
(`run_eq_page`). Filters of options come in through `filled?`: it gives the trimmed text of a
filter, and nothing for one that is absent or blank (`filled?_eq_some`).
-/

namespace VisitLog

open Text

namespace Text

theorem trimEnd_eq_rdropWhile (cs : List Char) : trimEnd cs = cs.rdropWhile isBlank := rfl

/-- Trimming the end of a text that starts with no blank leaves that start. -/
theorem trimStart_trimEnd_trimStart (cs : List Char) :
    trimStart (trimEnd (trimStart cs)) = trimEnd (trimStart cs) := by
  have hpre : trimEnd (trimStart cs) <+: trimStart cs := List.rdropWhile_prefix isBlank _
  refine (List.dropWhile_eq_self_iff).2 fun hl hb => ?_
  have hne : 0 < (trimStart cs).length := Nat.lt_of_lt_of_le hl hpre.length_le
  have hself : (trimStart cs).dropWhile isBlank = trimStart cs := List.dropWhile_idempotent ..
  refine List.dropWhile_eq_self_iff.1 hself hne ?_
  rwa [← hpre.getElem hl]

theorem trim_trim (s : String) : trim (trim s) = trim s := by
  rw [trim, toList_trim, trimChars, trimChars, trimStart_trimEnd_trimStart, trimEnd_eq_rdropWhile,
    trimEnd_eq_rdropWhile, List.rdropWhile_idempotent]
  rfl

theorem filled?_some (s : String) :
    filled? (some s) = if trim s = "" then none else some (trim s) := by
  simp only [filled?]
  split
  · next h => rw [if_pos (by rw [trim, h])]
  · next cs hne =>
    rw [if_neg, trim]
    intro e
    exact hne (by simpa using congrArg String.toList e)

theorem filled?_eq_some {given : Option String} {t : String} :
    filled? given = some t ↔ ∃ s, given = some s ∧ trim s ≠ "" ∧ t = trim s := by
  cases given with
  | none => exact ⟨fun h => (nomatch h), fun ⟨_, h, _⟩ => (nomatch h)⟩
  | some s =>
    rw [filled?_some]
    constructor
    · intro h
      split at h
      · cases h
      · next hs => exact ⟨s, rfl, hs, (Option.some.inj h).symm⟩
    · rintro ⟨_, ⟨⟩, hs, rfl⟩
      rw [if_neg hs]

end Text

namespace Row

/-- The row is live at the clock: it counts as deleted only later. Texts are compared. -/
def isLive (now : Instant) (r : Row) : Bool :=
  (Stored.text now.layout).less (r.value .deletedAt)

theorem isLive_ofVisitor [Engine] {v : Visitor} {now : Instant} (h : v.IsKept) :
    (ofVisitor v).isLive now = decide (now.layout < v.value .deletedAt) := by
  rw [isLive, value_ofVisitor h, Stored.less_text]

end Row

namespace Condition

@[simp] theorem holds_equals_id [Engine] (r : Row) (s : String) :
    (equals .id s).holds r = r.hasId s := rfl

@[simp] theorem holds_live [Engine] (r : Row) (now : Instant) :
    (above .deletedAt now.layout).holds r = r.isLive now := by
  rw [holds, now.isKept_layout.ofText, Row.isLive]

end Condition

/-! ## Limits of the engine -/

/-- Fixed text between parts of a statement binds nothing. -/
theorem Sql.values_intersperse (s : String) (parts : List (List Sql.Piece)) :
    Sql.values (parts.intersperse [.fixed s]).flatten = (parts.map Sql.values).flatten := by
  induction parts with
  | nil => rfl
  | cons ps parts ih =>
    cases parts with
    | nil => simp
    | cons ps' parts =>
      rw [List.intersperse_cons_cons, List.flatten_cons, List.flatten_cons, Sql.values_append,
        Sql.values_append, ih]
      rfl

namespace Condition

/-- The number of values that a condition binds. -/
def valueCount : Condition → Nat
  | isEmpty _ => 0
  | oneOf _ ss => ss.length
  | _ => 1

theorem length_values_pieces (k : Condition) : (Sql.values k.pieces).length = k.valueCount := by
  cases k with
  | oneOf c ss =>
    rw [pieces, ← List.singleton_append, Sql.values_append, Sql.values_append,
      Sql.values_intersperse, List.map_map]
    have hone : ss.map (Sql.values ∘ fun s => [Sql.Piece.bound (.text s)]) =
        ss.map fun s => [Bound.text s] := rfl
    rw [hone, ← List.flatMap_def, ← List.map_eq_flatMap]
    simp [Sql.values, valueCount]
  | _ => rfl

end Condition

namespace Query

/-- The number of values that the conditions bind. -/
def valueCount (q : Query) : Nat :=
  (q.conditions.map Condition.valueCount).sum

theorem length_values_wherePieces (q : Query) :
    (Sql.values q.wherePieces).length = q.valueCount := by
  unfold wherePieces valueCount
  split
  · next h => rw [h]; rfl
  · rw [← List.singleton_append, Sql.values_append, Sql.values_intersperse, List.length_append,
      List.length_flatten, List.map_map, List.map_map]
    simp only [Function.comp_def, Condition.length_values_pieces]
    exact Nat.zero_add _

/-- The number of values that a statement binds. -/
def valuesOf (purpose : Purpose) (q : Query) : Nat :=
  match purpose with
  | .listing => q.valueCount + (q.limit.toList.length + q.offset.toList.length)
  | .counting => q.valueCount

theorem length_binds (q : Query) : q.binds.length = q.valuesOf .listing := by
  have htail : (Sql.values q.tailPieces).length = q.limit.toList.length +
      q.offset.toList.length := by
    unfold tailPieces
    cases q.order <;> cases q.limit <;> cases q.offset <;> rfl
  rw [binds, selectPieces, ← List.singleton_append, Sql.values_append, Sql.values_append,
    List.length_append, List.length_append, length_values_wherePieces, htail]
  simp [Sql.values, valuesOf]

theorem length_values_countPieces (q : Query) :
    (Sql.values q.countPieces).length = q.valuesOf .counting := by
  unfold countPieces
  split
  · rw [← List.singleton_append, Sql.values_append, Sql.values_append, List.length_append,
      List.length_append, length_values_wherePieces]
    simp [Sql.values, valuesOf]
  · rw [← List.singleton_append, Sql.values_append, List.length_append, length_values_wherePieces]
    simp [Sql.values, valuesOf]

variable [Engine] {purpose : Purpose} {q : Query} {rows : Rows}

/-- Why the engine does not run a statement on the rows of a visitor table. -/
def refusal? (purpose : Purpose) (q : Query) (rows : Rows) : Option Fault :=
  if Database.mostValues < q.valuesOf purpose then some .tooManyValues
  else if q.isTooComplex purpose rows then some .patternTooLong
  else none

theorem refusal?_eq_none (hvalues : q.valuesOf purpose ≤ Database.mostValues)
    (hpatterns : ∀ k ∈ q.conditions, k.isTooLong = false) : q.refusal? purpose rows = none := by
  rw [refusal?, if_neg (Nat.not_lt.2 hvalues), isTooComplex_eq_false hpatterns]
  rfl

/-- With fewer rows there is less that a pattern could be tried on. -/
theorem refusal?_eq_or_of_subset {rows' : Rows} (h : rows' ⊆ rows) :
    q.refusal? purpose rows' = q.refusal? purpose rows ∨
      (∃ k ∈ q.conditions, k.isTooLong) ∧ q.refusal? purpose rows = some .patternTooLong := by
  unfold refusal?
  by_cases hvalues : Database.mostValues < q.valuesOf purpose
  · rw [if_pos hvalues, if_pos hvalues]
    exact .inl rfl
  rw [if_neg hvalues, if_neg hvalues]
  by_cases htooComplex : q.isTooComplex purpose rows
  · rw [if_pos htooComplex]
    rw [isTooComplex, Bool.and_eq_true, List.any_eq_true] at htooComplex
    exact .inr ⟨htooComplex.1, rfl⟩
  · have hfewer : ¬q.isTooComplex purpose rows' := by
      unfold isTooComplex at *
      rw [Bool.and_eq_true, List.any_eq_true, List.any_eq_true] at *
      rintro ⟨hlong, r, hr, htries⟩
      exact htooComplex ⟨hlong, r, h hr, htries⟩
    rw [if_neg htooComplex, if_neg hfewer]
    exact .inl rfl

/-- A listing is a page of some arrangement of the rows that meet its conditions. -/
theorem run_eq_page (q : Query) (rows : Rows) :
    ∃ l : Rows, l.Perm (rows.filter q.admits) ∧ q.run rows = q.page l :=
  ⟨_, Engine.perm_arrange q (rows.filter q.admits), rfl⟩

end Query

namespace Database

variable [Engine] {db : Database} {q : Query} {name : String} {rows : Rows}

theorem list_of_table? (h : db.table? q.table = some ⟨name, .visits rows⟩) :
    db.list q =
      match q.refusal? .listing rows with
      | some fault => .error fault
      | none => .ok ((q.run rows).map Row.toVisitor) := by
  unfold list Query.refusal?
  rw [Query.length_binds, h]
  dsimp only
  by_cases hvalues : mostValues < q.valuesOf .listing
  · rw [if_pos hvalues, if_pos hvalues]
  · rw [if_neg hvalues, if_neg hvalues]
    cases q.isTooComplex .listing rows <;> rfl

theorem count_of_table? (h : db.table? q.table = some ⟨name, .visits rows⟩) :
    db.count q =
      match q.refusal? .counting rows with
      | some fault => .error fault
      | none => .ok (q.count rows) := by
  unfold count Query.refusal?
  rw [Query.length_values_countPieces, h]
  dsimp only
  by_cases hvalues : mostValues < q.valuesOf .counting
  · rw [if_pos hvalues, if_pos hvalues]
  · rw [if_neg hvalues, if_neg hvalues]
    cases q.isTooComplex .counting rows <;> rfl

end Database

namespace Pool

variable [Engine] {p : Pool} {s : Store} {rows : Rows} {q : Query} {vs : List Visitor}

/-- Reading the rows of a visitor table gives their records, as far as the engine runs the
statement. -/
theorem read_list_of_holds (hp : p.isClosed = false) (h : p.Holds s rows) (hq : q.table = s.table) :
    p.read (Database.list q) =
      match q.refusal? .listing rows with
      | some fault => .error (.database fault)
      | none => .ok ((q.run rows).map Row.toVisitor) := by
  obtain ⟨name, h⟩ := h
  rw [read_of_isOpen hp, Database.list_of_table? (hq ▸ h)]
  cases q.refusal? .listing rows <;> rfl

theorem read_count_of_holds (hp : p.isClosed = false) (h : p.Holds s rows)
    (hq : q.table = s.table) :
    p.read (Database.count q) =
      match q.refusal? .counting rows with
      | some fault => .error (.database fault)
      | none => .ok (q.count rows) := by
  obtain ⟨name, h⟩ := h
  rw [read_of_isOpen hp, Database.count_of_table? (hq ▸ h)]
  cases q.refusal? .counting rows <;> rfl

/-- A query about deletion answers from a visitor table only: neither the ledger nor a table of the
engine's own has a column for it. -/
theorem holds_of_read_list (hc : .deletedAt ∈ q.conditions.map Condition.column)
    (hq : q.table = s.table) (h : p.read (Database.list q) = .ok vs) :
    p.isClosed = false ∧ ∃ rows, p.Holds s rows ∧ vs = (q.run rows).map Row.toVisitor := by
  obtain ⟨hp, hlist⟩ := read_eq_ok.1 h
  refine ⟨hp, ?_⟩
  unfold Database.list at hlist
  split at hlist
  · cases hlist
  · split at hlist
    · obtain ⟨fault, hfault⟩ := Engine.listOwn_deletedAt hc
      rw [hfault] at hlist
      cases hlist
    · next t ht =>
      split at hlist
      · next rows hrows =>
        split at hlist
        · cases hlist
        · cases hlist
          exact ⟨rows, ⟨t.name, by rw [← hq, ht, ← hrows]⟩, rfl⟩
      · have hne : q.conditions ≠ [] := by
          intro hnil
          rw [hnil] at hc
          cases hc
        simp [hne] at hlist
      · cases hlist

end Pool

end VisitLog

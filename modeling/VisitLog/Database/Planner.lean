import VisitLog.Database.Engine

/-!
# The usual engine

How the engine usually reads a table: along an index that serves the conditions or the order, or as
inserted. Rows that the order does not tell apart come as they are read. A pattern is tried on the
rows whose indexed columns meet their conditions, as soon as the conditions written before it are
met.

Main statement: `pairwise_arrange` (whichever way rows are read, they come in the order asked for).
-/

namespace VisitLog

namespace Rows

/-- The rows by a column upwards; equal ones stay as they were. -/
def upwards (c : Column) (rows : Rows) : Rows :=
  rows.mergeSort fun a b => (a.value c).atMost (b.value c)

/-- The rows by a column downwards; equal ones stay as they were. -/
def downwards (c : Column) (rows : Rows) : Rows :=
  rows.mergeSort fun a b => (b.value c).atMost (a.value c)

/-- The rows by a column in a direction; equal ones stay as they were. -/
def sorted (o : Order) (rows : Rows) : Rows :=
  match o.direction with
  | .ascending => upwards o.column rows
  | .descending => downwards o.column rows

/-- The rows along the index of a column, and the direction in which the index runs. -/
def alongIndex? (c : Column) (rows : Rows) : Option (Rows × Direction) :=
  match c with
  | .createdAt => some (downwards .createdAt rows, .descending)
  | .ipAddress => some (upwards .ipAddress (downwards .createdAt rows), .ascending)
  | .path | .fingerprint | .deletedAt => some (upwards c rows, .ascending)
  | _ => none

end Rows

namespace Planner

/-- The condition fixes the value of its column to given values. -/
def isLookup : Condition → Bool
  | .equals _ _ | .oneOf _ _ => true
  | _ => false

/-- Some condition fixes the values of a column. -/
def looksUp (q : Query) (c : Column) : Bool :=
  q.conditions.any fun k => isLookup k && k.column = c

/-- The number of bounds on a column. -/
def boundsOn (q : Query) (c : Column) : Nat :=
  (q.conditions.filter fun k => !isLookup k && k.column = c).length

/-- The column whose index serves the conditions: identifier or path where those are given, creation
between two bounds, deletion among live rows, and creation after one bound. -/
def served? (q : Query) : Option Column :=
  if looksUp q .id then some .id
  else if looksUp q .path then some .path
  else if 2 ≤ boundsOn q .createdAt then some .createdAt
  else if 1 ≤ boundsOn q .deletedAt then some .deletedAt
  else if 1 ≤ boundsOn q .createdAt then some .createdAt
  else none

/-- The rows as they are read when no order is asked for. -/
def scan (q : Query) (rows : Rows) : Rows :=
  match served? q with
  | none | some .path => rows
  | some .createdAt => rows.downwards .createdAt
  | some c => rows.upwards c

/-- The conditions leave so few rows that these are sorted, instead of reading along another
index. -/
def isNarrow (q : Query) (o : Order) : Bool :=
  looksUp q .id || looksUp q .path || (2 ≤ boundsOn q .createdAt && o.column ≠ .createdAt)

/-- The rows in the order asked for. -/
def arrange (q : Query) (rows : Rows) : Rows :=
  match q.order with
  | none => scan q rows
  | some o =>
    if isNarrow q o then (scan q rows).sorted o
    else
      match rows.alongIndex? o.column with
      | some (read, direction) => if direction = o.direction then read else read.reverse
      | none => (scan q rows).sorted o

/-- The columns in the index of a column. -/
def indexColumns : Column → List Column
  | .ipAddress => [.ipAddress, .createdAt]
  | c => [c]

/-- The columns of the index along which a statement reads. -/
def columnsRead (purpose : Purpose) (q : Query) : List Column :=
  let served := (served? q).toList
  match purpose, q.order with
  | .listing, some o =>
    if isNarrow q o || (Rows.alongIndex? o.column []).isNone then served else indexColumns o.column
  | _, _ => served

/-- A pattern of the query is tried on a row, given which of the conditions the row meets. -/
def tries (purpose : Purpose) (q : Query) (isMet : Condition → Bool) : Bool :=
  let read := columnsRead purpose q
  let before := if read.contains .path then [] else q.conditions.takeWhile fun k => !k.isPattern
  (before ++ q.conditions.filter fun k => !k.isPattern && read.contains k.column).all isMet

/-- The answer from a name under which there is no table. -/
def noTable {α : Type} (q : Query) (_ : Database) : Except Fault α :=
  .error (.noTable q.table)

/-! ## The laws -/

theorem perm_sorted (o : Order) (rows : Rows) : (rows.sorted o).Perm rows := by
  unfold Rows.sorted
  split <;> exact List.mergeSort_perm _ _

theorem perm_scan (q : Query) (rows : Rows) : (scan q rows).Perm rows := by
  unfold scan
  split
  · exact .refl _
  · exact .refl _
  all_goals exact List.mergeSort_perm _ _

theorem perm_alongIndex? {c : Column} {rows read : Rows} {d : Direction}
    (h : rows.alongIndex? c = some (read, d)) : read.Perm rows := by
  unfold Rows.alongIndex? at h
  split at h <;> simp only [Option.some.injEq, Prod.mk.injEq, reduceCtorEq] at h <;> rw [← h.1]
  · exact List.mergeSort_perm _ _
  · exact (List.mergeSort_perm _ _).trans (List.mergeSort_perm _ _)
  all_goals exact List.mergeSort_perm _ _

theorem perm_arrange (q : Query) (rows : Rows) : (arrange q rows).Perm rows := by
  unfold arrange
  split
  · exact perm_scan q rows
  · split
    · exact (perm_sorted _ _).trans (perm_scan q rows)
    · split
      · next h =>
        split
        · exact perm_alongIndex? h
        · exact (List.reverse_perm _).trans (perm_alongIndex? h)
      · exact (perm_sorted _ _).trans (perm_scan q rows)

/-- A comparison that is one of texts on the members of a list sorts the list. -/
theorem pairwise_mergeSort {α : Type} (text : α → String) (le : String → String → Bool)
    {le' : α → α → Bool} {xs : List α} (trans : ∀ a b c, le a b → le b c → le a c)
    (total : ∀ a b, le a b || le b a) (h : ∀ a ∈ xs, ∀ b ∈ xs, le' a b = le (text a) (text b)) :
    (xs.mergeSort le').Pairwise fun a b => le' a b := by
  have htexts := List.pairwise_mergeSort trans total (xs.map text)
  rw [← List.map_mergeSort h, List.pairwise_map] at htexts
  refine htexts.imp_of_mem fun {a b} ha hb hab => ?_
  exact (h a (List.mem_mergeSort.1 ha) b (List.mem_mergeSort.1 hb)).trans hab

/-- Sorting by a column of texts puts the rows in order. -/
theorem pairwise_sorted {rows : Rows} {o : Order} (h : rows.IsText o.column) :
    (rows.sorted o).Pairwise fun a b => o.allows a b := by
  obtain ⟨c, d⟩ := o
  cases d with
  | ascending =>
    change (rows.mergeSort fun a b => (a.value c).atMost (b.value c)).Pairwise
      fun a b => (a.value c).atMost (b.value c)
    refine pairwise_mergeSort (fun r : Row => r.toVisitor.value c) (fun a b => decide (a ≤ b))
      (fun a b c hab hbc => ?_) (fun a b => ?_) fun a ha b hb => h.atMost ha hb
    · exact decide_eq_true (String.le_trans (of_decide_eq_true hab) (of_decide_eq_true hbc))
    · simpa using String.le_total a b
  | descending =>
    change (rows.mergeSort fun a b => (b.value c).atMost (a.value c)).Pairwise
      fun a b => (b.value c).atMost (a.value c)
    refine pairwise_mergeSort (fun r : Row => r.toVisitor.value c) (fun a b => decide (b ≤ a))
      (fun a b c hab hbc => ?_) (fun a b => ?_) fun a ha b hb => h.atMost hb ha
    · exact decide_eq_true (String.le_trans (of_decide_eq_true hbc) (of_decide_eq_true hab))
    · simpa using String.le_total b a

/-- Read from its end, a list runs in the other direction. -/
theorem allows_comm {c : Column} {d d' : Direction} (h : d ≠ d') (a b : Row) :
    Order.allows ⟨c, d⟩ a b = Order.allows ⟨c, d'⟩ b a := by
  cases d <;> cases d'
  · exact absurd rfl h
  · rfl
  · rfl
  · exact absurd rfl h

/-- An index gives the rows sorted by its column, as far as it is concerned. -/
theorem alongIndex?_eq_some {c : Column} {rows read : Rows} {d : Direction}
    (h : rows.alongIndex? c = some (read, d)) :
    ∃ rows' : Rows, rows'.Perm rows ∧ read = rows'.sorted ⟨c, d⟩ := by
  unfold Rows.alongIndex? at h
  split at h <;> cases h
  · exact ⟨rows, .refl _, rfl⟩
  · exact ⟨rows.downwards .createdAt, List.mergeSort_perm .., rfl⟩
  all_goals exact ⟨rows, .refl _, rfl⟩

/-- Whichever way the plan takes, the rows come out in the order that was asked for. -/
theorem pairwise_arrange {q : Query} {rows : Rows} {o : Order} (ho : q.order = some o)
    (h : rows.IsText o.column) : (arrange q rows).Pairwise fun a b => o.allows a b := by
  have hscan : ((scan q rows).sorted o).Pairwise fun a b => o.allows a b :=
    pairwise_sorted (h.perm (perm_scan q rows))
  rw [arrange, ho]
  dsimp only
  split
  · exact hscan
  split
  · next read d hread =>
    obtain ⟨rows', hperm, rfl⟩ := alongIndex?_eq_some hread
    have hread := pairwise_sorted (o := ⟨o.column, d⟩) (h.perm hperm)
    split
    · next hd =>
      cases hd
      exact hread
    · next hd =>
      rw [List.pairwise_reverse]
      exact hread.imp fun hab => allows_comm hd .. ▸ hab
  · exact hscan

theorem tries_of_forall {purpose : Purpose} {q : Query} {isMet : Condition → Bool}
    (h : ∀ k ∈ q.conditions, k.isPattern ∨ isMet k) : tries purpose q isMet := by
  have hmet : ∀ k ∈ q.conditions, k.isPattern = false → isMet k := fun k hk hpattern =>
    (h k hk).resolve_left (by simp [hpattern])
  refine List.all_eq_true.2 fun k hk => ?_
  rcases List.mem_append.1 hk with hk | hk
  · split at hk
    · cases hk
    · have hbefore := List.all_eq_true.1 List.all_takeWhile k hk
      exact hmet k ((List.takeWhile_sublist _).mem hk) (by simpa using hbefore)
  · obtain ⟨hk, hread⟩ := List.mem_filter.1 hk
    rw [Bool.and_eq_true] at hread
    exact hmet k hk (by simpa using hread.1)

end Planner

/-- The usual engine. It rounds decimals to the nearest number, and brings no tables along. -/
instance Engine.usual : Engine where
  real := Binary64.ofDecimal
  arrange := Planner.arrange
  tries := Planner.tries
  listOwn := Planner.noTable
  countOwn := Planner.noTable
  perm_arrange := Planner.perm_arrange
  pairwise_arrange := Planner.pairwise_arrange
  tries_of_forall := Planner.tries_of_forall
  listOwn_deletedAt := fun _ => ⟨_, fun _ => rfl⟩
  countOwn_deletedAt := fun _ => ⟨_, fun _ => rfl⟩

theorem Planner.isSteady : Engine.IsSteady :=
  fun _ _ _ _ => rfl

end VisitLog

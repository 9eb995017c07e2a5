import VisitLog.Database.Planner
import VisitLog.Proofs.Limits
import VisitLog.Proofs.Sorting

/-!
# What a listing answers

`Options.Answers` specifies a listing without queries, statements or indexes: which options are
refused, and that else every record that the filters select comes once, in order and cut to a page,
within the limits of the engine. A listing keeps to it (`list_answers`), where a path is searched up
to its first NUL only. Beyond the limits the answer is this one or a fault of the database.
-/

namespace VisitLog

open Text

/-- The text is the name of a column. -/
def Column.isNamed (s : String) : Bool :=
  (Column.ofName? s).isSome

namespace Options

/-! ## The specification -/

/-- A column is named that no record has. A count has no order, so it ignores the column of one. -/
def isInvalid (o : Options) : Bool :=
  !asks o.distinct Column.isNamed || (!o.countOnly && !asks o.orderBy Column.isNamed)

/-- The direction that is asked for. -/
def direction (o : Options) : Direction :=
  if o.sortOrder.any fun s => sameLetters (trim s) "asc" then .ascending else .descending

/-- The part of a list that is asked for. -/
def cut {α : Type} (o : Options) (xs : List α) : List α :=
  if o.countOnly then xs
  else if 0 < o.limit then (xs.drop o.offset.toNat).take o.limit.toNat
  else xs.drop o.offset.toNat

end Options

namespace Query

variable {o : Options} {now : Instant} {table : String} {name : Option String} {q : Query}
  {rows : Rows}

/-! ## The query of options -/

theorem columnOf_eq_ok (purpose : String) (h : asks name Column.isNamed) :
    columnOf purpose name = .ok ((filled? name).bind Column.ofName?) := by
  rw [← all_filled?] at h
  unfold columnOf
  cases hname : filled? name with
  | none => rfl
  | some s =>
    rw [hname, Option.all_some, Column.isNamed] at h
    obtain ⟨c, hc⟩ := Option.isSome_iff_exists.1 h
    rw [Option.bind_some]
    dsimp only
    rw [hc]

theorem bind_ofName?_of_columnOf {purpose : String} {c : Option Column}
    (h : columnOf purpose name = .ok c) :
    c = (filled? name).bind Column.ofName? := by
  unfold columnOf at h
  split at h
  · next hnone =>
    cases h
    rw [hnone]
    rfl
  · next s hs =>
    split at h
    · next hc =>
      cases h
      rw [hs, Option.bind_some, hc]
    · cases h

theorem directionOf_eq (o : Options) : directionOf o.sortOrder = o.direction := by
  unfold directionOf Options.direction
  cases o.sortOrder with
  | none => rfl
  | some s =>
    rw [filled?_some, Option.any_some]
    split
    · next h =>
      split at h
      · cases h
      · cases h
        rfl
    · next h =>
      split at h
      · next hs => rw [hs]; rfl
      · cases h

theorem page_eq_cut {q : Query} (ho : o.countOnly = false) (hl : q.limit = boundOf o.limit)
    (hf : q.offset = boundOf o.offset) {α : Type} (xs : List α) : q.page xs = o.cut xs := by
  have hoffset : q.offset.getD 0 = o.offset.toNat := by
    rw [hf, boundOf]
    split
    · rfl
    · next h => exact (Int.toNat_of_nonpos (Int.not_lt.1 h)).symm
  rw [page, hoffset, hl, Options.cut, ho, if_neg Bool.false_ne_true, boundOf]
  by_cases hlimit : 0 < o.limit
  · rw [if_pos hlimit, if_pos hlimit]
  · rw [if_neg hlimit, if_neg hlimit]

/-- What a query is made of. -/
theorem ofOptions_cases (hq : ofOptions table now o = .ok q) :
    q.table = table ∧ q.conditions = conditionsOf now o ∧
    q.distinct = (filled? o.distinct).bind Column.ofName? ∧
      q.order = (if o.countOnly then none
        else ((filled? o.orderBy).bind Column.ofName?).map fun c => ⟨c, o.direction⟩) ∧
      q.limit = (if o.countOnly then none else boundOf o.limit) ∧
      q.offset = if o.countOnly then none else boundOf o.offset := by
  obtain ⟨distinct, hd, hq⟩ := bind_eq_ok.1 hq
  cases bind_ofName?_of_columnOf hd
  dsimp only at hq
  split at hq
  · next hc =>
    cases hq
    rw [hc]
    exact ⟨rfl, rfl, rfl, rfl, rfl, rfl⟩
  · next hc =>
    obtain ⟨column, ho, hq⟩ := bind_eq_ok.1 hq
    cases bind_ofName?_of_columnOf ho
    cases hq
    rw [Bool.eq_false_iff.2 hc, ← directionOf_eq]
    exact ⟨rfl, rfl, rfl, rfl, rfl, rfl⟩

/-- The query asks for what the options ask for. -/
structure Means (table : String) (now : Instant) (o : Options) (q : Query) : Prop where
  table : q.table = table
  conditions : q.conditions = conditionsOf now o
  values : q.valuesOf .listing = o.valueCount
  page : ∀ vs : List Visitor, q.page vs = o.cut vs
  order : ∀ s c, o.countOnly = false → o.orderBy = some s → Column.ofName? (trim s) = some c →
    q.order = some ⟨c, o.direction⟩

/-- The query of options has the conditions, the order and the limits that they ask for. -/
theorem means_of_ofOptions (hq : ofOptions table now o = .ok q) : q.Means table now o := by
  obtain ⟨htable, hconditions, -, horder, hlimit, hoffset⟩ := ofOptions_cases hq
  refine ⟨htable, hconditions, ?values, fun vs => ?page, fun s c hc hs hname => ?order⟩
  case values =>
    have hbound (n : Int) : (boundOf n).toList.length = (decide (0 < n)).toNat := by
      unfold boundOf
      split <;> simp [*]
    rw [valuesOf, valueCount, hconditions, sum_conditionsOf, hlimit, hoffset, Options.valueCount]
    cases o.countOnly with
    | true => rfl
    | false => exact congrArg (_ + ·) (congrArg₂ (· + ·) (hbound _) (hbound _))
  case page =>
    cases hc : o.countOnly with
    | true =>
      rw [hc] at hlimit hoffset
      rw [page, hlimit, hoffset, Options.cut, hc]
      rfl
    | false =>
      rw [hc] at hlimit hoffset
      exact page_eq_cut hc hlimit hoffset vs
  case order =>
    have hne : trim s ≠ "" := by
      intro e
      rw [e] at hname
      cases hname
    rw [horder, hc, hs, filled?_some, if_neg hne, Option.bind_some, hname]
    rfl

/-- Options are refused for unknown names only. -/
theorem ofOptions_eq_ok (table : String) (now : Instant) (h : o.isInvalid = false) :
    ∃ q, ofOptions table now o = .ok q ∧ q.Means table now o := by
  rw [Options.isInvalid, Bool.or_eq_false_iff, Bool.not_eq_false'] at h
  obtain ⟨hd, ho⟩ := h
  have hquery : ∃ q, ofOptions table now o = .ok q := by
    unfold ofOptions
    rw [columnOf_eq_ok _ hd]
    cases hc : o.countOnly with
    | true => exact ⟨_, rfl⟩
    | false =>
      rw [hc, Bool.not_false, Bool.true_and, Bool.not_eq_false'] at ho
      rw [columnOf_eq_ok _ ho]
      exact ⟨_, rfl⟩
  obtain ⟨q, hq⟩ := hquery
  exact ⟨q, hq, means_of_ofOptions hq⟩

end Query

/-! ## Listings -/

namespace Query

variable {o : Options} {now : Instant} {table : String} {q : Query} {rows : Rows}

/-! ### When the engine runs it -/

theorem Means.refusal?_eq_none [Engine] (h : q.Means table now o)
    (hvalues : o.valueCount ≤ Database.mostValues)
    (hsearch : o.isSearchable) : q.refusal? .listing rows = none := by
  rw [refusal?, h.values, if_neg (Nat.not_lt.2 hvalues),
    isTooComplex_of_isSearchable h.conditions hsearch]
  rfl

theorem Means.refusal?_of_lt [Engine] (h : q.Means table now o)
    (hvalues : Database.mostValues < o.valueCount) :
    q.refusal? .listing rows = some .tooManyValues := by
  rw [refusal?, h.values, if_pos hvalues]

theorem Means.refusal?_cases [Engine] (h : q.Means table now o) (rows : Rows)
    (hvalues : o.valueCount ≤ Database.mostValues) :
    q.refusal? .listing rows = none ∨ q.refusal? .listing rows = some .patternTooLong := by
  rw [refusal?, h.values, if_neg (Nat.not_lt.2 hvalues)]
  cases q.isTooComplex .listing rows with
  | true => exact .inr rfl
  | false => exact .inl rfl

/-! ### What it lists -/

theorem map_page {α β : Type} (q : Query) (f : α → β) (xs : List α) :
    (q.page xs).map f = q.page (xs.map f) := by
  unfold page
  cases q.limit <;> simp

/-- The rows that a query admits store the records that its options select. -/
theorem Means.filter_admits [Engine] (h : q.Means table now o) (hrows : ∀ r ∈ rows, r.InLayout)
    (hfrom : asks o.createdFrom isBound) (hto : asks o.createdTo isBound)
    (hpart : asks o.pathContains fun s => isLiteral s.toList) :
    (rows.filter q.admits).map Row.toVisitor =
      (rows.map Row.toVisitor).filter (o.selects untilNul now) := by
  rw [List.filter_map]
  refine congrArg _ (List.filter_congr fun r hr => ?_)
  obtain ⟨v, hv, rfl⟩ := hrows r hr
  rw [admits, h.conditions, all_holds_eq_selects hv.isKept hfrom hto hpart, Function.comp_apply,
    Row.toVisitor_ofVisitor hv.isKept]
  rfl

end Query

namespace Store

section

variable [Engine]

variable {s : Store} {now : Instant} {o : Options} {p : Pool} {rows : Rows}

/-- What a listing of valid options reads. -/
theorem exists_list_eq (now : Instant) (hp : p.isClosed = false) (h : p.Holds s rows)
    (hvalid : o.isInvalid = false) :
    ∃ q : Query, q.Means s.table now o ∧ s.list now o p =
      match q.refusal? .listing rows with
      | some fault => .error (.database fault)
      | none => .ok (o.cut ((Engine.arrange q (rows.filter q.admits)).map Row.toVisitor)) := by
  obtain ⟨q, hq, hmeans⟩ := Query.ofOptions_eq_ok s.table now hvalid
  refine ⟨q, hmeans, ?_⟩
  rw [list, hq, ← hmeans.page, ← Query.map_page]
  exact Pool.read_list_of_holds hp h hmeans.table

end

/-! ## A page, a path with a NUL, and a long text -/

theorem inLayout_of_all [Engine] {vs : List Visitor}
    (h : vs.all fun v => Column.all.all fun c => !c.isDatetime || Instant.isLayout (v.value c)) :
    ∀ r ∈ vs.map Row.ofVisitor, r.InLayout := by
  intro r hr
  obtain ⟨v, hv, rfl⟩ := List.mem_map.1 hr
  exact ⟨v, Visitor.inLayout_of_all (List.all_eq_true.1 h v hv), rfl⟩

/-- Some visits, and options with filters, an order and a page. -/
def someVisits : List Visitor :=
  [.visit "a" "/Blog/2" "2024-03-01 10:00:00", .visit "b" "/shop" "2024-03-02 10:00:00",
    .visit "c" "/blog/1" "2024-03-03 10:00:00", .visit "d" "/blog/0" "2023-12-31 23:59:59"]

end Store

end VisitLog

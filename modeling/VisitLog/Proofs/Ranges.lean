import VisitLog.Proofs.Links
import VisitLog.Proofs.Normalization
import VisitLog.Query.Sql

/-!
# Named ranges

The bounds of a named range are written as RFC 3339 into the filters, and read again where the query
is made. In the years 0 to 9999 that gives the instants back to the second
(`Instant.readRfc3339?_rfc3339`), so the query is bound to their layouts. Without a named range it
is bound to the texts that were sent, brought into the stored layout.

Main statement: `Filters.exists_selectsRange`.
-/

namespace VisitLog

open Text

/-! ## RFC 3339 reads back -/

namespace Instant

variable {t : Instant}

/-- A time that is written as a bound is read back to its second. -/
theorem readRfc3339?_rfc3339 (ht : t.Within 0 9999) :
    readRfc3339? t.rfc3339 = some t.truncated := by
  have hleap := ht.sound.leap
  have hbounds := t.date.civil_bounds
  have hy : 0 ≤ t.date.civil.year ∧ t.date.civil.year ≤ 9999 := ⟨ht.least_le, ht.le_greatest⟩
  have hdate : Date.HasFourDigits t.date := hy
  have hfound := Date.ofCivil?_civil hdate.supported.1 (Int.le_of_lt hdate.supported.2)
  have hvalid := isValid_timeOfDay ht.sound
  have hon := timeOfDay_on ht.sound
  rw [readRfc3339?, rfc3339, String.toList_ofList, timeChars, Civil.chars]
  rw [timeOfDay] at hvalid hon
  generalize t.date.civil = c at *
  obtain ⟨y, m, k⟩ := c
  dsimp only at hbounds hy
  simp only [List.append_assoc, List.cons_append]
  unfold readRfc3339Chars?
  dsimp only [Option.bind_eq_bind]
  rw [Civil.yearChars_of_four hy, Reader.digits_fixedDigits (by omega), Option.bind_some,
    Reader.char_cons, Option.bind_some, Reader.digits_fixedDigits (by omega), Option.bind_some,
    Reader.char_cons, Option.bind_some, Reader.digits_fixedDigits (by omega), Option.bind_some,
    Reader.rfcSeparator, Option.bind_some, Reader.digits_fixedDigits (by omega), Option.bind_some,
    Reader.char_cons, Option.bind_some, Reader.digits_fixedDigits (by omega), Option.bind_some,
    Reader.char_cons, Option.bind_some, Reader.digits_fixedDigits (by omega), Option.bind_some]
  have hfraction : Reader.fraction ['Z'] = some (0, ['Z']) := rfl
  have hoffset : Reader.offset ['Z'] = some (0, []) := rfl
  have hyear : (y.toNat : Int) = y := Int.toNat_of_nonneg hy.1
  rw [hfraction, Option.bind_some, hoffset, Option.bind_some, hyear, hfound, Option.bind_some, hon,
    if_pos ⟨hvalid, rfl⟩, Int.sub_zero]
  rfl

theorem normalize_rfc3339 (ht : t.nanos < 2000000000) (hdate : t.date.HasFourDigits) (e : Bool) :
    normalize e t.rfc3339 = t.layout := by
  obtain ⟨u, hu, hsame, htime⟩ := exists_isSound ht
  have hyears : u.Within 0 9999 := by
    rw [← hsame] at hdate
    exact ⟨hu, hdate.1, hdate.2⟩
  have hread := readRfc3339?_rfc3339 hyears
  rw [rfc3339, hsame, htime, ← rfc3339] at hread
  rw [normalize_of_readRfc3339? hread, layout_truncated, layout, layoutChars, hsame, htime,
    layout, layoutChars]

theorem trim_rfc3339 (t : Instant) : trim t.rfc3339 = t.rfc3339 := by
  have hdashed : Dashed (t.date.civil.chars ++ 'T' :: (t.timeChars ++ ['Z'])) :=
    Civil.dashed_chars ..
  rw [trim, rfc3339, String.toList_ofList, trimChars, trimStart_of_dashed hdashed,
    ← List.cons_append, ← List.append_assoc, trimEnd_eq_rdropWhile, List.rdropWhile_concat_neg
      _ _ _ (by decide)]

theorem filled?_rfc3339 (t : Instant) : filled? (some t.rfc3339) = some t.rfc3339 := by
  have hne : t.rfc3339 ≠ "" := by
    intro h
    have hchars := congrArg String.toList h
    simp [rfc3339] at hchars
  rw [filled?_some, trim_rfc3339, if_neg hne]

end Instant

/-! ## Years of the dates of a range -/

namespace Date

/-- Dates at most a year from the years 1 to 9998 have a year with four digits. -/
theorem hasFourDigits_of_near {d e : Date} (hd : 1 ≤ d.civil.year ∧ d.civil.year ≤ 9998)
    (hbefore : d.dayNumber ≤ e.dayNumber + 365) (hafter : e.dayNumber ≤ d.dayNumber + 365) :
    e.HasFourDigits := by
  -- The last day of the year 0 and the first one of 9999, then the first day of the year 0 and the
  -- last one of 9999.
  have hyears : (⟨-719163⟩ : Date).civil.year = 0 ∧ (⟨2932532⟩ : Date).civil.year = 9999 ∧
      (⟨-719528⟩ : Date).civil.year = 0 ∧ (⟨2932896⟩ : Date).civil.year = 9999 := by decide
  obtain ⟨hearly, hlate, hfirst, hlast⟩ := hyears
  have hlow : -719163 < d.dayNumber := lt_iff_civil.2 (.inl (by rw [hearly]; exact hd.1))
  have hhigh : d.dayNumber < 2932532 :=
    lt_iff_civil.2 (.inl (by rw [hlate]; exact Int.lt_add_one_of_le hd.2))
  have hleast : -719528 ≤ e.dayNumber := by omega
  have hgreatest : e.dayNumber ≤ 2932896 := by omega
  constructor
  · rw [← hfirst]
    exact year_le_of_le hleast
  · rw [← hlast]
    exact year_le_of_le hgreatest

end Date

namespace Instant

variable {now t : Instant}

/-- A leap second may count as one of the next day. -/
theorem dayNumber_addDays_neg (now : Instant) (n : Nat) :
    now.date.dayNumber - n ≤ (now.addDays (-n)).date.dayNumber ∧
      (now.addDays (-n)).date.dayNumber ≤ now.date.dayNumber - n + 1 := by
  unfold date daySeconds
  rcases now.addDays_cases (-n) with ⟨-, hdays⟩ | ⟨-, -, hdays⟩ | ⟨-, -, hdays⟩
  all_goals
    rw [hdays]
    dsimp only
    omega

theorem normalize_rfc3339_addDays {n : Nat} (hnow : 1 ≤ now.year ∧ now.year ≤ 9998)
    (hnanos : now.nanos < 2000000000) (hpos : 0 < n) (hn : n ≤ 365)
    (e : Bool) :
    normalize e (now.addDays (-n)).rfc3339 = (now.addDays (-n)).layout := by
  have hdays := dayNumber_addDays_neg now n
  have hlater := nanos_addDays_lt (n := -n) hnanos (by omega)
  refine normalize_rfc3339 (Nat.lt_trans hlater (by decide)) ?_ e
  exact Date.hasFourDigits_of_near hnow (by omega) (by omega)

theorem date_midnight (d : Date) : (midnight d).date = d := by
  unfold date midnight daySeconds
  congr 1
  dsimp only
  omega

theorem addDays_midnight (d : Date) : (midnight d).addDays 1 = midnight (d.addDays 1) := by
  have hplain : (midnight d).nanos < 1000000000 := Nat.zero_lt_succ _
  rw [addDays, addSeconds, if_pos (.inl hplain), midnight, midnight, Date.addDays]
  dsimp only
  rw [Int.add_mul]

end Instant

/-! ## Limits of a query -/

namespace Query

variable {q : Query} {now : Instant} {o : Options} {table : String}

/-- The conditions on a column. -/
def on (q : Query) (c : Column) : List Condition :=
  q.conditions.filter fun k => k.column = c

/-- The values that a statement binds for the conditions on a column. -/
def bindsOn (q : Query) (c : Column) : List Bound :=
  (q.on c).flatMap fun k => Sql.values k.pieces

/-- The values of a query are those of its conditions, in order. -/
theorem values_wherePieces (q : Query) :
    Sql.values q.wherePieces = q.conditions.flatMap fun k => Sql.values k.pieces := by
  have hjoined (cs : List Condition) :
      Sql.values ((cs.map Condition.pieces).intersperse [.fixed " AND "]).flatten =
        cs.flatMap fun k => Sql.values k.pieces := by
    induction cs with
    | nil => rfl
    | cons k cs ih =>
      cases cs with
      | nil => simp
      | cons k' cs =>
        rw [List.map_cons, List.map_cons, List.intersperse_cons_cons, List.flatten_cons,
          List.flatten_cons, Sql.values_append, Sql.values_append, ← List.map_cons, ih,
          List.flatMap_cons]
        rfl
  rw [wherePieces]
  split
  · next h => rw [h]; rfl
  · rw [← hjoined]
    rfl

/-- What is bound for a column is bound by the statement, in this order. -/
theorem sublist_bindsOn (q : Query) (c : Column) : (q.bindsOn c).Sublist q.binds := by
  have hbinds : q.binds = Sql.values q.wherePieces ++ Sql.values q.tailPieces :=
    Sql.values_append ..
  have hon : (q.bindsOn c).Sublist (Sql.values q.wherePieces) := by
    rw [values_wherePieces, bindsOn, on]
    exact List.filter_sublist.flatMap _
  rw [hbinds]
  exact hon.trans (List.sublist_append_left ..)

theorem column_of_mem_idsCondition {ids : List String} {k : Condition} (h : k ∈ idsCondition ids) :
    k.column = .id := by
  unfold idsCondition at h
  split at h
  · cases h
  · cases h
    rfl

theorem column_of_mem_pathCondition {k : Condition} (h : k ∈ pathCondition o) :
    k.column = .path := by
  unfold pathCondition at h
  split at h
  · cases h
    rfl
  · obtain ⟨part, -, rfl⟩ := Option.map_eq_some_iff.1 h
    rfl

/-- A condition on a value that may also be asked to be empty. -/
theorem column_of_mem_orEmpty {given : Option String} {isWord : String → Prop}
    [DecidablePred isWord] {c : Column} {k : Condition}
    (h : k ∈ given.map fun s => if isWord s then .isEmpty c else .equals c s) :
    k.column = c := by
  obtain ⟨s, -, rfl⟩ := Option.map_eq_some_iff.1 h
  split
  · rfl
  · rfl

/-- The conditions of options on a time of creation. -/
theorem on_createdAt (hq : ofOptions table now o = .ok q) :
    q.on .createdAt =
    ((filled? o.createdFrom).map fun s => .atLeast .createdAt (normalize false s)).toList ++
      ((filled? o.createdTo).map fun s => .atMost .createdAt (normalize true s)).toList := by
  obtain ⟨-, hconditions, -⟩ := ofOptions_cases hq
  have hother {x : Option Condition} {c : Column} (hc : c ≠ .createdAt)
    (h : ∀ k ∈ x, k.column = c) :
      x.filter (fun k => k.column = .createdAt) = none :=
    Option.filter_eq_none_iff.2 fun k hk => by simpa [h k hk] using hc
  have hself {x : Option Condition} (h : ∀ k ∈ x, k.column = .createdAt) :
      x.filter (fun k => k.column = .createdAt) = x := by
    cases x with
    | none => rfl
    | some k => exact if_pos (decide_eq_true (h k rfl))
  have hlive :
    ∀ k ∈ (if o.withDeleted then none else some (.above .deletedAt now.layout) : Option Condition),
      k.column = .deletedAt := by
    split
    · simp
    · simp [Condition.column]
  rw [on, hconditions, conditionsOf, List.filter_filterMap, List.filterMap_eq_flatMap_toList]
  simp only [List.flatMap_cons, List.flatMap_nil]
  rw [hother (x := (filled? o.id).map _) (c := .id) (by decide) (by simp [Condition.column]),
    hother (by decide) fun _ => column_of_mem_idsCondition, hother (by decide) fun _ =>
    column_of_mem_orEmpty, hother (by decide) fun _ => column_of_mem_pathCondition,
      hother (by decide) fun _ => column_of_mem_orEmpty,
    hself (x := (filled? o.createdFrom).map _) (by simp [Condition.column]),
    hself (x := (filled? o.createdTo).map _) (by simp [Condition.column]), hother (by decide) hlive]
  simp

/-- Rows are asked for that were created from `low` to `high`, as far as these are given, and the
statement binds just these texts for the column. -/
structure Limits (q : Query) (low high : Option String) : Prop where
  conditions : q.on .createdAt = (low.map (.atLeast .createdAt)).toList ++
    (high.map (.atMost .createdAt)).toList
  bound : q.bindsOn .createdAt = (low.toList ++ high.toList).map .text
  sent : (q.bindsOn .createdAt).Sublist q.binds

/-- The bounds in a query are the normalized ones of the options. -/
theorem limits_of_ofOptions (hq : ofOptions table now o = .ok q) :
    q.Limits ((filled? o.createdFrom).map (normalize false))
      ((filled? o.createdTo).map (normalize true)) := by
  have hconditions := on_createdAt hq
  constructor
  case conditions =>
    rw [hconditions, Option.map_map, Option.map_map]
    rfl
  case bound =>
    rw [bindsOn, hconditions]
    cases filled? o.createdFrom with
    | none =>
      cases filled? o.createdTo with
      | none => rfl
      | some high => rfl
    | some low =>
      cases filled? o.createdTo with
      | none => rfl
      | some high => rfl
  case sent => exact q.sublist_bindsOn .createdAt

end Query

/-! ## Named ranges -/

namespace Filters

variable {now : Instant} {range : String} {n : Nat}

/-- The names of ranges that end at the clock, in lower case, and their days. -/
def dayRanges : List (String × Nat) :=
  [("24h", 1), ("last24hours", 1), ("last_24_hours", 1), ("7d", 7), ("last7days", 7), ("30d", 30),
    ("last30days", 30)]

theorem bounds?_of_mem (h : (lower range, n) ∈ dayRanges) (now : Instant) :
    bounds? range now = some (now.addDays (-n), now) := by
  unfold bounds?
  simp only [dayRanges, List.mem_cons, Prod.mk.injEq, List.not_mem_nil, or_false] at h
  rcases h with ⟨h, rfl⟩ | ⟨h, rfl⟩ | ⟨h, rfl⟩ | ⟨h, rfl⟩ | ⟨h, rfl⟩ | ⟨h, rfl⟩ | ⟨h, rfl⟩
  all_goals
    rw [h]
    rfl

theorem bounds?_today (h : lower range = "today") (now : Instant) :
    bounds? range now =
    some (Instant.midnight now.date, Instant.midnight (now.date.addDays 1)) := by
  unfold bounds?
  rw [h, ← Instant.addDays_midnight]
  rfl

theorem bounds?_eq_none (hdays : ∀ n, (lower range, n) ∉ dayRanges) (htoday : lower range ≠ "today")
    (now : Instant) : bounds? range now = none := by
  have hday : lower range ∉ ["24h", "last24hours", "last_24_hours"] :=
    fun h => hdays 1 (by simpa [dayRanges] using h)
  have hweek : lower range ∉ ["7d", "last7days"] := fun h => hdays 7 (by simpa [dayRanges] using h)
  have hmonth : lower range ∉ ["30d", "last30days"] :=
    fun h => hdays 30 (by simpa [dayRanges] using h)
  unfold bounds?
  rw [if_neg hday, if_neg htoday, if_neg hweek, if_neg hmonth]

theorem days_of_mem {name : String} (h : (name, n) ∈ dayRanges) : 0 < n ∧ n ≤ 365 := by
  have hall : ∀ p ∈ dayRanges, 0 < p.2 ∧ p.2 ≤ 365 := by decide
  exact hall (name, n) h

/-- A bound that was sent, in the stored layout; a blank one counts as absent. -/
def bound? (ps : Parameters) (name : String) (endOfDay : Bool) : Option String :=
  if ps.text name = "" then none else some (normalize endOfDay (ps.text name))

theorem filled?_text (ps : Parameters) (name : String) (endOfDay : Bool) :
    (filled? (some (ps.text name))).map (normalize endOfDay) = bound? ps name endOfDay := by
  rw [filled?_some, Parameters.trim_text, bound?]
  split
  · rfl
  · rfl

/-- The times of creation that a query asks for, where the query was made from parameters at the
clock `now`. -/
structure SelectsRange (ps : Parameters) (now : Instant) (q : Query) : Prop where
  days : ∀ n, (lower (ps.text "range"), n) ∈ dayRanges → 1 ≤ now.year ∧ now.year ≤ 9998 →
    now.nanos < 2000000000 → q.Limits (some (now.addDays (-n)).layout) (some now.layout)
  today : lower (ps.text "range") = "today" → 1 ≤ now.year ∧ now.year ≤ 9998 →
    q.Limits (some (Instant.midnight now.date).layout)
      (some (Instant.midnight (now.date.addDays 1)).layout)
  /-- Without a range that is known the bounds are those that were sent. -/
  given : (∀ n, (lower (ps.text "range"), n) ∉ dayRanges) → lower (ps.text "range") ≠ "today" →
    q.Limits (bound? ps "from" false) (bound? ps "to" true)

/-- The options of filters make a query, whatever the filters are. -/
theorem exists_ofOptions (f : Filters) (paging : Paging) (table : String) (clock : Instant) :
    ∃ q, Query.ofOptions table clock (f.options paging) = .ok q := by
  have hdistinct : Query.columnOf "distinct" none = .ok none := rfl
  have horder : Query.columnOf "order_by" (some "created_at") = .ok (some .createdAt) := rfl
  unfold Query.ofOptions options
  dsimp only
  rw [hdistinct, horder]
  exact ⟨_, rfl⟩

/-- The bounds of a range come back from RFC 3339 to the second. -/
theorem limits_of_bounds? {ps : Parameters} {start stop : Instant} {q : Query} {paging : Paging}
    {table : String} {clock : Instant}
    (hq : Query.ofOptions table clock ((ofParameters ps now).options paging) = .ok q)
    (h : bounds? (ps.text "range") now = some (start, stop))
    (hstart : normalize false start.rfc3339 = start.layout)
    (hstop : normalize true stop.rfc3339 = stop.layout) :
    q.Limits (some start.layout) (some stop.layout) := by
  have hbounds : bounds? (Filters.given ps).range now = some (start, stop) := h
  have hlimits := Query.limits_of_ofOptions hq
  rw [ofParameters_eq, resolve, hbounds, options] at hlimits
  dsimp only at hlimits
  rwa [Instant.filled?_rfc3339, Instant.filled?_rfc3339, Option.map_some, Option.map_some, hstart,
    hstop] at hlimits

/-- A named range selects its window, and every other one the bounds that stand beside it. -/
theorem exists_selectsRange (ps : Parameters) (now : Instant) (paging : Paging) (table : String)
    (clock : Instant) :
    ∃ q, Query.ofOptions table clock ((ofParameters ps now).options paging) = .ok q ∧
    SelectsRange ps now q := by
  obtain ⟨q, hq⟩ := exists_ofOptions (ofParameters ps now) paging table clock
  refine ⟨q, hq, ?_⟩
  constructor
  case days =>
    intro n hn hyear hnanos
    obtain ⟨hpos, hle⟩ := days_of_mem hn
    have hfour := Date.hasFourDigits_of_near hyear (e := now.date) (by omega) (by omega)
    exact limits_of_bounds? hq (bounds?_of_mem hn now)
      (Instant.normalize_rfc3339_addDays hyear hnanos hpos hle false)
      (Instant.normalize_rfc3339 hnanos hfour true)
  case today =>
    intro htoday hyear
    have hmidnight {d : Date} (hd : d.HasFourDigits) (e : Bool) :
        normalize e (Instant.midnight d).rfc3339 = (Instant.midnight d).layout := by
      rw [← Instant.date_midnight d] at hd
      exact Instant.normalize_rfc3339 (Nat.zero_lt_succ _) hd e
    have hfour := Date.hasFourDigits_of_near hyear (e := now.date) (by omega) (by omega)
    have hnext := Date.hasFourDigits_of_near hyear (e := now.date.addDays 1)
      (by simp [Date.addDays]; omega)
      (by simp [Date.addDays])
    exact limits_of_bounds? hq (bounds?_today htoday now) (hmidnight hfour false)
      (hmidnight hnext true)
  case given =>
    intro hdays htoday
    have hbounds : bounds? (Filters.given ps).range now = none := bounds?_eq_none hdays htoday now
    have hlimits := Query.limits_of_ofOptions hq
    rw [ofParameters_eq, resolve, hbounds, options] at hlimits
    dsimp only at hlimits
    rwa [Filters.given, filled?_text, filled?_text] at hlimits

/-- The day of the clock, named in another case and with blanks, beside a bound. -/
def todayParameters : Parameters :=
  [("from", "2020-01-01"), ("range", " TODAY ")]

/-- In the afternoon of 2024-02-29. -/
def afternoon : Instant := ⟨1709211600, 0⟩

theorem exists_selectsRange_leapDay :
    ∃ q, Query.ofOptions "visits" afternoon
      ((ofParameters todayParameters afternoon).options ⟨1, 10⟩) = .ok q ∧
        q.Limits (some "2024-02-29 00:00:00") (some "2024-03-01 00:00:00") := by
  obtain ⟨q, hq, hselects⟩ :=
    exists_selectsRange todayParameters afternoon ⟨1, 10⟩ "visits" afternoon
  have hstart : (Instant.midnight afternoon.date).layout = "2024-02-29 00:00:00" := by decide
  have hstop : (Instant.midnight (afternoon.date.addDays 1)).layout =
      "2024-03-01 00:00:00" := by decide
  have hlimits := hselects.today (by decide) (by decide)
  rw [hstart, hstop] at hlimits
  exact ⟨q, hq, hlimits⟩

end Filters

end VisitLog

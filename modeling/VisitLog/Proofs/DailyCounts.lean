import Mathlib.Algebra.BigOperators.Ring.Finset
import VisitLog.Dashboard.DailyStats
import VisitLog.Database.Planner
import VisitLog.Proofs.CalendarDays
import VisitLog.Proofs.Captures
import VisitLog.Proofs.Counting
import VisitLog.Proofs.Expiry

/-!
# Visits by days

The statistics of a range of dates put every live row of the range on one day. The bounds of a day,
its first and its last second in the stored layout, let exactly the rows of that date through
(`Instant.between_iff`), so a day counts those (`DailyStats.ofDay_eq`), and the days together count
the rows of the range (`Rows.sum_length_visits`).

Main statement: `DailyStats.exists_ofDays_range`.
-/

namespace VisitLog

open Text

/-! ## Dates with four digits -/

namespace Date

variable {a b d start stop : Date}

theorem hasFourDigits_of_mem (hstart : 0 ≤ start.civil.year) (hstop : stop.civil.year ≤ 9999)
    (hfrom : start ≤ d)
    (hto : d ≤ stop) : d.HasFourDigits :=
  ⟨Int.le_trans hstart (year_le_of_le hfrom), Int.le_trans (year_le_of_le hto) hstop⟩

/-- Supported dates are told apart by their texts. -/
theorem text_injective (ha : first ≤ a ∧ a ≤ last) (hb : first ≤ b ∧ b ≤ last)
    (h : a.text = b.text) : a = b := by
  have hchars : a.civil.chars ++ [] = b.civil.chars ++ [] :=
    congrArg (· ++ []) (String.ofList_injective h)
  have hread : Reader.date (a.civil.chars ++ []) = some (a, []) := Reader.date_chars ha.1 ha.2
  rw [hchars, Reader.date_chars hb.1 hb.2] at hread
  exact (congrArg Prod.fst (Option.some.inj hread)).symm

end Date

/-! ## Bounds of a day -/

namespace Instant

variable {t : Instant} {d : Date}

/-- A second of a day. -/
def ofDay (d : Date) (second : Nat) : Instant :=
  ⟨d.dayNumber * daySeconds + second, 0⟩

theorem date_ofDay {second : Nat} (h : second < 86400) (d : Date) : (ofDay d second).date = d := by
  obtain ⟨n⟩ := d
  unfold date ofDay daySeconds
  dsimp only
  congr 1
  omega

theorem secondOfDay_ofDay {second : Nat} (h : second < 86400) (d : Date) :
    (ofDay d second).secondOfDay = second := by
  unfold secondOfDay ofDay daySeconds
  dsimp only
  omega

theorem isSound_ofDay (d : Date) (second : Nat) : (ofDay d second).IsSound :=
  .inl (show 0 < 1000000000 by decide)

theorem within_ofDay {second : Nat} (h : second < 86400) (hd : d.HasFourDigits) :
    (ofDay d second).Within 0 9999 where
  sound := isSound_ofDay d second
  least_le := by
    rw [year, date_ofDay h]
    exact hd.1
  le_greatest := by
    rw [year, date_ofDay h]
    exact hd.2

/-- The instant is supported, and its layout has a second from 00 to 59. -/
structure IsPlain (t : Instant) : Prop where
  nanos_lt : t.nanos < 1000000000
  first_le : Date.first ≤ t.date
  le_last : t.date ≤ Date.last

theorem isPlain_ofDay {second : Nat} (h : second < 86400) (hd : d.HasFourDigits) :
    (ofDay d second).IsPlain where
  nanos_lt := show 0 < 1000000000 by decide
  first_le := by
    rw [date_ofDay h]
    exact hd.supported.1
  le_last := by
    rw [date_ofDay h]
    exact Int.le_of_lt hd.supported.2

theorem IsPlain.isSound (h : t.IsPlain) : t.IsSound :=
  .inl h.nanos_lt

theorem IsPlain.truncated_eq (h : t.IsPlain) : t.truncated = ⟨t.seconds, 0⟩ := by
  rw [truncated, Nat.div_eq_of_lt h.nanos_lt]

theorem IsPlain.read?_layout (h : t.IsPlain) : read? t.layout = some ⟨t.seconds, 0⟩ := by
  rw [Instant.read?_layout h.isSound h.first_le h.le_last, h.truncated_eq]

/-- Between the layouts of the first and the last second of a day there are those of that day
only. -/
theorem between_iff (ht : t.IsPlain) (hd : d.HasFourDigits) :
    (ofDay d 0).layout ≤ t.layout ∧ t.layout ≤ (ofDay d 86399).layout ↔ t.date = d := by
  have hfirst : (ofDay d 0).Within 0 9999 := within_ofDay (by decide) hd
  have hlast : (ofDay d 86399).Within 0 9999 := within_ofDay (by decide) hd
  by_cases hyear : t.date.HasFourDigits
  · have hwithin : t.Within 0 9999 := ⟨ht.isSound, hyear.1, hyear.2⟩
    rw [← String.not_lt, ← String.not_lt, layout_lt_layout_iff hwithin hfirst,
      layout_lt_layout_iff hlast hwithin, ht.truncated_eq, lt_iff, lt_iff]
    obtain ⟨n⟩ := d
    unfold truncated ofDay date daySeconds
    dsimp only
    rw [Date.mk.injEq]
    omega
  · -- A year with a sign comes before all years with four digits.
    refine iff_of_false (fun h => ?_) (fun h => hyear (h ▸ hd))
    exact String.not_lt.2 h.1 (layout_lt_of_year_signed hyear hfirst)

theorem nanos_ofDay (d : Date) (second : Nat) : (ofDay d second).nanos = 0 := rfl

theorem layout_ofDay_first (d : Date) : (ofDay d 0).layout = d.text ++ " 00:00:00" := by
  have htime : String.ofList (' ' :: (ofDay d 0).timeChars) = " 00:00:00" := by
    rw [timeChars, secondOfDay_ofDay (by decide), nanos_ofDay]
    decide
  rw [layout, layoutChars, String.ofList_append, htime, date_ofDay (by decide), Date.text]

theorem layout_ofDay_last (d : Date) : (ofDay d 86399).layout = d.text ++ " 23:59:59" := by
  have htime : String.ofList (' ' :: (ofDay d 86399).timeChars) = " 23:59:59" := by
    rw [timeChars, secondOfDay_ofDay (by decide), nanos_ofDay]
    decide
  rw [layout, layoutChars, String.ofList_append, htime, date_ofDay (by decide), Date.text]

theorem filled?_layout (t : Instant) : filled? (some t.layout) = some t.layout := by
  rw [filled?_some, trim_layout, if_neg t.layout_ne_empty]

end Instant

/-! ## Live rows by their dates -/

namespace Row

/-- The creation and the deletion of the row are in the stored layout, at no leap second. -/
structure IsStamped (r : Row) : Prop where
  created : ∃ t : Instant, t.IsPlain ∧ r.value .createdAt = .text t.layout
  deleted : ∃ t : Instant, t.IsPlain ∧ r.value .deletedAt = .text t.layout

/-- The date of creation. -/
def day? (r : Row) : Option Date :=
  (r.toVisitor.time? .createdAt).map Instant.date

variable {r : Row} {now t : Instant} {d : Date}

theorem time?_of_layout {c : Column} (h : r.value c = .text t.layout) (ht : t.IsPlain) :
    r.toVisitor.time? c = some ⟨t.seconds, 0⟩ := by
  rw [Visitor.time?, value_toVisitor, h, Stored.toText_text, ht.read?_layout]

theorem day?_of_layout (h : r.value .createdAt = .text t.layout) (ht : t.IsPlain) :
    r.day? = some t.date := by
  rw [day?, time?_of_layout h ht]
  rfl

/-- Where years have four digits, the rows deleted later than the clock are live. -/
theorem isLive_iff_of_time? (hr : r.IsStamped) (hnow : now.Within 0 9999)
    (h : r.toVisitor.time? .deletedAt = some t)
    (hyear : t.year ≤ 9999) : r.isLive now ↔ now.truncated < t := by
  obtain ⟨u, hu, hvalue⟩ := hr.deleted
  obtain rfl : t = u.truncated := by
    rw [time?_of_layout hvalue hu, Option.some.injEq] at h
    rw [← h, hu.truncated_eq]
  change u.year ≤ 9999 at hyear
  have hlive : r.isLive now ↔ now.layout < u.layout := by
    rw [isLive, hvalue, Stored.less_text, decide_eq_true_iff]
  rw [hlive]
  exact Instant.lt_layout_iff_of_year_le hu.isSound hyear hnow

end Row

namespace Rows

/-- The live rows whose date of creation passes a test. -/
def visits (now : Instant) (on : Date → Bool) (rows : Rows) : Rows :=
  rows.filter fun r => r.isLive now && r.day?.any on

variable {rows : Rows} {now : Instant}

/-- Rows are counted once, on their date. -/
theorem sum_length_visits {ds : List Date} (hds : ds.Nodup) :
    (ds.map fun d => (rows.visits now (· = d)).length).sum = (rows.visits now (· ∈ ds)).length := by
  induction ds with
  | nil =>
    have hnone : rows.visits now (· ∈ []) = [] := List.filter_eq_nil_iff.2 fun r _ => by
      cases r.day? <;> simp
    rw [hnone]
    rfl
  | cons d ds ih =>
    obtain ⟨hd, hds⟩ := List.nodup_cons.1 hds
    have hday : (rows.visits now (· ∈ d :: ds)).filter (fun r => r.day? = some d) =
        rows.visits now (· = d) := by
      rw [visits, visits, List.filter_filter]
      refine List.filter_congr fun r _ => ?_
      cases r.day? <;> grind
    have hrest : (rows.visits now (· ∈ d :: ds)).filter (fun r => !(r.day? = some d)) =
        rows.visits now (· ∈ ds) := by
      rw [visits, visits, List.filter_filter]
      refine List.filter_congr fun r _ => ?_
      cases r.day? <;> grind
    rw [List.map_cons, List.sum_cons, ih hds,
      List.length_eq_length_filter_add (l := rows.visits now (· ∈ d :: ds)) fun r =>
      r.day? = some d, hday, hrest]

end Rows

namespace StatsCache

variable {c : StatsCache} {key k : String} {stats : DailyStats}

theorem keyOf_injective {table : String} {a b : Date} (ha : a.HasFourDigits) (hb : b.HasFourDigits)
    (h : keyOf table a = keyOf table b) : a = b := by
  have htext : a.text = b.text := by
    have hchars : (table ++ ":").toList ++ a.text.toList = (table ++ ":").toList ++
        b.text.toList := by
      rw [← String.toList_append, ← String.toList_append]
      exact congrArg String.toList h
    exact String.toList_injective (List.append_cancel_left hchars)
  exact Date.text_injective ⟨ha.supported.1, Int.le_of_lt ha.supported.2⟩
    ⟨hb.supported.1, Int.le_of_lt hb.supported.2⟩
    htext

theorem get?_insert_eq_none (hkey : k ≠ key) (h : c.get? k = none) :
    (c.insert key stats).get? k = none := by
  have hfind : (c.insert key stats).entries.find? (fun e => e.key = k) =
      c.entries.find? fun e => e.key = k := by
    rw [insert, List.find?_cons_of_neg (by simpa using hkey.symm), List.find?_filter]
    refine congrArg (List.find? · c.entries) (funext fun e => decide_eq_decide.2 ?_)
    rw [decide_eq_true_eq, decide_eq_true_eq]
    exact and_iff_right_of_imp fun he => he ▸ hkey
  rw [get?, hfind]
  exact h

end StatsCache

namespace DailyStats

variable {s : Store} {now : Instant} {p : Pool} {rows : Rows} {d : Date} {ds : List Date}
    {cache : StatsCache}

/-- What visits count: all of them, and their different addresses. -/
def ofVisits (visits : Rows) : DailyStats where
  total := visits.length
  unique := (visits.map fun r => r.value .ipAddress).toFinset.card

theorem conditionsOf_dayOptions (now : Instant) (d : Date) (distinct : Option String) :
    Query.conditionsOf now { dayOptions d with distinct := distinct } =
      [.atLeast .createdAt (Instant.ofDay d 0).layout,
        .atMost .createdAt (Instant.ofDay d 86399).layout, .above .deletedAt now.layout] := by
  unfold Query.conditionsOf dayOptions
  dsimp only
  rw [← Instant.layout_ofDay_first, ← Instant.layout_ofDay_last, Instant.filled?_layout,
    Instant.filled?_layout, Option.map_some, Option.map_some,
    Instant.normalize_layout (Instant.isSound_ofDay d 0),
    Instant.normalize_layout (Instant.isSound_ofDay d 86399)]
  rfl

/-- The options of a day match the live rows of its date. -/
theorem matching_dayOptions [Engine] (now : Instant) (hd : d.HasFourDigits)
    (hrows : ∀ r ∈ rows, r.IsStamped)
    (distinct : Option String) :
    Options.matching { dayOptions d with distinct := distinct } now rows =
    rows.visits now (· = d) := by
  refine List.filter_congr fun r hr => ?_
  obtain ⟨t, ht, hvalue⟩ := (hrows r hr).created
  rw [conditionsOf_dayOptions, List.all_cons, List.all_cons, List.all_cons,
    List.all_nil, Bool.and_true, Condition.holds_live, Condition.holds_atLeast hvalue
      (Instant.isKept_layout _),
    Condition.holds_atMost hvalue (Instant.isKept_layout _), Row.day?_of_layout hvalue ht,
      ← Bool.and_assoc,
    ← Bool.decide_and, decide_eq_decide.2 (Instant.between_iff ht hd), Bool.and_comm]
  rfl

/-- Between the bounds of a day lie exactly the rows that are dated on it. -/
theorem ofDay_eq [Engine] (hp : p.isClosed = false) (h : p.Holds s rows)
    (hrows : ∀ r ∈ rows, r.IsStamped)
    (hd : d.HasFourDigits) : ofDay s now p d = .ok (ofVisits (rows.visits now (· = d))) := by
  have hfilled : filled? (some Column.ipAddress.name) = some Column.ipAddress.name := by decide
  have hvalues (distinct : Option String) :
      Options.filterValues { dayOptions d with distinct := distinct } ≤ Database.mostValues :=
    Nat.le_trans (Options.filterValues_le _) (by decide : 0 + 7 ≤ 32766)
  have hunique : s.count now { dayOptions d with distinct := some Column.ipAddress.name } p =
      .ok (ofVisits (rows.visits now (· = d))).unique.toNat := by
    obtain ⟨q, hdistinct, hmatching, hcount⟩ := Store.exists_count (o := { dayOptions d with
      distinct := some Column.ipAddress.name }) now hp h (asks_isNamed hfilled) (hvalues _)
    rw [matching_dayOptions now hd hrows] at hmatching
    rw [hcount.eq_ok rfl, Query.count, hmatching, hdistinct]
    exact congrArg Except.ok (length_eraseDups _)
  have htotal : s.count now (dayOptions d) p =
      .ok (ofVisits (rows.visits now (· = d))).total.toNat := by
    obtain ⟨q, hdistinct, hmatching, hcount⟩ :=
      Store.exists_count (o := dayOptions d) now hp h rfl (hvalues none)
    have hmatching := hmatching.trans (matching_dayOptions now hd hrows none)
    rw [hcount.eq_ok rfl, Query.count, hmatching, hdistinct]
    rfl
  rw [ofDay, hunique, htotal]
  rfl

/-- Days that the cache does not know are all counted. -/
theorem exists_ofDays [Engine] {f : Date → DailyStats}
    (hday : ∀ d ∈ ds, ofDay s now p d = .ok (f d))
    (hkeys : ds.Pairwise fun a b => StatsCache.keyOf s.table a ≠ StatsCache.keyOf s.table b)
    (hcache : ∀ d ∈ ds, cache.get? (StatsCache.keyOf s.table d) = none) :
    ∃ cache', ofDays s now p ds cache = (.ok (ds.map fun d => (d, f d)), cache') := by
  induction ds generalizing cache with
  | nil => exact ⟨cache, rfl⟩
  | cons d ds ih =>
    obtain ⟨hd, hday⟩ := List.forall_mem_cons.1 hday
    obtain ⟨hkey, hkeys⟩ := List.pairwise_cons.1 hkeys
    obtain ⟨hnone, hcache⟩ := List.forall_mem_cons.1 hcache
    -- What is added for the first day is not found for the others.
    have hcache' : ∀ e ∈ ds, (cache.insert (StatsCache.keyOf s.table d) (f d)).get?
        (StatsCache.keyOf s.table e) = none :=
      fun e he => StatsCache.get?_insert_eq_none (hkey e he).symm (hcache e he)
    obtain ⟨cache', hrest⟩ := ih hday hkeys hcache'
    refine ⟨cache', ?_⟩
    unfold ofDays
    simp only [hnone, hd, hrest]
    rfl

/-- How the statistics of the days from `start` to `stop` partition rows at a clock. `dates`: there
is one entry for each date, in order. `total` and `unique`: an entry counts the live rows of its
date, and their different addresses. `sum`: together the entries count the live rows of the range.
`unique_le` and `unique_eq_zero`: every address brings a visit, and every visit an address. `live`:
where years have four digits, the live rows are those deleted after the clock. -/
structure Partition (rows : Rows) (now : Instant) (start stop : Date)
    (days : List (Date × DailyStats)) : Prop where
  ascending : (days.map Prod.fst).Pairwise (· < ·)
  dates : ∀ d, d ∈ days.map Prod.fst ↔ start ≤ d ∧ d ≤ stop
  total : ∀ e ∈ days, e.2.total = (rows.visits now (· = e.1)).length
  unique : ∀ e ∈ days, e.2.unique =
    ((rows.visits now (· = e.1)).map fun r => r.value .ipAddress).toFinset.card
  sum : (days.map fun e => e.2.total).sum = (rows.visits now fun d => start ≤ d ∧ d ≤ stop).length
  unique_le : ∀ e ∈ days, e.2.unique ≤ e.2.total
  unique_eq_zero : ∀ e ∈ days, e.2.unique = 0 ↔ e.2.total = 0
  live : now.Within 0 9999 → ∀ r ∈ rows, ∀ t, r.toVisitor.time? .deletedAt =
    some t → t.year ≤ 9999 → (r.isLive now ↔ now.truncated < t)

theorem unique_ofVisits_le (visits : Rows) :
    (ofVisits visits).unique ≤ (ofVisits visits).total := by
  refine Int.ofNat_le.2 ?_
  have hlength : (visits.map fun r => r.value .ipAddress).length = visits.length :=
    List.length_map _
  exact hlength ▸ List.toFinset_card_le _

theorem unique_ofVisits_eq_zero (visits : Rows) : (ofVisits visits).unique = 0 ↔
    (ofVisits visits).total = 0 := by
  refine Iff.trans Int.ofNat_eq_zero (Iff.trans ?_ Int.ofNat_eq_zero.symm)
  rw [Finset.card_eq_zero, List.toFinset_eq_empty_iff, List.map_eq_nil_iff, List.length_eq_zero_iff]

/-- The counts of the days of a range sum up to the visits between its bounds. -/
theorem partition_range {start stop : Date} (hstop : stop < Date.last)
    (hrows : ∀ r ∈ rows, r.IsStamped) :
    Partition rows now start stop ((Date.range start stop).map fun d =>
      (d, ofVisits (rows.visits now (· = d)))) where
  ascending := by
    rw [List.map_map]
    exact (Date.pairwise_range start stop).map _ fun _ _ h => h
  dates d := by
    rw [List.map_map]
    change d ∈ (Date.range start stop).map id ↔ _
    rw [List.map_id, Date.mem_range hstop]
  total := List.forall_mem_map.2 fun d _ => rfl
  unique := List.forall_mem_map.2 fun d _ => rfl
  sum := by
    have hsum : _ = (rows.visits now (· ∈ Date.range start stop)).length :=
      Rows.sum_length_visits (Date.nodup_range start stop)
    simp only [Date.mem_range hstop] at hsum
    rw [← hsum, List.map_map, Nat.cast_list_sum, List.map_map]
    rfl
  unique_le := List.forall_mem_map.2 fun d _ => unique_ofVisits_le _
  unique_eq_zero := List.forall_mem_map.2 fun d _ => unique_ofVisits_eq_zero _
  live hnow r hr _ htime hyear := Row.isLive_iff_of_time? (hrows r hr) hnow htime hyear

/-- The daily counts of a range split its visits by their dates, and no visit is lost or counted
twice. -/
theorem exists_ofDays_range [Engine] (hp : p.isClosed = false) (h : p.Holds s rows)
    (hrows : ∀ r ∈ rows, r.IsStamped) {start stop : Date} (hstart : 0 ≤ start.civil.year)
    (hstop : stop.civil.year ≤ 9999)
    (hcache : ∀ d, start ≤ d → d ≤ stop → cache.get? (StatsCache.keyOf s.table d) = none) :
    ∃ days cache', ofDays s now p (Date.range start stop) cache = (.ok days, cache') ∧
      Partition rows now start stop days := by
  have hlast : stop < Date.last := by
    rw [Date.lt_iff_civil]
    have hyear : Date.last.civil.year = 262142 := by decide
    omega
  have hdigits (d : Date) (hd : d ∈ Date.range start stop) : d.HasFourDigits :=
    Date.hasFourDigits_of_mem hstart hstop ((Date.mem_range hlast).1 hd).1
      ((Date.mem_range hlast).1 hd).2
  have hkeys : (Date.range start stop).Pairwise fun a b =>
      StatsCache.keyOf s.table a ≠ StatsCache.keyOf s.table b := by
    refine (Date.pairwise_range start stop).imp_of_mem fun {a b} ha hb hab heq => ?_
    exact Date.ne_of_lt hab (StatsCache.keyOf_injective (hdigits a ha) (hdigits b hb) heq)
  obtain ⟨cache', hdays⟩ := exists_ofDays (fun d hd => ofDay_eq hp h hrows (hdigits d hd)) hkeys
    fun d hd => hcache d ((Date.mem_range hlast).1 hd).1 ((Date.mem_range hlast).1 hd).2
  exact ⟨_, cache', hdays, partition_range hlast hrows⟩

/-- Visits on both sides of the midnights around a leap day; those of the day itself come from one
address. -/
def leapVisits : List Visitor :=
  [(Visitor.visit "a" "/" "2024-02-28 23:59:59").set .ipAddress "192.0.2.1",
    (Visitor.visit "b" "/" "2024-02-29 00:00:00").set .ipAddress "192.0.2.1",
    (Visitor.visit "c" "/" "2024-02-29 23:59:59").set .ipAddress "192.0.2.1",
    (Visitor.visit "d" "/" "2024-03-01 00:00:00").set .ipAddress "192.0.2.2"]

theorem isStamped_leapVisits : ∀ r ∈ leapVisits.map Row.ofVisitor, r.IsStamped := by
  have hstamped (v : Visitor) (year : Int) (month day second : Nat) (hsecond : second < 86400)
      (hd : (Date.ofParts year month day).HasFourDigits)
      (hcreated : (Row.ofVisitor v).value .createdAt =
        .text (Instant.ofDay (.ofParts year month day) second).layout)
      (hdeleted : (Row.ofVisitor v).value .deletedAt = .text Instant.endOfTime.layout) :
        (Row.ofVisitor v).IsStamped :=
    ⟨⟨_, Instant.isPlain_ofDay hsecond hd, hcreated⟩,
      ⟨_, ⟨by decide, by decide, by decide⟩, hdeleted⟩⟩
  rw [List.forall_mem_map]
  simp only [leapVisits, List.forall_mem_cons, List.not_mem_nil, false_implies,
    implies_true, and_true]
  exact ⟨hstamped _ 2024 2 28 86399 (by decide) ⟨by decide, by decide⟩ (by decide) (by decide),
    hstamped _ 2024 2 29 0 (by decide) ⟨by decide, by decide⟩ (by decide) (by decide),
    hstamped _ 2024 2 29 86399 (by decide) ⟨by decide, by decide⟩ (by decide) (by decide),
    hstamped _ 2024 3 1 0 (by decide) ⟨by decide, by decide⟩ (by decide) (by decide)⟩

theorem exists_ofDays_leapVisits : ∃ days cache',
    ofDays ⟨"visits"⟩ ⟨1709251200, 0⟩ (.ofVisits leapVisits)
      (Date.range (.ofParts 2024 2 28) (.ofParts 2024 3 1))
      { lifetimeSeconds := 60 } = (.ok days, cache') ∧
    Partition (leapVisits.map Row.ofVisitor) ⟨1709251200, 0⟩ (.ofParts 2024 2 28)
    (.ofParts 2024 3 1) days ∧ days.map Prod.snd = [⟨1, 1⟩, ⟨2, 1⟩, ⟨1, 1⟩] := by
  have hcache (d : Date) : ({ lifetimeSeconds := 60 } : StatsCache).get?
      (StatsCache.keyOf "visits" d) = none := rfl
  have hstart : (0 : Int) ≤ (Date.ofParts 2024 2 28).civil.year := by decide
  have hstop : (Date.ofParts 2024 3 1).civil.year ≤ 9999 := by decide
  obtain ⟨days, cache', hdays, hpartition⟩ :=
    exists_ofDays_range rfl (Pool.holds_ofVisits leapVisits)
    isStamped_leapVisits hstart hstop fun d _ _ => hcache d
  refine ⟨days, cache', hdays, hpartition, ?_⟩
  have hcounts : (ofDays ⟨"visits"⟩ ⟨1709251200, 0⟩ (.ofVisits leapVisits)
      (Date.range (.ofParts 2024 2 28) (.ofParts 2024 3 1)) { lifetimeSeconds := 60 }).1.map
        (List.map Prod.snd) = .ok [⟨1, 1⟩, ⟨2, 1⟩, ⟨1, 1⟩] := by
    decide +kernel
  rw [hdays] at hcounts
  exact Except.ok.inj hcounts

end DailyStats

end VisitLog

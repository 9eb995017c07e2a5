import Mathlib.Algebra.Group.Nat.Defs
import VisitLog.Proofs.KeptText

/-!
# Datetimes in order

The stored layout compares like time. Dates are compared through years that begin in March, where
the day added in a leap year comes last (`Date.Marched`): day numbers, and hence year, month and
day, are in the same order (`Date.lt_iff_civil`). Digits of a fixed width compare like numbers, so
the layout of two instants compares like the instants to the second
(`Instant.layout_lt_layout_iff`), as long as the years have four digits.
-/

namespace VisitLog

open Text

/-! ## Years that begin in March -/

namespace Date

theorem daysToMarch_succ (y : Int) : daysToMarch y + 365 ≤ daysToMarch (y + 1) := by
  unfold daysToMarch
  omega

theorem daysToMarch_mono {y y' : Int} (h : y ≤ y') : daysToMarch y ≤ daysToMarch y' := by
  unfold daysToMarch
  omega

theorem daysToMonth_mono {m m' : Nat} (h : m ≤ m') : daysToMonth m ≤ daysToMonth m' := by
  unfold daysToMonth
  omega

/-- The month from March of a day of the year. -/
theorem daysToMonth_le_lt {n m : Nat} (hn : n ≤ 365) (hm : (5 * n + 2) / 153 = m) :
    m ≤ 11 ∧ daysToMonth m ≤ n ∧ n < daysToMonth (m + 1) := by
  unfold daysToMonth
  omega

/-- Where a day of a cycle of 400 years lies: in which century, in which four years of the century,
in which year of the four and on which day of the year. -/
structure CycleDay (century four year day : Nat) : Prop where
  century_le : century ≤ 3
  four_le : four ≤ 24
  year_le : year ≤ 3
  day_le : day ≤ 365
  /-- Only a leap year has the last day. -/
  leap : day = 365 → year = 3 ∧ (four = 24 → century = 3)

namespace CycleDay

variable {c q r s : Nat}

theorem exists_of_lt {n : Nat} (hn : n < 146097) :
    ∃ c q r s, CycleDay c q r s ∧ n = 36524 * c + 1461 * q + 365 * r + s := by
  generalize hc : min 3 (n / 36524) = c
  have hcn : 36524 * c ≤ n := by omega
  generalize hm : n - 36524 * c = m
  have hm' : m ≤ 36524 ∧ (c < 3 → m < 36524) := by omega
  generalize hr : min 3 (m % 1461 / 365) = r
  exact ⟨c, m / 1461, r, m % 1461 - 365 * r,
    ⟨by omega, by omega, by omega, by omega, by omega⟩, by omega⟩

/-- Without the leap days before it every year has 365 days. -/
theorem year_eq (h : CycleDay c q r s) {n : Nat} (hn : n = 36524 * c + 1461 * q + 365 * r + s) :
    (n - n / 1460 + n / 36524 - n / 146096) / 365 = 100 * c + 4 * q + r := by
  obtain ⟨hc, hq, hr, hs, hleap⟩ := h
  rcases (by omega : n = 146096 ∨ n < 146096) with h | h
  · rw [h]
    omega
  · have hleapDays : n / 1460 = 25 * c + q + (24 * c + q + 365 * r + s) / 1460 := by omega
    have hcentury : n / 36524 = c := by omega
    have hcycle : n / 146096 = 0 := by omega
    rw [hleapDays, hcentury, hcycle]
    rcases (by omega : (24 * c + q + 365 * r + s) / 1460 = 0 ∨
      (24 * c + q + 365 * r + s) / 1460 = 1)
      with h | h <;> rw [h] <;> omega

theorem day_eq (h : CycleDay c q r s) {n : Nat} (hn : n = 36524 * c + 1461 * q + 365 * r + s) :
    n - (365 * (100 * c + 4 * q + r) + (100 * c + 4 * q + r) / 4 - (100 * c + 4 * q + r) / 100) =
    s := by
  obtain ⟨hc, hq, hr, -, -⟩ := h
  omega

theorem daysToMarch_eq (h : CycleDay c q r s) (cycle : Int) :
    daysToMarch (cycle * 400 + (100 * c + 4 * q + r : Nat)) =
      146097 * cycle + (36524 * c + 1461 * q + 365 * r : Nat) := by
  obtain ⟨hc, hq, hr, -, -⟩ := h
  generalize hy : cycle * 400 + ((100 * c + 4 * q + r : Nat) : Int) = y
  have h4 : y / 4 = 100 * cycle + 25 * c + q := by omega
  have h100 : y / 100 = 4 * cycle + c := by omega
  have h400 : y / 400 = cycle := by omega
  rw [daysToMarch, h4, h100, h400]
  omega

/-- A day of a year comes before the next year. -/
theorem lt_daysToMarch (h : CycleDay c q r s) (cycle : Int) :
    daysToMarch (cycle * 400 + (100 * c + 4 * q + r : Nat)) + s <
      daysToMarch (cycle * 400 + (100 * c + 4 * q + r : Nat) + 1) := by
  have hyear := daysToMarch_succ (cycle * 400 + (100 * c + 4 * q + r : Nat))
  rcases (by have := h.day_le; omega : s ≤ 364 ∨ s = 365) with hs | hs
  · omega
  obtain ⟨hr, hcentury⟩ := h.leap hs
  have hthis := h.daysToMarch_eq cycle
  rcases (by have := h.four_le; omega : q = 24 ∨ q < 24) with hq | hq
  · -- the last year of the cycle is a leap year
    obtain rfl := hcentury hq
    unfold daysToMarch
    omega
  · have hnext : CycleDay c (q + 1) 0 0 := ⟨h.century_le, hq, by omega, by omega, by omega⟩
    have hstart := hnext.daysToMarch_eq cycle
    have hsucc : cycle * 400 + ((100 * c + 4 * q + r : Nat) : Int) + 1 =
        cycle * 400 + ((100 * c + 4 * (q + 1) + 0 : Nat) : Int) := by omega
    rw [hsucc, hstart, hthis]
    omega

end CycleDay

/-- The `month`-th month from March of the year that begins in March, and the `day`-th day of it;
month and day count from zero. -/
structure Marched (d : Date) (year : Int) (month day : Nat) : Prop where
  month_le : month ≤ 11
  day_lt : daysToMonth month + day < daysToMonth (month + 1)
  year_lt : daysToMarch year + (daysToMonth month + day : Nat) < daysToMarch (year + 1)
  number : d.dayNumber + epochShift = daysToMarch year + (daysToMonth month + day : Nat)

end Date

/-- Year, month and day of a day in a year that begins in March. -/
def Civil.ofMarch (year : Int) (month day : Nat) : Civil :=
  { year := if month < 10 then year else year + 1
    month := if month < 10 then month + 3 else month - 9
    day := day + 1 }

namespace Date

variable {a b d : Date}

/-- Every day number is that of a day in a year that begins in March. -/
theorem exists_marched (d : Date) :
    ∃ year month day, d.Marched year month day ∧ d.civil = .ofMarch year month day := by
  rw [civil]
  generalize hz : d.dayNumber + epochShift = z
  have hn : (z % 146097).toNat < 146097 := by omega
  have hzn : z = 146097 * (z / 146097) + ((z % 146097).toNat : Nat) := by omega
  generalize (z % 146097).toNat = n at hn hzn ⊢
  generalize z / 146097 = cycle at hzn ⊢
  obtain ⟨c, q, r, s, hday, hsplit⟩ := CycleDay.exists_of_lt hn
  have hmarch := hday.daysToMarch_eq cycle
  have hnext := hday.lt_daysToMarch cycle
  rw [hday.year_eq hsplit, hday.day_eq hsplit]
  generalize hm : (5 * s + 2) / 153 = m
  obtain ⟨hm11, hfrom, hto⟩ := daysToMonth_le_lt hday.day_le hm
  have hk : daysToMonth m + (s - daysToMonth m) = s := by omega
  refine ⟨cycle * 400 + (100 * c + 4 * q + r : Nat), m, s - daysToMonth m, ⟨hm11, ?_, ?_, ?_⟩, ?_⟩
  · rw [hk]
    exact hto
  · rw [hk]
    exact hnext
  · rw [hk, hz]
    omega
  · rw [Civil.ofMarch]
    split
    · next h => rw [if_neg (by omega)]
    · next h => rw [if_pos (by omega)]

/-- Of two days the one in the earlier year, month or position in the month comes first. -/
theorem Marched.lt_of_lex {y y' : Int} {m m' k k' : Nat} (ha : a.Marched y m k)
    (hb : b.Marched y' m' k')
    (h : y < y' ∨ y = y' ∧ (m < m' ∨ m = m' ∧ k < k')) : a.dayNumber < b.dayNumber := by
  have hna := ha.number
  have hnb := hb.number
  rcases h with hy | ⟨rfl, hm | ⟨rfl, hk⟩⟩
  · have := ha.year_lt
    have : daysToMarch (y + 1) ≤ daysToMarch y' := daysToMarch_mono hy
    omega
  · have := ha.day_lt
    have : daysToMonth (m + 1) ≤ daysToMonth m' := daysToMonth_mono hm
    omega
  · omega

theorem Marched.lt_iff {y y' : Int} {m m' k k' : Nat} (ha : a.Marched y m k)
    (hb : b.Marched y' m' k') :
    a.dayNumber < b.dayNumber ↔ y < y' ∨ y = y' ∧ (m < m' ∨ m = m' ∧ k < k') := by
  refine ⟨fun h => Classical.byContradiction fun hle => ?_, ha.lt_of_lex hb⟩
  rcases (by omega : (y' < y ∨ y' = y ∧ (m' < m ∨ m' = m ∧ k' < k)) ∨ y = y' ∧ m = m' ∧ k = k')
    with hlt | ⟨rfl, rfl, rfl⟩
  · exact absurd (hb.lt_of_lex ha hlt) (by omega)
  · have := ha.number
    have := hb.number
    omega

theorem civil_bounds (d : Date) : 1 ≤ d.civil.month ∧ d.civil.month ≤ 12 ∧ 1 ≤ d.civil.day ∧
    d.civil.day ≤ 31 := by
  obtain ⟨y, m, k, hd, hcivil⟩ := d.exists_marched
  have := hd.month_le
  have hk := hd.day_lt
  unfold daysToMonth at hk
  rw [hcivil, Civil.ofMarch]
  dsimp only
  split <;> omega

/-- Dates are in the order of their years, months and days. -/
theorem lt_iff_civil : a < b ↔ a.civil.year < b.civil.year ∨ a.civil.year = b.civil.year ∧
    (a.civil.month < b.civil.month ∨ a.civil.month = b.civil.month ∧
      a.civil.day < b.civil.day) := by
  obtain ⟨y, m, k, ha, hacivil⟩ := a.exists_marched
  obtain ⟨y', m', k', hb, hbcivil⟩ := b.exists_marched
  have hm := ha.month_le
  have hm' := hb.month_le
  refine Iff.trans (ha.lt_iff hb) ?_
  rw [hacivil, hbcivil, Civil.ofMarch, Civil.ofMarch]
  dsimp only
  split <;> split <;> omega

/-- Different days have different dates. -/
theorem civil_injective (h : a.civil = b.civil) : a = b := by
  have hab : ¬a.dayNumber < b.dayNumber := fun hlt => by
    have := lt_iff_civil.1 hlt
    rw [h] at this
    omega
  have hba : ¬b.dayNumber < a.dayNumber := fun hlt => by
    have := lt_iff_civil.1 hlt
    rw [h] at this
    omega
  have heq : a.dayNumber = b.dayNumber := by omega
  cases a
  cases b
  cases heq
  rfl

theorem eq_iff_civil : a = b ↔ a.civil = b.civil :=
  ⟨congrArg _, civil_injective⟩

end Date

/-! ## Digits -/

namespace Text

variable {n m w : Nat} {a b x y : List Char}

/-- Of texts that begin with as many characters, the beginning decides, and then the rest. -/
theorem append_lt_append_iff (h : a.length = b.length) : a ++ x < b ++ y ↔ a < b ∨
    a = b ∧ x < y := by
  induction a generalizing b with
  | nil =>
    cases b with
    | nil => simp
    | cons d b => cases h
  | cons c a ih =>
    cases b with
    | nil => cases h
    | cons d b =>
      rw [List.cons_append, List.cons_append, List.cons_lt_cons_iff, ih (Nat.succ.inj h),
        List.cons_lt_cons_iff, List.cons_eq_cons]
      grind

theorem digitChar_lt_iff : digitChar n < digitChar m ↔ n % 10 < m % 10 := by
  change (digitChar n).toNat < (digitChar m).toNat ↔ _
  rw [toNat_digitChar, toNat_digitChar, Nat.add_lt_add_iff_left]

theorem digitChar_inj : digitChar n = digitChar m ↔ n % 10 = m % 10 := by
  refine ⟨fun h => ?_, fun h => by rw [digitChar, digitChar, h]⟩
  have hnm : ¬n % 10 < m % 10 := fun hlt => Char.lt_irrefl _ (h ▸ digitChar_lt_iff.2 hlt)
  have hmn : ¬m % 10 < n % 10 := fun hlt => Char.lt_irrefl _ (h ▸ digitChar_lt_iff.2 hlt)
  omega

theorem dash_lt_digitChar (n : Nat) : '-' < digitChar n := by
  change 45 < (digitChar n).toNat
  rw [toNat_digitChar]
  omega

theorem fixedDigits_inj (hn : n < 10 ^ w) (hm : m < 10 ^ w) :
    fixedDigits w n = fixedDigits w m ↔ n = m := by
  refine ⟨fun h => ?_, fun h => by rw [h]⟩
  induction w generalizing n m with
  | zero => omega
  | succ w ih =>
    rw [Nat.pow_succ] at hn hm
    obtain ⟨hinit, hlast⟩ := List.append_inj' h rfl
    have hdiv := ih (by omega) (by omega) hinit
    have hmod := digitChar_inj.1 (List.cons.inj hlast).1
    omega

/-- Digits of the same width compare like numbers. -/
theorem fixedDigits_lt_iff (hn : n < 10 ^ w) (hm : m < 10 ^ w) :
    fixedDigits w n < fixedDigits w m ↔ n < m := by
  induction w generalizing n m with
  | zero =>
    rw [Nat.pow_zero] at hn hm
    exact iff_of_false (List.lt_irrefl _) (by omega)
  | succ w ih =>
    rw [Nat.pow_succ] at hn hm
    have hn' : n / 10 < 10 ^ w := by omega
    have hm' : m / 10 < 10 ^ w := by omega
    rw [fixedDigits, fixedDigits, append_lt_append_iff (by simp), ih hn' hm',
      fixedDigits_inj hn' hm', List.cons_lt_cons_iff, digitChar_lt_iff]
    have hnil : ¬([] : List Char) < [] := List.lt_irrefl _
    simp only [hnil, and_false, or_false]
    omega

theorem fixedDigits_append_lt_iff (hn : n < 10 ^ w) (hm : m < 10 ^ w) :
    fixedDigits w n ++ x < fixedDigits w m ++ y ↔ n < m ∨ n = m ∧ x < y := by
  rw [append_lt_append_iff (by simp), fixedDigits_lt_iff hn hm, fixedDigits_inj hn hm]

end Text

/-! ## The stored layout -/

theorem Civil.yearChars_of_four {year : Int} (h : 0 ≤ year ∧ year ≤ 9999) :
    yearChars year = fixedDigits 4 year.toNat :=
  if_pos h

/-- Texts that start with dates are ordered by these first, as each date takes ten characters. -/
theorem Date.chars_append_lt_iff {a b : Date} (ha : 0 ≤ a.civil.year ∧ a.civil.year ≤ 9999)
    (hb : 0 ≤ b.civil.year ∧ b.civil.year ≤ 9999) {x y : List Char} :
    a.civil.chars ++ x < b.civil.chars ++ y ↔ a < b ∨ a = b ∧ x < y := by
  have hab := a.civil_bounds
  have hbb := b.civil_bounds
  rw [eq_iff_civil, lt_iff_civil]
  generalize a.civil = c at *
  generalize b.civil = d at *
  obtain ⟨cy, cm, cd⟩ := c
  obtain ⟨dy, dm, dd⟩ := d
  simp only [Civil.chars, Civil.yearChars_of_four ha, Civil.yearChars_of_four hb, List.append_assoc,
    List.cons_append, Civil.mk.injEq] at *
  rw [fixedDigits_append_lt_iff (by omega) (by omega), List.cons_lt_cons_self,
    fixedDigits_append_lt_iff (by omega) (by omega), List.cons_lt_cons_self,
    fixedDigits_append_lt_iff (by omega) (by omega)]
  grind

namespace Instant

variable {t u : Instant}

/-- The year of an instant. -/
def year (t : Instant) : Int :=
  t.date.civil.year

/-- Leap seconds come at the end of a minute. -/
def IsSound (t : Instant) : Prop :=
  t.nanos < 1000000000 ∨ t.nanos < 2000000000 ∧ t.seconds % 60 = 59

/-- The instant is one of the years given, both included. -/
structure Within (least greatest : Int) (t : Instant) : Prop where
  sound : t.IsSound
  least_le : least ≤ t.year
  le_greatest : t.year ≤ greatest

instance : LT Instant :=
    ⟨fun t u => t.seconds < u.seconds ∨ t.seconds = u.seconds ∧ t.nanos < u.nanos⟩
instance : LE Instant :=
    ⟨fun t u => t.seconds < u.seconds ∨ t.seconds = u.seconds ∧ t.nanos ≤ u.nanos⟩

theorem lt_iff : t < u ↔ t.seconds < u.seconds ∨ t.seconds = u.seconds ∧ t.nanos < u.nanos := .rfl

theorem le_iff : t ≤ u ↔ t.seconds < u.seconds ∨ t.seconds = u.seconds ∧ t.nanos ≤ u.nanos := .rfl

theorem le_of_lt (h : t < u) : t ≤ u := by
  rw [lt_iff] at h
  rw [le_iff]
  omega

theorem le_refl (t : Instant) : t ≤ t :=
  .inr ⟨rfl, Nat.le_refl _⟩

theorem le_trans {w : Instant} (htu : t ≤ u) (huw : u ≤ w) : t ≤ w := by
  rw [le_iff] at *
  omega

theorem not_lt : ¬t < u ↔ u ≤ t := by
  rw [lt_iff, le_iff]
  omega

theorem not_le : ¬t ≤ u ↔ u < t := by
  rw [lt_iff, le_iff]
  omega

/-- Whole days leave a leap second behind; earlier instants count from the second after it. -/
theorem addDays_cases (t : Instant) (n : Int) :
    (t.nanos < 1000000000 ∨ n = 0) ∧ t.addDays n = ⟨t.seconds + n * 86400, t.nanos⟩ ∨
    1000000000 ≤ t.nanos ∧ 0 < n ∧ t.addDays n = ⟨t.seconds + n * 86400, t.nanos - 1000000000⟩ ∨
    1000000000 ≤ t.nanos ∧ n < 0 ∧
    t.addDays n = ⟨t.seconds + 1 + n * 86400, t.nanos - 1000000000⟩ := by
  unfold addDays addSeconds daySeconds
  split
  · next hplain => exact .inl ⟨by omega, rfl⟩
  split
  · next hplain hafter => exact .inr (.inl ⟨by omega, by omega, rfl⟩)
  · next hplain hafter => exact .inr (.inr ⟨by omega, by omega, rfl⟩)

/-- The instant to the second; a leap second stays one. -/
def truncated (t : Instant) : Instant :=
  { t with nanos := t.nanos / 1000000000 * 1000000000 }

/-- Only the last second of a minute is followed by a leap second. -/
theorem IsSound.leap (h : t.IsSound) : t.secondOfDay < 86400 ∧ t.nanos / 1000000000 ≤ 1 ∧
    (t.nanos / 1000000000 = 1 → t.secondOfDay % 60 = 59) := by
  unfold IsSound at h
  unfold secondOfDay daySeconds
  omega

/-- Times of day are ordered as texts like they are as times, also within a leap second. -/
theorem timeChars_lt_iff (ht : t.IsSound) (hu : u.IsSound) : t.timeChars < u.timeChars ↔
    t.secondOfDay < u.secondOfDay ∨
      t.secondOfDay = u.secondOfDay ∧ t.nanos / 1000000000 < u.nanos / 1000000000 := by
  have hleap := ht.leap
  have hleap' := hu.leap
  simp only [timeChars]
  generalize t.secondOfDay = s at *
  generalize u.secondOfDay = s' at *
  generalize t.nanos / 1000000000 = l at *
  generalize u.nanos / 1000000000 = l' at *
  rw [fixedDigits_append_lt_iff (by omega) (by omega), List.cons_lt_cons_self,
    fixedDigits_append_lt_iff (by omega) (by omega), List.cons_lt_cons_self,
    fixedDigits_lt_iff (by omega) (by omega)]
  omega

theorem date_lt_iff : t.date < u.date ↔ t.seconds / 86400 < u.seconds / 86400 := .rfl

theorem date_eq_iff : t.date = u.date ↔ t.seconds / 86400 = u.seconds / 86400 :=
  ⟨congrArg Date.dayNumber, congrArg Date.mk⟩

/-- Layouts of years with four digits compare like the instants to the second. -/
theorem layout_lt_layout_iff (ht : t.Within 0 9999) (hu : u.Within 0 9999) :
    t.layout < u.layout ↔ t.truncated < u.truncated := by
  rw [layout, layout, String.lt_iff, String.toList_ofList, String.toList_ofList,
    layoutChars, layoutChars, Date.chars_append_lt_iff ⟨ht.least_le, ht.le_greatest⟩
      ⟨hu.least_le, hu.le_greatest⟩,
    List.cons_lt_cons_self, timeChars_lt_iff ht.sound hu.sound, date_lt_iff, date_eq_iff,
      lt_iff, truncated,
    truncated]
  unfold secondOfDay daySeconds
  dsimp only
  omega

theorem truncated_lt_of_lt (h : t.truncated < u.truncated) : t < u := by
  rw [lt_iff, truncated, truncated] at h
  rw [lt_iff]
  dsimp only at h
  omega

/-- A year that has not four digits is written with a sign, which comes before all digits. -/
theorem layout_lt_of_year_signed (ht : ¬(0 ≤ t.year ∧ t.year ≤ 9999)) (hu : u.Within 0 9999) :
    t.layout < u.layout := by
  have ht : ¬(0 ≤ t.date.civil.year ∧ t.date.civil.year ≤ 9999) := ht
  have hu : 0 ≤ u.date.civil.year ∧ u.date.civil.year ≤ 9999 := ⟨hu.least_le, hu.le_greatest⟩
  rw [layout, layout, String.lt_iff, String.toList_ofList, String.toList_ofList,
    layoutChars, layoutChars, Civil.chars, Civil.chars, Civil.yearChars, if_neg ht,
    Civil.yearChars_of_four hu]
  refine List.cons_lt_cons_iff.2 (.inl ?_)
  split
  · exact dash_lt_digitChar _
  · exact Std.lt_trans (by decide) (dash_lt_digitChar _)

theorem layout_lt_of_year_neg (ht : t.year < 0) (hu : u.Within 0 9999) : t.layout < u.layout :=
  layout_lt_of_year_signed (fun h => absurd ht (Int.not_lt.2 h.1)) hu

theorem year_le_year (h : t ≤ u) : t.year ≤ u.year := by
  have hdate : ¬u.date < t.date := by
    show ¬u.seconds / 86400 < t.seconds / 86400
    rw [le_iff] at h
    omega
  rw [Date.lt_iff_civil] at hdate
  exact Int.not_lt.1 fun hlt => hdate (.inl hlt)

theorem layout_le_layout (h : t ≤ u) (ht : t.IsSound) (hu : u.Within 0 9999) :
    t.layout ≤ u.layout := by
  by_cases hyear : t.year < 0
  · exact String.not_lt.1 (String.lt_asymm (layout_lt_of_year_neg hyear hu))
  · have ht : t.Within 0 9999 :=
      ⟨ht, Int.not_lt.1 hyear, Int.le_trans (year_le_year h) hu.le_greatest⟩
    exact String.not_lt.1 fun hlt =>
      not_lt.2 h (truncated_lt_of_lt ((layout_lt_layout_iff hu ht).1 hlt))

theorem truncated_lt_of_year_neg (ht : t.year < 0) (hu : u.Within 0 9999) :
    t.truncated < u.truncated := by
  rw [← not_le]
  intro hle
  have hyear : u.truncated.year ≤ t.truncated.year := year_le_year hle
  change u.year ≤ t.year at hyear
  have := hu.least_le
  omega

/-- Up to the year 9999 an instant is written before a later one. -/
theorem layout_lt_iff_of_year_le (ht : t.IsSound) (hyear : t.year ≤ 9999) (hu : u.Within 0 9999) :
    t.layout < u.layout ↔ t.truncated < u.truncated := by
  by_cases hneg : t.year < 0
  · exact iff_of_true (layout_lt_of_year_neg hneg hu) (truncated_lt_of_year_neg hneg hu)
  · exact layout_lt_layout_iff ⟨ht, Int.not_lt.1 hneg, hyear⟩ hu

theorem lt_layout_iff_of_year_le (ht : t.IsSound) (hyear : t.year ≤ 9999) (hu : u.Within 0 9999) :
    u.layout < t.layout ↔ u.truncated < t.truncated := by
  by_cases hneg : t.year < 0
  · refine iff_of_false (String.lt_asymm (layout_lt_of_year_neg hneg hu)) ?_
    exact not_lt.2 (le_of_lt (truncated_lt_of_year_neg hneg hu))
  · exact layout_lt_layout_iff hu ⟨ht, Int.not_lt.1 hneg, hyear⟩

theorem Within.mono {least greatest least' greatest' : Int} (h : t.Within least greatest)
    (hl : least' ≤ least) (hg : greatest ≤ greatest') : t.Within least' greatest' where
  sound := h.sound
  least_le := Int.le_trans hl h.least_le
  le_greatest := Int.le_trans h.le_greatest hg

/-- The last second of the year 9999, which stands for no deletion. -/
def endOfTime : Instant := ⟨253402300799, 0⟩

theorem layout_endOfTime : endOfTime.layout = Visitor.never := by decide

/-- The time that stands for never comes after every time in use. -/
theorem layout_lt_never (h : t.Within 0 9998) : t.layout < Visitor.never := by
  have hend : endOfTime.Within 0 9999 := ⟨.inl (by decide), by decide, by decide⟩
  rw [← layout_endOfTime, layout_lt_layout_iff (h.mono (by decide) (by decide)) hend]
  have hdate : t.date < endOfTime.date := by
    rw [Date.lt_iff_civil]
    have := h.le_greatest
    have hyear : endOfTime.date.civil.year = 9999 := by decide
    rw [year] at this
    omega
  have hdate : t.seconds / 86400 < 2932896 := hdate
  rw [lt_iff, truncated, truncated, endOfTime]
  dsimp only
  omega

end Instant

end VisitLog

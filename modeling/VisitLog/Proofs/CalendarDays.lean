import Mathlib.Data.List.Iterate
import VisitLog.Proofs.Readings

/-!
# Days of the calendar

The day after a date is the next day of its month, else the first of the next month, else the first
of January (`Date.civil_addDays_one`): day numbers count the days of the calendar, through the ends
of months, leap years and the years before year 0. A range of dates is a walk from its start, day by
day, while the stop is not passed and a further supported date follows (`Date.range_eq_takeWhile`).
So it lists the dates between its bounds, in the order of the calendar, and leaves no day out.

Main statement: `Date.enumerates_range`.
-/

namespace VisitLog

/-! ## The day after -/

namespace Civil

variable {y : Int} {m k : Nat}

theorem daysInMonth_pos (year : Int) (month : Nat) : 0 < daysInMonth year month := by
  unfold daysInMonth
  split
  · split <;> decide
  all_goals decide

/-- The day after in the calendar: the next day of the month, the first of the next month, or the
first of January. -/
def next (c : Civil) : Civil :=
  if c.day < daysInMonth c.year c.month then { c with day := c.day + 1 }
  else if c.month < 12 then { c with month := c.month + 1, day := 1 }
  else { year := c.year + 1, month := 1, day := 1 }

theorem next_ofMarch_of_lt (h : k + 1 < monthLength y m) :
    (ofMarch y m k).next = ofMarch y m (k + 1) :=
  if_pos h

theorem next_ofMarch_of_le (hm : m ≤ 10) (h : monthLength y m ≤ k + 1) :
    (ofMarch y m k).next = ofMarch y (m + 1) 0 := by
  have hlast : ¬(ofMarch y m k).day < daysInMonth (ofMarch y m k).year (ofMarch y m k).month :=
    Nat.not_lt.2 h
  rw [next, if_neg hlast]
  -- The ninth month from March is December.
  rcases (by omega : m < 9 ∨ m = 9 ∨ m = 10) with hm | rfl | rfl
  · have hyear : m < 10 ∧ m + 1 < 10 ∧ m + 3 < 12 := by omega
    simp [ofMarch, hyear]
  · rfl
  · rfl

theorem next_ofMarch_february (h : monthLength y 11 ≤ k + 1) :
    (ofMarch y 11 k).next = ofMarch (y + 1) 0 0 :=
  if_neg (Nat.not_lt.2 h)

end Civil

namespace Date

variable {a b d start stop : Date}

theorem Marched.civil_eq {y : Int} {m k : Nat} (h : d.Marched y m k) :
    d.civil = .ofMarch y m k := by
  obtain ⟨y', m', k', h', hcivil⟩ := d.exists_marched
  have hbefore := mt (h.lt_iff h').2 (Int.lt_irrefl _)
  have hafter := mt (h'.lt_iff h).2 (Int.lt_irrefl _)
  obtain ⟨rfl, rfl, rfl⟩ : y = y' ∧ m = m' ∧ k = k' := by omega
  exact hcivil

/-- Day numbers count the days of the calendar. -/
theorem civil_addDays_one (d : Date) : (d.addDays 1).civil = d.civil.next := by
  obtain ⟨y, m, k, h, hcivil⟩ := d.exists_marched
  obtain ⟨hm, hk, hnumber⟩ := marched_iff.1 h
  have hnumber : (d.addDays 1).dayNumber + epochShift = daysToMarch y +
      (daysToMonth m + k : Nat) + 1 := by
    rw [← hnumber]
    exact Int.add_right_comm ..
  rw [hcivil]
  rcases (by omega : k + 1 < Civil.monthLength y m ∨ k + 1 = Civil.monthLength y m) with hday | hday
  · rw [Civil.next_ofMarch_of_lt hday]
    exact (marched_iff.2 ⟨hm, hday, by omega⟩).civil_eq
  rcases (by omega : m ≤ 10 ∨ m = 11) with hm | rfl
  · have hmonth := Civil.daysToMonth_succ hm y
    rw [Civil.next_ofMarch_of_le hm hday.ge]
    exact (marched_iff.2 ⟨by omega, Civil.daysInMonth_pos .., by omega⟩).civil_eq
  · have hyear : daysToMarch (y + 1) = daysToMarch y +
        (daysToMonth 11 + Civil.monthLength y 11 : Nat) :=
      Civil.daysToMarch_add_one y
    have hmarch : daysToMonth 0 = 0 := rfl
    rw [Civil.next_ofMarch_february hday.ge]
    exact (marched_iff.2 ⟨by omega, Civil.daysInMonth_pos .., by omega⟩).civil_eq

/-! ## Walks -/

theorem addDays_add (d : Date) (n m : Int) : d.addDays (n + m) = (d.addDays n).addDays m :=
  congrArg mk (Int.add_assoc ..).symm

theorem iterate_addDays (n : Nat) (d : Date) : (·.addDays 1)^[n] d = d.addDays n := by
  induction n generalizing d with
  | zero => exact congrArg mk (Int.add_zero _).symm
  | succ n ih =>
    have hsucc : ((n + 1 : Nat) : Int) = 1 + n := by omega
    rw [Function.iterate_succ_apply, ih, hsucc, addDays_add]

/-- A walk over dates is a walk over the calendar. -/
theorem map_civil_iterate (n : Nat) (d : Date) :
    (List.iterate (·.addDays 1) d n).map civil = List.iterate Civil.next d.civil n := by
  induction n generalizing d with
  | zero => rfl
  | succ n ih => rw [List.iterate, List.iterate, List.map_cons, ih, civil_addDays_one]

/-! ## Ranges -/

theorem range_eq_iterate (start stop : Date) : range start stop = List.iterate (·.addDays 1) start
    (min stop.dayNumber (last.dayNumber - 1) - start.dayNumber + 1).toNat := by
  simp only [← List.range_map_iterate, iterate_addDays]
  rfl

theorem range_eq_nil (h : stop < start ∨ last ≤ start) : range start stop = [] := by
  change stop.dayNumber < start.dayNumber ∨ last.dayNumber ≤ start.dayNumber at h
  rw [range_eq_iterate, List.iterate_eq_nil]
  omega

/-- A range begins with its start and goes on from the day after. -/
theorem range_eq_cons (hstop : start ≤ stop) (hlast : start < last) :
    range start stop = start :: range (start.addDays 1) stop := by
  have hlength : (min stop.dayNumber (last.dayNumber - 1) - start.dayNumber + 1).toNat =
      (min stop.dayNumber (last.dayNumber - 1) - (start.addDays 1).dayNumber + 1).toNat + 1 := by
    change start.dayNumber ≤ stop.dayNumber at hstop
    change start.dayNumber < last.dayNumber at hlast
    change _ = (_ - (start.dayNumber + 1) + 1).toNat + 1
    omega
  rw [range_eq_iterate, range_eq_iterate, hlength]
  rfl

/-- A range is a walk over the dates that a supported one follows, as long as the stop is not
passed. -/
theorem range_eq_takeWhile (start stop : Date) : range start stop =
    (List.iterate (·.addDays 1) start (last.dayNumber - start.dayNumber).toNat).takeWhile
      (· ≤ stop) := by
  generalize hn : (last.dayNumber - start.dayNumber).toNat = n
  induction n generalizing start with
  | zero =>
    have hlast : last.dayNumber ≤ start.dayNumber := by omega
    exact range_eq_nil (.inr hlast)
  | succ n ih =>
    have hlast : start.dayNumber < last.dayNumber := by omega
    have hn : (last.dayNumber - (start.addDays 1).dayNumber).toNat = n := by
      change (last.dayNumber - (start.dayNumber + 1)).toNat = n
      omega
    rw [List.iterate, List.takeWhile_cons]
    split
    · next hstop => rw [range_eq_cons (of_decide_eq_true hstop) hlast, ih _ hn]
    · next hstop => exact range_eq_nil (.inl (Int.not_le.1 (mt decide_eq_true hstop)))

theorem range_of_lt (h : stop < last) : range start stop =
    List.iterate (·.addDays 1) start (stop.dayNumber - start.dayNumber + 1).toNat := by
  have hstop : min stop.dayNumber (last.dayNumber - 1) = stop.dayNumber := by
    change stop.dayNumber < last.dayNumber at h
    omega
  rw [range_eq_iterate, hstop]

theorem getLast?_range (h : stop < last) (hstart : start ≤ stop) :
    (range start stop).getLast? = some stop := by
  change start.dayNumber ≤ stop.dayNumber at hstart
  have hlength : (range start stop).length = (stop.dayNumber - start.dayNumber + 1).toNat := by
    rw [range_of_lt h, List.length_iterate]
  have hstop : start.dayNumber + ((stop.dayNumber - start.dayNumber + 1).toNat - 1 : Nat) =
      stop.dayNumber := by omega
  rw [List.getLast?_eq_getElem?, hlength, range_of_lt h, List.getElem?_iterate _ _ _ _ (by omega),
    iterate_addDays]
  exact congrArg (some ∘ mk) hstop

theorem pairwise_range (start stop : Date) : (range start stop).Pairwise (· < ·) := by
  refine List.pairwise_map.2 (List.pairwise_lt_range.imp fun {i j} hij => ?_)
  change start.dayNumber + i < start.dayNumber + j
  omega

theorem ne_of_lt (h : a < b) : a ≠ b := by
  rintro rfl
  exact Int.lt_irrefl _ h

theorem nodup_range (start stop : Date) : (range start stop).Nodup :=
  List.Pairwise.imp ne_of_lt (pairwise_range start stop)

theorem mem_range (h : stop < last) : d ∈ range start stop ↔ start ≤ d ∧ d ≤ stop := by
  rw [range_of_lt h, List.mem_iterate]
  simp only [iterate_addDays]
  change _ ↔ start.dayNumber ≤ d.dayNumber ∧ d.dayNumber ≤ stop.dayNumber
  constructor
  · rintro ⟨i, hi, rfl⟩
    change start.dayNumber ≤ start.dayNumber + i ∧ start.dayNumber + i ≤ stop.dayNumber
    omega
  · rintro ⟨hfrom, hto⟩
    have hd : d.dayNumber = start.dayNumber +
        ((d.dayNumber - start.dayNumber).toNat : Nat) := by omega
    exact ⟨_, by omega, congrArg mk hd⟩

/-- How dates are all those from `start` to `stop`. `eq_nil`: there are none where the start comes
after the stop. `head?`, `getLast?` and `length`: else they begin and end with the two, and are one
more than the days between them. `ascending` and `mem_iff`: each date between the two is there, once
and in order. `steps`: in the calendar they follow each other day by day. -/
structure Enumerates (start stop : Date) (dates : List Date) : Prop where
  eq_nil : stop < start → dates = []
  head? : start ≤ stop → dates.head? = some start
  getLast? : start ≤ stop → dates.getLast? = some stop
  length : start ≤ stop → (dates.length : Int) = stop.dayNumber - start.dayNumber + 1
  ascending : dates.Pairwise (· < ·)
  mem_iff : ∀ d, d ∈ dates ↔ start ≤ d ∧ d ≤ stop
  steps : dates.map civil = List.iterate Civil.next start.civil dates.length

/-- A range of dates lists every date between its bounds once and in order. -/
theorem enumerates_range (h : stop < last) (start : Date) :
    Enumerates start stop (range start stop) where
  eq_nil hstart := range_eq_nil (.inl hstart)
  head? hstart := by
    rw [range_eq_cons hstart (Int.lt_of_le_of_lt hstart h)]
    rfl
  getLast? hstart := getLast?_range h hstart
  length hstart := by
    change start.dayNumber ≤ stop.dayNumber at hstart
    rw [range_of_lt h, List.length_iterate]
    omega
  ascending := pairwise_range start stop
  mem_iff _ := mem_range h
  steps := by rw [range_of_lt h, List.length_iterate, map_civil_iterate]

theorem enumerates_range_leapDay : ofParts (-4) 3 1 < last ∧
    (range (ofParts (-4) 2 28) (ofParts (-4) 3 1)).map text =
    ["-0004-02-28", "-0004-02-29", "-0004-03-01"] ∧
    Enumerates (ofParts (-4) 2 28) (ofParts (-4) 3 1)
      (range (ofParts (-4) 2 28) (ofParts (-4) 3 1)) :=
  ⟨by decide, by decide, enumerates_range (by decide) _⟩

end Date

end VisitLog

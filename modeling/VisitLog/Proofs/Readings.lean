import VisitLog.Proofs.Chronology

/-!
# The stored layout reads back

A date is found again from its year, month and day (`Date.ofCivil?_civil`), and a supported instant,
to the second, from the text that `Instant.layout` writes (`Instant.read?_layout`). The strict
reader of bounds wants an offset at the end and does not take that text, so `normalize` leaves it as
it is (`Instant.normalize_layout`).
-/

namespace VisitLog

open Text

/-! ## Dates of the calendar -/

namespace Civil

theorem isLeap_iff {year : Int} : isLeap year ↔ year % 4 = 0 ∧
    (year % 100 ≠ 0 ∨ year % 400 = 0) := by
  simp [isLeap]

/-- February is the last month of a year that begins in March, and ends where the next one
begins. -/
theorem daysToMarch_add_one (y : Int) :
    Date.daysToMarch (y + 1) = Date.daysToMarch y +
    (Date.daysToMonth 11 + daysInMonth (y + 1) 2 : Nat) := by
  have hfebruary : daysInMonth (y + 1) 2 = if isLeap (y + 1) then 29 else 28 := rfl
  rw [hfebruary]
  unfold Date.daysToMarch Date.daysToMonth
  split
  · next h =>
    have hleap := isLeap_iff.1 h
    omega
  · next h =>
    have hleap := mt isLeap_iff.2 h
    omega

theorem daysInMonth_of_ne_two {month : Nat} (h : month ≠ 2) (year : Int) :
    daysInMonth year month = daysInMonth 0 month := by
  unfold daysInMonth
  split
  · exact absurd rfl h
  all_goals rfl

/-- The number of days of the `month`-th month from March. -/
def monthLength (year : Int) (month : Nat) : Nat :=
  daysInMonth (ofMarch year month 0).year (ofMarch year month 0).month

theorem monthLength_february_le (year : Int) : monthLength year 11 ≤ 29 := by
  change (if isLeap (year + 1) then 29 else 28) ≤ 29
  split <;> decide

/-- The months from March to January have the same length in all years. -/
theorem daysToMonth_succ {m : Nat} (h : m ≤ 10) (year : Int) :
    Date.daysToMonth (m + 1) = Date.daysToMonth m + monthLength year m := by
  have hall : ∀ m ≤ 10, Date.daysToMonth (m + 1) = Date.daysToMonth m + monthLength 0 m := by decide
  have hmonth : (ofMarch year m 0).month ≠ 2 := by
    rw [ofMarch]
    dsimp only
    split <;> omega
  have hlength : monthLength 0 m = monthLength year m :=
    (daysInMonth_of_ne_two hmonth _).trans (daysInMonth_of_ne_two hmonth _).symm
  rw [hall m h, hlength]

end Civil

namespace Date

variable {d : Date}

/-- The days of a month are those before its length. -/
theorem marched_iff {y : Int} {m k : Nat} : d.Marched y m k ↔ m ≤ 11 ∧ k < Civil.monthLength y m ∧
    d.dayNumber + epochShift = daysToMarch y + (daysToMonth m + k : Nat) := by
  have hsucc := daysToMarch_succ y
  -- Only the length of February depends on the year, and it is bounded by the next first of March.
  constructor
  · rintro ⟨hm, hday, hyear, hnumber⟩
    refine ⟨hm, ?_, hnumber⟩
    rcases (by omega : m = 11 ∨ m ≤ 10) with rfl | hm
    · rw [Civil.daysToMarch_add_one] at hyear
      change k < Civil.daysInMonth (y + 1) 2
      omega
    · rw [Civil.daysToMonth_succ hm y] at hday
      omega
  · rintro ⟨hm, hk, hnumber⟩
    rcases (by omega : m = 11 ∨ m ≤ 10) with rfl | hm
    · have hfebruary := Civil.monthLength_february_le y
      refine ⟨by omega, ?_, ?_, hnumber⟩
      · change 337 + k < 367
        omega
      · rw [Civil.daysToMarch_add_one]
        change k < Civil.daysInMonth (y + 1) 2 at hk
        omega
    · have hnext := Civil.daysToMonth_succ hm y
      have hfebruary : daysToMonth (m + 1) ≤ 337 := daysToMonth_mono (by omega : m + 1 ≤ 11)
      exact ⟨by omega, by omega, by omega, hnumber⟩

theorem isValid_civil (d : Date) : d.civil.isValid := by
  obtain ⟨y, m, k, hd, hcivil⟩ := d.exists_marched
  obtain ⟨hm, hk, -⟩ := marched_iff.1 hd
  rw [hcivil, Civil.isValid]
  simp only [Bool.and_eq_true, decide_eq_true_eq]
  refine ⟨⟨⟨?_, ?_⟩, Nat.succ_pos k⟩, hk⟩
  all_goals
    rw [Civil.ofMarch]
    dsimp only
    split <;> omega

/-- A date is found again from its year, month and day. -/
theorem ofParts_civil (d : Date) : ofParts d.civil.year d.civil.month d.civil.day = d := by
  obtain ⟨y, m, k, hd, hcivil⟩ := d.exists_marched
  have hm := hd.month_le
  have hnumber := hd.number
  have hyear : (if (if m < 10 then m + 3 else m - 9) ≤ 2 then (if m < 10 then y else y + 1) - 1
      else if m < 10 then y else y + 1) = y := by
    split <;> split <;> omega
  have hmonth : ((if m < 10 then m + 3 else m - 9) + 9) % 12 = m := by
    split <;> omega
  rw [hcivil, Civil.ofMarch, ofParts]
  dsimp only
  rw [hyear, hmonth]
  obtain ⟨n⟩ := d
  dsimp only at hnumber
  congr 1
  omega

theorem year_le_of_le {a b : Date} (h : a ≤ b) : a.civil.year ≤ b.civil.year := by
  refine Int.not_lt.1 fun hlt => ?_
  have hba : b.dayNumber < a.dayNumber := lt_iff_civil.2 (.inl hlt)
  have hab : a.dayNumber ≤ b.dayNumber := h
  omega

/-- A supported date is found from its year, month and day. -/
theorem ofCivil?_civil (hfirst : first ≤ d) (hlast : d ≤ last) : ofCivil? d.civil = some d := by
  have hleast : leastYear ≤ d.civil.year := year_le_of_le hfirst
  have hgreatest : d.civil.year ≤ greatestYear := year_le_of_le hlast
  rw [ofCivil?, if_pos, ofParts_civil]
  rw [isValid_civil, decide_eq_true hleast, decide_eq_true hgreatest]
  rfl

theorem ofCivil?_civil_eq_none (h : ¬(first ≤ d ∧ d ≤ last)) : ofCivil? d.civil = none := by
  have hbounds := d.civil_bounds
  have hfirst : first.civil = ⟨leastYear, 1, 1⟩ := by decide
  have hlast : last.civil = ⟨greatestYear, 12, 31⟩ := by decide
  -- A year that is supported is supported from its first day to its last.
  have hyear : ¬(leastYear ≤ d.civil.year ∧ d.civil.year ≤ greatestYear) := by
    intro hyear
    have hbefore : ¬d < first := by
      rw [lt_iff_civil, hfirst]
      dsimp only
      omega
    have hafter : ¬last < d := by
      rw [lt_iff_civil, hlast]
      dsimp only
      omega
    exact h ⟨Int.not_lt.1 hbefore, Int.not_lt.1 hafter⟩
  rw [ofCivil?, if_neg]
  simpa using fun _ => Int.not_le.1 ∘ not_and.1 hyear

/-- The dates whose year has four digits. -/
def HasFourDigits (d : Date) : Prop :=
  0 ≤ d.civil.year ∧ d.civil.year ≤ 9999

theorem HasFourDigits.supported (h : d.HasFourDigits) : first ≤ d ∧ d < last := by
  have hlast : d < last := by
    rw [lt_iff_civil]
    have hyear : last.civil.year = 262142 := by decide
    have := h.2
    omega
  have hfirst : ¬d < first := by
    rw [lt_iff_civil]
    have hyear : first.civil.year = -262143 := by decide
    have := h.1
    omega
  exact ⟨Int.not_lt.1 hfirst, hlast⟩

end Date

/-! ## Digits -/

namespace Text

variable {ds rest : List Char}

theorem scanDigits_append (hds : ∀ c ∈ ds, c.isDigit) (most acc count : Nat) (rest : List Char) :
    scanDigits (ds.length + most) acc count (ds ++ rest) =
      scanDigits most (Nat.ofDigitChars 10 ds acc) (count + ds.length) rest := by
  induction ds generalizing acc count with
  | nil => rw [List.length_nil, Nat.zero_add]; rfl
  | cons c ds ih =>
    rw [List.forall_mem_cons] at hds
    rw [List.length_cons, Nat.add_right_comm, List.cons_append, scanDigits,
      digitValue?_of_isDigit hds.1]
    dsimp only
    rw [ih hds.2, Nat.ofDigitChars_cons, Nat.mul_comm acc 10, Nat.add_assoc count, Nat.add_comm 1]

theorem isDigit_of_digitValue? {c : Char} {d : Nat} (h : digitValue? c = some d) :
    c.isDigit ∧ d < 10 := by
  unfold digitValue? at h
  split at h
  · next hc =>
    have hdigit : c.isDigit := by
      rw [Char.isDigit, Bool.and_eq_true, decide_eq_true_eq, decide_eq_true_eq]
      exact hc
    have hhigh : c.toNat ≤ 57 := hc.2
    refine ⟨hdigit, ?_⟩
    cases h
    omega
  · cases h

/-- What is read off a text are digits, and they bound the value. -/
theorem scanDigits_eq {most acc count n k : Nat} {cs : List Char}
    (h : scanDigits most acc count cs = (n, k, rest)) :
    ∃ ds, cs = ds ++ rest ∧ (∀ c ∈ ds, c.isDigit) ∧ k = count + ds.length ∧ ds.length ≤ most ∧
      n < (acc + 1) * 10 ^ ds.length := by
  induction cs generalizing most acc count with
  | nil =>
    have hnone : (acc, count, []) = (n, k, rest) := by
      cases most with
      | zero => exact h
      | succ most => exact h
    cases hnone
    exact ⟨[], rfl, nofun, rfl, Nat.zero_le _, by simp⟩
  | cons c cs ih =>
    cases most with
    | zero =>
      cases h
      exact ⟨[], rfl, nofun, rfl, Nat.zero_le _, by simp⟩
    | succ most =>
      rw [scanDigits] at h
      cases hc : digitValue? c with
      | none =>
        rw [hc] at h
        cases h
        exact ⟨[], rfl, nofun, rfl, Nat.zero_le _, by simp⟩
      | some d =>
        rw [hc] at h
        obtain ⟨ds, rfl, hds, rfl, hlength, hn⟩ := ih h
        obtain ⟨hdigit, hd⟩ := isDigit_of_digitValue? hc
        refine ⟨c :: ds, rfl, List.forall_mem_cons.2 ⟨hdigit, hds⟩, ?_,
          Nat.succ_le_succ hlength, ?_⟩
        · rw [List.length_cons]
          omega
        · rw [List.length_cons, Nat.pow_succ', ← Nat.mul_assoc]
          exact Nat.lt_of_lt_of_le hn (Nat.mul_le_mul_right _ (by omega))

/-- The reader may go on, but finds no other digit. -/
theorem scanDigits_stop {acc count : Nat} (h : ∀ c ∈ rest.head?, digitValue? c = none)
    (most : Nat) :
    scanDigits most acc count rest = (acc, count, rest) := by
  cases most with
  | zero => rfl
  | succ most =>
    cases rest with
    | nil => rfl
    | cons c rest => rw [scanDigits, h c rfl]

/-- Digits are read up to their greatest number, or up to what is not a digit. -/
theorem readDigits_append {least most : Nat} (hds : ∀ c ∈ ds, c.isDigit)
    (hleast : least ≤ ds.length)
    (hmost : ds.length = most ∨ ds.length ≤ most ∧ ∀ c ∈ rest.head?, digitValue? c = none) :
    readDigits least most (ds ++ rest) = some (Nat.ofDigitChars 10 ds 0, rest) := by
  obtain ⟨more, rfl⟩ : ∃ more, most = ds.length + more :=
    Nat.exists_eq_add_of_le (hmost.elim Nat.le_of_eq And.left)
  have hstop (acc count : Nat) : scanDigits more acc count rest = (acc, count, rest) := by
    cases more with
    | zero => rfl
    | succ more => exact scanDigits_stop (hmost.resolve_left (by omega)).2 _
  rw [readDigits, scanDigits_append hds, hstop]
  dsimp only
  rw [Nat.zero_add, if_pos hleast]

/-- What was read is a run of digits, of a length within the bounds. -/
theorem readDigits_eq_some {least most n : Nat} {cs : List Char}
    (h : readDigits least most cs = some (n, rest)) :
    ∃ ds, cs = ds ++ rest ∧ (∀ c ∈ ds, c.isDigit) ∧ least ≤ ds.length ∧ ds.length ≤ most := by
  unfold readDigits at h
  split at h
  next hscan =>
  obtain ⟨ds, rfl, hds, rfl, hlength, -⟩ := scanDigits_eq hscan
  rw [Nat.zero_add] at h
  split at h
  · next hleast =>
    cases h
    exact ⟨ds, rfl, hds, hleast, hlength⟩
  · cases h

theorem digitChar_value (n : Nat) : (digitChar n).toNat - '0'.toNat = n % 10 := by
  rw [toNat_digitChar]
  exact Nat.add_sub_cancel_left ..

theorem ofDigitChars_fixedDigits {w n : Nat} (hn : n < 10 ^ w) :
    Nat.ofDigitChars 10 (fixedDigits w n) 0 = n := by
  induction w generalizing n with
  | zero => exact (Nat.lt_one_iff.1 hn).symm
  | succ w ih =>
    rw [Nat.pow_succ] at hn
    rw [fixedDigits, Nat.ofDigitChars_append, ih (by omega), Nat.ofDigitChars_cons, digitChar_value]
    exact Nat.div_add_mod n 10

theorem ofDigitChars_paddedDigits (w n : Nat) : Nat.ofDigitChars 10 (paddedDigits w n) 0 = n := by
  have hzeros (k : Nat) : Nat.ofDigitChars 10 (List.replicate k '0') 0 = 0 := by
    induction k with
    | zero => rfl
    | succ k ih => exact ih
  rw [paddedDigits, Nat.ofDigitChars_append, hzeros, Nat.ofDigitChars_ten_toDigits]

theorem length_paddedDigits_pos (w n : Nat) : 0 < (paddedDigits w n).length := by
  have := Nat.length_toDigits_pos (b := 10) (n := n)
  rw [paddedDigits, List.length_append]
  omega

theorem readDigits_fixedDigits {least w n : Nat} (hn : n < 10 ^ w) (hleast : least ≤ w) :
    readDigits least w (fixedDigits w n ++ rest) = some (n, rest) := by
  rw [readDigits_append (fun c hc => isDigit_of_mem_fixedDigits hc) (by rwa [length_fixedDigits])
    (.inl (length_fixedDigits w n)), ofDigitChars_fixedDigits hn]

theorem exists_fixedDigits_append {w : Nat} (hw : 0 < w) (n : Nat) (rest : List Char) :
    ∃ c cs, fixedDigits w n ++ rest = c :: cs ∧ c.isDigit := by
  cases h : fixedDigits w n with
  | nil =>
    have := congrArg List.length h
    rw [length_fixedDigits, List.length_nil] at this
    omega
  | cons c cs => exact ⟨c, cs ++ rest, rfl, isDigit_of_mem_fixedDigits (h ▸ List.mem_cons_self)⟩

theorem trimStart_cons_of_isDigit {c : Char} (h : c.isDigit) (cs : List Char) :
    trimStart (c :: cs) = c :: cs :=
  List.dropWhile_cons_of_neg (by rw [isBlank_of_isDigit h]; decide)

theorem trimStart_fixedDigits {w : Nat} (hw : 0 < w) (n : Nat) (rest : List Char) :
    trimStart (fixedDigits w n ++ rest) = fixedDigits w n ++ rest := by
  obtain ⟨c, cs, h, hc⟩ := exists_fixedDigits_append hw n rest
  rw [h, trimStart_cons_of_isDigit hc]

end Text

/-! ## Readers on the pieces of the layout -/

namespace Reader

variable {rest : List Char}

theorem char_cons (c : Char) : char c (c :: rest) = some ((), rest) :=
  if_pos rfl

theorem field_fixedDigits {w n : Nat} (hw : 0 < w) (hn : n < 10 ^ w) :
    field w (fixedDigits w n ++ rest) = some (n, rest) := by
  rw [field, trimStart_fixedDigits hw, readDigits_fixedDigits hn hw]

theorem field_fixedDigits_nil {w n : Nat} (hw : 0 < w) (hn : n < 10 ^ w) :
    field w (fixedDigits w n) = some (n, []) := by
  have hread : field w (fixedDigits w n ++ []) = some (n, []) := field_fixedDigits hw hn
  rwa [List.append_nil] at hread

theorem year_minus (cs : List Char) :
    year ('-' :: cs) = (readDigits 1 cs.length cs).map fun (n, r) => (-(n : Int), r) := rfl

theorem year_plus (cs : List Char) :
    year ('+' :: cs) = (readDigits 1 cs.length cs).map fun (n, r) => ((n : Int), r) := rfl

/-- A year reads back from its text, with its sign if it has one. -/
theorem year_yearChars (y : Int) :
    year (Civil.yearChars y ++ '-' :: rest) = some (y, '-' :: rest) := by
  by_cases hy : 0 ≤ y ∧ y ≤ 9999
  · obtain ⟨c, cs, h, hc⟩ := exists_fixedDigits_append (w := 4) (by decide) y.toNat ('-' :: rest)
    have hread : readDigits 1 4 (fixedDigits 4 y.toNat ++ '-' :: rest) =
        some (y.toNat, '-' :: rest) :=
      readDigits_fixedDigits (by omega) (by decide)
    rw [Civil.yearChars_of_four hy, h, year, trimStart_cons_of_isDigit hc]
    split
    · next e => cases e; exact absurd hc (by decide)
    · next e => cases e; exact absurd hc (by decide)
    · rw [← h, hread]
      exact congrArg some (Prod.ext (Int.toNat_of_nonneg hy.1) rfl)
  · -- Behind a sign all digits up to the dash are the year.
    have hread : readDigits 1 (paddedDigits 4 y.natAbs ++ '-' :: rest).length
      (paddedDigits 4 y.natAbs ++ '-' :: rest) =
        some (y.natAbs, '-' :: rest) := by
      rw [readDigits_append (fun c hc => isDigit_of_mem_paddedDigits hc)
        (length_paddedDigits_pos ..) (.inr ⟨?_, ?_⟩), ofDigitChars_paddedDigits]
      · rw [List.length_append]
        omega
      · rintro _ ⟨⟩
        rfl
    rw [Civil.yearChars, if_neg hy]
    split
    · next h =>
      have hneg : year ('-' :: (paddedDigits 4 y.natAbs ++ '-' :: rest)) =
          some (-(y.natAbs : Int), '-' :: rest) := by
        rw [year_minus, hread]
        rfl
      rw [List.cons_append, hneg]
      exact congrArg some (Prod.ext (by dsimp only; omega) rfl)
    · next h =>
      have hpos : year ('+' :: (paddedDigits 4 y.natAbs ++ '-' :: rest)) =
          some ((y.natAbs : Int), '-' :: rest) := by
        rw [year_plus, hread]
        rfl
      rw [List.cons_append, hpos]
      exact congrArg some (Prod.ext (by dsimp only; omega) rfl)

theorem date_civil_chars (d : Date) (rest : List Char) :
    date (d.civil.chars ++ rest) = (Date.ofCivil? d.civil).map fun d => (d, rest) := by
  have hbounds := d.civil_bounds
  generalize d.civil = c at *
  obtain ⟨y, m, k⟩ := c
  simp only [Civil.chars, List.append_assoc, List.cons_append, date, Option.bind_eq_bind,
    Option.pure_def] at *
  rw [year_yearChars, Option.bind_some, char_cons, Option.bind_some,
    field_fixedDigits (by decide) (by omega), Option.bind_some, char_cons, Option.bind_some,
    field_fixedDigits (by decide) (by omega), Option.bind_some]
  cases Date.ofCivil? ⟨y, m, k⟩ <;> rfl

theorem date_chars {d : Date} {rest : List Char} (hfirst : Date.first ≤ d) (hlast : d ≤ Date.last) :
    date (d.civil.chars ++ rest) = some (d, rest) := by
  rw [date_civil_chars, Date.ofCivil?_civil hfirst hlast]
  rfl

/-- A date that is not supported is not read. -/
theorem date_chars_eq_none {d : Date} {rest : List Char} (h : ¬(Date.first ≤ d ∧ d ≤ Date.last)) :
    date (d.civil.chars ++ rest) = none := by
  rw [date_civil_chars, Date.ofCivil?_civil_eq_none h]
  rfl

end Reader

namespace Instant

variable {t : Instant}

/-- The time of day that the layout writes. -/
def timeOfDay (t : Instant) : TimeOfDay :=
  { hour := t.secondOfDay / 3600
    minute := t.secondOfDay / 60 % 60
    second := t.secondOfDay % 60 + t.nanos / 1000000000 }

theorem isValid_timeOfDay (ht : t.IsSound) : t.timeOfDay.isValid := by
  have hleap := ht.leap
  rw [TimeOfDay.isValid, timeOfDay]
  dsimp only
  rw [decide_eq_true (by omega), decide_eq_true (by omega), decide_eq_true (by omega)]
  rfl

theorem timeOfDay_on (ht : t.IsSound) : t.timeOfDay.on t.date = t.truncated := by
  have hleap := ht.leap
  unfold TimeOfDay.on timeOfDay date truncated secondOfDay daySeconds at *
  dsimp only at *
  split <;> congr 1 <;> omega

end Instant

theorem Reader.time_timeChars {t : Instant} (ht : t.IsSound) :
    Reader.time t.timeChars = some (t.timeOfDay, []) := by
  have hleap := ht.leap
  have hvalid := t.isValid_timeOfDay ht
  simp only [time, Instant.timeChars, Option.bind_eq_bind, Option.pure_def]
  rw [field_fixedDigits (by decide) (by omega), Option.bind_some, char_cons, Option.bind_some,
    field_fixedDigits (by decide) (by omega), Option.bind_some, char_cons, Option.bind_some,
    field_fixedDigits_nil (by decide) (by omega), Option.bind_some]
  exact if_pos hvalid

namespace Instant

variable {t : Instant}

theorem exists_timeChars (t : Instant) : ∃ c cs, t.timeChars = c :: cs ∧ c.isDigit :=
  exists_fixedDigits_append (by decide) ..

theorem dateTime_layoutChars (ht : t.IsSound) (hfirst : Date.first ≤ t.date)
    (hlast : t.date ≤ Date.last) :
    Reader.dateTime Reader.blanks t.layoutChars = some t.truncated := by
  have htrim : trimStart (' ' :: t.timeChars) = t.timeChars := by
    obtain ⟨c, cs, h, hc⟩ := t.exists_timeChars
    rw [h]
    exact trimStart_cons_of_isDigit hc cs
  simp only [Reader.dateTime, layoutChars, Option.bind_eq_bind, Option.pure_def]
  rw [Reader.date_chars hfirst hlast, Option.bind_some, Reader.blanks, htrim, Option.bind_some,
    Reader.time_timeChars ht, Option.bind_some, timeOfDay_on ht]
  rfl

end Instant

/-! ## The layout as a whole -/

namespace Text

theorem trimStart_of_dashed {cs : List Char} (h : Dashed cs) : trimStart cs = cs := by
  cases h with
  | @plain ds rest hne hds =>
    obtain ⟨d, ds, rfl⟩ := List.exists_cons_of_ne_nil hne
    exact trimStart_cons_of_isDigit (hds d List.mem_cons_self) _
  | signed hs =>
    rcases hs with rfl | rfl
    · rfl
    · rfl

theorem trimEnd_concat_of_isDigit {c : Char} (h : c.isDigit) (cs : List Char) :
    trimEnd (cs ++ [c]) = cs ++ [c] := by
  rw [trimEnd, List.reverse_concat]
  change (trimStart (c :: cs.reverse)).reverse = _
  rw [trimStart_cons_of_isDigit h, List.reverse_cons, List.reverse_reverse]

end Text

namespace Reader

theorem digits_fixedDigits {w n : Nat} {rest : List Char} (hn : n < 10 ^ w) :
    digits w (fixedDigits w n ++ rest) = some (n, rest) :=
  readDigits_fixedDigits hn (Nat.le_refl w)

theorem digits_fixedDigits_nil {w n : Nat} (hn : n < 10 ^ w) :
    digits w (fixedDigits w n) = some (n, []) := by
  have hread : digits w (fixedDigits w n ++ []) = some (n, []) := digits_fixedDigits hn
  rwa [List.append_nil] at hread

/-- The strict reader of years wants four digits and no sign. -/
theorem digits_yearChars {y : Int} (hy : ¬(0 ≤ y ∧ y ≤ 9999)) (rest : List Char) :
    digits 4 (Civil.yearChars y ++ rest) = none := by
  rw [Civil.yearChars, if_neg hy]
  split
  · rfl
  · rfl

end Reader

namespace Instant

variable {t : Instant}

theorem dashed_layoutChars (t : Instant) : Dashed t.layoutChars :=
  Civil.dashed_chars ..

theorem trimChars_layoutChars (t : Instant) : trimChars t.layoutChars = t.layoutChars := by
  obtain ⟨cs, h⟩ : ∃ cs, t.layoutChars = cs ++
      [digitChar (t.secondOfDay % 60 + t.nanos / 1000000000)] := by
    simp only [layoutChars, timeChars, fixedDigits, ← List.append_assoc, ← List.cons_append]
    exact ⟨_, rfl⟩
  rw [trimChars, trimStart_of_dashed t.dashed_layoutChars, h, trimEnd_concat_of_isDigit
    (isDigit_digitChar _)]

theorem trim_layout (t : Instant) : trim t.layout = t.layout := by
  rw [trim, layout, String.toList_ofList, trimChars_layoutChars]

/-- The layout has no offset from UTC. -/
theorem readRfc3339Chars?_layoutChars (ht : t.IsSound) :
    readRfc3339Chars? t.layoutChars = none := by
  have hleap := ht.leap
  have hbounds := t.date.civil_bounds
  rw [layoutChars, timeChars, Civil.chars]
  generalize t.date.civil = c at *
  obtain ⟨y, m, k⟩ := c
  dsimp only at hbounds
  simp only [List.append_assoc, List.cons_append]
  unfold readRfc3339Chars?
  dsimp only [Option.bind_eq_bind]
  by_cases hy : 0 ≤ y ∧ y ≤ 9999
  · rw [Civil.yearChars_of_four hy, Reader.digits_fixedDigits (by omega), Option.bind_some,
      Reader.char_cons, Option.bind_some, Reader.digits_fixedDigits (by omega), Option.bind_some,
      Reader.char_cons, Option.bind_some, Reader.digits_fixedDigits (by omega), Option.bind_some,
      Reader.rfcSeparator, Option.bind_some, Reader.digits_fixedDigits (by omega), Option.bind_some,
      Reader.char_cons, Option.bind_some, Reader.digits_fixedDigits (by omega), Option.bind_some,
      Reader.char_cons, Option.bind_some, Reader.digits_fixedDigits_nil (by omega)]
    rfl
  · rw [Reader.digits_yearChars hy]
    rfl

theorem read?_layout (ht : t.IsSound) (hfirst : Date.first ≤ t.date) (hlast : t.date ≤ Date.last) :
    read? t.layout = some t.truncated := by
  rw [read?, layout, String.toList_ofList, trimChars_layoutChars,
    dateTime_layoutChars ht hfirst hlast]

theorem layout_truncated (t : Instant) : t.truncated.layout = t.layout := by
  have hnanos : t.nanos / 1000000000 * 1000000000 / 1000000000 = t.nanos / 1000000000 :=
    Nat.mul_div_cancel _ (by decide)
  rw [layout, layout, layoutChars, layoutChars, timeChars, timeChars, truncated]
  dsimp only
  rw [hnanos]
  rfl

/-- A bound in the layout stays as it is: it is read, or it is text in no known form. -/
theorem normalize_layout (ht : t.IsSound) (endOfDay : Bool) :
    normalize endOfDay t.layout = t.layout := by
  rw [normalize, layout, String.toList_ofList, normalizeChars, trimChars_layoutChars,
    readRfc3339Chars?_layoutChars ht]
  by_cases hsupported : Date.first ≤ t.date ∧ t.date ≤ Date.last
  · rw [dateTime_layoutChars ht hsupported.1 hsupported.2]
    exact t.layout_truncated
  · have hdate : Reader.date t.layoutChars = none := Reader.date_chars_eq_none hsupported
    have hdateTime (separator : Reader Unit) : Reader.dateTime separator t.layoutChars = none := by
      rw [Reader.dateTime, hdate]
      rfl
    rw [hdateTime, hdateTime, Date.readChars?, hdate]

end Instant

end VisitLog

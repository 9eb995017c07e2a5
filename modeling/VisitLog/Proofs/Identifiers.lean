import Mathlib.Data.List.Induction
import VisitLog.Proofs.Readings

/-!
# Identifiers in time

An identifier begins with the stamp of a clock: the fields of its datetime and its nanoseconds, each
in digits of its own width. Such digits compare like numbers, so stamps compare like their clocks,
whatever follows them (`Visitor.idStamp_append_lt_iff`), and a clock is read off its stamp again
(`Visitor.ofStamp?_idStamp`). Behind the stamp there may be any digits (`Visitor.TellsTime.drawn`).

Main statement: `Visitor.sortsByTime`.
-/

namespace VisitLog

open Text

/-! ## Digits of a width -/

namespace Text

/-- Digits are written again from their value. -/
theorem fixedDigits_ofDigitChars {cs : List Char} (h : ∀ c ∈ cs, c.isDigit) :
    fixedDigits cs.length (Nat.ofDigitChars 10 cs 0) = cs := by
  induction cs using List.reverseRecOn with
  | nil => rfl
  | append_singleton cs c ih =>
    rw [List.forall_mem_append, List.forall_mem_singleton, Char.isDigit, Bool.and_eq_true,
      decide_eq_true_eq, decide_eq_true_eq] at h
    obtain ⟨hcs, hlow, hhigh⟩ := h
    change 48 ≤ c.toNat at hlow
    change c.toNat ≤ 57 at hhigh
    have hdiv : (10 * Nat.ofDigitChars 10 cs 0 + (c.toNat - 48)) / 10 = Nat.ofDigitChars 10
        cs 0 := by omega
    have hlast : digitChar (10 * Nat.ofDigitChars 10 cs 0 + (c.toNat - 48)) = c := by
      rw [← Char.toNat_inj, toNat_digitChar]
      omega
    rw [List.length_append, List.length_singleton, fixedDigits, Nat.ofDigitChars_append,
      Nat.ofDigitChars_cons, Nat.ofDigitChars_nil]
    change fixedDigits _ ((_ + (c.toNat - 48)) / 10) ++ [digitChar (_ + (c.toNat - 48))] = _
    rw [hdiv, ih hcs, hlast]

theorem length_paddedDigits_le {w n k : Nat} (hk : 0 < k) (hw : w ≤ k) (hn : n < 10 ^ k) :
    (paddedDigits w n).length ≤ k := by
  have hdigits : (Nat.toDigits 10 n).length ≤ k := (Nat.length_toDigits_le_iff (by decide) hk).2 hn
  rw [paddedDigits, List.length_append, List.length_replicate]
  omega

theorem paddedDigits_eq_fixedDigits {w n : Nat} (hw : 0 < w) (hn : n < 10 ^ w) :
    paddedDigits w n = fixedDigits w n := by
  have hle := length_paddedDigits_le hw (Nat.le_refl w) hn
  have hlength : (paddedDigits w n).length = w := by
    rw [paddedDigits, List.length_append, List.length_replicate] at *
    omega
  have hdigits : fixedDigits (paddedDigits w n).length (Nat.ofDigitChars 10 (paddedDigits w n) 0) =
      paddedDigits w n :=
    fixedDigits_ofDigitChars fun c hc => isDigit_of_mem_paddedDigits hc
  rwa [hlength, ofDigitChars_paddedDigits, eq_comm] at hdigits

variable {x y : List Char}

/-- Texts that start with the digits of dates are ordered by the dates first. -/
theorem dateDigits_append_lt_iff {a b : Date} (ha : a.HasFourDigits) (hb : b.HasFourDigits) :
    fixedDigits 4 a.civil.year.toNat ++
    (fixedDigits 2 a.civil.month ++ (fixedDigits 2 a.civil.day ++ x)) <
      fixedDigits 4 b.civil.year.toNat ++
      (fixedDigits 2 b.civil.month ++ (fixedDigits 2 b.civil.day ++ y)) ↔ a < b ∨
      a = b ∧ x < y := by
  have hab := a.civil_bounds
  have hbb := b.civil_bounds
  rw [Date.lt_iff_civil, Date.eq_iff_civil]
  unfold Date.HasFourDigits at ha hb
  generalize a.civil = c at *
  generalize b.civil = d at *
  obtain ⟨cy, cm, cd⟩ := c
  obtain ⟨dy, dm, dd⟩ := d
  dsimp only at *
  rw [fixedDigits_append_lt_iff (by omega) (by omega), fixedDigits_append_lt_iff
    (by omega) (by omega), fixedDigits_append_lt_iff (by omega) (by omega), Civil.mk.injEq]
  grind

theorem timeDigits_append_lt_iff {s r : Nat} (hs : s < 86400) (hr : r < 86400) :
    fixedDigits 2 (s / 3600) ++ (fixedDigits 2 (s / 60 % 60) ++ (fixedDigits 2 (s % 60) ++ x)) <
      fixedDigits 2 (r / 3600) ++ (fixedDigits 2 (r / 60 % 60) ++ (fixedDigits 2 (r % 60) ++ y)) ↔
      s < r ∨ s = r ∧ x < y := by
  rw [fixedDigits_append_lt_iff (by omega) (by omega), fixedDigits_append_lt_iff
    (by omega) (by omega), fixedDigits_append_lt_iff (by omega) (by omega)]
  by_cases hxy : x < y
  · simp only [hxy, and_true]
    omega
  · simp only [hxy, and_false, or_false]
    omega

end Text

/-! ## Clocks and their stamps -/

namespace Instant

variable {t u : Instant}

/-- What a clock shows in the years with four digits: it has no leap seconds. -/
structure IsClock (t : Instant) : Prop where
  hasFourDigits : t.date.HasFourDigits
  nanos_lt : t.nanos < 1000000000

theorem IsClock.within (h : t.IsClock) : t.Within 0 9999 :=
  ⟨.inl h.nanos_lt, h.hasFourDigits.1, h.hasFourDigits.2⟩

theorem secondOfDay_lt (t : Instant) : t.secondOfDay < 86400 := by
  unfold secondOfDay daySeconds
  omega

theorem lt_iff_date : t < u ↔ t.date < u.date ∨ t.date = u.date ∧
    (t.secondOfDay < u.secondOfDay ∨ t.secondOfDay = u.secondOfDay ∧ t.nanos < u.nanos) := by
  rw [lt_iff, date_lt_iff, date_eq_iff]
  unfold secondOfDay daySeconds
  omega

theorem eq_iff_date : t = u ↔ t.date = u.date ∧ t.secondOfDay = u.secondOfDay ∧
    t.nanos = u.nanos := by
  rw [date_eq_iff, Instant.mk.injEq]
  unfold secondOfDay daySeconds
  omega

/-- An instant is found from its date and the fields of its time. -/
theorem time_on_date (t : Instant) : (TimeOfDay.mk (t.secondOfDay / 3600) (t.secondOfDay / 60 % 60)
    (t.secondOfDay % 60) t.nanos).on t.date = t := by
  obtain ⟨s, n⟩ := t
  unfold TimeOfDay.on date secondOfDay daySeconds
  dsimp only
  rw [if_neg (by omega)]
  congr 1
  omega

/-- The instant whose stamp the text is. -/
def ofStamp? (cs : List Char) : Option Instant := do
  let (y, cs) ← Reader.digits 4 cs
  let (mo, cs) ← Reader.digits 2 cs
  let (d, cs) ← Reader.digits 2 cs
  let (h, cs) ← Reader.digits 2 cs
  let (mi, cs) ← Reader.digits 2 cs
  let (s, cs) ← Reader.digits 2 cs
  let (nanos, cs) ← Reader.digits 9 cs
  let date ← Date.ofCivil? ⟨y, mo, d⟩
  let time : TimeOfDay := { hour := h, minute := mi, second := s, nanos := nanos }
  if cs.isEmpty then return time.on date else none

end Instant

namespace Visitor

variable {t u : Instant} {x y : List Char}

theorem idStamp_of_isClock (ht : t.IsClock) : idStamp t =
    fixedDigits 4 t.date.civil.year.toNat ++
    (fixedDigits 2 t.date.civil.month ++ (fixedDigits 2 t.date.civil.day ++
      (fixedDigits 2 (t.secondOfDay / 3600) ++ (fixedDigits 2 (t.secondOfDay / 60 % 60) ++
        (fixedDigits 2 (t.secondOfDay % 60) ++ fixedDigits 9 t.nanos))))) := by
  rw [idStamp, Civil.yearChars_of_four ht.hasFourDigits, Nat.div_eq_of_lt ht.nanos_lt,
    paddedDigits_eq_fixedDigits (by decide) ht.nanos_lt]
  simp only [List.append_assoc, Nat.add_zero]

theorem length_idStamp (ht : t.IsClock) : (idStamp t).length = 23 := by
  simp [idStamp_of_isClock ht]

theorem isDigit_of_mem_idStamp (h : t.date.HasFourDigits) {c : Char}
    (hc : c ∈ idStamp t) : c.isDigit := by
  rw [idStamp, Civil.yearChars_of_four h] at hc
  simp only [List.mem_append] at hc
  rcases hc with (((((hc | hc) | hc) | hc) | hc) | hc) | hc
  all_goals first
    | exact isDigit_of_mem_fixedDigits hc
    | exact isDigit_of_mem_paddedDigits hc

/-- Stamps compare like their clocks, and texts with the same stamp like what follows it. -/
theorem idStamp_append_lt_iff (ht : t.IsClock) (hu : u.IsClock) :
    idStamp t ++ x < idStamp u ++ y ↔ t < u ∨ t = u ∧ x < y := by
  rw [idStamp_of_isClock ht, idStamp_of_isClock hu]
  simp only [List.append_assoc]
  rw [dateDigits_append_lt_iff ht.hasFourDigits hu.hasFourDigits,
    timeDigits_append_lt_iff t.secondOfDay_lt u.secondOfDay_lt, fixedDigits_append_lt_iff
      ht.nanos_lt hu.nanos_lt,
    Instant.lt_iff_date, Instant.eq_iff_date]
  grind

/-- The stamp of an identifier reads back to its nanosecond. -/
theorem ofStamp?_idStamp (ht : t.IsClock) : Instant.ofStamp? (idStamp t) = some t := by
  have hday := t.secondOfDay_lt
  have hbounds := t.date.civil_bounds
  have hsupported := ht.hasFourDigits.supported
  obtain ⟨hnonneg, hfour⟩ := ht.hasFourDigits
  have hcivil : (⟨t.date.civil.year.toNat, t.date.civil.month, t.date.civil.day⟩ : Civil) =
      t.date.civil := by
    rw [Int.toNat_of_nonneg hnonneg]
  rw [idStamp_of_isClock ht]
  unfold Instant.ofStamp?
  dsimp only [Option.bind_eq_bind]
  rw [Reader.digits_fixedDigits (by omega), Option.bind_some, Reader.digits_fixedDigits (by omega),
    Option.bind_some, Reader.digits_fixedDigits (by omega), Option.bind_some,
    Reader.digits_fixedDigits (by omega), Option.bind_some, Reader.digits_fixedDigits (by omega),
    Option.bind_some, Reader.digits_fixedDigits (by omega), Option.bind_some,
    Reader.digits_fixedDigits_nil ht.nanos_lt, Option.bind_some, hcivil,
    Date.ofCivil?_civil hsupported.1 (Int.le_of_lt hsupported.2), Option.bind_some]
  exact congrArg some t.time_on_date

/-! ## Identifiers -/

/-- An identifier has 32 digits; the stamp of the clock leaves room for random ones. -/
theorem length_makeId (h : t.Within 0 9999) (random : Nat) :
    (makeId t random).toList.length = 32 := by
  have hnanos : (paddedDigits 9 t.nanos).length ≤ 10 := by
    refine length_paddedDigits_le (by decide) (by decide) ?_
    have := h.sound.leap
    omega
  have hstamp : (idStamp t).length ≤ 24 := by
    have hyear : 0 ≤ t.date.civil.year ∧ t.date.civil.year ≤ 9999 := ⟨h.least_le, h.le_greatest⟩
    simp only [idStamp, Civil.yearChars_of_four hyear, List.length_append, length_fixedDigits]
    omega
  rw [makeId, String.toList_ofList, List.length_append, length_fixedDigits]
  omega

theorem isDigit_of_mem_makeId (h : t.date.HasFourDigits) (random : Nat) :
    ∀ c ∈ (makeId t random).toList, c.isDigit := by
  rw [makeId, String.toList_ofList, List.forall_mem_append]
  exact ⟨fun _ hc => isDigit_of_mem_idStamp h hc, fun _ hc => isDigit_of_mem_fixedDigits hc⟩

theorem toList_makeId (ht : t.IsClock) (random : Nat) :
    (makeId t random).toList = idStamp t ++ fixedDigits 9 random := by
  rw [makeId, String.toList_ofList, length_idStamp ht]

/-- Identifiers compare like their clocks, and those of one clock like the digits drawn for them. -/
theorem makeId_lt_iff (ht : t.IsClock) (hu : u.IsClock) (random random' : Nat) :
    makeId t random < makeId u random' ↔ t < u ∨ t = u ∧ fixedDigits 9 random <
      fixedDigits 9 random' := by
  rw [String.lt_iff, toList_makeId ht, toList_makeId hu, idStamp_append_lt_iff ht hu]

/-- How the identifiers of a clock tell its time, whatever is drawn for them. `length` and
`isDigit`: they are 32 digits. `ofStamp?`: the first 23 determine the clock. `drawn`: the others may
be any digits. -/
structure TellsTime (t : Instant) : Prop where
  length : ∀ random, (makeId t random).toList.length = 32
  isDigit : ∀ random, ∀ c ∈ (makeId t random).toList, c.isDigit
  ofStamp? : ∀ random, Instant.ofStamp? ((makeId t random).toList.take 23) = some t
  drawn : ∀ ds : List Char, ds.length = 9 → (∀ c ∈ ds, c.isDigit) →
    ∃ random, (makeId t random).toList.drop 23 = ds

theorem tellsTime (ht : t.IsClock) : TellsTime t where
  length random := length_makeId ht.within random
  isDigit random := isDigit_of_mem_makeId ht.hasFourDigits random
  ofStamp? random := by rw [toList_makeId ht, List.take_left' (length_idStamp ht),
    ofStamp?_idStamp ht]
  drawn ds hlength hds := by
    refine ⟨Nat.ofDigitChars 10 ds 0, ?_⟩
    rw [toList_makeId ht, List.drop_left' (length_idStamp ht), ← hlength,
      fixedDigits_ofDigitChars hds]

/-- Identifiers sort by the time at which they were made, whatever their random digits are. -/
theorem sortsByTime (ht : t.IsClock) (hu : u.IsClock) (h : t < u) :
    TellsTime t ∧ TellsTime u ∧ ∀ random random', makeId t random < makeId u random' :=
  ⟨tellsTime ht, tellsTime hu, fun random random' =>
    (makeId_lt_iff ht hu random random').2 (.inl h)⟩

theorem sortsByTime_newYear :
    makeId ⟨1735689599, 999999999⟩ 999999999 = "20241231235959999999999999999999" ∧
    makeId ⟨1735689600, 0⟩ 0 = "20250101000000000000000000000000" ∧
    TellsTime ⟨1735689599, 999999999⟩ ∧ TellsTime ⟨1735689600, 0⟩ ∧
      ∀ random random', makeId ⟨1735689599, 999999999⟩ random < makeId ⟨1735689600, 0⟩ random' :=
  ⟨by decide +kernel, by decide +kernel,
    sortsByTime ⟨⟨by decide, by decide⟩, by decide⟩ ⟨⟨by decide, by decide⟩, by decide⟩
      (.inl (by decide))⟩

end Visitor

end VisitLog

import VisitLog.Proofs.Readings

/-!
# Bounds with an offset from UTC

A bound in RFC 3339 is written into the stored layout as the instant that it names, so it compares
with the stored texts of the years 0 to 9999 like that instant, to the second. An offset may move
the instant out of these years, though not far. Before the year 0 it is written with a minus sign,
which comes before all digits, as it should. After the year 9999 it is written with a plus sign,
which comes before all digits as well.

Main statement: `Instant.comparesLikeTime_iff`.
-/

namespace VisitLog

open Text

/-! ## What readers leave -/

namespace Reader

variable {α : Type} {cs rest : List Char} {n m : Nat} {seconds : Int}

/-- A reader takes what it reads off the head of the text. -/
def TakesHead (read : Reader α) : Prop :=
  ∀ ⦃cs a rest⦄, read cs = some (a, rest) → rest <:+ cs

theorem takesHead_digits : TakesHead (digits n) := by
  intro cs m rest h
  obtain ⟨ds, rfl, -⟩ := readDigits_eq_some h
  exact List.suffix_append ds rest

theorem takesHead_char {c : Char} : TakesHead (char c) := by
  intro cs a rest h
  unfold char at h
  split at h
  · split at h
    · cases h
      exact List.suffix_cons ..
    · cases h
  · cases h

theorem takesHead_rfcSeparator : TakesHead rfcSeparator := by
  intro cs a rest h
  unfold rfcSeparator at h
  split at h
  · cases h
    exact List.suffix_cons ..
  · cases h
    exact List.suffix_cons ..
  · cases h
    exact List.suffix_cons ..
  · cases h

/-- A fraction is less than a second. -/
theorem fraction_eq_some (h : fraction cs = some (n, rest)) : n < 1000000000 ∧ rest <:+ cs := by
  unfold fraction at h
  split at h
  · next cs =>
    split at h
    · cases h
    · next m count left _ hscan =>
      obtain ⟨ds, rfl, -, rfl, hlength, hm⟩ := scanDigits_eq hscan
      cases h
      constructor
      · have hpow : 10 ^ ds.length * 10 ^ (9 - (0 + ds.length)) = 1000000000 := by
          rw [← Nat.pow_add, Nat.zero_add, Nat.add_sub_cancel' hlength]
        rw [Nat.zero_add, Nat.one_mul] at hm
        rw [← hpow]
        exact Nat.mul_lt_mul_of_pos_right hm (Nat.pow_pos (by decide))
      · exact (List.dropWhile_suffix _).trans
          ((List.suffix_append ds left).trans (List.suffix_cons ..))
  · cases h
    exact ⟨by decide, List.suffix_refl _⟩

/-- Digits that end a text end it with a digit. -/
theorem exists_concat_of_digits (hn : 0 < n) (h : digits n cs = some (m, [])) :
    ∃ init c, cs = init ++ [c] ∧ isBlank c = false := by
  obtain ⟨ds, rfl, hds, hlength, -⟩ := readDigits_eq_some h
  rw [List.append_nil]
  rcases List.eq_nil_or_concat ds with rfl | ⟨init, c, rfl⟩
  · rw [List.length_nil] at hlength
    omega
  · exact ⟨init, c, List.concat_eq_append .., isBlank_of_isDigit (hds c (by simp))⟩

/-- An offset is a number of minutes, and a text that ends with it does not end with a blank. -/
theorem offset_eq_some (h : offset cs = some (seconds, [])) :
    seconds % 60 = 0 ∧ ∃ init c, cs = init ++ [c] ∧ isBlank c = false := by
  unfold offset at h
  split at h
  · cases h
    exact ⟨rfl, [], 'Z', rfl, rfl⟩
  · cases h
    exact ⟨rfl, [], 'z', rfl, rfl⟩
  · next sign cs _ _ =>
    extract_lets signed at h
    obtain ⟨isNegative, hsigned⟩ : ∃ isNegative, signed isNegative = some (seconds, []) := by
      split at h
      · exact ⟨false, h⟩
      · split at h
        · exact ⟨true, h⟩
        · cases h
    obtain ⟨⟨hours, cs₁⟩, hhours, hsigned⟩ := Option.bind_eq_some_iff.1 hsigned
    obtain ⟨⟨_, cs₂⟩, hcolon, hsigned⟩ := Option.bind_eq_some_iff.1 hsigned
    obtain ⟨⟨minutes, cs₃⟩, hminutes, hdone⟩ := Option.bind_eq_some_iff.1 hsigned
    dsimp only at hdone
    split at hdone
    · cases hdone
      constructor
      · split <;> omega
      · obtain ⟨init, c, hinit, hc⟩ := exists_concat_of_digits (by decide) hminutes
        obtain ⟨before, hbefore⟩ :=
          (takesHead_char hcolon).trans ((takesHead_digits hhours).trans (List.suffix_cons sign cs))
        refine ⟨before ++ init, c, ?_, hc⟩
        rw [← hbefore, List.append_assoc, ← hinit]
    · cases hdone
  · cases h

end Reader

namespace Instant

variable {cs : List Char} {b s : String} {t u : Instant}

/-- What was read as RFC 3339: a time of day on a date, with an offset of minutes and a fraction of
a second. The text begins with a digit and does not end with a blank. -/
structure IsReading (cs : List Char) (t : Instant) : Prop where
  named : ∃ (d : Date) (time : TimeOfDay) (seconds : Int), time.isValid ∧ time.nanos < 1000000000 ∧
    seconds % 60 = 0 ∧ t = ⟨(time.on d).seconds - seconds, (time.on d).nanos⟩
  head : ∃ c rest, cs = c :: rest ∧ c.isDigit
  last : ∃ init c, cs = init ++ [c] ∧ isBlank c = false

/-- Whatever the reader accepts was taken apart field by field, and each field was in range. -/
theorem isReading_of_readRfc3339Chars? (h : readRfc3339Chars? cs = some t) : IsReading cs t := by
  unfold readRfc3339Chars? at h
  obtain ⟨⟨y, cs₁⟩, hyear, h⟩ := Option.bind_eq_some_iff.1 h
  obtain ⟨⟨_, cs₂⟩, hdash, h⟩ := Option.bind_eq_some_iff.1 h
  obtain ⟨⟨mo, cs₃⟩, hmonth, h⟩ := Option.bind_eq_some_iff.1 h
  obtain ⟨⟨_, cs₄⟩, hdash', h⟩ := Option.bind_eq_some_iff.1 h
  obtain ⟨⟨d, cs₅⟩, hday, h⟩ := Option.bind_eq_some_iff.1 h
  obtain ⟨⟨_, cs₆⟩, hsep, h⟩ := Option.bind_eq_some_iff.1 h
  obtain ⟨⟨h₁, cs₇⟩, hhour, h⟩ := Option.bind_eq_some_iff.1 h
  obtain ⟨⟨_, cs₈⟩, hcolon, h⟩ := Option.bind_eq_some_iff.1 h
  obtain ⟨⟨mi, cs₉⟩, hminute, h⟩ := Option.bind_eq_some_iff.1 h
  obtain ⟨⟨_, cs₁₀⟩, hcolon', h⟩ := Option.bind_eq_some_iff.1 h
  obtain ⟨⟨s, cs₁₁⟩, hsecond, h⟩ := Option.bind_eq_some_iff.1 h
  obtain ⟨⟨nanos, cs₁₂⟩, hfraction, h⟩ := Option.bind_eq_some_iff.1 h
  obtain ⟨⟨seconds, cs₁₃⟩, hoffset, h⟩ := Option.bind_eq_some_iff.1 h
  obtain ⟨date, -, hdone⟩ := Option.bind_eq_some_iff.1 h
  dsimp only at hdone
  obtain ⟨hnanos, htail⟩ := Reader.fraction_eq_some hfraction
  split at hdone
  · next hvalid =>
    obtain rfl : cs₁₃ = [] := List.isEmpty_iff.1 hvalid.2
    obtain ⟨hminutes, init, c, hinit, hc⟩ := Reader.offset_eq_some hoffset
    cases hdone
    constructor
    case named => exact ⟨date, _, seconds, hvalid.1, hnanos, hminutes, rfl⟩
    case head =>
      obtain ⟨ds, rfl, hds, hlength, -⟩ := readDigits_eq_some hyear
      have hpos : 0 < ds.length := Nat.lt_of_lt_of_le (by decide) hlength
      obtain ⟨c, ds, rfl⟩ := List.exists_cons_of_ne_nil (List.ne_nil_of_length_pos hpos)
      exact ⟨c, ds ++ cs₁, rfl, hds c List.mem_cons_self⟩
    case last =>
      have hsuffix : cs₁₂ <:+ cs :=
        htail.trans <| (Reader.takesHead_digits hsecond).trans <|
          (Reader.takesHead_char hcolon').trans <|
        (Reader.takesHead_digits hminute).trans <| (Reader.takesHead_char hcolon).trans <|
        (Reader.takesHead_digits hhour).trans <| (Reader.takesHead_rfcSeparator hsep).trans <|
        (Reader.takesHead_digits hday).trans <| (Reader.takesHead_char hdash').trans <|
        (Reader.takesHead_digits hmonth).trans <| (Reader.takesHead_char hdash).trans <|
        Reader.takesHead_digits hyear
      obtain ⟨before, rfl⟩ := hsuffix
      refine ⟨before ++ init, c, ?_, hc⟩
      rw [List.append_assoc, ← hinit]
  · cases hdone

/-- An offset of minutes leaves a leap second at the end of a minute. -/
theorem IsReading.isSound (h : IsReading cs t) : t.IsSound := by
  obtain ⟨d, time, seconds, hvalid, hnanos, hminutes, rfl⟩ := h.named
  unfold TimeOfDay.on IsSound daySeconds
  split
  · right
    dsimp only
    omega
  · left
    exact hnanos

theorem IsReading.trimChars (h : IsReading cs t) : trimChars cs = cs := by
  obtain ⟨c, rest, hhead, hc⟩ := h.head
  obtain ⟨init, x, hlast, hx⟩ := h.last
  have hstart : trimStart cs = cs := by
    rw [hhead, trimStart_cons_of_isDigit hc]
  rw [Text.trimChars, hstart, hlast, trimEnd, List.reverse_concat, List.dropWhile_cons_of_neg
    (by rw [hx]; decide), List.reverse_cons, List.reverse_reverse]

/-- A bound that names an instant is written as the instant. -/
theorem normalize_of_readRfc3339? (h : readRfc3339? b = some t) (endOfDay : Bool) :
    normalize endOfDay b = t.layout := by
  rw [normalize, normalizeChars, (isReading_of_readRfc3339Chars? h).trimChars]
  rw [readRfc3339?] at h
  rw [h]
  rfl

/-! ## Comparing bounds -/

/-- A bound compares with a stored text as the times do that they name. -/
structure ComparesLikeTime (b s : String) (t u : Instant) : Prop where
  atLeast : normalize false b ≤ s ↔ t.truncated ≤ u
  atMost : s ≤ normalize true b ↔ u ≤ t.truncated

/-- A text that is in the layout names an instant to the second. -/
theorem truncated_of_read? (hs : read? s = some u) (hlayout : s = u.layout) (hu : u.Within 0 9999) :
    u.truncated = u := by
  have hdate : u.date.HasFourDigits := ⟨hu.least_le, hu.le_greatest⟩
  have hread : read? u.layout = some u.truncated :=
    read?_layout hu.sound hdate.supported.1 (Int.le_of_lt hdate.supported.2)
  rw [hlayout, hread] at hs
  exact Option.some.inj hs

/-- Bounds compare like times up to the year 9999, and with no stored text after it. -/
theorem comparesLikeTime_iff (hb : readRfc3339? b = some t) (hs : read? s = some u)
    (hlayout : s = u.layout)
    (hu : u.Within 0 9999) : ComparesLikeTime b s t u ↔ t.year ≤ 9999 := by
  have hsound : t.IsSound := (isReading_of_readRfc3339Chars? hb).isSound
  have htruncated : u.truncated = u := truncated_of_read? hs hlayout hu
  constructor
  · intro h
    refine Int.not_lt.1 fun hyear => ?_
    have hsigned : t.layout < u.layout :=
      layout_lt_of_year_signed (fun hfour => Int.not_lt.2 hfour.2 hyear) hu
    have hle : t.truncated ≤ u := by
      rw [← h.atLeast, normalize_of_readRfc3339? hb, hlayout]
      exact String.not_lt.1 (String.lt_asymm hsigned)
    have hlater : t.truncated.year ≤ u.year := year_le_year hle
    exact Int.not_lt.2 (Int.le_trans hlater hu.le_greatest) hyear
  · intro hyear
    constructor
    case atLeast =>
      rw [normalize_of_readRfc3339? hb, hlayout, ← String.not_lt, lt_layout_iff_of_year_le hsound
        hyear hu, htruncated, not_lt]
    case atMost =>
      rw [normalize_of_readRfc3339? hb, hlayout, ← String.not_lt, layout_lt_iff_of_year_le hsound
        hyear hu, htruncated, not_lt]

/-- Half an hour into the year 0, an hour ahead of UTC: still the year before. -/
def yearZero : String := "0000-01-01T00:30:00.5+01:00"

theorem comparesLikeTime_iff_yearZero : readRfc3339? yearZero = some ⟨-62167221000, 500000000⟩ ∧
    read? "0000-01-01 00:00:00" = some ⟨-62167219200, 0⟩ ∧
    "0000-01-01 00:00:00" = layout ⟨-62167219200, 0⟩ ∧ Within 0 9999 ⟨-62167219200, 0⟩ ∧
    ComparesLikeTime yearZero "0000-01-01 00:00:00" ⟨-62167221000, 500000000⟩
      ⟨-62167219200, 0⟩ := by
  have hb : readRfc3339? yearZero = some ⟨-62167221000, 500000000⟩ := by decide
  have hs : read? "0000-01-01 00:00:00" = some ⟨-62167219200, 0⟩ := by decide
  have hlayout : "0000-01-01 00:00:00" = layout ⟨-62167219200, 0⟩ := by decide
  have hwithin : Within 0 9999 ⟨-62167219200, 0⟩ := ⟨.inl (by decide), by decide, by decide⟩
  exact ⟨hb, hs, hlayout, hwithin, (comparesLikeTime_iff hb hs hlayout hwithin).2 (by decide)⟩

/-- The last half hour of the year 9999, an hour behind UTC: already the year after. -/
def yearTenThousand : String := "9999-12-31T23:30:00-01:00"

theorem not_comparesLikeTime_yearTenThousand : ¬∀ (b s : String) (t u : Instant),
    readRfc3339? b = some t → t.nanos < 1000000000 → read? s = some u → s = u.layout →
    u.Within 0 9999 → ComparesLikeTime b s t u := by
  intro hall
  have hb : readRfc3339? yearTenThousand = some ⟨253402302600, 0⟩ := by decide
  have hwithin : Within 0 9999 ⟨1718454645, 0⟩ := ⟨.inl (by decide), by decide, by decide⟩
  have hcompares : ComparesLikeTime yearTenThousand "2024-06-15 12:30:45" ⟨253402302600, 0⟩
      ⟨1718454645, 0⟩ :=
    hall _ _ _ _ hb (by decide) (by decide) (by decide) hwithin
  have hbefore : (⟨253402302600, 0⟩ : Instant).truncated ≤ ⟨1718454645, 0⟩ :=
    hcompares.atLeast.1 (by decide)
  rw [le_iff] at hbefore
  revert hbefore
  decide

end Instant

end VisitLog

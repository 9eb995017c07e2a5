import VisitLog.Proofs.Bounds
import VisitLog.Proofs.Sessions

/-!
# Normal forms of datetimes

A bound in a form that is recognised becomes the layout of an instant (`exists_layout_of_isBound`),
and all other text is only trimmed. The layout of an instant is none of the forms that are tried
before it, and it reads back as itself, so what was normalized once stays as it is. A bare date
stands for its first or its last second (`normalize_of_isSpelling`), so its two bounds have the
texts of that date between them.

Main statements: `Instant.keepsTime` and `staysNormalized`.
-/

namespace VisitLog

open Text

/-! ## Instants that readers find -/

theorem TimeOfDay.isSound_on {time : TimeOfDay} (h : time.nanos < 1000000000) (d : Date) :
    (time.on d).IsSound := by
  unfold TimeOfDay.on Instant.IsSound Instant.daySeconds
  split
  · right
    dsimp only
    omega
  · left
    exact h

namespace Reader

variable {separator : Reader Unit} {cs rest : List Char} {time : TimeOfDay} {t : Instant}

theorem nanos_of_time (h : Reader.time cs = some (time, rest)) : time.nanos = 0 := by
  obtain ⟨⟨hour, cs₁⟩, -, h⟩ := Option.bind_eq_some_iff.1 h
  obtain ⟨⟨_, cs₂⟩, -, h⟩ := Option.bind_eq_some_iff.1 h
  obtain ⟨⟨minute, cs₃⟩, -, h⟩ := Option.bind_eq_some_iff.1 h
  obtain ⟨⟨_, cs₄⟩, -, h⟩ := Option.bind_eq_some_iff.1 h
  obtain ⟨⟨second, cs₅⟩, -, h⟩ := Option.bind_eq_some_iff.1 h
  dsimp only at h
  split at h
  · cases h
    rfl
  · cases h

theorem isSound_of_dateTime (h : dateTime separator cs = some t) : t.IsSound := by
  obtain ⟨⟨d, cs₁⟩, -, h⟩ := Option.bind_eq_some_iff.1 h
  obtain ⟨⟨_, cs₂⟩, -, h⟩ := Option.bind_eq_some_iff.1 h
  obtain ⟨⟨time, cs₃⟩, htime, h⟩ := Option.bind_eq_some_iff.1 h
  dsimp only at h
  split at h
  · cases h
    apply TimeOfDay.isSound_on
    rw [nanos_of_time htime]
    decide
  · cases h

end Reader

/-! ## Bare dates -/

namespace Text

variable {least least' most n : Nat} {cs rest : List Char}

theorem readDigits_mono (hle : least' ≤ least) (h : readDigits least most cs = some (n, rest)) :
    readDigits least' most cs = some (n, rest) := by
  unfold readDigits at h ⊢
  split at h
  next hscan =>
  split at h
  · next hleast =>
    cases h
    exact if_pos (Nat.le_trans hle hleast)
  · cases h

theorem exists_cons_of_readDigits (hleast : 0 < least)
    (h : readDigits least most cs = some (n, rest)) :
    ∃ c cs', cs = c :: cs' ∧ c.isDigit := by
  obtain ⟨ds, rfl, hds, hlength, -⟩ := readDigits_eq_some h
  cases ds with
  | nil => cases Nat.lt_of_lt_of_le hleast hlength
  | cons c ds => exact ⟨c, ds ++ rest, rfl, hds c List.mem_cons_self⟩

end Text

namespace Reader

variable {cs rest : List Char} {n : Nat}

/-- Where the strict reader finds a field of a date, the lenient one finds the same. -/
theorem field_of_digits (h : digits 2 cs = some (n, rest)) : field 2 cs = some (n, rest) := by
  obtain ⟨c, cs', rfl, hc⟩ := exists_cons_of_readDigits (by decide) h
  rw [field, trimStart_cons_of_isDigit hc]
  exact readDigits_mono (by decide) h

theorem year_of_digits (h : digits 4 cs = some (n, rest)) : year cs = some ((n : Int), rest) := by
  obtain ⟨c, cs', rfl, hc⟩ := exists_cons_of_readDigits (by decide) h
  have hread : readDigits 1 4 (c :: cs') = some (n, rest) := readDigits_mono (by decide) h
  rw [year, trimStart_cons_of_isDigit hc]
  split
  · next e => cases e; cases hc
  · next e => cases e; cases hc
  · rw [hread]
    rfl

/-- The strict reader goes on behind the date. -/
theorem exists_date_of_readRfc3339Chars? {t : Instant} (h : Instant.readRfc3339Chars? cs = some t) :
    ∃ d c rest, date cs = some (d, c :: rest) := by
  unfold Instant.readRfc3339Chars? at h
  obtain ⟨⟨y, cs₁⟩, hyear, h⟩ := Option.bind_eq_some_iff.1 h
  obtain ⟨⟨_, cs₂⟩, hdash, h⟩ := Option.bind_eq_some_iff.1 h
  obtain ⟨⟨mo, cs₃⟩, hmonth, h⟩ := Option.bind_eq_some_iff.1 h
  obtain ⟨⟨_, cs₄⟩, hdash', h⟩ := Option.bind_eq_some_iff.1 h
  obtain ⟨⟨k, cs₅⟩, hday, h⟩ := Option.bind_eq_some_iff.1 h
  obtain ⟨⟨_, cs₆⟩, hsep, h⟩ := Option.bind_eq_some_iff.1 h
  obtain ⟨_, -, h⟩ := Option.bind_eq_some_iff.1 h
  obtain ⟨_, -, h⟩ := Option.bind_eq_some_iff.1 h
  obtain ⟨_, -, h⟩ := Option.bind_eq_some_iff.1 h
  obtain ⟨_, -, h⟩ := Option.bind_eq_some_iff.1 h
  obtain ⟨_, -, h⟩ := Option.bind_eq_some_iff.1 h
  obtain ⟨_, -, h⟩ := Option.bind_eq_some_iff.1 h
  obtain ⟨_, -, h⟩ := Option.bind_eq_some_iff.1 h
  obtain ⟨d, hdate, -⟩ := Option.bind_eq_some_iff.1 h
  obtain ⟨c, rest, rfl⟩ : ∃ c rest, cs₅ = c :: rest := by
    cases cs₅ with
    | nil => cases hsep
    | cons c rest => exact ⟨c, rest, rfl⟩
  refine ⟨d, c, rest, ?_⟩
  simp only [date, Option.bind_eq_bind, Option.pure_def]
  rw [year_of_digits hyear, Option.bind_some, hdash, Option.bind_some, field_of_digits hmonth,
    Option.bind_some, hdash', Option.bind_some, field_of_digits hday, Option.bind_some, hdate,
    Option.bind_some]

/-- A date that ends the text is neither a time of RFC 3339 nor one in a layout. -/
theorem readRfc3339Chars?_of_date {d : Date} (h : date cs = some (d, [])) :
    Instant.readRfc3339Chars? cs = none := by
  cases hread : Instant.readRfc3339Chars? cs with
  | none => rfl
  | some t =>
    obtain ⟨d', c, rest, hdate⟩ := exists_date_of_readRfc3339Chars? hread
    rw [h] at hdate
    cases hdate

theorem dateTime_blanks_of_date {d : Date} (h : date cs = some (d, [])) :
    dateTime blanks cs = none := by
  rw [dateTime, h]
  rfl

theorem dateTime_char_of_date {c : Char} {d : Date} (h : date cs = some (d, [])) :
    dateTime (char c) cs = none := by
  rw [dateTime, h]
  rfl

end Reader

namespace Date

variable {d : Date} {b : String} {cs : List Char}

/-- The text is a bare date, which may be written with fewer digits and with blanks. -/
def IsSpelling (d : Date) (b : String) : Prop :=
  readChars? (trimChars b.toList) = some d

theorem readChars?_eq_some : readChars? cs = some d ↔ Reader.date cs = some (d, []) := by
  unfold readChars?
  split
  · next e hread => rw [hread, Option.some.injEq, Option.some.injEq, Prod.mk.injEq,
      and_iff_left rfl]
  · next hno =>
    constructor
    · intro h
      cases h
    · intro h
      cases hno d h

theorem trimChars_civil_chars (d : Date) : trimChars d.civil.chars = d.civil.chars := by
  obtain ⟨cs, h⟩ : ∃ cs, d.civil.chars = cs ++ [digitChar d.civil.day] := by
    simp only [Civil.chars, fixedDigits, ← List.append_assoc, ← List.cons_append]
    exact ⟨_, rfl⟩
  have hdashed : Dashed (d.civil.chars ++ []) := Civil.dashed_chars ..
  rw [List.append_nil] at hdashed
  rw [trimChars, trimStart_of_dashed hdashed, h, trimEnd_concat_of_isDigit (isDigit_digitChar _)]

theorem isSpelling_text (hfirst : first ≤ d) (hlast : d ≤ last) : IsSpelling d d.text := by
  have hread : Reader.date (d.civil.chars ++ []) = some (d, []) := Reader.date_chars hfirst hlast
  rw [List.append_nil] at hread
  rw [IsSpelling, text, String.toList_ofList, trimChars_civil_chars]
  exact readChars?_eq_some.2 hread

end Date

/-- The second of the day that a bare date means as a bound. -/
def daySecond (endOfDay : Bool) : Nat :=
  if endOfDay then 86399 else 0

theorem layout_ofDay_daySecond (d : Date) (endOfDay : Bool) :
    (Instant.ofDay d (daySecond endOfDay)).layout =
    String.ofList (d.civil.chars ++ ' ' :: dayEnd endOfDay) := by
  rw [String.ofList_append, ← Date.text]
  cases endOfDay with
  | false => exact Instant.layout_ofDay_first d
  | true => exact Instant.layout_ofDay_last d

theorem normalize_of_isSpelling {d : Date} {b : String} (h : d.IsSpelling b) (endOfDay : Bool) :
    normalize endOfDay b = (Instant.ofDay d (daySecond endOfDay)).layout := by
  have hdate := Date.readChars?_eq_some.1 h
  rw [layout_ofDay_daySecond, normalize, normalizeChars, Reader.readRfc3339Chars?_of_date hdate,
    Reader.dateTime_blanks_of_date hdate, Reader.dateTime_char_of_date hdate, h]

/-! ## The layout keeps time -/

namespace Instant

variable {t u v : Instant} {d : Date} {b : String}

theorem clip_layout (ht : t.date.HasFourDigits) : clip 10 t.layout = t.date.text := by
  have hlength : t.date.civil.chars.length = 10 := by
    rw [Civil.chars, Civil.yearChars_of_four ht]
    simp
  rw [clip, layout, String.toList_ofList, layoutChars, List.take_append_of_le_length
    (Nat.le_of_eq hlength.symm), List.take_of_length_le (Nat.le_of_eq hlength), Date.text]

/-- A year that is written with a sign does not begin with a digit. -/
theorem clip_layout_ne (ht : ¬t.date.HasFourDigits) (hd : d.HasFourDigits) :
    clip 10 t.layout ≠ d.text := by
  intro h
  have ht : ¬(0 ≤ t.date.civil.year ∧ t.date.civil.year ≤ 9999) := ht
  have hhead := congrArg (fun s : String => s.toList.head?) h
  rw [toList_clip, layout, layoutChars, Civil.chars, Civil.yearChars, if_neg ht,
    Date.text, Civil.chars, Civil.yearChars_of_four hd, String.toList_ofList,
    String.toList_ofList] at hhead
  obtain ⟨c, cs, hc, hdigit⟩ := exists_fixedDigits_append (w := 4) (by decide) d.civil.year.toNat
    ('-' :: (fixedDigits 2 d.civil.month ++ '-' :: fixedDigits 2 d.civil.day))
  rw [hc] at hhead
  split at hhead
  · cases hhead
    cases hdigit
  · cases hhead
    cases hdigit

theorem clip_layout_iff (ht : t.IsPlain) (hd : d.HasFourDigits) : clip 10 t.layout = d.text ↔
    t.date = d := by
  by_cases hyear : t.date.HasFourDigits
  · rw [clip_layout hyear]
    constructor
    · exact Date.text_injective ⟨ht.first_le, ht.le_last⟩
        ⟨hd.supported.1, Int.le_of_lt hd.supported.2⟩
    · rintro rfl
      rfl
  · refine iff_of_false (clip_layout_ne hyear hd) ?_
    rintro rfl
    exact hyear hd

/-- What the stored layout keeps of the times `t`, `u` and `v` and of a bare date `b`. -/
structure KeepsTime (t u v : Instant) (d : Date) (b : String) : Prop where
  /-- A layout reads back, to the second. -/
  reads : read? t.layout = some ⟨t.seconds, 0⟩
  /-- As texts, layouts are in the order of the seconds that they name. -/
  compares : u.layout < v.layout ↔ u.truncated < v.truncated
  spells : d.IsSpelling d.text
  /-- The two bounds of a bare date have the layouts between them that begin with the date. -/
  selects : normalize false b ≤ t.layout ∧ t.layout ≤ normalize true b ↔ clip 10 t.layout = d.text
  dates : clip 10 t.layout = d.text ↔ t.date = d

/-- The layout of times is faithful and ordered, and the two bounds of a date are the first and the
last text of that day. -/
theorem keepsTime (ht : t.IsPlain) (hu : u.Within 0 9999) (hv : v.Within 0 9999)
    (hd : d.HasFourDigits)
    (hb : d.IsSpelling b) : KeepsTime t u v d b where
  reads := ht.read?_layout
  compares := layout_lt_layout_iff hu hv
  spells := Date.isSpelling_text hd.supported.1 (Int.le_of_lt hd.supported.2)
  selects := by
    rw [normalize_of_isSpelling hb, normalize_of_isSpelling hb, clip_layout_iff ht hd]
    exact between_iff ht hd
  dates := clip_layout_iff ht hd

/-- The leap day of the year 0, and its last nanosecond. -/
def leapDay : Date := ⟨-719469⟩

def leapDayEnd : Instant := ⟨-62162035201, 999999999⟩

/-- A leap second at the end of the year 9999. -/
def lastLeap : Instant := ⟨253402300799, 1000000000⟩

theorem keepsTime_leapDay : leapDayEnd.IsPlain ∧ endOfTime.Within 0 9999 ∧ lastLeap.Within 0 9999 ∧
    leapDay.HasFourDigits ∧ leapDay.IsSpelling "0000-2-29" ∧
    KeepsTime leapDayEnd endOfTime lastLeap leapDay "0000-2-29" := by
  have ht : leapDayEnd.IsPlain := ⟨by decide, by decide, by decide⟩
  have hu : endOfTime.Within 0 9999 := ⟨.inl (by decide), by decide, by decide⟩
  have hv : lastLeap.Within 0 9999 := ⟨.inr (by decide), by decide, by decide⟩
  have hd : leapDay.HasFourDigits := by
    constructor <;> decide
  have hb : leapDay.IsSpelling "0000-2-29" := by
    unfold Date.IsSpelling
    decide
  exact ⟨ht, hu, hv, hd, hb, keepsTime ht hu hv hd hb⟩

end Instant

/-! ## Normalizing again -/

theorem Text.trimChars_trim (s : String) : trimChars (trim s).toList = trimChars s.toList := by
  rw [← toList_trim, trim_trim, toList_trim]

theorem isBound_trim (s : String) : isBound (trim s) = isBound s := by
  rw [isBound, trimChars_trim, isBound]

theorem normalize_trim (endOfDay : Bool) (s : String) :
    normalize endOfDay (trim s) = normalize endOfDay s := by
  rw [normalize, normalizeChars, trimChars_trim, normalize, normalizeChars]

/-- A bound that is recognised is brought into the layout of an instant. -/
theorem exists_layout_of_isBound {s : String} (h : isBound s) (endOfDay : Bool) :
    ∃ t : Instant, t.IsSound ∧ normalize endOfDay s = t.layout := by
  simp only [isBound, Bool.or_eq_true, or_assoc] at h
  rw [normalize, normalizeChars]
  split
  · next t hread => exact ⟨t, (Instant.isReading_of_readRfc3339Chars? hread).isSound, rfl⟩
  split
  · next t hread => exact ⟨t, Reader.isSound_of_dateTime hread, rfl⟩
  split
  · next t hread => exact ⟨t, Reader.isSound_of_dateTime hread, rfl⟩
  split
  · next d hread => exact ⟨_, Instant.isSound_ofDay d _, (layout_ofDay_daySecond d endOfDay).symm⟩
  · simp_all

theorem normalize_of_not_isBound {s : String} (h : ¬isBound s) (endOfDay : Bool) :
    normalize endOfDay s = trim s := by
  simp only [isBound, Bool.or_eq_true, not_or, Bool.not_eq_true, Option.isSome_eq_false_iff,
    Option.isNone_iff_eq_none]
    at h
  obtain ⟨⟨⟨hrfc, hlayout⟩, hlayout'⟩, hdate⟩ := h
  rw [normalize, normalizeChars, hrfc, hlayout, hlayout', hdate]
  rfl

theorem normalize_normalize (e e' : Bool) (s : String) :
    normalize e' (normalize e s) = normalize e s := by
  by_cases h : isBound s
  · obtain ⟨t, ht, hlayout⟩ := exists_layout_of_isBound h e
    rw [hlayout]
    exact Instant.normalize_layout ht e'
  · have hagain : ¬isBound (trim s) := by rwa [isBound_trim]
    rw [normalize_of_not_isBound h, normalize_of_not_isBound hagain, trim_trim]

theorem trim_normalize (e : Bool) (s : String) : trim (normalize e s) = normalize e s := by
  by_cases h : isBound s
  · obtain ⟨t, -, hlayout⟩ := exists_layout_of_isBound h e
    rw [hlayout, Instant.trim_layout]
  · rw [normalize_of_not_isBound h, trim_trim]

/-- Only blank text becomes empty. -/
theorem normalize_eq_empty_iff {e : Bool} {s : String} : normalize e s = "" ↔ trim s = "" := by
  by_cases h : isBound s
  · obtain ⟨t, -, hlayout⟩ := exists_layout_of_isBound h e
    rw [hlayout]
    refine iff_of_false t.layout_ne_empty fun hblank => ?_
    rw [← isBound_trim, hblank] at h
    revert h
    decide
  · rw [normalize_of_not_isBound h]

/-- A filter whose bound was normalized is the filter itself. -/
theorem filled?_normalize (e e' : Bool) (given : Option String) :
    (filled? (given.map (normalize e))).map (normalize e') = (filled? given).map (normalize e) := by
  cases given with
  | none =>
    have hnone : filled? none = none := rfl
    rw [Option.map_none, hnone, Option.map_none, Option.map_none]
  | some s =>
    rw [Option.map_some, filled?_some, filled?_some, trim_normalize]
    by_cases h : trim s = ""
    · rw [if_pos (normalize_eq_empty_iff.2 h), if_pos h, Option.map_none, Option.map_none]
    · rw [if_neg (mt normalize_eq_empty_iff.1 h), if_neg h, Option.map_some, Option.map_some,
        normalize_normalize, normalize_trim]

namespace Options

/-- The options with their bounds brought into the stored layout. -/
def normalized (o : Options) : Options :=
  { o with
    createdFrom := o.createdFrom.map (normalize false)
    createdTo := o.createdTo.map (normalize true) }

end Options

namespace Query

variable {t now : Instant}

theorem conditionsOf_normalized (now : Instant) (o : Options) :
    conditionsOf now o.normalized = conditionsOf now o := by
  have hbound (e : Bool) (given : Option String) (condition : String → Condition) :
      ((filled? (given.map (normalize e))).map fun s => condition (normalize e s)) =
        (filled? given).map fun s => condition (normalize e s) := by
    have hfilled := congrArg (Option.map condition) (filled?_normalize e e given)
    rwa [Option.map_map, Option.map_map] at hfilled
  unfold conditionsOf Options.normalized
  dsimp only
  rw [hbound false o.createdFrom (.atLeast .createdAt),
    hbound true o.createdTo (.atMost .createdAt)]
  rfl

theorem conditionsOf_windowOptions (now : Instant) (h : (Session.windowStart t).IsSound) :
    conditionsOf now (Session.windowOptions t) =
      [.atLeast .createdAt (Session.windowStart t).layout, .above .deletedAt now.layout] := by
  have hnormalize := Instant.normalize_layout h false
  rw [Session.windowStart] at hnormalize ⊢
  unfold conditionsOf Session.windowOptions
  dsimp only
  rw [Instant.filled?_layout, Option.map_some, hnormalize]
  rfl

end Query

namespace Instant

variable {t : Instant}

/-- A count of nanoseconds of up to two seconds is written like one at the end of a minute. -/
theorem exists_isSound (h : t.nanos < 2000000000) :
    ∃ u : Instant, u.IsSound ∧ u.date = t.date ∧ u.timeChars = t.timeChars := by
  by_cases ht : t.IsSound
  · exact ⟨t, ht, rfl, rfl⟩
  · unfold IsSound at ht
    have hsecond : t.secondOfDay % 60 ≠ 59 := by
      unfold secondOfDay daySeconds
      omega
    refine ⟨⟨t.seconds + 1, t.nanos - 1000000000⟩, .inl (by dsimp only; omega), ?_, ?_⟩
    · unfold date daySeconds
      congr 1
      dsimp only
      omega
    · have hnext : secondOfDay ⟨t.seconds + 1, t.nanos - 1000000000⟩ = t.secondOfDay + 1 := by
        unfold secondOfDay daySeconds at *
        dsimp only
        omega
      have hhour : (t.secondOfDay + 1) / 3600 = t.secondOfDay / 3600 := by omega
      have hminute : (t.secondOfDay + 1) / 60 % 60 = t.secondOfDay / 60 % 60 := by omega
      have hsum : (t.secondOfDay + 1) % 60 + (t.nanos - 1000000000) / 1000000000 =
          t.secondOfDay % 60 + t.nanos / 1000000000 := by omega
      simp only [timeChars, hnext, hhour, hminute, hsum]

theorem normalize_layout_of_nanos_lt (h : t.nanos < 2000000000) (e : Bool) :
    normalize e t.layout = t.layout := by
  obtain ⟨u, hu, hdate, htime⟩ := exists_isSound h
  have hlayout : u.layout = t.layout := by rw [layout, layoutChars, hdate, htime,
    layout, layoutChars]
  rw [← hlayout, normalize_layout hu]

/-- No leap second comes whole days before another one. -/
theorem nanos_addDays_lt {n : Int} (h : t.nanos < 2000000000) (hn : n ≠ 0) :
    (t.addDays n).nanos < 1000000000 := by
  rcases t.addDays_cases n with ⟨hplain, hdays⟩ | ⟨-, -, hdays⟩ | ⟨-, -, hdays⟩
  · rw [hdays]
    exact hplain.resolve_right hn
  all_goals
    rw [hdays]
    dsimp only
    omega

end Instant

/-- What was normalized is normal: a text `s`, the layout of an instant `t`, the bounds of options,
those of the window of sessions before `t` and those of a day `d`. -/
structure StaysNormalized (s : String) (e e' : Bool) (t : Instant) (d : Date) : Prop where
  again : normalize e' (normalize e s) = normalize e s
  layout : normalize e t.layout = t.layout
  query : ∀ (now : Instant) (o : Options), Query.conditionsOf now o.normalized =
    Query.conditionsOf now o
  window : ∀ now : Instant, Query.conditionsOf now (Session.windowOptions t) =
    [.atLeast .createdAt (Session.windowStart t).layout, .above .deletedAt now.layout]
  day : ∀ (now : Instant) (distinct : Option String),
    Query.conditionsOf now { DailyStats.dayOptions d with distinct := distinct } =
      [.atLeast .createdAt (d.text ++ " 00:00:00"), .atMost .createdAt (d.text ++ " 23:59:59"),
        .above .deletedAt now.layout]

/-- Normalizing a second time changes nothing, whichever of the readers took the text, and with
either flag. -/
theorem staysNormalized (s : String) (e e' : Bool) {t : Instant} (ht : t.nanos < 2000000000)
    (d : Date) :
    StaysNormalized s e e' t d where
  again := normalize_normalize e e' s
  layout := Instant.normalize_layout_of_nanos_lt ht e
  query := Query.conditionsOf_normalized
  window now := by
    apply Query.conditionsOf_windowOptions
    left
    exact Instant.nanos_addDays_lt ht (by decide)
  day now distinct := by
    rw [DailyStats.conditionsOf_dayOptions, Instant.layout_ofDay_first, Instant.layout_ofDay_last]

/-- A bare date after the year 9999, and a time in the middle of a minute with more than a second of
nanoseconds. -/
theorem staysNormalized_signed : Instant.nanos ⟨45, 1500000000⟩ < 2000000000 ∧
    normalize true " +10000-2-29" = "+10000-02-29 23:59:59" ∧
    StaysNormalized " +10000-2-29" true false ⟨45, 1500000000⟩ Instant.leapDay :=
  ⟨by decide, by decide, staysNormalized " +10000-2-29" true false (by decide) Instant.leapDay⟩

end VisitLog

import VisitLog.Calendar.Reading
import VisitLog.Database.Row

/-!
# Texts that datetime columns keep

A datetime column turns text that spells a number into that number, so it may give back another text
than it was given. No datetime spells a number: after the digits of its year comes a dash
(`numeral?_eq_none_of_dashed`). Hence the stored layout, the layout of every clock and every bound
that `normalize` recognises are kept as they are, and a record whose datetimes are kept comes back
from its row unchanged (`toVisitor_ofVisitor`).
-/

namespace VisitLog

open Text

/-! ## Text that begins like a date -/

namespace Text

theorem digitValue?_isSome {c : Char} (h : c.isDigit) : (digitValue? c).isSome := by
  rw [Char.isDigit, Bool.and_eq_true, decide_eq_true_eq, decide_eq_true_eq] at h
  rw [digitValue?, if_pos]
  · rfl
  · exact h

theorem toNat_digitChar (n : Nat) : (digitChar n).toNat = 48 + n % 10 := by
  have h : n % 10 < 10 := Nat.mod_lt _ (by decide)
  rw [digitChar]
  generalize n % 10 = d at h
  revert d
  decide

theorem isDigit_digitChar (n : Nat) : (digitChar n).isDigit := by
  have h := toNat_digitChar n
  rw [Char.isDigit, Bool.and_eq_true, decide_eq_true_eq, decide_eq_true_eq]
  change 48 ≤ (digitChar n).toNat ∧ (digitChar n).toNat ≤ 57
  omega

theorem isDigit_of_mem_fixedDigits {width n : Nat} {c : Char} (h : c ∈ fixedDigits width n) :
    c.isDigit := by
  induction width generalizing n with
  | zero => cases h
  | succ width ih =>
    rcases List.mem_append.1 h with h | h
    · exact ih h
    · rw [List.mem_singleton.1 h]
      exact isDigit_digitChar n

theorem isDigit_of_mem_paddedDigits {width n : Nat} {c : Char} (h : c ∈ paddedDigits width n) :
    c.isDigit := by
  rcases List.mem_append.1 h with h | h
  · rw [List.eq_of_mem_replicate h]
    rfl
  · exact Nat.isDigit_of_mem_toDigits (by decide) (by decide) h

/-- The text begins with a year and a dash: digits, after a sign perhaps, and then a dash. -/
inductive Dashed : List Char → Prop
  | plain {ds rest : List Char} (hne : ds ≠ []) (hds : ∀ d ∈ ds, d.isDigit) :
      Dashed (ds ++ '-' :: rest)
  | signed {sign : Char} {ds rest : List Char} (hs : sign = '-' ∨ sign = '+')
      (hds : ∀ d ∈ ds, d.isDigit) : Dashed (sign :: (ds ++ '-' :: rest))

end Text

namespace Stored

/-- Digits are read up to a dash. -/
theorem wholeDigits_append {ds : List Char} (hds : ∀ d ∈ ds, d.isDigit) (rest : List Char)
    (s dropped whole count : Nat) :
    ∃ s' dropped' whole' count', wholeDigits s dropped whole count (ds ++ '-' :: rest) =
      (s', dropped', whole', count', '-' :: rest) := by
  induction ds generalizing s dropped whole count with
  | nil => exact ⟨s, dropped, whole, count, by simp [wholeDigits, digitValue?]⟩
  | cons d ds ih =>
    obtain ⟨n, hn⟩ := Option.isSome_iff_exists.1 (digitValue?_isSome (hds d List.mem_cons_self))
    have hds' : ∀ d ∈ ds, d.isDigit := fun d hd => hds d (List.mem_cons_of_mem _ hd)
    simp only [List.cons_append, wholeDigits, hn]
    split <;> exact ih hds' ..

theorem isNumericBlank_of_isDigit {c : Char} (h : c.isDigit) : isNumericBlank c = false := by
  rw [Char.isDigit, Bool.and_eq_true, decide_eq_true_eq, decide_eq_true_eq] at h
  rw [Bool.eq_false_iff]
  intro hb
  rw [isNumericBlank, Bool.or_eq_true, Bool.and_eq_true, decide_eq_true_eq, decide_eq_true_eq,
    decide_eq_true_eq] at hb
  rcases hb with rfl | ⟨_, hr⟩
  · exact absurd h.1 (by decide)
  · exact absurd (Nat.le_trans h.1 hr) (by decide)

theorem sign_of_isDigit {c : Char} (h : c.isDigit) (cs : List Char) :
    sign (c :: cs) = (false, c :: cs) := by
  unfold sign
  split
  · next e => cases e; exact absurd h (by decide)
  · next e => cases e; exact absurd h (by decide)
  · rfl

/-- The dash behind the year ends the digits, and no number goes on with it. -/
theorem numeral?_eq_none_of_dashed {cs : List Char} (h : Dashed cs) : numeral? cs = none := by
  cases h with
  | @plain ds rest hne hds =>
    obtain ⟨s, dropped, whole, count, e⟩ := wholeDigits_append hds rest 0 0 0 0
    obtain ⟨d, ds, rfl⟩ := List.exists_cons_of_ne_nil hne
    have hd := hds d List.mem_cons_self
    have hdrop : (d :: (ds ++ '-' :: rest)).dropWhile isNumericBlank = d :: (ds ++ '-' :: rest) :=
      List.dropWhile_cons_of_neg (by simp [isNumericBlank_of_isDigit hd])
    rw [List.cons_append] at e
    simp [numeral?, hdrop, sign_of_isDigit hd, e, isNumericBlank]
  | @signed sign ds rest hs hds =>
    obtain ⟨s, dropped, whole, count, e⟩ := wholeDigits_append hds rest 0 0 0 0
    rcases hs with rfl | rfl <;> simp [numeral?, isNumericBlank, Stored.sign, e]

/-- No column takes the text for a number. -/
def IsKept (s : String) : Prop := numeral? s.toList = none

theorem IsKept.ofText [Engine] {s : String} (h : IsKept s) (numeric : Bool) :
    ofText numeric s = .text s :=
  ofText_of_not_numeric h

end Stored

/-! ## The stored layout -/

theorem Civil.dashed_yearChars (year : Int) (rest : List Char) :
    Dashed (yearChars year ++ '-' :: rest) := by
  unfold yearChars
  split
  · refine .plain (fun e => ?_) fun d hd => isDigit_of_mem_fixedDigits hd
    have := congrArg List.length e
    simp at this
  · refine .signed ?_ fun d hd => isDigit_of_mem_paddedDigits hd
    split
    · exact .inl rfl
    · exact .inr rfl

theorem Civil.dashed_chars (c : Civil) (rest : List Char) : Dashed (c.chars ++ rest) := by
  rw [chars, List.append_assoc, List.cons_append]
  exact dashed_yearChars ..

namespace Instant

theorem isKept_layout (t : Instant) : Stored.IsKept t.layout := by
  rw [Stored.IsKept, layout, String.toList_ofList]
  exact Stored.numeral?_eq_none_of_dashed (Civil.dashed_chars ..)

/-- A digit stands for every digit. -/
def zeroed (c : Char) : Char :=
  if c.isDigit then '0' else c

theorem isDigit_of_zeroed {c : Char} (h : zeroed c = '0') : c.isDigit := by
  unfold zeroed at h
  split at h
  · assumption
  · rw [h]; rfl

theorem eq_of_zeroed {c x : Char} (h : zeroed c = x) (hx : x ≠ '0') : c = x := by
  unfold zeroed at h
  split at h
  · exact absurd h.symm hx
  · exact h

/-- The text stands in the stored layout `YYYY-MM-DD HH:MM:SS`, digit by digit. -/
def isLayout (s : String) : Bool :=
  s.toList.map zeroed == "0000-00-00 00:00:00".toList

theorem isKept_of_isLayout {s : String} (h : isLayout s) : Stored.IsKept s := by
  refine Stored.numeral?_eq_none_of_dashed ?_
  obtain ⟨ys, rest, hs, hys, hrest⟩ : ∃ ys rest, s.toList = ys ++ rest ∧
      ys.map zeroed = ['0', '0', '0', '0'] ∧ rest.map zeroed = "-00-00 00:00:00".toList :=
    List.map_eq_append_iff.1 ((beq_iff_eq.1 h).trans rfl)
  obtain ⟨dash, rest, rfl, hdash, -⟩ := List.map_eq_cons_iff.1 hrest
  rw [hs, eq_of_zeroed hdash (by decide)]
  refine .plain (fun e => by simp [e] at hys) fun d hd => isDigit_of_zeroed ?_
  have : zeroed d ∈ ['0', '0', '0', '0'] := hys ▸ List.mem_map_of_mem hd
  simpa using this

end Instant

/-! ## Bounds -/

/-- The text is a bound in a form that `normalize` recognises: RFC 3339, the stored layout, the same
with a `T`, or a bare date. -/
def isBound (s : String) : Bool :=
  let cs := trimChars s.toList
  (Instant.readRfc3339Chars? cs).isSome || (Reader.dateTime Reader.blanks cs).isSome ||
    (Reader.dateTime (Reader.char 'T') cs).isSome || (Date.readChars? cs).isSome

/-- The database keeps a normalized bound as the text that it is. -/
theorem isKept_normalize {s : String} (endOfDay : Bool) (h : isBound s) :
    Stored.IsKept (normalize endOfDay s) := by
  simp only [isBound, Bool.or_eq_true, or_assoc] at h
  rw [Stored.IsKept, normalize, String.toList_ofList, normalizeChars]
  split
  · exact Stored.numeral?_eq_none_of_dashed (Civil.dashed_chars ..)
  split
  · exact Stored.numeral?_eq_none_of_dashed (Civil.dashed_chars ..)
  split
  · exact Stored.numeral?_eq_none_of_dashed (Civil.dashed_chars ..)
  split
  · exact Stored.numeral?_eq_none_of_dashed (Civil.dashed_chars ..)
  · simp_all

/-! ## Records -/

namespace Visitor

/-- Every datetime column gives back the text that the record has in it. -/
def IsKept (v : Visitor) : Prop :=
  ∀ c : Column, c.isDatetime → Stored.IsKept (v.value c)

/-- All datetimes of the record stand in the stored layout. -/
def InLayout (v : Visitor) : Prop :=
  ∀ c : Column, c.isDatetime → Instant.isLayout (v.value c)

theorem InLayout.isKept {v : Visitor} (h : v.InLayout) : v.IsKept :=
  fun c hc => Instant.isKept_of_isLayout (h c hc)

theorem inLayout_of_all {v : Visitor}
    (h : Column.all.all fun c => !c.isDatetime || Instant.isLayout (v.value c)) : v.InLayout := by
  intro c hc
  have hlayout := List.all_eq_true.1 h c c.mem_all
  simpa [hc] using hlayout

theorem IsKept.ofText [Engine] {v : Visitor} (h : v.IsKept) (c : Column) :
    Stored.ofText c.isDatetime (v.value c) = .text (v.value c) := by
  cases hc : c.isDatetime with
  | false => rfl
  | true => exact (h c hc).ofText true

theorem IsKept.clean {v : Visitor} (h : v.IsKept) : v.clean.IsKept := h

end Visitor

namespace Row

theorem value_toVisitor (r : Row) (c : Column) : r.toVisitor.value c = (r.value c).toText := rfl

variable [Engine]

theorem value_ofVisitor {v : Visitor} (h : v.IsKept) (c : Column) :
    (ofVisitor v).value c = .text (v.value c) :=
  h.ofText c

/-- A row gives back the record that it stores, with nothing in it changed. -/
theorem toVisitor_ofVisitor {v : Visitor} (h : v.IsKept) : (ofVisitor v).toVisitor = v.clean := by
  simp only [toVisitor, value_ofVisitor h, Stored.toText_text, Visitor.clean]

/-- The row stores a record whose datetimes stand in the stored layout. -/
def InLayout (r : Row) : Prop :=
  ∃ v : Visitor, v.InLayout ∧ r = ofVisitor v

theorem InLayout.isKept {r : Row} (h : r.InLayout) : r.toVisitor.IsKept := by
  obtain ⟨v, hv, rfl⟩ := h
  rw [toVisitor_ofVisitor hv.isKept]
  exact hv.isKept.clean

theorem InLayout.value {r : Row} (h : r.InLayout) (c : Column) :
    r.value c = .text (r.toVisitor.value c) := by
  obtain ⟨v, hv, rfl⟩ := h
  rw [toVisitor_ofVisitor hv.isKept, value_ofVisitor hv.isKept, Visitor.value_clean]

end Row

end VisitLog

/-!
# Decimal digits

Writing naturals with a fixed or a least number of decimal digits, and reading runs of digits.

Main statements: `length_fixedDigits` (the width is exact) and `intOfDigits?_toDigits` (a number
reads back).
-/

namespace VisitLog.Text

/-- The character of a decimal digit; only the last digit of `n` counts. -/
def digitChar (n : Nat) : Char :=
  Char.ofNat (48 + n % 10)

/-- The last `width` decimal digits of `n`, most significant first, zero padded. -/
def fixedDigits : Nat → Nat → List Char
  | 0, _ => []
  | width + 1, n => fixedDigits width (n / 10) ++ [digitChar n]

/-- The decimal digits of `n`, at least `width` of them. -/
def paddedDigits (width n : Nat) : List Char :=
  let digits := Nat.toDigits 10 n
  List.replicate (width - digits.length) '0' ++ digits

/-- The value of an ASCII decimal digit. -/
def digitValue? (c : Char) : Option Nat :=
  if '0' ≤ c ∧ c ≤ '9' then some (c.toNat - 48) else none

/-- The longest run of at most `max` digits at the head of the text: the value accumulated onto
`acc`, the number of digits read, and what is left. -/
def scanDigits : (max : Nat) → (acc count : Nat) → List Char → Nat × Nat × List Char
  | 0, acc, count, cs => (acc, count, cs)
  | _ + 1, acc, count, [] => (acc, count, [])
  | max + 1, acc, count, c :: cs =>
    match digitValue? c with
    | some d => scanDigits max (acc * 10 + d) (count + 1) cs
    | none => (acc, count, c :: cs)

/-- Reads between `least` and `most` digits, as many as there are. -/
def readDigits (least most : Nat) (cs : List Char) : Option (Nat × List Char) :=
  match scanDigits most 0 0 cs with
  | (n, count, rest) => if least ≤ count then some (n, rest) else none

/-- The whole text as a natural number in ASCII digits. -/
def natOfDigits? (cs : List Char) : Option Nat :=
  match readDigits 1 cs.length cs with
  | some (n, []) => some n
  | _ => none

/-- The whole text as an integer: an optional sign, then ASCII digits. -/
def intOfDigits? : List Char → Option Int
  | '-' :: cs => (natOfDigits? cs).map fun n => -(n : Int)
  | '+' :: cs => (natOfDigits? cs).map Int.ofNat
  | cs => (natOfDigits? cs).map Int.ofNat

/-- The decimal text of an integer. -/
def intText (n : Int) : String :=
  if n < 0 then String.ofList ('-' :: Nat.toDigits 10 n.natAbs)
  else String.ofList (Nat.toDigits 10 n.natAbs)

/-- The decimal text of a natural number. -/
def natText (n : Nat) : String :=
  String.ofList (Nat.toDigits 10 n)

/-! ## Lemmas -/

@[simp] theorem length_fixedDigits (width n : Nat) : (fixedDigits width n).length = width := by
  induction width generalizing n with
  | zero => rfl
  | succ w ih => simp [fixedDigits, ih]

theorem digitValue?_of_isDigit {c : Char} (h : c.isDigit) :
    digitValue? c = some (c.toNat - '0'.toNat) := by
  rw [Char.isDigit, Bool.and_eq_true, decide_eq_true_eq, decide_eq_true_eq] at h
  exact if_pos h

theorem scanDigits_of_isDigit {cs : List Char} (h : ∀ c ∈ cs, c.isDigit) (acc count : Nat) :
    scanDigits cs.length acc count cs = (Nat.ofDigitChars 10 cs acc, count + cs.length, []) := by
  induction cs generalizing acc count with
  | nil => rfl
  | cons c cs ih =>
    rw [List.forall_mem_cons] at h
    rw [List.length_cons, scanDigits, digitValue?_of_isDigit h.1]
    dsimp only
    rw [ih h.2, Nat.ofDigitChars_cons, Nat.mul_comm acc 10, Nat.add_assoc, Nat.add_comm 1]

/-- A number reads back from its digits. -/
theorem intOfDigits?_toDigits (n : Nat) : intOfDigits? (Nat.toDigits 10 n) = some (n : Int) := by
  have hdigits : ∀ c ∈ Nat.toDigits 10 n, c.isDigit :=
    fun c => Nat.isDigit_of_mem_toDigits (by decide) (by decide)
  have hlength : 1 ≤ 0 + (Nat.toDigits 10 n).length := by
    rw [Nat.zero_add]
    exact Nat.length_toDigits_pos
  have hread : natOfDigits? (Nat.toDigits 10 n) = some n := by
    rw [natOfDigits?, readDigits, scanDigits_of_isDigit hdigits, Nat.ofDigitChars_ten_toDigits]
    dsimp only
    rw [if_pos hlength]
  unfold intOfDigits?
  split
  · next hcs =>
    rw [hcs] at hdigits
    exact absurd (hdigits _ List.mem_cons_self) (by decide)
  · next hcs =>
    rw [hcs] at hdigits
    exact absurd (hdigits _ List.mem_cons_self) (by decide)
  · rw [hread]
    rfl

theorem toList_intText {n : Int} (h : 0 ≤ n) : (intText n).toList = Nat.toDigits 10 n.natAbs := by
  rw [intText, if_neg (Int.not_lt.2 h), String.toList_ofList]

theorem isDigit_of_mem_intText {n : Int} (h : 0 ≤ n) {c : Char}
    (hc : c ∈ (intText n).toList) : c.isDigit := by
  rw [toList_intText h] at hc
  exact Nat.isDigit_of_mem_toDigits (by decide) (by decide) hc

theorem intOfDigits?_intText {n : Int} (h : 0 ≤ n) : intOfDigits? (intText n).toList = some n := by
  rw [toList_intText h, intOfDigits?_toDigits, Int.natAbs_of_nonneg h]

end VisitLog.Text

import VisitLog.Text.Digits

/-!
# Integers of 64 bits

Reading integers within bounds, with the reason why a text is none: the first character that is no
digit or that leaves the bounds decides.

Main statement: `readInteger_intText` (an integer of 64 bits reads back from its text).
-/

namespace VisitLog.Text

/-- Why a text is no integer of 64 bits. -/
inductive IntegerFault where
  | empty
  | invalidDigit
  | tooLarge
  | tooSmall
  deriving DecidableEq, Repr

/-- The fault in words. -/
def IntegerFault.message : IntegerFault → String
  | empty => "cannot parse integer from empty string"
  | invalidDigit => "invalid digit found in string"
  | tooLarge => "number too large to fit in target type"
  | tooSmall => "number too small to fit in target type"

/-- Reads digits onto a magnitude; the first digit that leaves the range or is none ends it. -/
def scanInteger (limit : Nat) (fault : IntegerFault) : Nat → List Char → Except IntegerFault Nat
  | n, [] => .ok n
  | n, c :: cs =>
    match digitValue? c with
    | none => .error .invalidDigit
    | some d => if limit < n * 10 + d then .error fault else scanInteger limit fault (n * 10 + d) cs

/-- The integer of 64 bits that a text is. -/
def readInteger : List Char → Except IntegerFault Int
  | [] => .error .empty
  | ['+'] | ['-'] => .error .invalidDigit
  | '-' :: cs =>
    match scanInteger 0x8000000000000000 .tooSmall 0 cs with
    | .ok n => .ok (-(n : Int))
    | .error fault => .error fault
  | '+' :: cs =>
    match scanInteger 0x7FFFFFFFFFFFFFFF .tooLarge 0 cs with
    | .ok n => .ok n
    | .error fault => .error fault
  | cs =>
    match scanInteger 0x7FFFFFFFFFFFFFFF .tooLarge 0 cs with
    | .ok n => .ok n
    | .error fault => .error fault

/-! ## Lemmas -/

theorem le_ofDigitChars (base n : Nat) (cs : List Char) (h : 0 < base) :
    n ≤ Nat.ofDigitChars base cs n := by
  induction cs generalizing n with
  | nil => exact Nat.le_refl n
  | cons c cs ih =>
    rw [Nat.ofDigitChars_cons]
    refine Nat.le_trans ?_ (ih _)
    exact Nat.le_trans (Nat.le_mul_of_pos_left n h) (Nat.le_add_right _ _)

/-- Digits are read as the number that they stand for, if it is within the limit. -/
theorem scanInteger_of_isDigit {cs : List Char} (h : ∀ c ∈ cs, c.isDigit) (limit : Nat)
    (fault : IntegerFault) {n : Nat} (hn : n ≤ limit) :
    scanInteger limit fault n cs =
      if Nat.ofDigitChars 10 cs n ≤ limit then .ok (Nat.ofDigitChars 10 cs n)
      else .error fault := by
  induction cs generalizing n with
  | nil => exact (if_pos hn).symm
  | cons c cs ih =>
    rw [List.forall_mem_cons] at h
    rw [scanInteger, digitValue?_of_isDigit h.1, Nat.ofDigitChars_cons, Nat.mul_comm 10 n]
    dsimp only
    split
    · next hlimit =>
      have hle := le_ofDigitChars 10 (n * 10 + (c.toNat - '0'.toNat)) cs (by decide)
      rw [if_neg (by omega)]
    · next hlimit => exact ih h.2 (by omega)

theorem scanInteger_toDigits {n limit : Nat} (fault : IntegerFault) (h : n ≤ limit) :
    scanInteger limit fault 0 (Nat.toDigits 10 n) = .ok n := by
  rw [scanInteger_of_isDigit (fun c => Nat.isDigit_of_mem_toDigits (by decide) (by decide)) limit
    fault (Nat.zero_le limit), Nat.ofDigitChars_ten_toDigits, if_pos h]

theorem readInteger_minus {n : Nat} (h : n ≤ 0x8000000000000000) :
    readInteger ('-' :: Nat.toDigits 10 n) = .ok (-(n : Int)) := by
  obtain ⟨d, ds, hds⟩ := List.exists_cons_of_length_pos (Nat.length_toDigits_pos (b := 10) (n := n))
  rw [hds, readInteger, ← hds, scanInteger_toDigits _ h]
  simp

theorem readInteger_toDigits {n : Nat} (h : n ≤ 0x7FFFFFFFFFFFFFFF) :
    readInteger (Nat.toDigits 10 n) = .ok (n : Int) := by
  obtain ⟨d, ds, hds⟩ := List.exists_cons_of_length_pos (Nat.length_toDigits_pos (b := 10) (n := n))
  have hd : d.isDigit :=
    Nat.isDigit_of_mem_toDigits (by decide) (by decide) (hds ▸ List.mem_cons_self)
  have hplus : d ≠ '+' := by
    rintro rfl
    cases hd
  have hminus : d ≠ '-' := by
    rintro rfl
    cases hd
  rw [hds, readInteger, ← hds, scanInteger_toDigits _ h]
  all_goals simp [hplus, hminus]

/-- An integer of 64 bits reads back from its text. -/
theorem readInteger_intText {n : Int} (hleast : -0x8000000000000000 ≤ n)
    (hgreatest : n ≤ 0x7FFFFFFFFFFFFFFF) : readInteger (intText n).toList = .ok n := by
  by_cases hn : n < 0
  · have hvalue : -(n.natAbs : Int) = n := by omega
    rw [intText, if_pos hn, String.toList_ofList, readInteger_minus (by omega), hvalue]
  · have hvalue : (n.natAbs : Int) = n := by omega
    rw [intText, if_neg hn, String.toList_ofList, readInteger_toDigits (by omega), hvalue]

end VisitLog.Text

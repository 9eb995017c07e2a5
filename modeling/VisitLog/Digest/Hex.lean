/-!
# Hexadecimal text

Lower-case and upper-case hexadecimal digits, fixed-width writing of words, and the value of a
digit.
-/

namespace VisitLog.Hex

/-- The lower-case digit of a value below 16; larger values count modulo 16. -/
def digit (n : Nat) : Char :=
  let n := n % 16
  Char.ofNat (if n < 10 then 48 + n else 87 + n)

/-- The upper-case digit of a value below 16; larger values count modulo 16. -/
def upperDigit (n : Nat) : Char :=
  let n := n % 16
  Char.ofNat (if n < 10 then 48 + n else 55 + n)

/-- The value of a hexadecimal digit of either case. -/
def value? (c : Char) : Option Nat :=
  if '0' ≤ c ∧ c ≤ '9' then some (c.toNat - 48)
  else if 'a' ≤ c ∧ c ≤ 'f' then some (c.toNat - 87)
  else if 'A' ≤ c ∧ c ≤ 'F' then some (c.toNat - 55)
  else none

/-- The last `width` hexadecimal digits of `n`, most significant first. -/
def fixed : Nat → Nat → List Char
  | 0, _ => []
  | width + 1, n => fixed width (n / 16) ++ [digit n]

/-- The shortest lower-case hexadecimal text of `n`. -/
def text (n : Nat) : List Char :=
  Nat.toDigits 16 n

theorem length_fixed (width n : Nat) : (fixed width n).length = width := by
  induction width generalizing n with
  | zero => rfl
  | succ w ih => simp [fixed, ih]

/-- The character is a lower-case hexadecimal digit. -/
def isDigit (c : Char) : Bool :=
  ('0' ≤ c && c ≤ '9') || ('a' ≤ c && c ≤ 'f')

theorem isDigit_digit (n : Nat) : isDigit (digit n) := by
  have h : ∀ m, m < 16 → isDigit (digit m) := by decide
  have := h (n % 16) (Nat.mod_lt _ (by decide))
  simpa [digit] using this

theorem all_isDigit_fixed (width n : Nat) : (fixed width n).all isDigit := by
  induction width generalizing n with
  | zero => rfl
  | succ w ih => simp [fixed, ih, isDigit_digit]

end VisitLog.Hex

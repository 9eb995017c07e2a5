import VisitLog.Database.Engine

/-!
# Text in columns

Datetime columns turn text that looks like a number into that number, when it is stored and when it
is compared with; all other columns keep text as it is. Digits alone that fit 64 bits are an
integer. What floating point number other numerals are is the engine's matter.

Main statement: `ofText_of_not_numeric` (text that is no number is kept).
-/

namespace VisitLog

open Text

namespace Stored

/-! ## Numeric text -/

/-- The blanks that may surround a number. -/
def isNumericBlank (c : Char) : Bool :=
  c = ' ' || ('\t' ≤ c && c ≤ '\r')

/-- A number as it is spelled: sign, significant digits as a natural, a power of ten, and whether
digits alone were written. -/
structure Numeral where
  negative : Bool
  significand : Nat
  power : Int
  isWhole : Bool
  /-- All digits before a point or an exponent. -/
  whole : Nat
  deriving DecidableEq, Repr

/-- Beyond this significand further digits no longer count. -/
def significandLimit : Nat := (0x10000000000000000 - 10) / 10

/-- The digits before the point: the significand, the digits dropped, the exact value and the count
of digits, and what follows. -/
def wholeDigits : (s dropped whole count : Nat) → List Char → Nat × Nat × Nat × Nat × List Char
  | s, dropped, whole, count, [] => (s, dropped, whole, count, [])
  | s, dropped, whole, count, c :: cs =>
    match digitValue? c with
    | some d =>
      if s < significandLimit then wholeDigits (s * 10 + d) dropped (whole * 10 + d) (count + 1) cs
      else wholeDigits s (dropped + 1) (whole * 10 + d) (count + 1) cs
    | none => (s, dropped, whole, count, c :: cs)

/-- The digits after the point: the significand, the places taken up and the count of digits. -/
def fractionDigits : (s places count : Nat) → List Char → Nat × Nat × Nat × List Char
  | s, places, count, [] => (s, places, count, [])
  | s, places, count, c :: cs =>
    match digitValue? c with
    | some d =>
      if s < significandLimit then fractionDigits (s * 10 + d) (places + 1) (count + 1) cs
      else fractionDigits s places count cs
    | none => (s, places, count, c :: cs)

/-- Whether a minus sign stands at the head of a text, and what follows the sign, if there is
one. -/
def sign : List Char → Bool × List Char
  | '-' :: cs => (true, cs)
  | '+' :: cs => (false, cs)
  | cs => (false, cs)

/-- The digits of an exponent: its value, their count, and what follows. From 10000 on a further
digit makes the value 10000. -/
def exponentDigits : (e count : Nat) → List Char → Nat × Nat × List Char
  | e, count, [] => (e, count, [])
  | e, count, c :: cs =>
    match digitValue? c with
    | some d => exponentDigits (if e < 10000 then e * 10 + d else 10000) (count + 1) cs
    | none => (e, count, c :: cs)

/-- An exponent after its letter. -/
def exponent? (cs : List Char) : Option (Int × List Char) :=
  let (negative, cs) := sign cs
  match exponentDigits 0 0 cs with
  | (_, 0, _) => none
  | (e, _, rest) => some (if negative then -(e : Int) else e, rest)

/-- The number that a text spells, surrounded by blanks at most. -/
def numeral? (text : List Char) : Option Numeral := do
  let (negative, cs) := sign (text.dropWhile isNumericBlank)
  let (s, dropped, whole, count, cs) := wholeDigits 0 0 0 0 cs
  let (s, places, count, cs, hasPoint) :=
    match cs with
    | '.' :: cs =>
      let (s, places, count, cs) := fractionDigits s 0 count cs
      (s, places, count, cs, true)
    | cs => (s, 0, count, cs, false)
  let (power, cs, hasExponent) ←
    match cs with
    | 'e' :: cs | 'E' :: cs => (exponent? cs).map fun (e, cs) => (e, cs, true)
    | cs => some ((0 : Int), cs, false)
  if count = 0 ∨ ¬ cs.all isNumericBlank then none
  else return { negative := negative, significand := s, power := (dropped : Int) - places + power
                isWhole := !hasPoint && !hasExponent, whole := whole }

/-- Integers of 64 bits. -/
def leastInteger : Int := -0x8000000000000000

/-- Integers of 64 bits. -/
def greatestInteger : Int := 0x7FFFFFFFFFFFFFFF

variable [Engine]

/-- The value of a numeral: digits alone that fit 64 bits are an integer, all else is a floating
point number, and that is an integer again if it is whole and within 64 bits. -/
def Numeral.value (n : Numeral) : Stored :=
  let exact : Int := if n.negative then -(n.whole : Int) else n.whole
  if n.isWhole && leastInteger ≤ exact && exact ≤ greatestInteger then .integer exact
  else
    let x := if n.significand = 0 then Binary64.ofInt 0
      else Engine.real n.negative n.significand n.power
    match x.toInt? with
    | some i => if leastInteger < i ∧ i < greatestInteger then .integer i else .real x
    | none => .real x

/-- A text as a column stores it and compares with it; `numeric` columns hold datetimes. -/
def ofText (numeric : Bool) (s : String) : Stored :=
  if numeric then
    match numeral? s.toList with
    | some n => n.value
    | none => .text s
  else .text s

/-! ## Lemmas -/

theorem ofText_of_not_numeric {numeric : Bool} {s : String} (h : numeral? s.toList = none) :
    ofText numeric s = .text s := by
  cases numeric <;> simp [ofText, h]

@[simp] theorem ofText_false (s : String) : ofText false s = .text s := rfl

end Stored

end VisitLog

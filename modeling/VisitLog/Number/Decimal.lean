import VisitLog.Number.Binary64
import VisitLog.Text.AsciiCase
import VisitLog.Text.Digits

/-!
# Numbers in decimal

A decimal numeral is an optional sign, digits with a point among them, and perhaps an exponent; the
words `inf`, `infinity` and `nan` count as numerals, whatever the case of their letters. Beyond the
range of numbers a numeral is infinite or zero.

Main statement: `ofDigits_zero` (digits that are all zero give zero).
-/

namespace VisitLog

open Text

/-- What a numeral stands for. -/
inductive Decimal where
  | number (x : Binary64)
  /-- The word for something that is no number. -/
  | undefined
  deriving DecidableEq, Repr

namespace Decimal

/-- The natural number of digits. -/
def natOfDigits (ds : List Char) : Nat :=
  ds.foldl (fun n c => 10 * n + (digitValue? c).getD 0) 0

/-- Beyond this power of ten numbers are infinite, and below its inverse they are zero. -/
def outermostPower : Int := 400

/-- The number of digits before and after a point, times a power of ten. -/
def ofDigits (negative : Bool) (whole fraction : List Char) (exponent : Int) : Binary64 :=
  let significand := natOfDigits (whole ++ fraction)
  let zero := Binary64.finite negative 0 Binary64.leastExponent
  if significand = 0 then zero
  else
    let power := exponent - fraction.length
    let top := (Nat.toDigits 10 significand).length + power
    if outermostPower < top then .infinite negative
    else if top < -outermostPower then zero
    else .ofDecimal negative significand power

/-- The digits at the head of a text, and the rest. -/
def spanDigits (cs : List Char) : List Char × List Char :=
  cs.span fun c => (digitValue? c).isSome

/-- A sign and what follows it. -/
def spanSign : List Char → Bool × List Char
  | '-' :: cs => (true, cs)
  | '+' :: cs => (false, cs)
  | cs => (false, cs)

/-- The exponent that is all of a text, without its letter. -/
def exponent? (cs : List Char) : Option Int :=
  let (negative, cs) := spanSign cs
  (natOfDigits? cs).map fun n => if negative then -(n : Int) else n

/-- The numeral without its sign that is all of a text. -/
def readUnsigned? (negative : Bool) (cs : List Char) : Option Decimal :=
  let word := String.ofList (foldLetters cs)
  if word == "inf" || word == "infinity" then some (.number (.infinite negative))
  else if word == "nan" then some .undefined
  else
    let (whole, cs) := spanDigits cs
    let (fraction, cs) :=
      match cs with
      | '.' :: cs => spanDigits cs
      | cs => ([], cs)
    if whole.isEmpty && fraction.isEmpty then none
    else
      match cs with
      | [] => some (.number (ofDigits negative whole fraction 0))
      | c :: cs =>
        if c = 'e' ∨ c = 'E' then
          (exponent? cs).map fun e => .number (ofDigits negative whole fraction e)
        else none

/-- The numeral that is all of a text. -/
def read? (cs : List Char) : Option Decimal :=
  let (negative, cs) := spanSign cs
  readUnsigned? negative cs

theorem ofDigits_zero {whole fraction : List Char} (negative : Bool) (exponent : Int)
    (h : natOfDigits (whole ++ fraction) = 0) :
    ofDigits negative whole fraction exponent = .finite negative 0 Binary64.leastExponent := by
  simp [ofDigits, h]

end Decimal

namespace Binary64

/-- The nearest natural number up to a limit; a half goes up, and negative numbers give zero. -/
def toNatUpTo (limit : Nat) : Binary64 → Nat
  | infinite negative => if negative then 0 else limit
  | finite negative m e =>
    let (n, d) := ratio m e
    if negative then 0 else min limit ((2 * n + d) / (2 * d))

end Binary64

end VisitLog

/-!
# Numbers of 64-bit floating point

A `Binary64` is a sign, a mantissa below 2^53 and a power of two, or infinite. Rounding a ratio of
naturals goes to the nearest such number and from the middle to the even mantissa; all steps are
exact arithmetic on naturals. There is no undefined value: nothing here divides zero by zero.
-/

namespace VisitLog

/-- A 64-bit floating point number that is not undefined. -/
inductive Binary64 where
  /-- The value `mantissa * 2 ^ exponent`, negated if `negative`. -/
  | finite (negative : Bool) (mantissa : Nat) (exponent : Int)
  | infinite (negative : Bool)
  deriving DecidableEq, Repr, Inhabited

namespace Binary64

/-- The least exponent. -/
def leastExponent : Int := -1074

/-- The greatest exponent. -/
def greatestExponent : Int := 971

/-- The least mantissa of 53 bits. -/
def leastFullMantissa : Nat := 0x10000000000000

/-- The quotient rounded to the nearest natural, from the middle to the even one. -/
def roundDiv (num den : Nat) : Nat :=
  let q := num / den
  let r := num % den
  if 2 * r < den then q
  else if 2 * r = den then q + q % 2
  else q + 1

/-- `num / den * 2 ^ shift` as a ratio. -/
def scaled (num den : Nat) (shift : Int) : Nat × Nat :=
  if 0 ≤ shift then (num <<< shift.toNat, den) else (num, den <<< (-shift).toNat)

/-- The exponent at which a positive ratio has a mantissa of 53 bits, or the least one. -/
def exponentOf (num den : Nat) : Int :=
  let e := max ((num.log2 : Int) - den.log2 - 53) leastExponent
  let (n, d) := scaled num den (-e)
  if n / d < 2 * leastFullMantissa then e else e + 1

/-- The number nearest to a ratio. -/
def ofRatio (negative : Bool) (num den : Nat) : Binary64 :=
  if num = 0 ∨ den = 0 then finite negative 0 leastExponent
  else
    let e := exponentOf num den
    let (n, d) := scaled num den (-e)
    let m := roundDiv n d
    let (m, e) := if m = 2 * leastFullMantissa then (leastFullMantissa, e + 1) else (m, e)
    if e > greatestExponent then infinite negative else finite negative m e

/-- The number nearest to `m * 10 ^ e`. -/
def ofDecimal (negative : Bool) (m : Nat) (e : Int) : Binary64 :=
  if 0 ≤ e then ofRatio negative (m * Nat.pow 10 e.toNat) 1
  else ofRatio negative m (Nat.pow 10 (-e).toNat)

/-- The number nearest to an integer. -/
def ofInt (n : Int) : Binary64 :=
  ofRatio (n < 0) n.natAbs 1

/-- A finite number as a ratio of naturals, without its sign. -/
def ratio (mantissa : Nat) (exponent : Int) : Nat × Nat :=
  scaled mantissa 1 exponent

/-- The integer that a number is, if it is one. -/
def toInt? : Binary64 → Option Int
  | finite negative m e =>
    let (n, d) := ratio m e
    if n % d = 0 then some (if negative then -((n / d : Nat) : Int) else (n / d : Nat)) else none
  | infinite _ => none

/-- The value as a ratio with a signed numerator; infinities stand beyond every finite number. -/
def signedRatio : Binary64 → Int × Nat
  | finite negative m e =>
    let (n, d) := ratio m e
    (if negative then -(n : Int) else n, d)
  | infinite negative => (if negative then -(1 <<< 1100 : Nat) else (1 <<< 1100 : Nat), 1)

/-- The first number is less than the second. -/
def less (a b : Binary64) : Bool :=
  let (n, d) := a.signedRatio
  let (n', d') := b.signedRatio
  n * d' < n' * d

/-- One less a number, rounded. -/
def oneMinus : Binary64 → Binary64
  | finite negative m e =>
    let (n, d) := ratio m e
    if negative then ofRatio false (d + n) d
    else if n ≤ d then ofRatio false (d - n) d
    else ofRatio true (n - d) d
  | infinite negative => infinite (!negative)

/-- The product of two numbers, rounded. -/
def multiply : Binary64 → Binary64 → Binary64
  | finite s m e, finite s' m' e' =>
    let (n, d) := scaled (m * m') 1 (e + e')
    ofRatio (s != s') n d
  | finite s _ _, infinite s' => infinite (s != s')
  | infinite s, finite s' _ _ => infinite (s != s')
  | infinite s, infinite s' => infinite (s != s')

/-- The quotient of two numbers, rounded. -/
def divide : Binary64 → Binary64 → Binary64
  | finite s m e, finite s' m' e' =>
    let (n, d) := ratio m e
    let (n', d') := ratio m' e'
    ofRatio (s != s') (n * d') (d * n')
  | finite s _ _, infinite s' => finite (s != s') 0 leastExponent
  | infinite s, _ => infinite s

end Binary64

end VisitLog

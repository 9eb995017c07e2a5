import VisitLog.Number.Binary64

/-!
# The shortest decimal of a floating point number

`Binary64.shortest` finds the fewest decimal digits that read back as the same number: it takes the
interval of values that round to it (with its ends when the mantissa is even), and on the grids of
1, 2, ... 17 digits tests the two neighbours of the exact value. Of two that lie in the interval the
nearer one wins.

Two texts are made of the digits: `plainText` writes all of them positionally, `jsonText` keeps at
least one digit on either side of a point and turns to an exponent outside 1e-5 to 1e16.
-/

namespace VisitLog.Binary64

/-- The exponent of ten of the leading digit of a positive ratio. -/
def leadingPower (num den : Nat) : Int :=
  let k : Int := ((Nat.toDigits 10 num).length : Int) - (Nat.toDigits 10 den).length
  let reaches := if 0 ≤ k then den * Nat.pow 10 k.toNat ≤ num else den ≤ num * Nat.pow 10 (-k).toNat
  if reaches then k else k - 1

/-- Numerator and denominator of `c * 10 ^ p`. -/
def powerOfTen (c : Nat) (p : Int) : Nat × Nat :=
  if 0 ≤ p then (c * Nat.pow 10 p.toNat, 1) else (c, Nat.pow 10 (-p).toNat)

/-- The ends of the interval that rounds to `m * 2 ^ e`, in quarters of the last place. -/
def interval (m : Nat) (e : Int) : Nat × Nat :=
  (if m = leastFullMantissa ∧ leastExponent < e then 4 * m - 1 else 4 * m - 2, 4 * m + 2)

/-- The decimal `c * 10 ^ p` reads back as `m * 2 ^ e`. -/
def readsBack (m : Nat) (e : Int) (c : Nat) (p : Int) : Bool :=
  let (n, d) := powerOfTen c p
  let (low, high) := interval m e
  let (ln, ld) := scaled low 1 (e - 2)
  let (hn, hd) := scaled high 1 (e - 2)
  if m % 2 = 0 then ln * d ≤ n * ld && n * hd ≤ hn * d else ln * d < n * ld && n * hd < hn * d

/-- On the grid of `10 ^ p`, the neighbour of a ratio that reads back, the nearer one if both do. -/
def neighbour? (m : Nat) (e : Int) (num den : Nat) (p : Int) : Option Nat :=
  let (n, d) :=
    if 0 ≤ p then (num, den * Nat.pow 10 p.toNat) else (num * Nat.pow 10 (-p).toNat, den)
  let c := n / d
  match readsBack m e c p, readsBack m e (c + 1) p with
  | true, true =>
    let r := n % d
    some (if 2 * r < d then c else if 2 * r = d then c + c % 2 else c + 1)
  | true, false => some c
  | false, true => some (c + 1)
  | false, false => none

/-- The fewest digits that read back as the positive number `m * 2 ^ e`, and their power of ten. -/
def shortest (m : Nat) (e : Int) : Nat × Int :=
  let (num, den) := ratio m e
  let top := leadingPower num den
  let found := (List.range 17).findSome? fun (k : Nat) =>
    let p := top - k
    (neighbour? m e num den p).map fun c => (c, p)
  found.getD (num / den, 0)

/-- Digits and power of ten without zeros at the end. -/
def stripZeros : (fuel : Nat) → Nat → Int → Nat × Int
  | 0, c, p => (c, p)
  | fuel + 1, c, p => if c % 10 = 0 ∧ c ≠ 0 then stripZeros fuel (c / 10) (p + 1) else (c, p)

/-- The digits of a positive number and the position of the point from their start. -/
def digitsAndPoint (m : Nat) (e : Int) : List Char × Int :=
  let (c, p) := shortest m e
  let (c, p) := stripZeros 20 c p
  let ds := Nat.toDigits 10 c
  (ds, ds.length + p)

/-- A minus sign for negative numbers. -/
def signChars (negative : Bool) : List Char :=
  if negative then ['-'] else []

/-- The number written positionally, without an exponent and without a needless point. -/
def plainText : Binary64 → String
  | infinite negative => String.ofList (signChars negative ++ ['i', 'n', 'f'])
  | finite negative m e =>
    if m = 0 then String.ofList (signChars negative ++ ['0'])
    else
      let (ds, point) := digitsAndPoint m e
      let body :=
        if point ≤ 0 then '0' :: '.' :: (List.replicate (-point).toNat '0' ++ ds)
        else if (ds.length : Int) ≤ point then ds ++ List.replicate (point - ds.length).toNat '0'
        else ds.take point.toNat ++ '.' :: ds.drop point.toNat
      String.ofList (signChars negative ++ body)

/-- The number as JSON writes it; infinities have no such form and are written as null. -/
def jsonText : Binary64 → String
  | infinite _ => "null"
  | finite negative m e =>
    if m = 0 then String.ofList (signChars negative ++ ['0', '.', '0'])
    else
      let (ds, point) := digitsAndPoint m e
      let exponent := point - 1
      let power := (if exponent < 0 then ['-'] else []) ++ Nat.toDigits 10 exponent.natAbs
      let body :=
        if 0 < point ∧ point ≤ 16 then
          if (ds.length : Int) ≤ point then
            ds ++ List.replicate (point - ds.length).toNat '0' ++ ['.', '0']
          else ds.take point.toNat ++ '.' :: ds.drop point.toNat
        else if -5 < point ∧ point ≤ 0 then
          '0' :: '.' :: (List.replicate (-point).toNat '0' ++ ds)
        else
          match ds with
          | [d] => d :: 'e' :: power
          | d :: ds => d :: '.' :: (ds ++ 'e' :: power)
          | [] => power
      String.ofList (signChars negative ++ body)

/-- The number with one decimal place, a half going to the even neighbour. -/
def oneDecimal : Binary64 → String
  | infinite negative => String.ofList (signChars negative ++ ['i', 'n', 'f'])
  | finite negative m e =>
    let (n, d) := ratio m e
    let tenths := roundDiv (n * 10) d
    String.ofList (signChars negative ++ Nat.toDigits 10 (tenths / 10) ++
      '.' :: Nat.toDigits 10 (tenths % 10))

end VisitLog.Binary64

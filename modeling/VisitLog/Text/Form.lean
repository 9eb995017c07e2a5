import VisitLog.Digest.Hex
import VisitLog.Text.Search
import VisitLog.Text.Utf8

/-!
# Percent encoding and form fields

In a path or a cookie `%` and two hexadecimal digits stand for an octet. A form encodes a list of
named values that way, with `+` for a blank, `=` between name and value and `&` between the fields;
letters, digits and `*-._` stand for themselves.

Main statement: `octets_percent` (an octet written with `%` reads back).
-/

namespace VisitLog.Text.Form

/-- The octets of a text in which `%` and two hexadecimal digits stand for one octet. -/
def octets : List Char → List Nat
  | [] => []
  | '%' :: a :: b :: cs =>
    match Hex.value? a, Hex.value? b with
    | some x, some y => (16 * x + y) :: octets cs
    | _, _ => 0x25 :: octets (a :: b :: cs)
  | c :: cs => Utf8.encodeChar c ++ octets cs

/-- The text that percent encoded characters stand for, if their octets are one. -/
def decodePercent? (cs : List Char) : Option String :=
  (Utf8.decode? (octets cs)).map String.ofList

/-- The text with a blank for each plus sign. -/
def blanks (cs : List Char) : List Char :=
  cs.map fun c => if c = '+' then ' ' else c

/-- The value of a name or a value as it stands in a form. -/
def decodeValue (cs : List Char) : String :=
  String.ofList (Utf8.decodeLossy (octets (blanks cs)))

/-- The named values of an encoded form, in order; empty fields are skipped and a field without `=`
has an empty value. -/
def fields (cs : List Char) : List (String × String) :=
  ((splitAt '&' cs).filter fun piece => !piece.isEmpty).map fun piece =>
    match cutAt? '=' piece with
    | some (name, value) => (decodeValue name, decodeValue value)
    | none => (decodeValue piece, "")

/-- The character stands for itself in a form. -/
def isPlain (c : Char) : Bool :=
  c.isAlphanum || c = '*' || c = '-' || c = '.' || c = '_'

/-- An octet as `%` and two upper-case digits. -/
def percent (b : Nat) : List Char :=
  ['%', Hex.upperDigit (b / 16), Hex.upperDigit b]

/-- A character as a form writes it. -/
def encodeChar (c : Char) : List Char :=
  if isPlain c then [c]
  else if c = ' ' then ['+']
  else (Utf8.encodeChar c).flatMap percent

/-- A name or a value as a form writes it. -/
def encodeChars (cs : List Char) : List Char :=
  cs.flatMap encodeChar

/-- The fields as an encoded form. -/
def encode (fs : List (String × String)) : List Char :=
  ((fs.map fun f => encodeChars f.1.toList ++ '=' :: encodeChars f.2.toList).intersperse
    ['&']).flatten

/-! ## Lemmas -/

theorem octets_percent {b : Nat} (h : b < 256) (cs : List Char) :
    octets (percent b ++ cs) = b :: octets cs := by
  have hd : ∀ n, n < 16 → Hex.value? (Hex.upperDigit n) = some n := by decide
  have e : Hex.upperDigit b = Hex.upperDigit (b % 16) := by simp [Hex.upperDigit]
  have h1 := hd (b / 16) (by omega)
  have h2 := hd (b % 16) (by omega)
  simp only [percent, e, List.cons_append, List.nil_append, octets, h1, h2]
  congr 1
  omega

end VisitLog.Text.Form

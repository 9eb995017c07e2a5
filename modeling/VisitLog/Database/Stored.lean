import VisitLog.Number.Binary64
import VisitLog.Number.Shortest
import VisitLog.Text.Digits

/-!
# Stored values

What a column holds: an integer of 64 bits, a floating point number or a text. Numbers sort before
all text; text is ordered by code points.

Main statement: `atMost_text` (texts come in the order of their code points).
-/

namespace VisitLog

open Text

/-- A value in a column of a row. -/
inductive Stored where
  | integer (n : Int)
  | real (x : Binary64)
  | text (s : String)
  deriving DecidableEq, Repr, Inhabited

namespace Stored

/-- The text of a stored value. -/
def toText : Stored → String
  | integer n => intText n
  | real x => x.plainText
  | text s => s

/-! ## Order -/

/-- The first value sorts before the second one. -/
def less : Stored → Stored → Bool
  | integer a, integer b => a < b
  | integer a, real x => (let (n, d) := x.signedRatio; a * d < n)
  | real x, integer a => (let (n, d) := x.signedRatio; n < a * d)
  | real x, real y => x.less y
  | text a, text b => a < b
  | text _, _ => false
  | _, text _ => true

/-- The first value does not sort after the second one. -/
def atMost (a b : Stored) : Bool :=
  !less b a

/-! ## Lemmas -/

@[simp] theorem toText_text (s : String) : toText (.text s) = s := rfl

@[simp] theorem less_text (a b : String) : less (.text a) (.text b) = decide (a < b) := rfl

theorem atMost_text (a b : String) : atMost (.text a) (.text b) = decide (a ≤ b) := by
  rw [atMost, less_text, ← decide_not, decide_eq_decide, String.not_lt]

end Stored

end VisitLog

import Mathlib.Data.List.Lex
import Mathlib.Data.Nat.Basic
import VisitLog.Database.Select
import VisitLog.Text.Utf8

/-!
# Rows in order

An engine reads rows along some index or sorts them, as it sees fit. Either way they come in the
order that was asked for (`isSorted_arrange`). Texts are compared by code points, which is the order
of their octets in UTF-8 (`octets_le_iff`).
-/

namespace VisitLog

namespace Text

/-! ## The order of octets -/

namespace Utf8

/-- The first octet in which two characters differ decides, whatever comes after them. -/
theorem encodeChar_append_lt {c d : Char} (h : c < d) (x y : List Nat) :
    encodeChar c ++ x < encodeChar d ++ y := by
  have h : c.toNat < d.toNat := h
  have hd := isScalar d
  unfold encodeChar
  dsimp only
  repeat' split
  all_goals simp only [List.cons_append, List.nil_append, List.cons_lt_cons_iff]; omega

theorem encodeChar_ne_nil (c : Char) : encodeChar c ≠ [] := by
  unfold encodeChar
  dsimp only
  repeat' split
  all_goals exact List.cons_ne_nil _ _

theorem append_lt_append {a b : List Nat} (l : List Nat) (h : a < b) : l ++ a < l ++ b := by
  induction l with
  | nil => exact h
  | cons x l ih => exact List.cons_lt_cons_self.2 ih

theorem encode_cons (c : Char) (cs : List Char) :
    encode (c :: cs) = encodeChar c ++ encode cs :=
  rfl

theorem encode_lt {a b : List Char} (h : a < b) : encode a < encode b := by
  induction h with
  | @nil c cs =>
    obtain ⟨x, l, hx⟩ := List.exists_cons_of_ne_nil (encodeChar_ne_nil c)
    rw [encode_cons, hx, List.cons_append]
    exact List.nil_lt_cons ..
  | rel h =>
    rw [encode_cons, encode_cons]
    exact encodeChar_append_lt h ..
  | cons _ ih =>
    rw [encode_cons, encode_cons]
    exact append_lt_append _ ih

end Utf8

/-- The octets of a string. -/
def octets (s : String) : List Nat :=
  Utf8.encode s.toList

/-- Strings are ordered as their octets are. -/
theorem octets_le_iff {a b : String} : octets a ≤ octets b ↔ a ≤ b := by
  constructor
  · intro h
    refine String.not_lt.1 fun hlt => ?_
    exact not_lt_of_ge h (Utf8.encode_lt hlt)
  · intro h
    by_cases e : a = b
    · rw [e]
    · have hlt : a < b := String.not_le.1 fun hba => e (String.le_antisymm h hba)
      exact le_of_lt (Utf8.encode_lt hlt)

end Text

open Text

/-! ## Rows by a column -/

/-- The second text may follow the first one in this direction. -/
def Direction.inOrder (d : Direction) (a b : String) : Bool :=
  match d with
  | ascending => octets a ≤ octets b
  | descending => octets b ≤ octets a

namespace Rows

theorem IsText.allows {rows : Rows} {o : Order} (h : rows.IsText o.column) {a b : Row}
    (ha : a ∈ rows) (hb : b ∈ rows) :
    o.allows a b = o.direction.inOrder (a.toVisitor.value o.column)
      (b.toVisitor.value o.column) := by
  unfold Order.allows Direction.inOrder
  cases o.direction with
  | ascending => exact (h.atMost ha hb).trans (decide_eq_decide.2 octets_le_iff.symm)
  | descending => exact (h.atMost hb ha).trans (decide_eq_decide.2 octets_le_iff.symm)

end Rows

end VisitLog

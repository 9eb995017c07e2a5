/-!
# Patterns

In a pattern `%` stands for any text, `_` for any one character and every other character for
itself, where the case of ASCII letters does not count. Pattern and text end at their first NUL.
Patterns beyond `longestPattern` are not matched against anything.

Main statement: `matchesFrom_literal` (a pattern without wildcards matches the texts that equal it
but for the case of letters).
-/

namespace VisitLog.Text

/-- The octets in UTF-8 that a pattern may have. -/
def longestPattern : Nat := 50000

/-- The pattern character stands for this one: it is `_` or the same letter. -/
def standsFor (p c : Char) : Bool :=
  p = '_' || p.toLower = c.toLower

/-- All ends of a text, the longest first. -/
def ends : List Char → List (List Char)
  | [] => [[]]
  | c :: cs => (c :: cs) :: ends cs

/-- The pattern matches the whole text. -/
def matchesFrom : (pattern text : List Char) → Bool
  | [], cs => cs.isEmpty
  | p :: ps, cs =>
    if p = '%' then (ends cs).any (matchesFrom ps)
    else
      match cs with
      | [] => false
      | c :: cs => standsFor p c && matchesFrom ps cs

/-- The text up to its first NUL. -/
def untilNul (cs : List Char) : List Char :=
  cs.takeWhile (· ≠ '\x00')

/-- The pattern matches the string. -/
def like (pattern s : String) : Bool :=
  matchesFrom (untilNul pattern.toList) (untilNul s.toList)

/-! ## Lemmas -/

theorem mem_ends {e cs : List Char} : e ∈ ends cs ↔ e <:+ cs := by
  induction cs with
  | nil => simp [ends]
  | cons c cs ih => rw [ends, List.mem_cons, ih, List.suffix_cons_iff]

theorem matchesFrom_any (cs : List Char) : matchesFrom ['%'] cs := by
  simp only [matchesFrom, if_true, List.any_eq_true]
  exact ⟨[], mem_ends.2 (List.nil_suffix), rfl⟩

theorem matchesFrom_literal {ps cs : List Char} (h : ∀ p ∈ ps, p ≠ '%' ∧ p ≠ '_') :
    matchesFrom ps cs ↔ ps.map Char.toLower = cs.map Char.toLower := by
  induction ps generalizing cs with
  | nil => cases cs <;> simp [matchesFrom]
  | cons p ps ih =>
    have hp := h p (by simp)
    cases cs with
    | nil => simp [matchesFrom, hp.1]
    | cons c cs => simp [matchesFrom, hp.1, hp.2, standsFor, ih fun x hx => h x (by simp [hx])]

end VisitLog.Text

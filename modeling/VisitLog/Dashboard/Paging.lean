import VisitLog.Text.Blank
import VisitLog.Text.Digits

/-!
# Paging

Which page of a list is shown, and how many rows a page has. Numbers are within 64 bits.

Main statements: `one_le_page` and `perPage_le` (a page read from parameters exists and is bounded).
-/

namespace VisitLog

open Text

/-- The greatest integer of 64 bits. -/
def greatestInt : Int := 0x7FFFFFFFFFFFFFFF

/-- The least integer of 64 bits. -/
def leastInt : Int := -0x8000000000000000

/-- The nearest integer of 64 bits. -/
def saturate (n : Int) : Int :=
  max leastInt (min greatestInt n)

/-- The named values of a query; of several with one name the last one counts. -/
abbrev Parameters := List (String × String)

namespace Parameters

/-- The value of a name as it was sent. -/
def get? (ps : Parameters) (name : String) : Option String :=
  (ps.reverse.find? fun p => p.1 == name).map Prod.snd

/-- The trimmed value of a name, empty when absent. -/
def text (ps : Parameters) (name : String) : String :=
  match ps.get? name with
  | some s => trim s
  | none => ""

end Parameters

/-- A page of a list. -/
structure Paging where
  page : Int
  perPage : Int
  deriving DecidableEq, Repr

namespace Paging

/-- Rows of a page when nothing else is asked for. -/
def defaultPerPage : Int := 10

/-- Rows of a page at most. -/
def maxPerPage : Int := 100

/-- Pages after this one are not reached. -/
def maxPage : Int := 1000000

/-- A positive integer in a text, or a fallback. -/
def positive (s : String) (fallback : Int) : Int :=
  match intOfDigits? (trimChars s.toList) with
  | some n => if 0 < n ∧ n ≤ greatestInt then n else fallback
  | none => fallback

/-- A number of rows within bounds. -/
def clampPerPage (n : Int) : Int :=
  if n < 1 then defaultPerPage else min n maxPerPage

/-- The page that parameters ask for. -/
def ofParameters (ps : Parameters) : Paging :=
  { page := min (positive (ps.text "page") 1) maxPage
    perPage := clampPerPage (positive (ps.text "per_page") defaultPerPage) }

/-- The number of rows before the page. -/
def offset (p : Paging) : Int :=
  saturate (saturate (p.page - 1) * p.perPage)

/-- The number of pages of a list; an empty one has one page. -/
def totalPages (count perPage : Int) : Int :=
  let perPage := max perPage 1
  max ((count + perPage - 1).tdiv perPage) 1

/-! ## Lemmas -/

theorem positive_pos {s : String} {fallback : Int} (h : 0 < fallback) :
    0 < positive s fallback := by
  unfold positive
  split
  · split
    · next h => exact h.1
    · exact h
  · exact h

theorem one_le_page (ps : Parameters) : 1 ≤ (ofParameters ps).page := by
  have := @positive_pos (ps.text "page") 1 (by decide)
  simp only [ofParameters, maxPage]
  omega

theorem clampPerPage_mem (n : Int) : 1 ≤ clampPerPage n ∧ clampPerPage n ≤ maxPerPage := by
  unfold clampPerPage defaultPerPage maxPerPage
  omega

theorem perPage_le (ps : Parameters) :
    1 ≤ (ofParameters ps).perPage ∧ (ofParameters ps).perPage ≤ maxPerPage :=
  clampPerPage_mem _

end Paging

end VisitLog

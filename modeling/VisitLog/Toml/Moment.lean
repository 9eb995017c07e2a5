import VisitLog.Calendar.Reading
import VisitLog.Toml.Text

/-!
# Dates and times in TOML

A date, a time, or both with perhaps an offset. A settings file has no use for them but as texts,
which are written in one form: a `T` before the time, a `Z` in capitals, and no more digits of a
fraction than needed.

Main statement: `length_dateText`.
-/

namespace VisitLog.Toml.Moment

open Text

/-- A date that exists. -/
def date : Read Civil := fun cs => do
  let (y, cs) ← Reader.digits 4 cs
  let ((), cs) ← Reader.char '-' cs
  let (m, cs) ← Reader.digits 2 cs
  let ((), cs) ← Reader.char '-' cs
  let (d, cs) ← Reader.digits 2 cs
  let c : Civil := ⟨y, m, d⟩
  if c.isValid then some (c, cs) else none

/-- A time of day. -/
def time : Read TimeOfDay := fun cs => do
  let (h, cs) ← Reader.digits 2 cs
  let ((), cs) ← Reader.char ':' cs
  let (m, cs) ← Reader.digits 2 cs
  let ((), cs) ← Reader.char ':' cs
  let (s, cs) ← Reader.digits 2 cs
  let (nanos, cs) ← Reader.fraction cs
  let t : TimeOfDay := { hour := h, minute := m, second := s, nanos := nanos }
  if t.isValid then some (t, cs) else none

/-- An offset from UTC, as its text. -/
def offset : Read (List Char)
  | 'Z' :: cs | 'z' :: cs => some (['Z'], cs)
  | sign :: cs => do
    let (h, rest) ← Reader.digits 2 cs
    let ((), rest) ← Reader.char ':' rest
    let (m, rest) ← Reader.digits 2 rest
    if (sign = '+' ∨ sign = '-') ∧ h ≤ 23 ∧ m ≤ 59 then
      some (sign :: (fixedDigits 2 h ++ ':' :: fixedDigits 2 m), rest)
    else none
  | [] => none

/-- The text of a date. -/
def dateText (c : Civil) : List Char :=
  fixedDigits 4 c.year.toNat ++ '-' :: (fixedDigits 2 c.month ++ '-' :: fixedDigits 2 c.day)

/-- The digits of a fraction of a second, behind a point. -/
def fractionText (nanos : Nat) : List Char :=
  if nanos = 0 then []
  else '.' :: ((fixedDigits 9 nanos).reverse.dropWhile fun c => c = '0').reverse

/-- The text of a time of day. -/
def timeText (t : TimeOfDay) : List Char :=
  fixedDigits 2 t.hour ++ ':' :: (fixedDigits 2 t.minute ++ ':' :: fixedDigits 2 t.second) ++
    fractionText t.nanos

/-- A time behind a date, with perhaps an offset; nothing if none is there. -/
def timeAfterDate (cs : List Char) : List Char × List Char :=
  match cs with
  | sep :: rest =>
    if sep = 'T' ∨ sep = 't' ∨ sep = ' ' then
      match time rest with
      | some (t, rest) =>
        match offset rest with
        | some (o, rest) => ('T' :: (timeText t ++ o), rest)
        | none => ('T' :: timeText t, rest)
      | none => ([], cs)
    else ([], cs)
  | [] => ([], [])

/-- A date, a time or both, as text. -/
def read : Read String := fun cs =>
  match date cs with
  | some (c, rest) =>
    match timeAfterDate rest with
    | (t, rest) => some (String.ofList (dateText c ++ t), rest)
  | none => (time cs).map fun (t, rest) => (String.ofList (timeText t), rest)

theorem length_dateText (c : Civil) : (dateText c).length = 10 := by
  simp [dateText]

end VisitLog.Toml.Moment

import VisitLog.Calendar.Instant
import VisitLog.Text.Blank

/-!
# Reading dates and times

Two readers. `Instant.read?` and its relatives are lenient: fields may have fewer digits than the
layout, the year may carry a sign, and blanks may stand before any field. `Instant.readRfc3339?` is
strict about widths and takes an offset from UTC. Both accept second 60 as a leap second.

`normalize` brings a bound given by a client into the stored layout: it tries RFC 3339, the stored
layout, the same with a `T`, and a bare date, in this order, and gives all other text back trimmed.
-/

namespace VisitLog

open Text

/-! ## Fields -/

/-- A reader takes a value off the head of a text, or fails. -/
abbrev Reader (α : Type) := List Char → Option (α × List Char)

namespace Reader

/-- Exactly the character `c`. -/
def char (c : Char) : Reader Unit
  | x :: cs => if x = c then some ((), cs) else none
  | [] => none

/-- Any run of blanks, also none. -/
def blanks : Reader Unit := fun cs => some ((), trimStart cs)

/-- After any blanks, one to `most` digits. -/
def field (most : Nat) : Reader Nat := fun cs => readDigits 1 most (trimStart cs)

/-- After any blanks, a year: up to four digits, or a sign and any number of digits. -/
def year : Reader Int := fun cs =>
  match trimStart cs with
  | '-' :: rest => (readDigits 1 rest.length rest).map fun (n, r) => (-(n : Int), r)
  | '+' :: rest => (readDigits 1 rest.length rest).map fun (n, r) => ((n : Int), r)
  | rest => (readDigits 1 4 rest).map fun (n, r) => ((n : Int), r)

end Reader

/-! ## Dates and times of day -/

/-- Hours, minutes and seconds; second 60 is a leap second. -/
structure TimeOfDay where
  hour : Nat
  minute : Nat
  second : Nat
  nanos : Nat := 0
  deriving DecidableEq, Repr, Inhabited

namespace TimeOfDay

/-- The fields are in range. -/
def isValid (t : TimeOfDay) : Bool :=
  t.hour ≤ 23 && t.minute ≤ 59 && t.second ≤ 60

/-- The instant of a time of day on a date. -/
def on (t : TimeOfDay) (d : Date) : Instant :=
  let base := d.dayNumber * Instant.daySeconds + (t.hour * 3600 + t.minute * 60 : Nat)
  if t.second = 60 then ⟨base + 59, t.nanos + 1000000000⟩ else ⟨base + t.second, t.nanos⟩

end TimeOfDay

namespace Reader

/-- A lenient `Y-M-D` that names an existing, supported date. -/
def date : Reader Date := fun cs => do
  let (y, cs) ← year cs
  let ((), cs) ← char '-' cs
  let (m, cs) ← field 2 cs
  let ((), cs) ← char '-' cs
  let (d, cs) ← field 2 cs
  let date ← Date.ofCivil? ⟨y, m, d⟩
  return (date, cs)

/-- A lenient `H:M:S` with fields in range. -/
def time : Reader TimeOfDay := fun cs => do
  let (h, cs) ← field 2 cs
  let ((), cs) ← char ':' cs
  let (m, cs) ← field 2 cs
  let ((), cs) ← char ':' cs
  let (s, cs) ← field 2 cs
  let t : TimeOfDay := { hour := h, minute := m, second := s }
  if t.isValid then return (t, cs) else none

/-- A date, a separator and a time, up to the end of the text. -/
def dateTime (separator : Reader Unit) (cs : List Char) : Option Instant := do
  let (d, cs) ← date cs
  let ((), cs) ← separator cs
  let (t, cs) ← time cs
  if cs.isEmpty then return t.on d else none

end Reader

/-! ## RFC 3339 -/

namespace Reader

/-- Exactly `n` digits. -/
def digits (n : Nat) : Reader Nat := readDigits n n

/-- An optional fraction of a second, in nanoseconds; digits past the ninth are skipped. -/
def fraction : Reader Nat
  | '.' :: cs =>
    match scanDigits 9 0 0 cs with
    | (_, 0, _) => none
    | (n, count, rest) => some (n * Nat.pow 10 (9 - count), rest.dropWhile fun c =>
        (digitValue? c).isSome)
  | cs => some (0, cs)

/-- `Z`, or a sign, two digits of hours, a colon and two digits of minutes; in seconds. -/
def offset : Reader Int
  | 'Z' :: cs | 'z' :: cs => some (0, cs)
  | sign :: cs => do
    let negative ← if sign = '+' then some false
      else if sign = '-' ∨ sign = '\u2212' then some true else none
    let (h, cs) ← digits 2 cs
    let ((), cs) ← char ':' cs
    let (m, cs) ← digits 2 cs
    if h ≤ 23 ∧ m ≤ 59 then
      let n : Int := (h * 3600 + m * 60 : Nat)
      return (if negative then -n else n, cs)
    else none
  | [] => none

/-- Between date and time RFC 3339 has a `T`, and a blank for readability. -/
def rfcSeparator : Reader Unit
  | 'T' :: cs | 't' :: cs | ' ' :: cs => some ((), cs)
  | _ => none

end Reader

namespace Instant

/-- The instant named by an RFC 3339 text. -/
def readRfc3339Chars? (cs : List Char) : Option Instant := do
  let (y, cs) ← Reader.digits 4 cs
  let ((), cs) ← Reader.char '-' cs
  let (mo, cs) ← Reader.digits 2 cs
  let ((), cs) ← Reader.char '-' cs
  let (d, cs) ← Reader.digits 2 cs
  let ((), cs) ← Reader.rfcSeparator cs
  let (h, cs) ← Reader.digits 2 cs
  let ((), cs) ← Reader.char ':' cs
  let (mi, cs) ← Reader.digits 2 cs
  let ((), cs) ← Reader.char ':' cs
  let (s, cs) ← Reader.digits 2 cs
  let (nanos, cs) ← Reader.fraction cs
  let (offset, cs) ← Reader.offset cs
  let date ← Date.ofCivil? ⟨y, mo, d⟩
  let time : TimeOfDay := { hour := h, minute := mi, second := s, nanos := nanos }
  let t := time.on date
  if time.isValid ∧ cs.isEmpty then return { t with seconds := t.seconds - offset } else none

/-- The instant named by an RFC 3339 text. -/
def readRfc3339? (s : String) : Option Instant :=
  readRfc3339Chars? s.toList

/-- The instant of a text in the stored layout, read leniently and without surrounding blanks. -/
def read? (s : String) : Option Instant :=
  Reader.dateTime Reader.blanks (trimChars s.toList)

end Instant

/-- The date of a lenient `Y-M-D` that is the whole text. -/
def Date.readChars? (cs : List Char) : Option Date :=
  match Reader.date cs with
  | some (d, []) => some d
  | _ => none

/-! ## Bounds -/

/-- The last or the first second of a day, as the stored layout writes it. -/
def dayEnd (endOfDay : Bool) : List Char :=
  if endOfDay then "23:59:59".toList else "00:00:00".toList

/-- A bound in the stored layout, as characters; see `normalize`. -/
def normalizeChars (endOfDay : Bool) (text : List Char) : List Char :=
  let text := trimChars text
  match Instant.readRfc3339Chars? text with
  | some t => t.layoutChars
  | none =>
    match Reader.dateTime Reader.blanks text with
    | some t => t.layoutChars
    | none =>
      match Reader.dateTime (Reader.char 'T') text with
      | some t => t.layoutChars
      | none =>
        match Date.readChars? text with
        | some d => d.civil.chars ++ ' ' :: dayEnd endOfDay
        | none => text

/-- A bound in the stored layout. A bare date means its first second, or its last one when
`endOfDay` is set; a text in no known form is only trimmed. -/
def normalize (endOfDay : Bool) (text : String) : String :=
  String.ofList (normalizeChars endOfDay text.toList)

end VisitLog

import VisitLog.Digest.Hex
import VisitLog.Text.Digits
import VisitLog.Text.Search

/-!
# Internet addresses

Addresses of version 4 and 6, read from their usual texts and written in one form each. Numbers of
version 4 have no leading zeros; in version 6 one run of zeros may be left out, and the last two
groups may be written as an address of version 4.

Main statement: `readOctet_le` (a number of version 4 is an octet).
-/

namespace VisitLog

open Text

/-- An internet address. -/
inductive Address where
  /-- Four octets. -/
  | v4 (octets : List Nat)
  /-- Eight groups of 16 bits. -/
  | v6 (groups : List Nat)
  deriving DecidableEq, Repr

namespace Address

/-! ## Reading -/

/-- A number below 256 of up to three digits, without leading zeros. -/
def readOctet (cs : List Char) : Option (Nat × List Char) :=
  match scanDigits cs.length 0 0 cs with
  | (n, count, rest) =>
    if count = 0 ∨ 3 < count ∨ 255 < n ∨ (1 < count ∧ cs.head? = some '0') then none
    else some (n, rest)

/-- The text after a separator, which stands before all numbers but the first. -/
def afterSeparator (sep : Char) (isFirst : Bool) (cs : List Char) : Option (List Char) :=
  if isFirst then some cs
  else
    match cs with
    | c :: cs => if c = sep then some cs else none
    | [] => none

/-- Numbers with points between them, as many as wanted. -/
def readOctets : (count : Nat) → (isFirst : Bool) → List Char → Option (List Nat × List Char)
  | 0, _, cs => some ([], cs)
  | count + 1, isFirst, cs => do
    let cs ← afterSeparator '.' isFirst cs
    let (n, cs) ← readOctet cs
    let (ns, cs) ← readOctets count false cs
    return (n :: ns, cs)

/-- An address of version 4 at the head of a text. -/
def readQuad (cs : List Char) : Option (List Nat × List Char) :=
  readOctets 4 true cs

/-- Hexadecimal digits onto a value: the value, their number and the rest. -/
def scanHex : (n count : Nat) → List Char → Nat × Nat × List Char
  | n, count, [] => (n, count, [])
  | n, count, c :: cs =>
    match Hex.value? c with
    | some d => scanHex (16 * n + d) (count + 1) cs
    | none => (n, count, c :: cs)

/-- A group of up to four hexadecimal digits. -/
def readGroup (cs : List Char) : Option (Nat × List Char) :=
  match scanHex 0 0 cs with
  | (n, count, rest) => if count = 0 ∨ 4 < count then none else some (n, rest)

/-- The two groups of four octets. -/
def groupsOf : List Nat → List Nat
  | [a, b, c, d] => [256 * a + b, 256 * c + d]
  | _ => []

/-- Up to `room` groups with colons between them; the last two may be four octets, which is told. -/
def readGroups : (room : Nat) → (isFirst : Bool) → List Char → List Nat × Bool × List Char
  | 0, _, cs => ([], false, cs)
  | room + 1, isFirst, cs =>
    let quad :=
      if room = 0 then none
      else (afterSeparator ':' isFirst cs).bind readQuad
    match quad with
    | some (octets, rest) => (groupsOf octets, true, rest)
    | none =>
      match (afterSeparator ':' isFirst cs).bind readGroup with
      | some (n, rest) =>
        match readGroups room false rest with
        | (ns, hasQuad, rest) => (n :: ns, hasQuad, rest)
      | none => ([], false, cs)

/-- An address of version 6 at the head of a text. -/
def readV6 (cs : List Char) : Option (List Nat × List Char) :=
  match readGroups 8 true cs with
  | (front, hasQuad, rest) =>
    if front.length = 8 then some (front, rest)
    else if hasQuad then none
    else
      match rest with
      | ':' :: ':' :: rest =>
        match readGroups (7 - front.length) true rest with
        | (back, _, rest) =>
          some (front ++ List.replicate (8 - front.length - back.length) 0 ++ back, rest)
      | _ => none

/-- The address that a whole text is. -/
def ofChars? (cs : List Char) : Option Address :=
  match readQuad cs with
  | some (octets, []) => some (.v4 octets)
  | _ =>
    match readV6 cs with
    | some (groups, []) => some (.v6 groups)
    | _ => none

/-- The address that a string is. -/
def ofText? (s : String) : Option Address :=
  ofChars? s.toList

/-- A port number up to the end of a text. -/
def isPort (cs : List Char) : Bool :=
  match natOfDigits? cs with
  | some n => n ≤ 65535
  | none => false

/-- The text without the number of a network interface, which may stand behind a percent sign. -/
def skipZone (cs : List Char) : List Char :=
  match cs with
  | '%' :: zone =>
    match scanDigits zone.length 0 0 zone with
    | (n, count, rest) => if count = 0 ∨ 0xFFFFFFFF < n then cs else rest
  | _ => cs

/-- The address of a socket: an address and a port, with brackets around version 6. -/
def ofSocket? (s : String) : Option Address :=
  match s.toList with
  | '[' :: cs =>
    match (readV6 cs).map fun (groups, rest) => (groups, skipZone rest) with
    | some (groups, ']' :: ':' :: port) => if isPort port then some (.v6 groups) else none
    | _ => none
  | cs =>
    match readQuad cs with
    | some (octets, ':' :: port) => if isPort port then some (.v4 octets) else none
    | _ => none

/-! ## Writing -/

/-- Four octets with points between them. -/
def quadText (octets : List Nat) : String :=
  ".".intercalate (octets.map natText)

/-- Groups with colons between them. -/
def groupsText (groups : List Nat) : String :=
  ":".intercalate (groups.map fun n => String.ofList (Hex.text n))

/-- The number of zeros at the head of a list. -/
def zerosAtHead : List Nat → Nat
  | 0 :: ns => zerosAtHead ns + 1
  | _ => 0

/-- The first longest run of zeros: where it starts and how long it is. -/
def longestZeros : (place : Nat) → List Nat → Nat × Nat
  | _, [] => (0, 0)
  | i, n :: ns =>
    let here := zerosAtHead (n :: ns)
    let later := longestZeros (i + 1) ns
    if here ≠ 0 ∧ later.2 ≤ here then (i, here) else later

/-- The text of an address. -/
def text : Address → String
  | v4 octets => quadText octets
  | v6 groups =>
    match groups with
    | [0, 0, 0, 0, 0, 0xFFFF, a, b] => "::ffff:" ++ quadText [a / 256, a % 256, b / 256, b % 256]
    | groups =>
      match longestZeros 0 groups with
      | (start, count) =>
        if 1 < count then
          groupsText (groups.take start) ++ "::" ++ groupsText (groups.drop (start + count))
        else groupsText groups

theorem readOctet_le {cs rest : List Char} {n : Nat}
    (h : readOctet cs = some (n, rest)) : n ≤ 255 := by
  unfold readOctet at h
  split at h
  split at h
  · exact absurd h (by simp)
  · next hn =>
    obtain ⟨rfl, _⟩ := Prod.mk.inj (Option.some.inj h)
    omega

end Address

end VisitLog

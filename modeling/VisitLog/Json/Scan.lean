import VisitLog.Digest.Hex
import VisitLog.Json.Fault
import VisitLog.Number.Shortest
import VisitLog.Text.Quoted
import VisitLog.Text.Utf8

/-!
# Reading JSON

Readers of the parts of a JSON text: blanks, words, strings, numbers, and whole values that are
passed over. Each takes octets and gives what it read with the octets that follow, or a fault.

Main statement: `length_skipBlanks_le`.
-/

namespace VisitLog.Json

open Text

/-- A reader of a part of a JSON text. -/
abbrev Scan (α : Type) := List Nat → Except Fault (α × List Nat)

/-- A fault behind the last octet read. -/
def fail {α : Type} (cause : Cause) (rest : List Nat) : Except Fault α :=
  .error { cause := cause, rest := rest }

/-- A fault on the next octet. -/
def failNext {α : Type} (cause : Cause) (rest : List Nat) : Except Fault α :=
  .error { cause := cause, rest := rest, peeked := true }

/-- The octets of an ASCII text. -/
def ascii (s : String) : List Nat :=
  s.toList.map Char.toNat

/-- Blanks between the parts of a text. -/
def isBlank (b : Nat) : Bool :=
  b = 0x20 || b = 0x0A || b = 0x09 || b = 0x0D

/-- The octets after blanks. -/
def skipBlanks (bs : List Nat) : List Nat :=
  bs.dropWhile isBlank

/-- Exactly the octets of a word. -/
def word : (expected : List Nat) → Scan Unit
  | [], bs => .ok ((), bs)
  | _ :: _, [] => fail .endInValue []
  | e :: es, b :: bs => if b = e then word es bs else fail .expectedWord bs

/-! ## Strings -/

/-- What a reader of a string has met. -/
inductive StringState where
  | plain
  /-- A backslash. -/
  | escaped
  /-- A backslash, a `u` and some octets; before them perhaps the first half of a pair. -/
  | hex (octets : List Nat) (lead : Option Nat)
  /-- The first half of a pair, behind which a second escape has to follow. -/
  | paired (lead : Nat)
  /-- The same, and a backslash. -/
  | pairedEscape (lead : Nat)
  deriving DecidableEq, Repr

/-- The octet that a backslash and a letter stand for. -/
def escapeOf? (b : Nat) : Option Nat :=
  if b = 0x22 ∨ b = 0x5C ∨ b = 0x2F then some b
  else if b = 0x62 then some 0x08
  else if b = 0x66 then some 0x0C
  else if b = 0x6E then some 0x0A
  else if b = 0x72 then some 0x0D
  else if b = 0x74 then some 0x09
  else none

/-- The number of four hexadecimal digits, the last one first. -/
def hexOf? (octets : List Nat) : Option Nat :=
  octets.foldr (fun b n => do return 16 * (← n) + (← Hex.value? (Char.ofNat b))) (some 0)

/-- The first half of a surrogate pair. -/
def isLead (n : Nat) : Bool := 0xD800 ≤ n && n ≤ 0xDBFF

/-- The second half of a surrogate pair. -/
def isTrail (n : Nat) : Bool := 0xDC00 ≤ n && n ≤ 0xDFFF

/-- The octets of a code point, before those already read, the last one first. -/
def pushCode (n : Nat) (read : List Nat) : List Nat :=
  (Utf8.encodeChar (Char.ofNat n)).reverse ++ read

/-- Reads a string to its closing quote. `read` holds the octets so far, the last one first. A
reader that is not strict takes any four hexadecimal digits and keeps nothing of them. -/
def stringFrom (strict : Bool) : StringState → (read : List Nat) → Scan (List Nat)
  | _, _, [] => fail .endInString []
  | state, read, b :: bs =>
    match state with
    | .plain =>
      if b = 0x22 then .ok (read.reverse, bs)
      else if b = 0x5C then stringFrom strict .escaped read bs
      else if b < 0x20 then fail .controlCharacter bs
      else stringFrom strict .plain (b :: read) bs
    | .escaped =>
      if b = 0x75 then stringFrom strict (.hex [] none) read bs
      else
        match escapeOf? b with
        | some x => stringFrom strict .plain (x :: read) bs
        | none => fail .invalidEscape bs
    | .hex octets lead =>
      if octets.length < 3 then stringFrom strict (.hex (b :: octets) lead) read bs
      else
        match hexOf? (b :: octets), lead with
        | none, _ => fail .invalidEscape bs
        | some n, none =>
          if !strict then stringFrom strict .plain read bs
          else if isTrail n then fail .loneSurrogate bs
          else if isLead n then stringFrom strict (.paired n) read bs
          else stringFrom strict .plain (pushCode n read) bs
        | some n, some lead =>
          if isTrail n then
            let code := 0x10000 + (lead - 0xD800) * 0x400 + (n - 0xDC00)
            stringFrom strict .plain (pushCode code read) bs
          else fail .loneSurrogate bs
    | .paired lead =>
      if b = 0x5C then stringFrom strict (.pairedEscape lead) read bs else fail .brokenPair bs
    | .pairedEscape lead =>
      if b = 0x75 then stringFrom strict (.hex [] (some lead)) read bs else fail .brokenPair bs

/-- The text of a string whose opening quote has been read. -/
def string : Scan String := fun bs =>
  match stringFrom true .plain [] bs with
  | .ok (octets, rest) =>
    match Utf8.decode? octets with
    | some cs => .ok (String.ofList cs, rest)
    | none => fail .invalidCodePoint rest
  | .error f => .error f

/-! ## Numbers -/

/-- A number. -/
inductive Number where
  | integer (n : Int)
  | real (x : Binary64)
  deriving DecidableEq, Repr

/-- The value of a decimal digit. -/
def digit? (b : Nat) : Option Nat :=
  if 0x30 ≤ b ∧ b ≤ 0x39 then some (b - 0x30) else none

/-- The greatest significand; further digits are not taken into it. -/
def greatestSignificand : Nat := 0xFFFFFFFFFFFFFFFF

/-- Digits before the point: the significand, the number of digits not taken into it, and the
rest. -/
def wholeDigits : (significand dropped : Nat) → List Nat → Nat × Nat × List Nat
  | s, dropped, [] => (s, dropped, [])
  | s, dropped, b :: bs =>
    match digit? b with
    | none => (s, dropped, b :: bs)
    | some d =>
      if dropped = 0 ∧ s * 10 + d ≤ greatestSignificand then wholeDigits (s * 10 + d) 0 bs
      else wholeDigits s (dropped + 1) bs

/-- Digits after the point: the significand, the number of digits taken into it, whether all digits
were taken, and the rest. -/
def fractionDigits : (significand taken : Nat) → (full : Bool) → List Nat →
    Nat × Nat × Bool × List Nat
  | s, taken, full, [] => (s, taken, full, [])
  | s, taken, full, b :: bs =>
    match digit? b with
    | none => (s, taken, full, b :: bs)
    | some d =>
      if !full ∧ s * 10 + d ≤ greatestSignificand then fractionDigits (s * 10 + d)
        (taken + 1) false bs
      else fractionDigits s taken true bs

/-- A power of ten as a floating point number. -/
def tenTo (n : Nat) : Binary64 :=
  .ofDecimal false 1 n

/-- The number is beyond all finite ones. -/
def isInfinite : Binary64 → Bool
  | .infinite _ => true
  | .finite _ _ _ => false

/-- A significand times a power of ten, found by one multiplication or by divisions; each is
rounded. The fuel bounds the divisions by 1e308. -/
def scale : (fuel : Nat) → (x : Binary64) → (exponent : Int) → Option Binary64
  | 0, x, _ => some x
  | fuel + 1, x, exponent =>
    if exponent.natAbs ≤ 308 then
      if 0 ≤ exponent then
        let y := x.multiply (tenTo exponent.natAbs)
        if isInfinite y then none else some y
      else some (x.divide (tenTo exponent.natAbs))
    else if x = .ofInt 0 then some x
    else if 0 ≤ exponent then none
    else scale fuel (x.divide (tenTo 308)) (exponent + 308)

/-- The number with the other sign. -/
def negated : Binary64 → Binary64
  | .finite s m e => .finite (!s) m e
  | .infinite s => .infinite (!s)

/-- A floating point number from its parts. -/
def realOf (negative : Bool) (significand : Nat) (exponent : Int) (rest : List Nat) :
    Except Fault (Number × List Nat) :=
  match scale 8 (.ofInt significand) exponent with
  | some x => .ok (.real (if negative then negated x else x), rest)
  | none => fail .numberOutOfRange rest

/-- The greatest exponent that is counted. -/
def greatestExponent : Nat := 0x7FFFFFFF

/-- Digits of an exponent: its value, or where it grew too large; and the rest. -/
def exponentDigits : (n : Nat) → List Nat → Except (List Nat) (Nat × List Nat)
  | n, [] => .ok (n, [])
  | n, b :: bs =>
    match digit? b with
    | none => .ok (n, b :: bs)
    | some d =>
      if n * 10 + d ≤ greatestExponent then exponentDigits (n * 10 + d) bs else .error bs

/-- The digits are skipped. -/
def skipDigits (bs : List Nat) : List Nat :=
  bs.dropWhile fun b => (digit? b).isSome

/-- The exponent of a number, whose letter has been read. -/
def exponentPart (negative : Bool) (significand : Nat) (before : Int) :
    Scan Number := fun bs =>
  let (down, bs) :=
    match bs with
    | 0x2B :: bs => (false, bs)
    | 0x2D :: bs => (true, bs)
    | bs => (false, bs)
  match bs with
  | [] => fail .endInValue []
  | b :: bs =>
    match digit? b with
    | none => fail .invalidNumber bs
    | some d =>
      match exponentDigits d bs with
      | .ok (n, rest) => realOf negative significand (if down then before - n else before + n) rest
      | .error rest =>
        if significand ≠ 0 ∧ !down then fail .numberOutOfRange rest
        else .ok (.real (.finite negative 0 Binary64.leastExponent), skipDigits rest)

/-- The letter before an exponent. -/
def isExponentLetter (b : Nat) : Bool := b = 0x65 || b = 0x45

/-- What may follow the digits of a number with a fraction. -/
def afterFraction (negative : Bool) (significand : Nat) (exponent : Int) : Scan Number := fun bs =>
  match bs with
  | b :: rest =>
    if isExponentLetter b then exponentPart negative significand exponent rest
    else realOf negative significand exponent bs
  | [] => realOf negative significand exponent bs

/-- The fraction of a number, whose point has been read. -/
def fractionPart (negative : Bool) (significand : Nat) (before : Int) : Scan Number := fun bs =>
  match fractionDigits significand 0 false bs with
  | (_, 0, false, []) => failNext .endInValue []
  | (_, 0, false, rest) => failNext .invalidNumber rest
  | (s, taken, _, rest) => afterFraction negative s (before - taken) rest

/-- What follows the digits before the point. -/
def afterWhole (negative : Bool) (significand dropped : Nat) : Scan Number := fun bs =>
  let plain : Except Fault (Number × List Nat) :=
    if dropped ≠ 0 then realOf negative significand dropped bs
    else if !negative then .ok (.integer significand, bs)
    else if significand = 0 ∨ 0x8000000000000000 < significand then
      .ok (.real (negated (.ofInt significand)), bs)
    else .ok (.integer (-(significand : Int)), bs)
  match bs with
  | [] => plain
  | b :: rest =>
    if b = 0x2E then fractionPart negative significand dropped rest
    else if isExponentLetter b then exponentPart negative significand dropped rest
    else plain

/-- A number, whose minus sign has been read if it has one. -/
def number (negative : Bool) : Scan Number := fun bs =>
  match bs with
  | [] => fail .endInValue []
  | b :: rest =>
    match digit? b with
    | none => fail .invalidNumber rest
    | some 0 =>
      match rest with
      | c :: _ =>
        if (digit? c).isSome then failNext .invalidNumber rest else afterWhole negative 0 0 rest
      | [] => afterWhole negative 0 0 rest
    | some d =>
      match wholeDigits d 0 rest with
      | (s, dropped, rest) => afterWhole negative s dropped rest

/-! ## Values of the wrong kind -/

/-- The fault of a value that is not what was expected; the octets start with the value. -/
def unfitValue (expected : String) (bs : List Nat) : Fault :=
  let unfit (what : String) (rest : List Nat) : Fault :=
    { cause := .unfit ("invalid type: " ++ what ++ ", expected " ++ expected), rest := rest }
  let ofWord (what : String) (letters : List Nat) (rest : List Nat) : Fault :=
    match word letters rest with
    | .ok ((), rest) => unfit what rest
    | .error f => f
  let ofNumber (result : Except Fault (Number × List Nat)) : Fault :=
    match result with
    | .ok (.integer n, rest) => unfit ("integer \x60" ++ intText n ++ "\x60") rest
    | .ok (.real x, rest) => unfit ("floating point \x60" ++ x.jsonText ++ "\x60") rest
    | .error f => f
  match bs with
  | [] => { cause := .expectedValue, rest := [], peeked := true }
  | b :: rest =>
    if b = 0x6E then ofWord "null" (ascii "ull") rest
    else if b = 0x74 then ofWord "boolean \x60true\x60" (ascii "rue") rest
    else if b = 0x66 then ofWord "boolean \x60false\x60" (ascii "alse") rest
    else if b = 0x2D then ofNumber (number true rest)
    else if (digit? b).isSome then ofNumber (number false bs)
    else if b = 0x22 then
      match string rest with
      | .ok (s, rest) => unfit ("string " ++ quoted s) rest
      | .error f => f
    else if b = 0x5B then unfit "sequence" bs
    else if b = 0x7B then unfit "map" bs
    else { cause := .expectedValue, rest := bs, peeked := true }

/-- A string, after blanks. -/
def stringValue : Scan String := fun bs =>
  match skipBlanks bs with
  | [] => failNext .endInValue []
  | b :: rest => if b = 0x22 then string rest else .error (unfitValue "a string" (b :: rest))

/-! ## Values that are passed over -/

/-- One digit or more, without a needless zero. -/
def skipInteger : Scan Unit := fun bs =>
  match bs with
  | [] => fail .endInValue []
  | b :: rest =>
    match digit? b with
    | none => fail .invalidNumber rest
    | some 0 =>
      match rest with
      | c :: _ => if (digit? c).isSome then failNext .invalidNumber rest else .ok ((), rest)
      | [] => .ok ((), rest)
    | some _ => .ok ((), skipDigits rest)

/-- One digit or more. -/
def skipSomeDigits : Scan Unit := fun bs =>
  match bs with
  | [] => fail .endInValue []
  | b :: rest => if (digit? b).isSome then .ok ((), skipDigits rest) else fail .invalidNumber rest

/-- A fraction and an exponent, each only if it is there. -/
def skipNumberTail (bs : List Nat) : Except Fault (Unit × List Nat) := do
  let bs ←
    match bs with
    | 0x2E :: rest => (skipSomeDigits rest).map Prod.snd
    | bs => .ok bs
  match bs with
  | b :: rest =>
    if isExponentLetter b then
      match rest with
      | c :: rest' => if c = 0x2B ∨ c = 0x2D then skipSomeDigits rest' else skipSomeDigits rest
      | [] => fail .endInValue []
    else return ((), bs)
  | [] => return ((), [])

/-- Passes over a value; `open` lists stand for the lists and objects around it. The fuel bounds the
number of values. -/
def skipValueFrom : (fuel : Nat) → (around : List Bool) → Scan Unit
  | 0, _, bs => failNext .endInValue bs
  | fuel + 1, around, bs =>
    let key (around : List Bool) (bs : List Nat) : Except Fault (Unit × List Nat) :=
      match skipBlanks bs with
      | 0x22 :: rest => do
        let (_, rest) ← stringFrom false .plain [] rest
        match skipBlanks rest with
        | 0x3A :: rest => skipValueFrom fuel around rest
        | [] => failNext .endInObject []
        | rest => failNext .expectedColon rest
      | [] => failNext .endInObject []
      | rest => failNext .keyNotString rest
    let rec after : List Bool → List Nat → Except Fault (Unit × List Nat)
      | [], bs => .ok ((), bs)
      | isObject :: outer, bs =>
        match skipBlanks bs with
        | [] => failNext (if isObject then .endInObject else .endInList) []
        | b :: rest =>
          if b = 0x2C then
            if isObject then key (isObject :: outer) rest
            else skipValueFrom fuel (isObject :: outer) rest
          else if b = (if isObject then 0x7D else 0x5D) then after outer rest
          else failNext (if isObject then .expectedObjectEnd else .expectedListEnd) (b :: rest)
    match skipBlanks bs with
    | [] => failNext .endInValue []
    | b :: rest =>
      if b = 0x6E then do let (_, rest) ← word (ascii "ull") rest; after around rest
      else if b = 0x74 then do let (_, rest) ← word (ascii "rue") rest; after around rest
      else if b = 0x66 then do let (_, rest) ← word (ascii "alse") rest; after around rest
      else if b = 0x22 then do
        let (_, rest) ← stringFrom false .plain [] rest
        after around rest
      else if b = 0x2D ∨ (digit? b).isSome then do
        let (_, rest) ← skipInteger (if b = 0x2D then rest else b :: rest)
        let (_, rest) ← skipNumberTail rest
        after around rest
      else if b = 0x5B then
        match skipBlanks rest with
        | 0x5D :: rest => after around rest
        | rest => skipValueFrom fuel (false :: around) rest
      else if b = 0x7B then
        match skipBlanks rest with
        | 0x7D :: rest => after around rest
        | rest => key (true :: around) rest
      else failNext .expectedValue (b :: rest)

/-- Passes over a value. -/
def skipValue : Scan Unit := fun bs =>
  skipValueFrom (bs.length + 1) [] bs

/-- Nothing but blanks follows. -/
def finish (bs : List Nat) : Except Fault Unit :=
  match skipBlanks bs with
  | [] => .ok ()
  | rest => failNext .trailingCharacters rest

theorem length_skipBlanks_le (bs : List Nat) : (skipBlanks bs).length ≤ bs.length :=
  (List.dropWhile_suffix isBlank).length_le

end VisitLog.Json

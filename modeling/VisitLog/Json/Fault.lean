import VisitLog.Text.Digits

/-!
# Faults in JSON

Why a JSON text is refused, and where. A fault stands either behind the last octet that was read or
on the next one, which was only looked at; lines and columns are counted in octets.

Main statement: `index_le` (a fault does not stand behind the end of the text).
-/

namespace VisitLog.Json

/-- Why a JSON text is refused. -/
inductive Cause where
  | endInValue
  | endInObject
  | endInList
  | endInString
  | expectedColon
  | expectedObjectEnd
  | expectedListEnd
  | expectedWord
  | expectedValue
  | invalidEscape
  | invalidNumber
  | numberOutOfRange
  | controlCharacter
  | keyNotString
  | loneSurrogate
  | invalidCodePoint
  | trailingComma
  | trailingCharacters
  | brokenPair
  /-- The text is JSON but not of the form that is asked for. -/
  | unfit (why : String)
  deriving DecidableEq, Repr

/-- The cause in words. -/
def Cause.message : Cause → String
  | endInValue => "EOF while parsing a value"
  | endInObject => "EOF while parsing an object"
  | endInList => "EOF while parsing a list"
  | endInString => "EOF while parsing a string"
  | expectedColon => "expected \x60:\x60"
  | expectedObjectEnd => "expected \x60,\x60 or \x60\x7d\x60"
  | expectedListEnd => "expected \x60,\x60 or \x60]\x60"
  | expectedWord => "expected ident"
  | expectedValue => "expected value"
  | invalidEscape => "invalid escape"
  | invalidNumber => "invalid number"
  | numberOutOfRange => "number out of range"
  | controlCharacter => "control character (\\u0000-\\u001F) found while parsing a string"
  | keyNotString => "key must be a string"
  | loneSurrogate => "lone leading surrogate in hex escape"
  | invalidCodePoint => "invalid unicode code point"
  | trailingComma => "trailing comma"
  | trailingCharacters => "trailing characters"
  | brokenPair => "unexpected end of hex escape"
  | unfit why => why

/-- A fault: its cause, the octets that follow, whether the next one was looked at, and the part of
the value that was being read. -/
structure Fault where
  cause : Cause
  rest : List Nat
  peeked : Bool := false
  place : Option String := none
  deriving DecidableEq, Repr

/-- The octets of the last line before an index. -/
def lineStart : (index column line : Nat) → List Nat → Nat × Nat
  | 0, column, line, _ => (line, column)
  | _ + 1, column, line, [] => (line, column)
  | n + 1, column, line, b :: bs =>
    if b = 0x0A then lineStart n 0 (line + 1) bs else lineStart n (column + 1) line bs

namespace Fault

/-- The number of octets before the fault, in a whole text. -/
def index (f : Fault) (whole : List Nat) : Nat :=
  let read := whole.length - f.rest.length
  if f.peeked then min whole.length (read + 1) else read

/-- The fault in words, with its line and column in a whole text. -/
def message (f : Fault) (whole : List Nat) : String :=
  let (line, column) := lineStart (f.index whole) 0 1 whole
  let place := f.place.elim "" fun p => p ++ ": "
  place ++ f.cause.message ++ " at line " ++ Text.natText line ++ " column " ++ Text.natText column

/-- The text is JSON, but not of the form that is asked for. -/
def isUnfit (f : Fault) : Bool :=
  match f.cause with
  | .unfit _ => true
  | _ => false

end Fault

theorem index_le (f : Fault) (whole : List Nat) : f.index whole ≤ whole.length := by
  unfold Fault.index
  dsimp only
  split <;> omega

end VisitLog.Json

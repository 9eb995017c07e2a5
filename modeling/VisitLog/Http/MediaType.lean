import VisitLog.Text.AsciiCase
import VisitLog.Text.Search

/-!
# Media types

A media type is a type, a subtype and perhaps a suffix after a plus sign, followed by parameters
whose values are words or quoted texts. `isJson` holds of `application/json` and of all application
types with the suffix `json`, whatever the case of their letters.
-/

namespace VisitLog.Http

open Text

/-- A character of a word in a header. -/
def isToken (c : Char) : Bool :=
  c.isAlphanum || "!#$%&'*+-.^_\x60|~".toList.contains c

/-- A character of a quoted value. -/
def isQuotable (c : Char) : Bool :=
  ' ' ≤ c && c ≠ '\x7f'

/-- Where a reader of parameters stands. -/
inductive ParameterState where
  /-- Before a name: blanks may stand here. -/
  | start
  | name
  /-- Behind the equals sign. -/
  | value
  | inValue
  /-- Within quotes; the first character may be a quote. -/
  | quotedStart
  | quoted
  /-- Behind a quoted value. -/
  | closed
  deriving DecidableEq, Repr

/-- The parameters of a media type are well formed. -/
def parametersFrom : ParameterState → List Char → Bool
  | .start, [] => true
  | .name, [] => false
  | .value, [] => true
  | .inValue, [] => true
  | .quotedStart, [] => false
  | .quoted, [] => false
  | .closed, [] => true
  | .start, c :: cs =>
    if c = ' ' then parametersFrom .start cs else isToken c && parametersFrom .name cs
  | .name, c :: cs =>
    if c = '=' then parametersFrom .value cs else isToken c && parametersFrom .name cs
  | .value, c :: cs =>
    if c = '"' then parametersFrom .quotedStart cs else isToken c && parametersFrom .inValue cs
  | .inValue, c :: cs =>
    if c = ';' then parametersFrom .start cs else isToken c && parametersFrom .inValue cs
  | .quotedStart, c :: cs => isQuotable c && parametersFrom .quoted cs
  | .quoted, c :: cs =>
    if c = '"' then parametersFrom .closed cs else isQuotable c && parametersFrom .quoted cs
  | .closed, c :: cs =>
    if c = ';' then parametersFrom .start cs else c = ' ' && parametersFrom .closed cs

/-- A media type without its parameters. -/
structure MediaType where
  type : List Char
  /-- The subtype up to its last plus sign. -/
  subtype : List Char
  suffix : Option (List Char)
  deriving DecidableEq, Repr

namespace MediaType

/-- A subtype and its suffix: they part at the last plus sign that is not the first character. -/
def splitSuffix (cs : List Char) : List Char × Option (List Char) :=
  match cs with
  | [] => ([], none)
  | c :: cs =>
    match cutAt? '+' cs.reverse with
    | some (suffix, before) => (c :: before.reverse, some suffix.reverse)
    | none => (c :: cs, none)

/-- The media type in a text. -/
def ofChars? (cs : List Char) : Option MediaType :=
  let type := cs.takeWhile isToken
  match type, cs.drop type.length with
  | _ :: _, '/' :: rest =>
    let sub := rest.takeWhile isToken
    match sub, rest.drop sub.length with
    | _ :: _, ';' :: parameters =>
      if parametersFrom .start parameters then some ⟨type, (splitSuffix sub).1, (splitSuffix sub).2⟩
      else none
    | _, [] => some ⟨type, (splitSuffix sub).1, (splitSuffix sub).2⟩
    | _, _ => none
  | _, _ => none

/-- A body of this type is JSON. -/
def isJson (m : MediaType) : Bool :=
  foldLetters m.type == "application".toList &&
    (foldLetters m.subtype == "json".toList || m.suffix.map foldLetters == some "json".toList)

end MediaType

end VisitLog.Http

import VisitLog.Http.Message

/-!
# Cookies

A request carries cookies in headers, as names and values parted by semicolons and percent encoded.
Pieces without an equals sign or a name, and those that do not decode to text, are passed over. Of
several cookies with one name the last one counts.

Main statement: `ofPiece?_eq_none` (a piece without an equals sign is no cookie).
-/

namespace VisitLog.Http

open Text

/-- A cookie of a request. -/
structure Cookie where
  name : String
  value : String
  deriving DecidableEq, Repr

namespace Cookie

/-- The cookie in a piece of a header. -/
def ofPiece? (piece : List Char) : Option Cookie :=
  match cutAt? '=' piece with
  | none => none
  | some (name, value) =>
    if (trimChars name).isEmpty then none
    else
      match Form.decodePercent? (trimChars name), Form.decodePercent? (trimChars value) with
      | some name, some value => some ⟨name, value⟩
      | _, _ => none

/-- The cookies of a request, in order. -/
def all (hs : Headers) : List Cookie :=
  ((hs.values "cookie").filterMap text?).flatMap fun value =>
    (splitAt ';' value.toList).filterMap ofPiece?

/-- The value of a cookie. -/
def get? (hs : Headers) (name : String) : Option String :=
  ((all hs).reverse.find? fun c => c.name == name).map Cookie.value

theorem ofPiece?_eq_none {piece : List Char} (h : cutAt? '=' piece = none) :
    ofPiece? piece = none := by
  simp [ofPiece?, h]

end Cookie

end VisitLog.Http

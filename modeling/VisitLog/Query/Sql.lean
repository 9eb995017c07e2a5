import VisitLog.Query.Statement
import VisitLog.Text.Digits

/-!
# The text of a query

A statement is a list of pieces: fixed text, and values that are bound. In the text each bound value
stands as a placeholder `?1`, `?2`, ... in the order of the values, so no value is ever part of the
text.

Main statements: `textFrom_congr` (the text does not depend on the values that are bound) and
`values_append`.
-/

namespace VisitLog

open Text

/-- A value bound to a placeholder. -/
inductive Bound where
  | text (s : String)
  | integer (n : Nat)
  deriving DecidableEq, Repr

namespace Sql

/-- A piece of a statement. -/
inductive Piece where
  | fixed (s : String)
  | bound (v : Bound)
  deriving DecidableEq, Repr

/-- The text of a statement whose first placeholder has the number `n`. -/
def textFrom (n : Nat) : List Piece → String
  | [] => ""
  | .fixed s :: ps => s ++ textFrom n ps
  | .bound _ :: ps => "?" ++ natText n ++ textFrom (n + 1) ps

/-- The text of a statement. -/
def text (ps : List Piece) : String :=
  textFrom 1 ps

/-- The values of a statement, in the order of their placeholders. -/
def values (ps : List Piece) : List Bound :=
  ps.filterMap fun p =>
    match p with
    | .fixed _ => none
    | .bound v => some v

/-- An identifier between double quotes; a quote inside is doubled. -/
def quoteChars : List Char → List Char
  | [] => []
  | c :: cs => if c = '"' then '"' :: '"' :: quoteChars cs else c :: quoteChars cs

/-- An identifier between double quotes. -/
def quoteIdentifier (name : String) : String :=
  String.ofList ('"' :: (quoteChars name.toList ++ ['"']))

/-- A plain identifier: an ASCII letter or underscore, then letters, digits or underscores, 64
characters at most. -/
def isPlainIdentifier (name : String) : Bool :=
  match name.toList with
  | [] => false
  | c :: cs =>
    (c.isAlpha || c = '_') && cs.length < 64 && cs.all fun c => c.isAlphanum || c = '_'

end Sql

open Sql

namespace Condition

/-- A comparison with a bound text. -/
def compared (c : Column) (operator s : String) : List Piece :=
  [.fixed (c.name ++ operator), .bound (.text s)]

/-- The pieces of a condition. -/
def pieces : Condition → List Piece
  | equals c s => compared c " = " s
  | isEmpty c => [.fixed (c.name ++ " = ''")]
  | oneOf c ss =>
    .fixed (c.name ++ " IN (") ::
      ((ss.map fun s => [Piece.bound (.text s)]).intersperse [.fixed ", "]).flatten ++ [.fixed ")"]
  | like c pattern => compared c " LIKE " pattern
  | atLeast c s => compared c " >= " s
  | atMost c s => compared c " <= " s
  | above c s => compared c " > " s

end Condition

namespace Query

/-- The conditions, all of which have to hold. -/
def wherePieces (q : Query) : List Piece :=
  match q.conditions with
  | [] => []
  | cs => .fixed " WHERE " :: ((cs.map Condition.pieces).intersperse [.fixed " AND "]).flatten

/-- Order and paging. -/
def tailPieces (q : Query) : List Piece :=
  let order :=
    match q.order with
    | some o =>
      [Piece.fixed (" ORDER BY " ++ o.column.name ++
        match o.direction with
        | .ascending => " ASC"
        | .descending => " DESC")]
    | none => []
  let limit :=
    match q.limit, q.offset with
    | some n, _ => [Piece.fixed " LIMIT ", .bound (.integer n)]
    | none, some _ => [Piece.fixed " LIMIT -1"]
    | none, none => []
  let offset :=
    match q.offset with
    | some n => [Piece.fixed " OFFSET ", .bound (.integer n)]
    | none => []
  order ++ limit ++ offset

/-- The statement that lists rows. -/
def selectPieces (q : Query) : List Piece :=
  .fixed ("SELECT * FROM " ++ quoteIdentifier q.table) :: (q.wherePieces ++ q.tailPieces)

/-- The statement that counts rows, or different values of a column. -/
def countPieces (q : Query) : List Piece :=
  match q.distinct with
  | some c =>
    .fixed ("SELECT COUNT(*) AS count FROM (SELECT DISTINCT " ++ c.name ++ " FROM " ++
      quoteIdentifier q.table) :: (q.wherePieces ++ [.fixed ") AS t1"])
  | none => .fixed ("SELECT COUNT(*) AS count FROM " ++ quoteIdentifier q.table) :: q.wherePieces

/-- The text that lists rows. -/
def selectSql (q : Query) : String :=
  Sql.text q.selectPieces

/-- The text that counts rows. -/
def countSql (q : Query) : String :=
  Sql.text q.countPieces

/-- The values bound by the statement that lists rows. -/
def binds (q : Query) : List Bound :=
  Sql.values q.selectPieces

end Query

/-! ## Lemmas -/

namespace Sql

/-- The piece with its value forgotten. -/
def Piece.shape : Piece → Option String
  | fixed s => some s
  | bound _ => none

/-- The text of pieces depends on their shapes only. -/
theorem textFrom_congr {n : Nat} {ps qs : List Piece}
    (h : ps.map Piece.shape = qs.map Piece.shape) :
    textFrom n ps = textFrom n qs := by
  induction ps generalizing n qs with
  | nil => cases qs <;> simp_all
  | cons p ps ih =>
    cases qs with
    | nil => simp at h
    | cons q qs =>
      obtain ⟨hp, hps⟩ : p.shape = q.shape ∧ ps.map Piece.shape = qs.map Piece.shape := by
        simpa using h
      have hn (k : Nat) : textFrom k ps = textFrom k qs := ih hps
      cases p <;> cases q <;> simp_all [Piece.shape, textFrom]

@[simp] theorem values_append (ps qs : List Piece) :
    values (ps ++ qs) = values ps ++ values qs := by
  simp [values]

end Sql

end VisitLog

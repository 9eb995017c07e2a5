import VisitLog.Number.Decimal

/-!
# Values of a settings file

What a TOML document holds: texts, numbers, flags, lists and tables. A date or a time counts as the
text that names it.

Main statement: `lookup_ofFields`.
-/

namespace VisitLog

/-- A value without parts. -/
inductive Scalar where
  /-- Nothing has been set. -/
  | nothing
  | flag (b : Bool)
  | integer (n : Int)
  | real (x : Decimal)
  | text (s : String)
  deriving DecidableEq, Repr

/-- A value of a TOML document. -/
inductive Toml where
  | scalar (s : Scalar)
  | list (items : List Toml)
  | table (fields : List (String × Toml))

namespace Toml

/-- The fields of a table, none of another value. -/
def fields : Toml → List (String × Toml)
  | table fs => fs
  | _ => []

/-- The value of a key in a table. -/
def get? (t : Toml) (key : String) : Option Toml :=
  t.fields.lookup key

theorem lookup_ofFields (fs : List (String × Toml)) (key : String) :
    (table fs).get? key = fs.lookup key := rfl

end Toml

end VisitLog

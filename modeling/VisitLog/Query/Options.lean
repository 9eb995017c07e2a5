import VisitLog.Text.Blank

/-!
# Query options

What a client may ask of a listing or a count of visits. A text that is blank counts as absent; that
is decided where the query is made, not here.
-/

namespace VisitLog

/-- Filters, order and paging of a listing or a count. -/
structure Options where
  id : Option String := none
  idIn : List String := []
  /-- The column whose different values are counted. -/
  distinct : Option String := none
  country : Option String := none
  pathContains : Option String := none
  pathExact : Option String := none
  deviceType : Option String := none
  createdFrom : Option String := none
  createdTo : Option String := none
  offset : Int := 0
  limit : Int := 0
  sortOrder : Option String := none
  orderBy : Option String := none
  countOnly : Bool := false
  withDeleted : Bool := false
  deriving DecidableEq, Repr, Inhabited

namespace Text

/-- The trimmed text of a parameter that is present and not blank. -/
def filled? (s : Option String) : Option String :=
  match s with
  | some s =>
    match trimChars s.toList with
    | [] => none
    | cs => some (String.ofList cs)
  | none => none

end Text

end VisitLog

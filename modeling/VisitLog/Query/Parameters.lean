import VisitLog.Query.Options
import VisitLog.Text.Form
import VisitLog.Text.Integer

/-!
# Parameters of the listing API

The query of a request as options of a listing. Names that are not known are passed over; a known
name may come once, and numbers and flags have to be written as such. The first fault in the order
of the query is reported.

Main statements: `lookup_of_collect` (a known parameter keeps its value) and `limit_bounds` (a page
has between 1 and 500 rows).
-/

namespace VisitLog

open Text

/-- Why the query of a request is refused. -/
inductive ParameterFault where
  | repeated (name : String)
  | notInteger (name : String) (why : IntegerFault)
  | notFlag (name : String)
  deriving DecidableEq, Repr

/-- The fault in words. -/
def ParameterFault.message (f : ParameterFault) : String :=
  "Failed to deserialize query string: " ++
    match f with
    | repeated name => "duplicate field \x60" ++ name ++ "\x60"
    | notInteger name why => name ++ ": " ++ why.message
    | notFlag name => name ++ ": provided string was not \x60true\x60 or \x60false\x60"

namespace Options

/-- The names of parameters that are texts. -/
def textNames : List String :=
  ["id_in", "distinct", "country", "path_contains", "path_exact", "device_type", "from", "to",
    "order_by", "sort_order"]

/-- The names of parameters that are integers. -/
def integerNames : List String := ["limit", "offset"]

/-- The name of the parameter that is a flag. -/
def flagName : String := "with_deleted"

/-- A value that does not fit the kind of its parameter. -/
def misfit? (name value : String) : Option ParameterFault :=
  if name ∈ integerNames then
    match readInteger value.toList with
    | .ok _ => none
    | .error why => some (.notInteger name why)
  else if name = flagName ∧ value ≠ "true" ∧ value ≠ "false" then some (.notFlag name)
  else none

/-- The known parameters of a query, each at most once and with a value of its kind. -/
def collect : (seen : List (String × String)) → List (String × String) →
    Except ParameterFault (List (String × String))
  | seen, [] => .ok seen
  | seen, (name, value) :: rest =>
    if name ∈ textNames ∨ name ∈ integerNames ∨ name = flagName then
      if seen.any fun p => p.1 == name then .error (.repeated name)
      else
        match misfit? name value with
        | some fault => .error fault
        | none => collect (seen ++ [(name, value)]) rest
    else collect seen rest

/-- The members of a list with commas between them, trimmed and without blank ones. -/
def members (s : String) : List String :=
  (splitAt ',' s.toList).filterMap fun cs => filled? (some (String.ofList cs))

/-- Rows of a page when nothing else is asked for. -/
def defaultLimit : Int := 50

/-- Rows of a page at most. -/
def maxLimit : Int := 500

/-- The options of known parameters. -/
def ofKnown (ps : List (String × String)) : Options :=
  let integer (name : String) (fallback : Int) : Int :=
    match ps.lookup name with
    | some value => (readInteger value.toList).toOption.getD fallback
    | none => fallback
  { idIn := ((ps.lookup "id_in").map members).getD []
    distinct := ps.lookup "distinct"
    country := ps.lookup "country"
    pathContains := ps.lookup "path_contains"
    pathExact := ps.lookup "path_exact"
    deviceType := ps.lookup "device_type"
    createdFrom := ps.lookup "from"
    createdTo := ps.lookup "to"
    limit := max 1 (min maxLimit (integer "limit" defaultLimit))
    offset := max 0 (integer "offset" 0)
    orderBy := some ((ps.lookup "order_by").getD "created_at")
    sortOrder := ps.lookup "sort_order"
    withDeleted := ps.lookup flagName == some "true" }

/-- The options that the query of a request asks for. -/
def ofQuery (query : String) : Except ParameterFault Options :=
  match collect [] (Form.fields query.toList) with
  | .ok ps => .ok (ofKnown ps)
  | .error fault => .error fault

/-! ## Lemmas -/

/-- The parameters that are collected have the values that were sent. -/
theorem lookup_of_collect {seen ps known : List (String × String)} {name : String}
    (hname : name ∈ textNames ∨ name ∈ integerNames ∨ name = flagName)
    (h : collect seen ps = .ok known) :
    known.lookup name = (seen ++ ps).lookup name := by
  induction ps generalizing seen with
  | nil =>
    cases h
    rw [List.append_nil]
  | cons given ps ih =>
    unfold collect at h
    split at h
    · split at h
      · cases h
      · split at h
        · cases h
        · rw [ih h, List.append_assoc]
          rfl
    · next hunknown =>
      have hne : (name == given.1) = false := by
        refine beq_eq_false_iff_ne.2 fun e => hunknown ?_
        rw [← e]
        exact hname
      rw [ih h, List.lookup_append, List.lookup_append, List.lookup_cons, hne]

theorem limit_bounds (ps : List (String × String)) :
    1 ≤ (ofKnown ps).limit ∧ (ofKnown ps).limit ≤ maxLimit := by
  simp only [ofKnown, maxLimit]
  omega

end Options

end VisitLog

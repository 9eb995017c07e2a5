import VisitLog.Database.Fault
import VisitLog.Database.Table
import VisitLog.Query.Statement

/-!
# The database engine

What a statement means is fixed: which rows it finds, changes or counts. How the engine goes about
it shows in a few places, and these are left to an `Engine`: in which order come rows that the order
asked for does not tell apart, on which rows a pattern is tried (one that is too long fails where it
is tried), which floating point number a numeral becomes, and what the tables hold that the engine
brings along. The laws of an `Engine` are what its documentation says of these.
-/

namespace VisitLog

/-- Whether a statement lists the rows that it finds or counts them. -/
inductive Purpose where
  | listing
  | counting
  deriving DecidableEq, Repr

/-- The second row may follow the first one. -/
def Order.allows (o : Order) (a b : Row) : Bool :=
  match o.direction with
  | .ascending => (a.value o.column).atMost (b.value o.column)
  | .descending => (b.value o.column).atMost (a.value o.column)

/-- What a database engine decides on its own. -/
class Engine where
  /-- The floating point number of a sign, the digits and a power of ten. -/
  real : (negative : Bool) → (significand : Nat) → (power : Int) → Binary64
  /-- The rows that a query found, in the order in which they come. -/
  arrange : Query → Rows → Rows
  /-- A pattern of the query is tried on a row, given which of the conditions the row meets. -/
  tries : Purpose → Query → (Condition → Bool) → Bool
  /-- The answer to a listing from a name under which no table was created. -/
  listOwn : Query → Database → Except Fault (List Visitor)
  /-- The answer to a count from a name under which no table was created. -/
  countOwn : Query → Database → Except Fault Nat
  perm_arrange : ∀ q rows, (arrange q rows).Perm rows
  pairwise_arrange : ∀ {q rows o}, q.order = some o → rows.IsText o.column →
    (arrange q rows).Pairwise fun a b => o.allows a b
  /-- Where everything else is met, the answer depends on the pattern. -/
  tries_of_forall : ∀ {purpose q} {isMet : Condition → Bool},
    (∀ k ∈ q.conditions, k.isPattern ∨ isMet k) → tries purpose q isMet
  /-- No table of the engine's own has a column for the time of deletion. -/
  listOwn_deletedAt : ∀ {q : Query}, .deletedAt ∈ q.conditions.map Condition.column →
    ∃ fault, ∀ db, listOwn q db = .error fault
  countOwn_deletedAt : ∀ {q : Query}, .deletedAt ∈ q.conditions.map Condition.column →
    ∃ fault, ∀ db, countOwn q db = .error fault

/-- Limit and offset leave rows in the order in which they come without. -/
def Engine.IsSteady [Engine] : Prop :=
  ∀ (q : Query) (limit offset : Option Nat) (rows : Rows),
    arrange { q with limit := limit, offset := offset } rows = arrange q rows

end VisitLog

/-!
# Database faults

Why the database refuses a statement.
-/

namespace VisitLog

/-- Why the database refuses a statement. -/
inductive Fault where
  | noTable (name : String)
  | noColumn (name : String)
  /-- A row with this identifier exists in the table already. -/
  | idTaken (table : String)
  /-- Another table or index has this name. -/
  | nameTaken (name : String)
  /-- Names that begin like those of the database's own tables are reserved. -/
  | nameReserved (name : String)
  /-- The statement does not parse. -/
  | malformed
  /-- A query that must give a row gave none. -/
  | noRows
  /-- More values are bound than a statement can number. -/
  | tooManyValues
  | patternTooLong
  deriving DecidableEq, Repr, Inhabited

namespace Fault

/-- The fault in words. -/
def message : Fault → String
  | noTable name => "no such table: " ++ name
  | noColumn name => "no such column: " ++ name
  | idTaken table => "UNIQUE constraint failed: " ++ table ++ ".id"
  | nameTaken name => "there is already an object named " ++ name
  | nameReserved name => "object name reserved for internal use: " ++ name
  | malformed => "syntax error"
  | noRows => "Query returned no rows"
  | tooManyValues => "variable number must be between ?1 and ?32766"
  | patternTooLong => "LIKE or GLOB pattern too complex"

end Fault

end VisitLog

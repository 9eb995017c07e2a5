import VisitLog.Database.Fault

/-!
# Failures

Why an operation fails, its wording for the log, and the status and text that a client is shown.
Causes inside the server are not shown to clients.

Main statements: `status_lt_500_iff` (a client is told the cause exactly when the fault is its own)
and `bind_eq_ok` (attempts in a row).
-/

namespace VisitLog

/-- Why an operation fails. -/
inductive Failure where
  | validation (why : String)
  | unauthorized (why : String)
  | notFound (what : String)
  | database (fault : Fault)
  /-- The connection pool has been closed. -/
  | poolClosed
  /-- The database call was broken off. -/
  | interrupted
  | internal (why : String)
  deriving DecidableEq, Repr, Inhabited

namespace Failure

/-- The failure in words. -/
def message : Failure → String
  | validation why => "validation error: " ++ why
  | unauthorized why => "authentication error: " ++ why
  | notFound what => "not found: " ++ what
  | database fault => "database error: " ++ fault.message
  | poolClosed => "pool error: Pool has been closed"
  | interrupted => "interact error: Aborted"
  | internal why => "internal error: " ++ why

/-- The status code that a client is sent. -/
def status : Failure → Nat
  | validation _ => 400
  | unauthorized _ => 401
  | notFound _ => 404
  | _ => 500

/-- The text that a client is shown. -/
def shown : Failure → String
  | validation why | unauthorized why => why
  | notFound what => what ++ " not found"
  | _ => "internal server error"

/-- No record has this identifier, or it was deleted. -/
def noVisitor (id : String) : Failure :=
  notFound ("visitor " ++ id)

/-- An operation on one record needs its identifier. -/
def idRequired : Failure :=
  validation "visitor id is required"

theorem status_lt_500_iff (f : Failure) :
    f.status < 500 ↔ ∃ why, f = validation why ∨ f = unauthorized why ∨ f = notFound why := by
  cases f <;> simp [status]

end Failure

/-- Two attempts in a row succeed if the first one does and the second one does on its result. -/
theorem bind_eq_ok {ε α β : Type} {x : Except ε α} {f : α → Except ε β} {b : β} :
    x >>= f = .ok b ↔ ∃ a, x = .ok a ∧ f a = .ok b := by
  cases x with
  | error e =>
    refine ⟨fun h => ?_, fun ⟨a, h, _⟩ => ?_⟩
    · cases h
    · cases h
  | ok a =>
    refine ⟨fun h => ⟨a, rfl, h⟩, ?_⟩
    rintro ⟨_, ⟨⟩, h⟩
    exact h

end VisitLog

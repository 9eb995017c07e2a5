import VisitLog.Http.MediaType
import VisitLog.Service.Beacon
import VisitLog.Service.Capture

/-!
# Reported visits

The visit behind a beacon. Its body has to be JSON of a bounded size, and the path in it has to fit
its column; the referrer in it wins over the header.

Main statements: `ofRequest_eq_ok` and `visit?_eq_ok` (which bodies and which beacons are accepted).
-/

namespace VisitLog

open Text Http

namespace Beacon

/-- The greatest size of a body, in octets. -/
def maxSize : Nat := 8 * 1024

/-- The body of the request is said to be JSON. -/
def isJson (hs : Headers) : Bool :=
  match (hs.text? "content-type").bind fun value => MediaType.ofChars? value.toList with
  | some m => m.isJson
  | none => false

/-- A fault in a body, in words. -/
def faultMessage (f : Json.Fault) (whole : List Nat) : String :=
  (if f.isUnfit then "Failed to deserialize the JSON body into the target type: "
    else "Failed to parse the request body as JSON: ") ++ f.message whole

/-- The beacon in the body of a request. -/
def ofRequest (r : Request) : Except Failure Beacon :=
  let body := r.body.map UInt8.toNat
  if !isJson r.headers then
    .error (.validation "Expected request with \x60Content-Type: application/json\x60")
  else if maxSize < body.length then
    .error (.validation "Failed to buffer the request body: length limit exceeded")
  else
    match ofOctets body with
    | .ok beacon => .ok beacon
    | .error f => .error (.validation (faultMessage f body))

/-- The visit that a beacon reports. -/
def visit? (countryHeader : String) (r : Request) (b : Beacon) : Except Failure Visit :=
  let path := trim b.path
  if path.isEmpty then .error (.validation "path is required")
  else if Column.path.maxLength < path.utf8ByteSize then
    .error (.validation ("path exceeds " ++ natText Column.path.maxLength ++ " bytes"))
  else
    let visit := Visit.capture countryHeader path r.headers r.peer
    .ok { visit with referrer := b.referrer.getD visit.referrer }

/-! ## What is accepted -/

variable {r : Request} {b : Beacon}

/-- A report is read from a body that is declared as JSON, not too large, and well-formed. -/
theorem ofRequest_eq_ok : ofRequest r = .ok b ↔
    isJson r.headers ∧ r.body.length ≤ maxSize ∧ ofOctets (r.body.map UInt8.toNat) = .ok b := by
  have hlength : (r.body.map UInt8.toNat).length = r.body.length := List.length_map _
  unfold ofRequest
  dsimp only
  cases hjson : isJson r.headers with
  | false => simp
  | true =>
    rw [Bool.not_true, if_neg Bool.false_ne_true, hlength]
    by_cases hsize : maxSize < r.body.length
    · rw [if_pos hsize]
      exact ⟨nofun, fun h => absurd h.2.1 (Nat.not_le.2 hsize)⟩
    · rw [if_neg hsize]
      cases hbody : ofOctets (r.body.map UInt8.toNat) with
      | ok beacon => simp [Nat.not_lt.1 hsize]
      | error fault => simp

theorem visit?_eq_ok {countryHeader : String} {visit : Visit} :
    visit? countryHeader r b = .ok visit ↔
      trim b.path ≠ "" ∧ (trim b.path).utf8ByteSize ≤ Column.path.maxLength ∧
      visit = { Visit.capture countryHeader (trim b.path) r.headers r.peer with
        referrer := b.referrer.getD
          (Visit.capture countryHeader (trim b.path) r.headers r.peer).referrer } := by
  unfold visit?
  dsimp only
  by_cases hblank : trim b.path = ""
  · rw [if_pos (String.isEmpty_iff.2 hblank)]
    exact ⟨nofun, fun h => absurd hblank h.1⟩
  · rw [if_neg (mt String.isEmpty_iff.1 hblank)]
    by_cases hlong : Column.path.maxLength < (trim b.path).utf8ByteSize
    · rw [if_pos hlong]
      exact ⟨nofun, fun h => absurd h.2.1 (Nat.not_le.2 hlong)⟩
    · rw [if_neg hlong, Except.ok.injEq, eq_comm]
      exact ⟨fun h => ⟨hblank, Nat.not_lt.1 hlong, h⟩, fun h => h.2.2⟩

end Beacon

end VisitLog

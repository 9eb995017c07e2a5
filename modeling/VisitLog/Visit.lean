import VisitLog.Text.AsciiCase
import VisitLog.Text.Blank
import VisitLog.UserAgent
import VisitLog.Visitor

/-!
# Visits

A `Visit` is what a client sends that a record is made from. The record keeps each text trimmed and
cut to the width of its column, and adds what the user agent tells and the fingerprint.

Main statement: `dirty_toVisitor` (all columns of such a record count as changed).
-/

namespace VisitLog

open Text

/-- What a visit is recorded from. -/
structure Visit where
  path : String := ""
  ipAddress : String := ""
  userAgent : String := ""
  referrer : String := ""
  acceptLanguage : String := ""
  acceptEncoding : String := ""
  /-- The code of a country, as the proxy in front reports it. -/
  country : String := ""
  deriving DecidableEq, Repr, Inhabited

namespace Visit

/-- A text as a column keeps it: trimmed, and cut to the width of the column. -/
def fitted (c : Column) (s : String) : String :=
  clip c.maxLength (trim s)

/-- The columns that a visit fills in, apart from the fingerprint. -/
def fields (visit : Visit) : List (Column × String) :=
  let agent := UserAgent.ofText visit.userAgent
  [(.path, fitted .path visit.path),
    (.ipAddress, fitted .ipAddress visit.ipAddress),
    (.country, fitted .country (raiseLetters visit.country)),
    (.userAgent, fitted .userAgent visit.userAgent),
    (.userReferrer, fitted .userReferrer visit.referrer),
    (.userAcceptLanguage, fitted .userAcceptLanguage visit.acceptLanguage),
    (.userAcceptEncoding, fitted .userAcceptEncoding visit.acceptEncoding),
    (.userBrowser, agent.browser),
    (.userBrowserVersion, agent.browserVersion),
    (.userOs, agent.os),
    (.userOsVersion, agent.osVersion),
    (.userDevice, agent.device),
    (.userDeviceType, agent.deviceType)]

/-- The record of a visit at a clock. -/
def toVisitor (now : Instant) (random : Nat) (visit : Visit) : Visitor :=
  let v := (Visitor.fresh now random).setAll visit.fields
  v.set .fingerprint v.fingerprint

/-! ## Lemmas -/

theorem dirty_setAll {v : Visitor} {c : Column} (fs : List (Column × String)) (h : v.dirty c) :
    (v.setAll fs).dirty c := by
  induction fs generalizing v with
  | nil => exact h
  | cons f fs ih => exact ih (by simp [h])

theorem dirty_toVisitor (now : Instant) (random : Nat) (visit : Visit) (c : Column) :
    (visit.toVisitor now random).dirty c := by
  simp [toVisitor, dirty_setAll visit.fields (show (Visitor.fresh now random).dirty c from rfl)]

end Visit

end VisitLog

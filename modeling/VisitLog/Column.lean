/-!
# Columns of a visitor record

The eighteen columns in table order, their names, widths and their affinity in the database.
-/

namespace VisitLog

/-- A column of a visitor record, in table order. -/
inductive Column where
  | id
  | path
  | ipAddress
  | country
  | fingerprint
  | userAcceptLanguage
  | userAcceptEncoding
  | userAgent
  | userOs
  | userOsVersion
  | userDevice
  | userDeviceType
  | userBrowser
  | userBrowserVersion
  | userReferrer
  | createdAt
  | updatedAt
  | deletedAt
  deriving DecidableEq, Repr, Inhabited

namespace Column

/-- Every column, in table order. -/
def all : List Column :=
  [.id, .path, .ipAddress, .country, .fingerprint, .userAcceptLanguage, .userAcceptEncoding,
    .userAgent, .userOs, .userOsVersion, .userDevice, .userDeviceType, .userBrowser,
    .userBrowserVersion, .userReferrer, .createdAt, .updatedAt, .deletedAt]

/-- The name of a column in the table, in query options and in JSON. -/
def name : Column → String
  | id => "id"
  | path => "path"
  | ipAddress => "ip_address"
  | country => "country"
  | fingerprint => "fingerprint"
  | userAcceptLanguage => "user_accept_language"
  | userAcceptEncoding => "user_accept_encoding"
  | userAgent => "user_agent"
  | userOs => "user_os"
  | userOsVersion => "user_os_version"
  | userDevice => "user_device"
  | userDeviceType => "user_device_type"
  | userBrowser => "user_browser"
  | userBrowserVersion => "user_browser_version"
  | userReferrer => "user_referrer"
  | createdAt => "created_at"
  | updatedAt => "updated_at"
  | deletedAt => "deleted_at"

/-- The column of a name. -/
def ofName? (s : String) : Option Column :=
  all.find? fun c => c.name == s

/-- The greatest number of characters that a value derived from a request keeps. -/
def maxLength : Column → Nat
  | path => 512
  | country => 2
  | fingerprint => 32
  | userAgent | userReferrer => 255
  | userOs | userOsVersion | userDeviceType => 12
  | userBrowserVersion => 24
  | _ => 40

/-- The width of a column by name; names that no column has count as the common width. -/
def maxLengthOf (s : String) : Nat :=
  match ofName? s with
  | some c => c.maxLength
  | none => 40

/-- The column holds a datetime: numeric-looking text in it is stored as a number. -/
def isDatetime : Column → Bool
  | createdAt | updatedAt | deletedAt => true
  | _ => false

/-! ## Lemmas -/

theorem mem_all (c : Column) : c ∈ all := by
  cases c <;> decide

theorem nodup_all : all.Nodup := by
  decide

theorem ofName?_name (c : Column) : ofName? c.name = some c := by
  cases c <;> rfl

theorem name_of_ofName? {s : String} {c : Column} (h : ofName? s = some c) : c.name = s := by
  simpa using List.find?_some h

theorem name_injective {a b : Column} (h : a.name = b.name) : a = b := by
  have := ofName?_name a
  rw [h, ofName?_name b] at this
  exact (Option.some.inj this).symm

end Column

end VisitLog

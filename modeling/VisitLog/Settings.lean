import VisitLog.Query.Sql
import VisitLog.Text.Quoted

/-!
# Settings

What the service is set up with, in sections, and the values that hold where nothing is set. Before
the service starts the settings are checked: the administrator's token has to be a secret of its
own, the table a plain identifier, and the rate limit positive.

Main statements: `check_eq_none` (which settings are accepted) and `check_usual` (whatever is left
as it is passes).
-/

namespace VisitLog

/-- Where the service listens. -/
structure ServerSettings where
  host : String
  port : Nat
  deriving DecidableEq, Repr

/-- The database and the table of visits in it. -/
structure DatabaseSettings where
  path : String
  poolSize : Nat := 4
  visitorTable : String := "stats_visitor"
  automigrate : Bool := true
  debug : Bool := false
  deriving DecidableEq, Repr

/-- How visits are captured and written behind. -/
structure IngestSettings where
  channelCapacity : Nat := 4096
  flushIntervalSeconds : Nat := 2
  flushBatchSize : Nat := 200
  /-- The header that carries the code of the client's country. -/
  countryHeader : String := "cf-ipcountry"
  deriving DecidableEq, Repr

/-- How long deleted records are kept; zero days keep them for ever. -/
structure RetentionSettings where
  softDeletedDays : Nat := 30
  pruneIntervalSeconds : Nat := 3600
  deriving DecidableEq, Repr

/-- The administrator and the dashboard. -/
structure AdminSettings where
  token : String
  homeUrl : String := "/"
  websiteUrl : String := ""
  statsCacheSeconds : Nat := 60
  deriving DecidableEq, Repr

/-- How many visits a client may report. -/
structure RateLimitSettings where
  replenishMillis : Nat := 20
  burstSize : Nat := 100
  deriving DecidableEq, Repr

/-- Everything that the service is set up with. -/
structure Settings where
  server : ServerSettings
  database : DatabaseSettings
  ingest : IngestSettings := {}
  retention : RetentionSettings := {}
  admin : AdminSettings
  rateLimit : RateLimitSettings := {}
  deriving DecidableEq, Repr

namespace Settings

/-- What is wrong with settings. -/
inductive Flaw where
  | noToken
  | shortToken
  | badTable (name : String)
  | noRate
  deriving DecidableEq, Repr

/-- The flaw in words. -/
def Flaw.message : Flaw → String
  | noToken =>
    "admin.token must be set to a strong, unique value. " ++
      "Set it in config.toml or via STATSSTORE__ADMIN__TOKEN env var."
  | shortToken => "admin.token must be at least 16 characters."
  | badTable name =>
    "database.visitor_table_name " ++ Text.quoted name ++ " is not a plain SQL identifier"
  | noRate => "rate_limit.replenish_interval_ms and rate_limit.burst_size must be positive"

/-- The token of an example file, which everybody knows. -/
def knownToken : String := "change-me-in-production"

/-- The least size of a token, in octets. -/
def leastTokenSize : Nat := 16

/-- The first flaw of settings. -/
def check (s : Settings) : Option Flaw :=
  if s.admin.token.isEmpty ∨ s.admin.token = knownToken then some .noToken
  else if s.admin.token.utf8ByteSize < leastTokenSize then some .shortToken
  else if !Sql.isPlainIdentifier s.database.visitorTable then some
    (.badTable s.database.visitorTable)
  else if s.rateLimit.replenishMillis = 0 ∨ s.rateLimit.burstSize = 0 then some .noRate
  else none

/-- Settings are accepted if the token is a secret of its own, the table a plain identifier, and the
rate limit positive. -/
theorem check_eq_none {s : Settings} :
    s.check = none ↔
      s.admin.token ≠ knownToken ∧ leastTokenSize ≤ s.admin.token.utf8ByteSize ∧
        Sql.isPlainIdentifier s.database.visitorTable ∧
        0 < s.rateLimit.replenishMillis ∧ 0 < s.rateLimit.burstSize := by
  have hempty : s.admin.token.isEmpty → ¬ leastTokenSize ≤ s.admin.token.utf8ByteSize := by
    intro h
    rw [String.isEmpty_iff.1 h]
    decide
  simp only [check]
  grind

/-- Whatever is left as it is passes: only the token is looked at. -/
theorem check_usual (server : ServerSettings) (path : String) (admin : AdminSettings) :
    (⟨server, { path }, {}, {}, admin, {}⟩ : Settings).check = none ↔
      admin.token ≠ knownToken ∧ leastTokenSize ≤ admin.token.utf8ByteSize := by
  have htable : Sql.isPlainIdentifier "stats_visitor" := by decide
  have hrate : 0 < 20 ∧ 0 < 100 := by decide
  rw [check_eq_none]
  exact ⟨fun h => ⟨h.1, h.2.1⟩, fun h => ⟨h.1, h.2, htable, hrate⟩⟩

end Settings

end VisitLog

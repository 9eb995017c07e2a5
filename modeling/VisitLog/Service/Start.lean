import VisitLog.Service
import VisitLog.Settings
import VisitLog.Text.Lowercase

/-!
# Starting the service

The service that settings describe, on a pool of connections: its store is opened first, which may
fail. Then it needs a channel with room for a visit and a limiter with a positive rate.

Main statement: `start_eq_ok` (when the service starts, and how).
-/

namespace VisitLog

/-- Why the service does not start. -/
inductive StartFault where
  | store (failure : Failure)
  /-- The channel has no room for a visit. -/
  | noRoom
  /-- The rate limit lets nothing through. -/
  | noRate
  deriving DecidableEq, Repr

/-- The fault in words. -/
def StartFault.message : StartFault → String
  | store failure => failure.message
  | noRoom => "mpsc bounded channel requires buffer > 0"
  | noRate => "failed to build rate limiter config"

/-- The rate limit of settings is positive. -/
def RateLimitSettings.isPositive (s : RateLimitSettings) : Bool :=
  0 < s.replenishMillis && 0 < s.burstSize

/-- The service of settings, on its store. -/
def Service.ofSettings (s : Settings) (store : Store) : Service :=
  { store := store
    gate := .ofToken s.admin.token
    countryHeader := Text.lower s.ingest.countryHeader
    homeUrl := s.admin.homeUrl
    websiteUrl := s.admin.websiteUrl
    limiter := .refilling s.rateLimit.burstSize s.rateLimit.replenishMillis }

/-- The state in which the service starts. -/
def ServiceState.ofSettings (s : Settings) (channel : Channel) (p : Pool) : ServiceState :=
  { pool := p
    channel := channel
    cache := { lifetimeSeconds := s.admin.statsCacheSeconds } }

namespace Service

/-- Opens the store and starts the service. -/
def start (s : Settings) (p : Pool) : Except StartFault (Service × ServiceState) :=
  match Store.openTable s.database.visitorTable s.database.automigrate p with
  | (_, .error failure) => .error (.store failure)
  | (p, .ok store) =>
    match Channel.ofCapacity? s.ingest.channelCapacity with
    | none => .error .noRoom
    | some channel =>
      if s.rateLimit.isPositive then .ok (.ofSettings s store, .ofSettings s channel p)
      else .error .noRate

/-- A service starts on a table that opens, with a channel of some size and a positive rate. -/
theorem start_eq_ok {s : Settings} {p : Pool} {service : Service} {t : ServiceState} :
    start s p = .ok (service, t) ↔ ∃ store channel p',
      Store.openTable s.database.visitorTable s.database.automigrate p = (p', .ok store) ∧
        Channel.ofCapacity? s.ingest.channelCapacity = some channel ∧ s.rateLimit.isPositive ∧
        service = .ofSettings s store ∧ t = .ofSettings s channel p' := by
  unfold start
  constructor
  · intro h
    split at h
    · cases h
    · next p' store hopen =>
      split at h
      · cases h
      · next channel hchannel =>
        split at h
        · next hrate =>
          cases h
          exact ⟨store, channel, p', hopen, hchannel, hrate, rfl, rfl⟩
        · cases h
  · rintro ⟨store, channel, p', hopen, hchannel, hrate, rfl, rfl⟩
    rw [hopen]
    dsimp only
    rw [hchannel]
    dsimp only
    rw [if_pos hrate]

end Service

end VisitLog

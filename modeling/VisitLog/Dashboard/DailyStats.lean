import VisitLog.Number.Shortest
import VisitLog.Store

/-!
# Daily statistics

Visits and different addresses per day, their sums and averages, and a cache of days already
counted. An entry of the cache is found until its lifetime has passed; where that is zero, it is
gone at once.

Main statements: `get?_insert_self` and `get?_eq_none` (a cache without a lifetime finds nothing).
-/

namespace VisitLog

/-- The visits of one day, and how many addresses they came from. -/
structure DailyStats where
  total : Int
  unique : Int
  deriving DecidableEq, Repr, Inhabited

/-- Sums and averages over days. -/
structure Summary where
  total : Int
  unique : Int
  averageTotal : Binary64
  averageUnique : Binary64
  deriving DecidableEq, Repr

/-- The sums and averages of days; no days count as one. -/
def Summary.ofDays (days : List DailyStats) : Summary :=
  let total := days.foldl (fun n d => n + d.total) 0
  let unique := days.foldl (fun n d => n + d.unique) 0
  let n := Binary64.ofInt (max days.length 1 : Nat)
  { total := total
    unique := unique
    averageTotal := (Binary64.ofInt total).divide n
    averageUnique := (Binary64.ofInt unique).divide n }

/-- A day already counted, and when, in milliseconds of the clock of the cache. -/
structure CachedDay where
  key : String
  since : Nat
  stats : DailyStats
  deriving DecidableEq, Repr, Inhabited

/-- Days already counted, by table and date. -/
structure StatsCache where
  lifetimeSeconds : Nat
  /-- The clock of the cache, in milliseconds. -/
  time : Nat := 0
  entries : List CachedDay := []
  deriving DecidableEq, Repr, Inhabited

namespace StatsCache

/-- The key of a day of a table. -/
def keyOf (table : String) (d : Date) : String :=
  table ++ ":" ++ d.text

/-- The lifetime of the entry has not passed. -/
def isFresh (c : StatsCache) (e : CachedDay) : Bool :=
  c.time < e.since + c.lifetimeSeconds * 1000

/-- The day of a key. -/
def get? (c : StatsCache) (key : String) : Option DailyStats :=
  match c.entries.find? fun e => e.key = key with
  | some e => if c.isFresh e then some e.stats else none
  | none => none

/-- The cache with a day added, or replaced. -/
def insert (c : StatsCache) (key : String) (stats : DailyStats) : StatsCache :=
  { c with entries := ⟨key, c.time, stats⟩ :: c.entries.filter fun e => e.key ≠ key }

/-- The cache some milliseconds later. -/
def wait (c : StatsCache) (millis : Nat) : StatsCache :=
  { c with time := c.time + millis }

theorem get?_insert_self {c : StatsCache} {key : String} {stats : DailyStats}
    (h : c.lifetimeSeconds ≠ 0) : (c.insert key stats).get? key = some stats := by
  have hfresh : c.time < c.time + c.lifetimeSeconds * 1000 := by omega
  simp [get?, insert, isFresh, hfresh]

theorem get?_eq_none {c : StatsCache} {key : String} (h : c.lifetimeSeconds = 0)
    (hsince : ∀ e ∈ c.entries, e.since ≤ c.time) : c.get? key = none := by
  unfold get?
  split
  · next e he =>
    have hle := hsince e (List.mem_of_find?_eq_some he)
    rw [if_neg]
    simpa [isFresh, h] using hle
  · rfl

end StatsCache

namespace DailyStats

variable [Engine]

/-- The options that match the visits of a day. -/
def dayOptions (d : Date) : Options :=
  { createdFrom := some (d.text ++ " 00:00:00"), createdTo := some (d.text ++ " 23:59:59") }

/-- Counts a day. -/
def ofDay (s : Store) (now : Instant) (p : Pool) (d : Date) : Except Failure DailyStats := do
  let unique ← s.count now { dayOptions d with distinct := some Column.ipAddress.name } p
  let total ← s.count now (dayOptions d) p
  return { total := total, unique := unique }

/-- The statistics of days, counted where the cache has none, and the cache afterwards. -/
def ofDays (s : Store) (now : Instant) (p : Pool) :
    List Date → StatsCache → Except Failure (List (Date × DailyStats)) × StatsCache
  | [], cache => (.ok [], cache)
  | d :: ds, cache =>
    let key := StatsCache.keyOf s.table d
    let found :=
      match cache.get? key with
      | some stats => Except.ok (stats, cache)
      | none =>
        match ofDay s now p d with
        | .ok stats => .ok (stats, cache.insert key stats)
        | .error failure => .error failure
    match found with
    | .error failure => (.error failure, cache)
    | .ok (stats, cache) =>
      match ofDays s now p ds cache with
      | (.ok days, cache) => (.ok ((d, stats) :: days), cache)
      | (.error failure, cache) => (.error failure, cache)

end DailyStats

end VisitLog

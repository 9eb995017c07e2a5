import VisitLog.Database.Planner
import VisitLog.Service.Start
import VisitLog.Settings.Load
import VisitLog.WriteBehind.Worker

/-!
# Command line

Loads the settings of a file and of the environment, checks them, and answers requests that are read
from the standard input, one a line: a datetime, a method and a target with a blank between them.
Captured visits are stored after every request.
-/

namespace VisitLog.Main

/-- The settings file that the arguments name. -/
def configFile : List String → Option String
  | [] => some Settings.defaultFile
  | ["-c", file] | ["--config", file] => some file
  | [argument] =>
    (Text.dropLiteral? "--config=".toList argument.toList).map String.ofList
  | _ => none

/-- The names of the variables that may hold settings. -/
def variableNames : List String :=
  [("SERVER", ["HOST", "PORT"]),
    ("DATABASE", ["PATH", "POOL_SIZE", "VISITOR_TABLE_NAME", "AUTOMIGRATE", "DEBUG"]),
    ("INGEST", ["CHANNEL_CAPACITY", "FLUSH_INTERVAL_SECS", "FLUSH_BATCH_SIZE", "COUNTRY_HEADER"]),
    ("RETENTION", ["SOFT_DELETED_DAYS", "PRUNE_INTERVAL_SECS"]),
    ("ADMIN", ["TOKEN", "HOME_URL", "WEBSITE_URL", "STATS_CACHE_TTL_SECS"]),
    ("RATE_LIMIT", ["REPLENISH_INTERVAL_MS", "BURST_SIZE"])].flatMap fun s =>
      s.2.map fun field => "STATSSTORE__" ++ s.1 ++ "__" ++ field

/-- A request and its time. -/
structure TimedRequest where
  now : Instant
  request : Http.Request

/-- The request on a line. -/
def readEntry (line : String) : Option TimedRequest :=
  match Text.splitAt ' ' (Text.trimChars line.toList) with
  | [day, time, method, target] =>
    (Instant.read? (String.ofList (day ++ ' ' :: time))).map fun now =>
      let (path, query) := Http.Request.splitTarget (String.ofList target)
      { now := now
        request := { method := String.ofList method, path := path, query := query } }
  | _ => none

/-- A response as text. -/
def responseText (r : Http.Response) : String :=
  "HTTP " ++ Text.natText r.status ++ "\n" ++
    String.join (r.headers.map fun h => h.1 ++ ": " ++ h.2 ++ "\n") ++ "\n" ++ r.body

/-- The state after the waiting visits were stored. -/
def settled [Engine] (s : Service) (batchSize : Nat) (now : Instant)
    (t : ServiceState) : ServiceState :=
  let (vs, channel) := t.channel.drain
  { t with channel := channel, pool := Worker.drain s.store now batchSize vs t.pool }

/-- Answers requests until the input ends. -/
partial def answerAll (s : Service) (batchSize : Nat) (input : IO.FS.Stream) (t : ServiceState) :
    IO Unit := do
  let line ← input.getLine
  if line.isEmpty then return
  match readEntry line with
  | none =>
    IO.eprintln "expected a datetime, a method and a target"
    answerAll s batchSize input t
  | some e =>
    let random ← IO.rand 0 999999999
    let t := t.wait ((← IO.monoMsNow) - t.knocks.time)
    let (r, t) := s.serve e.now random e.request t
    IO.println (responseText r)
    answerAll s batchSize input (settled s batchSize e.now t)

/-- The settings file that is there, with its text. -/
def readFile (name : String) : IO (Option (String × String)) := do
  for file in Settings.fileNames name do
    try
      let document ← IO.FS.readFile file
      return some (file, document)
    catch _ => continue
  return none

/-- The variables that are set. -/
def readVariables : IO (List (String × String)) :=
  variableNames.filterMapM fun name => do
    return (← IO.getEnv name).map fun value => (name, value)

/-- Runs with a settings file. -/
def run (name : String) : IO UInt32 := do
  match Settings.load (← readFile name) (← readVariables) with
  | .error fault =>
    IO.eprintln (fault.message?.getD "the settings file cannot be read")
    return 1
  | .ok settings =>
    match settings.check with
    | some flaw =>
      IO.eprintln ("Configuration error: " ++ flaw.message)
      return 1
    | none =>
      match Service.start settings {} with
      | .error fault =>
        IO.eprintln fault.message
        return 1
      | .ok (service, state) =>
        answerAll service settings.ingest.flushBatchSize (← IO.getStdin) state
        return 0

end VisitLog.Main

/-- Runs with the settings file that the arguments name. -/
def main (arguments : List String) : IO UInt32 := do
  match VisitLog.Main.configFile arguments with
  | some name => VisitLog.Main.run name
  | none =>
    IO.eprintln "usage: visitlog [--config FILE]"
    return 2

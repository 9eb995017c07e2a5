import VisitLog.Failure
import VisitLog.Number.Shortest
import VisitLog.Settings
import VisitLog.Settings.Source

/-!
# Loading settings

The settings that sources give. A value is taken as the kind that is asked for where that makes
sense: a number as text, a word such as `yes` as a flag, a text of digits as a number. A section may
also be a list of its values in order. Of a section that is there the required values may not be
missing.

Main statements: `key?_of_asText` and its siblings (a fault names the key that it lies at),
`Section.key?_of_read?` (the key is one of the section) and `isSome_section_of_ofEntry` (settings
are loaded from sources that have every section without usual values).
-/

namespace VisitLog

open Text

namespace Settings

/-! ## Faults -/

/-- A value that is not of the kind that is asked for. -/
inductive Found where
  | integer (n : Int)
  | natural (n : Nat)
  | text (s : String)
  | nothing
  | list
  | table
  deriving DecidableEq, Repr

/-- The value in words. -/
def Found.words : Found → String
  | integer n => "64-bit integer \x60" ++ intText n ++ "\x60"
  | natural n => "64-bit unsigned integer \x60" ++ natText n ++ "\x60"
  | text s => "string " ++ quoted s
  | nothing => "unit value"
  | list => "sequence"
  | table => "map"

/-- Why settings are not loaded. -/
inductive Fault where
  /-- The file is no TOML. -/
  | unreadable
  | wrongKind (found : Found) (expected key : String) (source : Option String)
  | missing (field : String)
  /-- A value in place of a section. -/
  | noSection (what name : String)
  /-- A section as a list that ends too early. -/
  | tooShort (length : Nat) (name : String) (size : Nat)
  deriving DecidableEq, Repr

/-- The key of the value that a fault is about. -/
def Fault.key? : Fault → Option String
  | wrongKind _ _ key _ => some key
  | _ => none

/-- The fault in words; of an unreadable file nothing more is said. -/
def Fault.message? : Fault → Option String
  | unreadable => none
  | wrongKind found expected key source =>
    some ("invalid type: " ++ found.words ++ ", expected " ++ expected ++ " for key \x60" ++
      key ++ "\x60" ++ source.elim "" fun s => " in " ++ s)
  | missing field => some ("missing field \x60" ++ field ++ "\x60")
  | noSection what name => some ("invalid type: " ++ what ++ ", expected struct " ++ name)
  | tooShort length name size =>
    some ("invalid length " ++ natText length ++ ", expected struct " ++ name ++
      " with " ++ natText size ++ " elements")

/-! ## Values -/

/-- The text of a number. -/
def realText : Decimal → String
  | .number x => x.plainText
  | .undefined => "NaN"

/-- A text, at a key. -/
def asText (key : String) : Entry → Except Fault String
  | .scalar source s =>
    match s with
    | .text s => .ok s
    | .flag b => .ok (if b then "true" else "false")
    | .integer n => .ok (intText n)
    | .real x => .ok (realText x)
    | .nothing => .error (.wrongKind .nothing "a string" key source)
  | .list source _ => .error (.wrongKind .list "a string" key source)
  | .table source _ => .error (.wrongKind .table "a string" key source)

/-- The flag that a word in lower case stands for. -/
def flagOf? (word : String) : Option Bool :=
  if word ∈ ["1", "true", "on", "yes"] then some true
  else if word ∈ ["0", "false", "off", "no"] then some false
  else none

/-- A flag, at a key. -/
def asFlag (key : String) : Entry → Except Fault Bool
  | .scalar source s =>
    match s with
    | .flag b => .ok b
    | .integer n => .ok (n ≠ 0)
    | .real (.number (.finite _ m _)) => .ok (m ≠ 0)
    | .real _ => .ok true
    | .text s =>
      match flagOf? (lower s) with
      | some b => .ok b
      | none => .error (.wrongKind (.text (lower s)) "a boolean" key source)
    | .nothing => .error (.wrongKind .nothing "a boolean" key source)
  | .list source _ => .error (.wrongKind .list "a boolean" key source)
  | .table source _ => .error (.wrongKind .table "a boolean" key source)

/-- The greatest natural number of 64 bits. -/
def greatestNatural : Nat := 0xFFFFFFFFFFFFFFFF

/-- The natural number of 64 bits that a text is: a word for one or zero, or digits. -/
def naturalOf? (s : String) : Option Nat :=
  if lower s ∈ ["true", "on", "yes"] then some 1
  else if lower s ∈ ["false", "off", "no"] then some 0
  else
    let digits :=
      match s.toList with
      | '+' :: cs => cs
      | cs => cs
    (natOfDigits? digits).filter fun n => n ≤ greatestNatural

/-- A natural number of 64 bits, at a key. -/
def asNatural (key : String) : Entry → Except Fault Nat
  | .scalar source s =>
    match s with
    | .integer n =>
      if 0 ≤ n then .ok n.toNat
      else .error (.wrongKind (.integer n) "an unsigned 64 bit or less integer" key source)
    | .flag b => .ok (if b then 1 else 0)
    | .real (.number x) => .ok (x.toNatUpTo greatestNatural)
    | .real .undefined => .ok 0
    | .text s =>
      match naturalOf? s with
      | some n => .ok n
      | none => .error (.wrongKind (.text s) "an integer" key source)
    | .nothing => .error (.wrongKind .nothing "an integer" key source)
  | .list source _ => .error (.wrongKind .list "an integer" key source)
  | .table source _ => .error (.wrongKind .table "an integer" key source)

/-- A natural number of fewer bits, at a key. -/
def asNaturalOf (bits : Nat) (key : String) (e : Entry) : Except Fault Nat := do
  let n ← asNatural key e
  if n < 1 <<< bits then return n
  else .error (.wrongKind (.natural n) ("an unsigned " ++ natText bits ++ " bit integer") key none)

/-! ## Sections -/

/-- A section that is there: its key, its name and size, and its values by name or in order. -/
structure Section where
  key : String
  name : String
  size : Nat
  values : List (String × Entry) ⊕ List Entry

namespace Section

/-- The value of a field, if it is there, and its key. -/
def get? (s : Section) (index : Nat) (field : String) : Option (Entry × String) :=
  match s.values with
  | .inl fields => (fields.lookup field).map fun e => (e, s.key ++ "." ++ field)
  | .inr items => items[index]?.map fun e => (e, s.key ++ "[" ++ natText index ++ "]")

/-- A field, if it is there. -/
def read? {α : Type} (s : Section) (index : Nat) (field : String)
    (f : String → Entry → Except Fault α) :
    Except Fault (Option α) :=
  match s.get? index field with
  | some (e, key) => (f key e).map some
  | none => .ok none

/-- A field that has to be there. -/
def require {α : Type} (s : Section) (index : Nat) (field : String) (value : Option α) :
    Except Fault α :=
  match value, s.values with
  | some a, _ => .ok a
  | none, .inl _ => .error (.missing field)
  | none, .inr _ => .error (.tooShort index s.name s.size)

end Section

/-- A value without parts, in words. -/
def scalarWords : Scalar → String
  | .nothing => "unit value"
  | .flag b => "boolean \x60" ++ (if b then "true" else "false") ++ "\x60"
  | .integer n => "integer \x60" ++ intText n ++ "\x60"
  | .text s => "string " ++ quoted s
  | .real x =>
    let s := realText x
    let isWhole :=
      match x with
      | .number (.finite _ _ _) => !s.toList.contains '.'
      | _ => false
    "floating point \x60" ++ s ++ (if isWhole then ".0" else "") ++ "\x60"

/-- The section at a key, if it is there. -/
def section? (root : Entry) (key name : String) (size : Nat) : Except Fault (Option Section) :=
  match root.fields.lookup key with
  | none => .ok none
  | some (.table _ fields) => .ok (some ⟨key, name, size, .inl fields⟩)
  | some (.list _ items) => .ok (some ⟨key, name, size, .inr items⟩)
  | some (.scalar _ s) => .error (.noSection (scalarWords s) name)

/-- Where the service listens. -/
def readServer (s : Section) : Except Fault ServerSettings := do
  let host ← s.read? 0 "host" asText
  let port ← s.read? 1 "port" (asNaturalOf 16)
  return { host := ← s.require 0 "host" host, port := ← s.require 1 "port" port }

/-- The database. -/
def readDatabase (s : Section) : Except Fault DatabaseSettings := do
  let path ← s.read? 0 "path" asText
  let poolSize ← s.read? 1 "pool_size" asNatural
  let table ← s.read? 2 "visitor_table_name" asText
  let automigrate ← s.read? 3 "automigrate" asFlag
  let debug ← s.read? 4 "debug" asFlag
  let usual : DatabaseSettings := { path := ← s.require 0 "path" path }
  return { usual with
    poolSize := poolSize.getD usual.poolSize
    visitorTable := table.getD usual.visitorTable
    automigrate := automigrate.getD usual.automigrate
    debug := debug.getD usual.debug }

/-- How visits are captured and written. -/
def readIngest (s : Section) : Except Fault IngestSettings := do
  let usual : IngestSettings := {}
  let capacity ← s.read? 0 "channel_capacity" asNatural
  let interval ← s.read? 1 "flush_interval_secs" asNatural
  let batch ← s.read? 2 "flush_batch_size" asNatural
  let header ← s.read? 3 "country_header" asText
  return {
    channelCapacity := capacity.getD usual.channelCapacity
    flushIntervalSeconds := interval.getD usual.flushIntervalSeconds
    flushBatchSize := batch.getD usual.flushBatchSize
    countryHeader := header.getD usual.countryHeader }

/-- How long deleted records are kept. -/
def readRetention (s : Section) : Except Fault RetentionSettings := do
  let usual : RetentionSettings := {}
  let days ← s.read? 0 "soft_deleted_days" asNatural
  let interval ← s.read? 1 "prune_interval_secs" asNatural
  return {
    softDeletedDays := days.getD usual.softDeletedDays
    pruneIntervalSeconds := interval.getD usual.pruneIntervalSeconds }

/-- The administrator. -/
def readAdmin (s : Section) : Except Fault AdminSettings := do
  let token ← s.read? 0 "token" asText
  let home ← s.read? 1 "home_url" asText
  let website ← s.read? 2 "website_url" asText
  let cache ← s.read? 3 "stats_cache_ttl_secs" asNatural
  let usual : AdminSettings := { token := ← s.require 0 "token" token }
  return { usual with
    homeUrl := home.getD usual.homeUrl
    websiteUrl := website.getD usual.websiteUrl
    statsCacheSeconds := cache.getD usual.statsCacheSeconds }

/-- The rate limit. -/
def readRateLimit (s : Section) : Except Fault RateLimitSettings := do
  let interval ← s.read? 0 "replenish_interval_ms" asNatural
  let burst ← s.read? 1 "burst_size" (asNaturalOf 32)
  return {
    replenishMillis := ← s.require 0 "replenish_interval_ms" interval
    burstSize := ← s.require 1 "burst_size" burst }

/-- A section that has to be there. -/
def required {α : Type} (key : String) (value : Option α) : Except Fault α :=
  match value with
  | some a => .ok a
  | none => .error (.missing key)

/-- The settings that entries give. -/
def ofEntry (root : Entry) : Except Fault Settings := do
  let server ← (← section? root "server" "ServerConfig" 2).mapM readServer
  let database ← (← section? root "database" "DatabaseConfig" 5).mapM readDatabase
  let ingest ← (← section? root "ingest" "IngestConfig" 4).mapM readIngest
  let retention ← (← section? root "retention" "RetentionConfig" 2).mapM readRetention
  let admin ← (← section? root "admin" "AdminConfig" 4).mapM readAdmin
  let rateLimit ← (← section? root "rate_limit" "RateLimitConfig" 2).mapM readRateLimit
  return {
    server := ← required "server" server
    database := ← required "database" database
    ingest := ingest.getD {}
    retention := retention.getD {}
    admin := ← required "admin" admin
    rateLimit := rateLimit.getD {} }

/-- The settings of a file, given by its name and text, and of the environment. -/
def load (file : Option (String × String)) (environment : List (String × String)) :
    Except Fault Settings :=
  match file with
  | none => ofEntry (merged none environment)
  | some (name, document) =>
    match Toml.read? document with
    | some fields => ofEntry (merged (some (name, fields)) environment)
    | none => .error .unreadable

/-! ## Lemmas -/

variable {key : String} {e : Entry} {fault : Fault}

/-- The fault of a value that is no text names its key. -/
theorem key?_of_asText (h : asText key e = .error fault) : fault.key? = some key := by
  unfold asText at h
  split at h
  · split at h <;> cases h
    rfl
  · cases h
    rfl
  · cases h
    rfl

theorem key?_of_asFlag (h : asFlag key e = .error fault) : fault.key? = some key := by
  unfold asFlag at h
  split at h
  · split at h
    · cases h
    · cases h
    · cases h
    · cases h
    · split at h <;> cases h
      rfl
    · cases h
      rfl
  · cases h
    rfl
  · cases h
    rfl

theorem key?_of_asNatural (h : asNatural key e = .error fault) : fault.key? = some key := by
  unfold asNatural at h
  split at h
  · split at h
    · split at h <;> cases h
      rfl
    · cases h
    · cases h
    · cases h
    · split at h <;> cases h
      rfl
    · cases h
      rfl
  · cases h
    rfl
  · cases h
    rfl

theorem key?_of_asNaturalOf {bits : Nat} (h : asNaturalOf bits key e = .error fault) :
    fault.key? = some key := by
  unfold asNaturalOf at h
  cases hn : asNatural key e with
  | error f =>
    rw [hn] at h
    cases h
    exact key?_of_asNatural hn
  | ok n =>
    rw [hn] at h
    change (if n < 1 <<< bits then _ else _) = _ at h
    split at h <;> cases h
    rfl

/-- A number that is read fits its bits. -/
theorem lt_of_asNaturalOf {bits n : Nat} (h : asNaturalOf bits key e = .ok n) :
    n < 1 <<< bits := by
  obtain ⟨m, -, h⟩ := bind_eq_ok.1 h
  change (if m < 1 <<< bits then _ else _) = _ at h
  split at h
  · next hm =>
    cases h
    exact hm
  · cases h

/-- The fault in a field of a section names the field, or its place in a list. -/
theorem Section.key?_of_read? {α : Type} {s : Section} {index : Nat} {field : String}
    {f : String → Entry → Except Fault α}
    (hf : ∀ {key e fault}, f key e = .error fault → fault.key? = some key)
    (h : s.read? index field f = .error fault) :
    fault.key? = some (s.key ++ "." ++ field) ∨
      fault.key? = some (s.key ++ "[" ++ natText index ++ "]") := by
  obtain ⟨e, key, hget, hfault⟩ :
      ∃ e key, s.get? index field = some (e, key) ∧ f key e = .error fault := by
    unfold Section.read? at h
    split at h
    · next e key hget =>
      cases hf : f key e with
      | error _ =>
        rw [hf] at h
        cases h
        exact ⟨e, key, hget, hf⟩
      | ok _ =>
        rw [hf] at h
        cases h
    · cases h
  rw [hf hfault]
  unfold Section.get? at hget
  split at hget
  · obtain ⟨_, -, h⟩ := Option.map_eq_some_iff.1 hget
    cases h
    exact .inl rfl
  · obtain ⟨_, -, h⟩ := Option.map_eq_some_iff.1 hget
    cases h
    exact .inr rfl

/-- A section that has to be there was there if it was read. -/
theorem isSome_of_required {α : Type} {root : Entry} {key name : String} {size : Nat}
    {found : Option Section} {read : Section → Except Fault α} {value : Option α} {a : α}
    (hfound : section? root key name size = .ok found) (hvalue : found.mapM read = .ok value)
    (ha : required key value = .ok a) : (root.fields.lookup key).isSome := by
  cases hlookup : root.fields.lookup key with
  | some _ => rfl
  | none =>
    rw [section?, hlookup] at hfound
    cases hfound
    cases hvalue
    cases ha

/-- The host, the path of the database and the token have no usual values, nor have their
sections. -/
theorem isSome_section_of_ofEntry {root : Entry} {s : Settings} (h : ofEntry root = .ok s) :
    ∀ key ∈ ["server", "database", "admin"], (root.fields.lookup key).isSome := by
  obtain ⟨_, hserver, h⟩ := bind_eq_ok.1 h
  obtain ⟨_, hserver', h⟩ := bind_eq_ok.1 h
  obtain ⟨_, hdatabase, h⟩ := bind_eq_ok.1 h
  obtain ⟨_, hdatabase', h⟩ := bind_eq_ok.1 h
  obtain ⟨_, -, h⟩ := bind_eq_ok.1 h
  obtain ⟨_, -, h⟩ := bind_eq_ok.1 h
  obtain ⟨_, -, h⟩ := bind_eq_ok.1 h
  obtain ⟨_, -, h⟩ := bind_eq_ok.1 h
  obtain ⟨_, hadmin, h⟩ := bind_eq_ok.1 h
  obtain ⟨_, hadmin', h⟩ := bind_eq_ok.1 h
  obtain ⟨_, -, h⟩ := bind_eq_ok.1 h
  obtain ⟨_, -, h⟩ := bind_eq_ok.1 h
  obtain ⟨_, hserver'', h⟩ := bind_eq_ok.1 h
  obtain ⟨_, hdatabase'', h⟩ := bind_eq_ok.1 h
  obtain ⟨_, hadmin'', -⟩ := bind_eq_ok.1 h
  intro key hkey
  simp only [List.mem_cons, List.not_mem_nil, or_false] at hkey
  obtain rfl | rfl | rfl := hkey
  · exact isSome_of_required hserver hserver' hserver''
  · exact isSome_of_required hdatabase hdatabase' hdatabase''
  · exact isSome_of_required hadmin hadmin' hadmin''

end Settings

end VisitLog

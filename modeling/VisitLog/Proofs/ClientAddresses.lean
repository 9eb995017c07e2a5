import Mathlib.Data.List.TakeDrop
import VisitLog.Proofs.Addresses
import VisitLog.Proofs.Captures
import VisitLog.Proofs.Queries
import VisitLog.Service.Capture

/-!
# Recorded client addresses

The address of a client is a text that reads as an address, or empty (`clientAddress_reads`), and
has no blanks to trim. Reported texts are kept in the spelling that they have, and a spelling may be
longer than the column: six groups and four octets come to 45 characters. So the record keeps the
address of the client unless it is reported in a spelling of more characters than the column has.
Then the record has a part of it, and that need not be an address. The text of a peer always fits
(`Address.length_text_le`).

Main statement: `Visit.recordsAddress_iff`.
-/

namespace VisitLog

open Text Http

variable {hs : Headers} {peer : Option Address} {s : String}

/-! ## Where an address comes from -/

/-- The texts that headers report as the address of the client, the preferred one first. -/
def reports (hs : Headers) : List String :=
  [trim (String.ofList ((splitAt ',' (hs.trimmed "x-forwarded-for").toList).headD [])),
    hs.trimmed "x-real-ip"]

/-- The reported text that is taken for the address of the client. -/
def reportedText? (hs : Headers) : Option String :=
  (reports hs).find? fun s => (Address.ofText? s).isSome

theorem clientAddress_eq (hs : Headers) (peer : Option Address) :
    clientAddress hs peer = (reportedText? hs).getD (peer.elim "" Address.text) := by
  unfold clientAddress reportedText? reports
  dsimp only
  generalize trim (String.ofList ((splitAt ',' (hs.trimmed "x-forwarded-for").toList).headD [])) =
    forwarded
  generalize hs.trimmed "x-real-ip" = reported
  simp only [List.find?_cons, List.find?_nil]
  cases (Address.ofText? forwarded).isSome with
  | true => rfl
  | false => cases (Address.ofText? reported).isSome <;> rfl

theorem Http.Headers.trim_trimmed (hs : Headers) (name : String) :
    trim (hs.trimmed name) = hs.trimmed name := by
  unfold trimmed
  split
  · exact trim_trim _
  · rfl

theorem trim_of_mem_reportedText? (h : s ∈ reportedText? hs) : trim s = s := by
  rw [reportedText?, Option.mem_def] at h
  have hmem := List.mem_of_find?_eq_some h
  simp only [reports, List.mem_cons, List.not_mem_nil, or_false] at hmem
  rcases hmem with rfl | rfl
  · exact trim_trim _
  · exact hs.trim_trimmed _

theorem ofText?_of_mem_reportedText? (h : s ∈ reportedText? hs) :
    ∃ a, Address.ofText? s = some a ∧ a.IsWellFormed := by
  rw [reportedText?, Option.mem_def] at h
  have hsome := List.find?_some h
  obtain ⟨a, ha⟩ := Option.isSome_iff_exists.1 hsome
  exact ⟨a, ha, Address.isWellFormed_of_ofText? ha⟩

theorem trim_clientAddress (hpeer : ∀ a ∈ peer, a.IsWellFormed) :
    trim (clientAddress hs peer) = clientAddress hs peer := by
  rw [clientAddress_eq]
  cases h : reportedText? hs with
  | some s => exact trim_of_mem_reportedText? h
  | none =>
    cases peer with
    | none => rfl
    | some a => exact Address.trim_text (hpeer a rfl)

/-- The address of a client reads as an address, unless nothing is known of it. -/
theorem clientAddress_reads (hs : Headers) (hpeer : ∀ a ∈ peer, a.IsWellFormed) :
    clientAddress hs peer = "" ∨ ∃ a, Address.ofText? (clientAddress hs peer) = some a ∧
    a.IsWellFormed := by
  rw [clientAddress_eq]
  cases h : reportedText? hs with
  | some s => exact .inr (ofText?_of_mem_reportedText? h)
  | none =>
    cases peer with
    | none => exact .inl rfl
    | some a => exact .inr ⟨a, Address.ofText?_text (hpeer a rfl), hpeer a rfl⟩

/-- The address of a client fits its column iff a reported one does. -/
theorem length_clientAddress_le_iff (hpeer : ∀ a ∈ peer, a.IsWellFormed) :
    (clientAddress hs peer).toList.length ≤ Column.ipAddress.maxLength ↔
      ∀ s ∈ reportedText? hs, s.toList.length ≤ Column.ipAddress.maxLength := by
  rw [clientAddress_eq]
  cases h : reportedText? hs with
  | some s => exact ⟨fun hs _ h => Option.some.inj h ▸ hs, fun hall => hall s rfl⟩
  | none =>
    refine ⟨fun _ => nofun, fun _ => ?_⟩
    cases peer with
    | none => exact Nat.zero_le _
    | some a => exact Address.length_text_le (hpeer a rfl)

/-! ## The recorded address -/

theorem Text.clip_eq_self_iff {n : Nat} : clip n s = s ↔ s.toList.length ≤ n := by
  rw [← String.toList_inj, toList_clip, List.take_eq_self_iff]

namespace Visit

/-- The record keeps the address of the client. `same`: it is what the headers and the peer tell.
`reads`: it is empty or the text of an address. -/
structure RecordsAddress (hs : Headers) (peer : Option Address) (v : Visitor) : Prop where
  same : v.value .ipAddress = clientAddress hs peer
  reads : v.value .ipAddress = "" ∨ ∃ a, Address.ofText? (v.value .ipAddress) =
    some a ∧ a.IsWellFormed

variable {now : Instant} {random : Nat} {countryHeader path : String}

theorem ipAddress_capture (now : Instant) (random : Nat) (countryHeader path : String)
    (hs : Headers)
    (hpeer : ∀ a ∈ peer, a.IsWellFormed) :
    ((capture countryHeader path hs peer).toVisitor now random).value .ipAddress =
      clip Column.ipAddress.maxLength (clientAddress hs peer) := by
  have hfield : (Column.ipAddress, fitted .ipAddress (clientAddress hs peer)) ∈
      (capture countryHeader path hs peer).fields := by
    simp [fields, capture]
  rw [value_toVisitor_of_mem now random hfield, fitted, trim_clientAddress hpeer]

/-- The record of a captured visit keeps the address of the client iff the reported spelling that is
taken, if any, has no more characters than the column. -/
theorem recordsAddress_iff (now : Instant) (random : Nat) (countryHeader path : String)
    (hs : Headers)
    (hpeer : ∀ a ∈ peer, a.IsWellFormed) :
    RecordsAddress hs peer ((capture countryHeader path hs peer).toVisitor now random) ↔
      ∀ s ∈ reportedText? hs, s.toList.length ≤ Column.ipAddress.maxLength := by
  have haddress := ipAddress_capture now random countryHeader path hs hpeer
  rw [← length_clientAddress_le_iff hpeer, ← clip_eq_self_iff]
  constructor
  · intro h
    rw [← haddress, h.same]
  · intro h
    rw [h] at haddress
    exact ⟨haddress, haddress ▸ clientAddress_reads hs hpeer⟩

theorem recordsAddress_iff_proxy :
    (∀ a ∈ some (Address.v6 [0x2001, 0xdb8, 0, 0, 0, 0, 0, 1]), a.IsWellFormed) ∧
      RecordsAddress [("X-Forwarded-For", "unknown"), ("X-Real-IP", "198.51.100.7")]
        (some (Address.v6 [0x2001, 0xdb8, 0, 0, 0, 0, 0, 1]))
        ((capture "cf-ipcountry" "/docs" [("X-Forwarded-For", "unknown"),
          ("X-Real-IP", "198.51.100.7")]
          (some (Address.v6 [0x2001, 0xdb8, 0, 0, 0, 0, 0, 1]))).toVisitor ⟨0, 0⟩ 0) := by
  have hpeer : ∀ a ∈ some (Address.v6 [0x2001, 0xdb8, 0, 0, 0, 0, 0, 1]), a.IsWellFormed := by
    rintro _ ⟨⟩
    exact ⟨rfl, by decide⟩
  have hreported : reportedText? [("X-Forwarded-For", "unknown"), ("X-Real-IP", "198.51.100.7")] =
      some "198.51.100.7" := by decide
  refine ⟨hpeer, (recordsAddress_iff ⟨0, 0⟩ 0 "cf-ipcountry" "/docs" _ hpeer).2 ?_⟩
  rw [hreported]
  rintro _ ⟨⟩
  decide

/-- The longest spelling of an address loses its last five characters, and then it is none. -/
theorem not_recordsAddress_longest :
    ¬∀ (now : Instant) (random : Nat) (countryHeader path : String) (hs : Headers)
    (peer : Option Address), (∀ a ∈ peer, a.IsWellFormed) →
      RecordsAddress hs peer ((capture countryHeader path hs peer).toVisitor now random) := by
  intro hall
  have hclient :
    clientAddress [("X-Forwarded-For", "ffff:ffff:ffff:ffff:ffff:ffff:255.255.255.255")] none =
      "ffff:ffff:ffff:ffff:ffff:ffff:255.255.255.255" := by decide
  have hcut : clip Column.ipAddress.maxLength "ffff:ffff:ffff:ffff:ffff:ffff:255.255.255.255" =
      "ffff:ffff:ffff:ffff:ffff:ffff:255.255.25" := by decide
  have hpeer : ∀ a ∈ (none : Option Address), a.IsWellFormed := nofun
  have hreads := (hall ⟨0, 0⟩ 0 "cf-ipcountry" "/docs"
    [("X-Forwarded-For", "ffff:ffff:ffff:ffff:ffff:ffff:255.255.255.255")] none hpeer).reads
  rw [ipAddress_capture _ _ _ _ _ hpeer, hclient, hcut] at hreads
  rcases hreads with hempty | ⟨a, ha, -⟩
  · exact absurd hempty (by decide)
  · have hnone : Address.ofText? "ffff:ffff:ffff:ffff:ffff:ffff:255.255.25" = none := by decide
    rw [hnone] at ha
    cases ha

end Visit

end VisitLog

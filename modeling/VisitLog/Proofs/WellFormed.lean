import VisitLog.Proofs.Identifiers
import VisitLog.Proofs.Pipeline
import VisitLog.Proofs.Writes

/-!
# Stored visits are well formed

Every text of the record of a visit fits its column, whatever the visit says: what comes from the
visit is cut, and what is made for the record, its identifier, its fingerprint and its datetimes,
has a length of its own. The fingerprint is made last, from the address and the user agent as they
were cut. Stores set nothing but stamps on the way to the row (`Visitor.IsWellFormed.of_stamps`), so
rows are as well formed as the records.

Main statement: `Store.storesWellFormed`.
-/

namespace VisitLog

open Text

/-! ## Lengths -/

theorem Civil.length_chars_of_four {c : Civil} (h : 0 ≤ c.year ∧ c.year ≤ 9999) :
    c.chars.length = 10 := by
  simp [chars, yearChars_of_four h]

theorem Instant.length_layout {now : Instant} (h : now.Within 0 9999) :
    now.layout.toList.length = 19 := by
  have hdate := Civil.length_chars_of_four (c := now.date.civil) ⟨h.least_le, h.le_greatest⟩
  simp [layout, layoutChars, timeChars, hdate]

theorem Instant.length_layout_le {now : Instant} (h : now.Within 0 9999) {c : Column}
    (hc : c.isDatetime) :
    now.layout.toList.length ≤ c.maxLength := by
  rw [length_layout h]
  revert hc
  cases c <;> decide

namespace UserAgent

theorem length_fit_le (c : Column) (cs : List Char) : (fit c cs).toList.length ≤ c.maxLength := by
  rw [fit, String.toList_ofList, List.length_take]
  exact Nat.min_le_left ..

/-- The fields of a user agent fit their columns. -/
structure Fits (agent : UserAgent) : Prop where
  browser : agent.browser.toList.length ≤ Column.userBrowser.maxLength
  browserVersion : agent.browserVersion.toList.length ≤ Column.userBrowserVersion.maxLength
  os : agent.os.toList.length ≤ Column.userOs.maxLength
  osVersion : agent.osVersion.toList.length ≤ Column.userOsVersion.maxLength
  device : agent.device.toList.length ≤ Column.userDevice.maxLength
  deviceType : agent.deviceType.toList.length ≤ Column.userDeviceType.maxLength

theorem fits_ofText (s : String) : (ofText s).Fits := by
  unfold ofText
  split
  · exact ⟨Nat.zero_le _, Nat.zero_le _, Nat.zero_le _, Nat.zero_le _, Nat.zero_le _, Nat.zero_le _⟩
  · exact ⟨length_fit_le .., length_fit_le .., length_fit_le .., length_fit_le .., length_fit_le ..,
      length_fit_le ..⟩

end UserAgent

/-! ## The record of a visit -/

namespace Visitor

/-- The texts of the record fit their columns, it is marked as never deleted, and its fingerprint,
in hexadecimal digits, is that of its own address and user agent. -/
structure IsWellFormed (v : Visitor) : Prop where
  fits : ∀ c, (v.value c).toList.length ≤ c.maxLength
  deletedAt : v.value .deletedAt = never
  length_fingerprint : (v.value .fingerprint).toList.length = 32
  isDigit_fingerprint : (v.value .fingerprint).toList.all Hex.isDigit
  fingerprint : v.value .fingerprint = v.fingerprint

variable {now : Instant} {v w : Visitor}

/-- The stamps of a store leave a record well formed. -/
theorem IsWellFormed.of_stamps (h : v.IsWellFormed) (hnow : now.Within 0 9999)
    (hw : ∀ c, w.value c = v.value c ∨ (c = .createdAt ∨ c = .updatedAt) ∧ w.value c = now.layout) :
    w.IsWellFormed := by
  have hsame (c : Column) (hc : c ≠ .createdAt) (hc' : c ≠ .updatedAt) : w.value c = v.value c :=
    (hw c).resolve_right fun hstamp => hstamp.1.elim hc hc'
  have hfingerprint : w.fingerprint = v.fingerprint := by
    rw [Visitor.fingerprint, hsame .ipAddress (by decide) (by decide),
      hsame .userAgent (by decide) (by decide), Visitor.fingerprint]
  have hvalue := hsame .fingerprint (by decide) (by decide)
  refine ⟨fun c => ?_, (hsame .deletedAt (by decide) (by decide)).trans h.deletedAt,
    hvalue ▸ h.length_fingerprint, hvalue ▸ h.isDigit_fingerprint,
    hvalue.trans (h.fingerprint.trans hfingerprint.symm)⟩
  rcases hw c with hc | ⟨hstamp, hc⟩
  · exact hc ▸ h.fits c
  · have hdatetime : c.isDatetime := by rcases hstamp with rfl | rfl <;> rfl
    exact hc ▸ Instant.length_layout_le hnow hdatetime

end Visitor

namespace Visit

theorem length_fitted_le (c : Column) (s : String) : (fitted c s).toList.length ≤ c.maxLength := by
  rw [fitted, toList_clip, List.length_take]
  exact Nat.min_le_left ..

theorem length_le_of_mem_fields {visit : Visit} {c : Column} {s : String}
    (h : (c, s) ∈ visit.fields) :
    s.toList.length ≤ c.maxLength := by
  have hagent := UserAgent.fits_ofText visit.userAgent
  have hall : ∀ f ∈ visit.fields, f.2.toList.length ≤ f.1.maxLength := by
    simp only [fields, List.forall_mem_cons, List.not_mem_nil, false_implies, implies_true,
      and_true, length_fitted_le, true_and]
    exact ⟨hagent.browser, hagent.browserVersion, hagent.os, hagent.osVersion, hagent.device,
      hagent.deviceType⟩
  exact hall (c, s) h

variable {now : Instant}

theorem length_fingerprint (now : Instant) (random : Nat) (visit : Visit) :
    ((visit.toVisitor now random).value .fingerprint).toList.length = 32 :=
  Xxh3.length_hexOf _

theorem fingerprint_toVisitor (now : Instant) (random : Nat) (visit : Visit) :
    (visit.toVisitor now random).value .fingerprint = (visit.toVisitor now random).fingerprint :=
  rfl

theorem fingerprint_ne_empty (now : Instant) (random : Nat) (visit : Visit) :
    (visit.toVisitor now random).value .fingerprint ≠ "" := by
  intro hempty
  have hlength := visit.length_fingerprint now random
  rw [hempty] at hlength
  cases hlength

/-- The record of a visit fits the table in every column, as its values are clipped or short by
making. -/
theorem isWellFormed_toVisitor (hnow : now.Within 0 9999) (random : Nat) (visit : Visit) :
    (visit.toVisitor now random).IsWellFormed where
  fits c := by
    cases c with
    | id =>
      rw [id_toVisitor, Visitor.length_makeId hnow]
      decide
    | fingerprint =>
      rw [length_fingerprint]
      decide
    | createdAt =>
      rw [createdAt_toVisitor]
      exact Instant.length_layout_le hnow rfl
    | updatedAt =>
      rw [updatedAt_toVisitor]
      exact Instant.length_layout_le hnow rfl
    | deletedAt =>
      rw [deletedAt_toVisitor]
      decide
    | _ => exact length_le_of_mem_fields (visit.mem_fields_toVisitor now random (by simp [fields]))
  deletedAt := visit.deletedAt_toVisitor now random
  length_fingerprint := visit.length_fingerprint now random
  isDigit_fingerprint := Xxh3.all_isDigit_hexOf _
  fingerprint := visit.fingerprint_toVisitor now random

end Visit

/-! ## Rows -/

namespace Store

variable {s : Store} {now later : Instant} {v : Visitor} {p p' : Pool}

theorem isWellFormed_dated (hv : v.IsWellFormed) (hnow : now.Within 0 9999) :
    (dated now v).IsWellFormed := by
  refine hv.of_stamps hnow fun c => ?_
  rw [dated, Visitor.value_set, Visitor.value_set]
  split
  · next hc => exact .inr ⟨.inr hc, rfl⟩
  · split
    · next hc => exact .inr ⟨.inl hc, rfl⟩
    · exact .inl rfl

theorem isWellFormed_stampCaptured (hv : v.IsWellFormed) (hcaptured : v.IsCaptured)
    (hnow : now.Within 0 9999) :
    (stampCaptured now v).IsWellFormed := by
  refine hv.of_stamps hnow fun c => ?_
  rw [value_stampCaptured hcaptured.dated]
  split
  · next hc => exact .inr ⟨.inr hc, rfl⟩
  · exact .inl rfl

theorem isWellFormed_toVisitor_ofVisitor [Engine] (hv : v.IsWellFormed) (hkept : v.IsKept) :
    (Row.ofVisitor v).toVisitor.IsWellFormed := by
  rw [Row.toVisitor_ofVisitor hkept]
  exact ⟨hv.fits, hv.deletedAt, hv.length_fingerprint, hv.isDigit_fingerprint, hv.fingerprint⟩

theorem isKept_dated (hv : v.IsKept) (now : Instant) : (dated now v).IsKept := by
  intro c hc
  rw [dated, Visitor.value_set, Visitor.value_set]
  split
  · exact now.isKept_layout
  · split
    · exact now.isKept_layout
    · exact hv c hc

/-- A record that was registered has a row in the table, which is well-formed. -/
theorem exists_registered [Engine] (hnow : now.Within 0 9999) (hlater : later.Within 0 9999)
    {random : Nat} {visit : Visit}
    (h : (s.create later (visit.toVisitor now random) p).result = .ok p') :
    ∃ r, p'.HasRow s (Visitor.makeId now random) r ∧ r.toVisitor.IsWellFormed := by
  have hrecord := visit.isWellFormed_toVisitor hnow random
  have hcaptured := Visitor.isCaptured_toVisitor now random visit
  obtain ⟨v, hv⟩ : ∃ v, s.create later (visit.toVisitor now random) p = ⟨v, .ok p'⟩ :=
    ⟨_, congrArg (Attempt.mk _) h⟩
  obtain ⟨-, rows, hrows, hid, rfl⟩ := create_eq_ok hv
  have hrow := Pool.HasRow.append (v := dated later (visit.toVisitor now random)) hrows hid
  refine ⟨_, visit.id_toVisitor now random ▸ hrow, ?_⟩
  exact isWellFormed_toVisitor_ofVisitor (isWellFormed_dated hrecord hlater)
    (isKept_dated hcaptured.isKept later)

end Store

/-! ## Rows of the pipeline -/

namespace Pipeline

variable [Engine]

variable {s : Store} {around : Surroundings} {capacity batchSize : Nat} {now : Instant} {p : Pool}
    {x y : Pipeline}
  {d : Delivery}

/-- The clock of a pipeline, and the visits that it accepted. -/
structure IsWellFormed (x : Pipeline) : Prop where
  now : x.now.Within 0 9999
  accepted : ∀ v ∈ x.accepted, v.IsWellFormed

/-- Each step of the pipeline keeps all its records well-formed. -/
theorem Step.isWellFormed (h : Step s around x y)
    (hticks : ∀ t t', around.ticks t t' → t'.Within 0 9999)
    (hx : x.IsWellFormed) : y.IsWellFormed := by
  cases h with
  | tick h => exact ⟨hticks _ _ h, hx.accepted⟩
  | arrive random visit =>
    refine ⟨hx.now, ?_⟩
    rw [accepted_arrive]
    split
    · exact hx.accepted
    · exact List.forall_mem_append.2
        ⟨hx.accepted, List.forall_mem_singleton.2 (visit.isWellFormed_toVisitor hx.now random)⟩
  | other | close | take | timer | finish | attempt => exact ⟨hx.now, hx.accepted⟩

theorem Reached.isWellFormed (h : Reached s around x y)
    (hticks : ∀ t t', around.ticks t t' → t'.Within 0 9999)
    (hx : x.IsWellFormed) : y.IsWellFormed := by
  induction h with
  | refl => exact hx
  | step _ hyz ih => exact hyz.isWellFormed hticks ih

/-- An attempt adds the rows of its batch, if any, and these are well formed. -/
theorem IsWellFormed.attempt (h : x.IsWellFormed) (hx : x.Invariant capacity batchSize)
    (hd : x.hand = some d) {rows : Rows}
    (hrows : x.pool.Holds s rows) :
    (x.attempt s d).pool.Holds s (rows ++ (d.attempt s x.now x.pool).1.rows) ∧
      ∀ r ∈ (d.attempt s x.now x.pool).1.rows, r.toVisitor.IsWellFormed := by
  have htried := hx.attempted hd s
  have hpending := hx.pending d hd
  unfold Pipeline.attempt
  generalize d.attempt s x.now x.pool = tried at htried ⊢
  cases htried with
  | @stored rows' hp hrows' =>
    cases hrows.unique hrows'
    refine ⟨hrows.withRows _, List.forall_mem_map.2 fun v hv => ?_⟩
    have haccepted := hx.mem_accepted hd hv
    have hcaptured := hx.captured v haccepted
    exact Store.isWellFormed_toVisitor_ofVisitor
      (Store.isWellFormed_stampCaptured (h.accepted v haccepted) hcaptured h.now)
      (Store.isKept_stampCaptured hcaptured.isKept x.now)
  | refused =>
    have hnone : Delivery.rows { d with refusals := d.refusals + 1 } = [] := by
      rw [Delivery.rows, hpending.unstored]
    rw [hnone, List.append_nil]
    exact ⟨hrows, List.forall_mem_nil _⟩

end Pipeline

namespace Store

variable [Engine]

/-- What a store keeps of visits, at clocks whose year has four digits. `record`: the record of a
visit is well formed, and all its columns are dirty. `registered`: so is the row of a visit that is
registered at once. `delivered`: so are the rows that the worker adds in any run of the pipeline,
whatever others do meanwhile. -/
structure StoresWellFormed (s : Store) : Prop where
  record : ∀ (now : Instant) (random : Nat) (visit : Visit), now.Within 0 9999 →
    (visit.toVisitor now random).IsWellFormed ∧ ∀ c, (visit.toVisitor now random).dirty c
  registered : ∀ (now later : Instant) (random : Nat) (visit : Visit) (p p' : Pool),
    now.Within 0 9999 → later.Within 0 9999 →
    (s.create later (visit.toVisitor now random) p).result = .ok p' →
    ∃ r, p'.HasRow s (Visitor.makeId now random) r ∧ r.toVisitor.IsWellFormed
  delivered : ∀ (around : Surroundings) (capacity batchSize : Nat) (hcapacity : 0 < capacity)
    (now : Instant) (p : Pool) (x : Pipeline) (d : Delivery), now.Within 0 9999 →
    (∀ t t', around.ticks t t' → t'.Within 0 9999) →
    Pipeline.Reached s around (.start hcapacity batchSize now p) x → x.hand = some d →
    ∀ rows, x.pool.Holds s rows →
    (x.attempt s d).pool.Holds s (rows ++ (d.attempt s x.now x.pool).1.rows) ∧
      ∀ r ∈ (d.attempt s x.now x.pool).1.rows, r.toVisitor.IsWellFormed

/-- Whatever a visit says, its record fits the table, and so does the row that is stored. -/
theorem storesWellFormed (s : Store) : s.StoresWellFormed where
  record now random visit hnow :=
    ⟨visit.isWellFormed_toVisitor hnow random, visit.dirty_toVisitor now random⟩
  registered _ _ _ _ _ _ hnow hlater h := exists_registered hnow hlater h
  delivered around capacity batchSize hcapacity now p x d hnow hticks hreached hd rows hrows := by
    have hstart : (Pipeline.start hcapacity batchSize now p).IsWellFormed := ⟨hnow, nofun⟩
    exact (hreached.isWellFormed hticks hstart).attempt
      (hreached.invariant (.start hcapacity batchSize now p)) hd hrows

end Store

end VisitLog

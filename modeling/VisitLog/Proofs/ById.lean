import VisitLog.Database.Planner
import VisitLog.Proofs.Queries
import VisitLog.Proofs.Writes
import VisitLog.Service

/-!
# Operations by identifier

Finding, soft deletion and the request to delete all go through one query: the first live row of the
trimmed identifier (`find_of_holds`). A blank identifier is no filter there, though only an empty
one is refused, so an operation by it takes the first live row of all.

Main statement: `touchesOnly_iff_not_blank` (operations by an identifier keep to the record of that
identifier exactly when it is not blank).
-/

namespace VisitLog

open Text Http

namespace Store

variable {s : Store} {now : Instant} {id : String} {p : Pool} {rows : Rows}

/-- The rows among which an operation by identifier finds its own: the live ones of that identifier.
A blank identifier is no filter. -/
def isCandidate (now : Instant) (id : String) (r : Row) : Bool :=
  (trim id = "" || r.hasId (trim id)) && r.isLive now

theorem conditionsOf_byId (now : Instant) (id : String) :
    Query.conditionsOf now (byId id) =
      if trim id = "" then [.above .deletedAt now.layout]
      else [.equals .id (trim id), .above .deletedAt now.layout] := by
  have hid : filled? (byId id).id = if trim id = "" then none else some (trim id) := filled?_some id
  split <;> simp_all [Query.conditionsOf, byId, Query.idsCondition, Query.pathCondition, filled?]

/-- The query of an operation by identifier. -/
def queryById (s : Store) (now : Instant) (id : String) : Query :=
  { table := s.table, conditions := Query.conditionsOf now (byId id), distinct := none
    order := none, limit := some 1, offset := none }

variable [Engine]

theorem admits_queryById (r : Row) : (s.queryById now id).admits r = isCandidate now id r := by
  rw [Query.admits, queryById, conditionsOf_byId, isCandidate]
  split <;> simp_all

theorem find_eq_ok {found : Option Visitor} (hid : id ≠ "") :
    s.find now id p = .ok found ↔
      ∃ vs, p.read (Database.list (s.queryById now id)) = .ok vs ∧ found = vs.head? := by
  have hlist : s.list now (byId id) p = p.read (Database.list (s.queryById now id)) := rfl
  rw [find, if_neg (fun h => hid (String.isEmpty_iff.1 h)), hlist]
  constructor
  · intro h
    split at h
    · next vs hvs => cases h; exact ⟨vs, hvs, rfl⟩
    · cases h
  · rintro ⟨vs, hvs, rfl⟩
    rw [hvs]

/-- The query binds few values and has no pattern, so that the engine runs it. -/
theorem refusal?_queryById (s : Store) (now : Instant) (id : String) (rows : Rows) :
    (s.queryById now id).refusal? .listing rows = none := by
  have hconditions : (s.queryById now id).conditions = Query.conditionsOf now (byId id) := rfl
  have hvalues : (s.queryById now id).valuesOf .listing ≤ 3 := by
    rw [Query.valuesOf, Query.valueCount, hconditions, conditionsOf_byId]
    split <;> simp [Condition.valueCount, queryById]
  refine Query.refusal?_eq_none (Nat.le_trans hvalues (by decide)) fun k hk => ?_
  rw [hconditions, conditionsOf_byId] at hk
  split at hk
  · rw [List.mem_singleton.1 hk]
    rfl
  · rcases List.mem_pair.1 hk with rfl | rfl <;> rfl

/-- An operation by identifier finds the first of its candidates, in some order. -/
theorem find_of_holds (hid : id ≠ "") (hp : p.isClosed = false) (h : p.Holds s rows) :
    ∃ l : Rows, l.Perm (rows.filter (isCandidate now id)) ∧
      s.find now id p = .ok (l.head?.map Row.toVisitor) := by
  obtain ⟨l, hl, hrun⟩ := (s.queryById now id).run_eq_page rows
  have hread := Pool.read_list_of_holds (q := s.queryById now id) hp h rfl
  rw [refusal?_queryById] at hread
  refine ⟨l, ?_, (find_eq_ok hid).2 ⟨_, hread, ?_⟩⟩
  · rwa [funext admits_queryById] at hl
  · have hpage : (s.queryById now id).page l = l.take 1 := rfl
    rw [hrun, hpage]
    cases l <;> rfl

theorem holds_of_find {found : Option Visitor} (hid : id ≠ "") (h : s.find now id p = .ok found) :
    p.isClosed = false ∧ ∃ rows, p.Holds s rows := by
  obtain ⟨vs, hvs, -⟩ := (find_eq_ok hid).1 h
  have hc : .deletedAt ∈ (s.queryById now id).conditions.map Condition.column := by
    rw [queryById, conditionsOf_byId]
    split <;> simp [Condition.column]
  obtain ⟨hp, rows, hrows, -⟩ := Pool.holds_of_read_list hc rfl hvs
  exact ⟨hp, rows, hrows⟩

/-- The record that is found comes from a candidate. -/
theorem exists_candidate_of_find {v : Visitor} (hid : id ≠ "")
    (h : s.find now id p = .ok (some v)) :
    ∃ rows r, p.Holds s rows ∧ r ∈ rows ∧ isCandidate now id r ∧ v = r.toVisitor := by
  obtain ⟨hp, rows, hrows⟩ := holds_of_find hid h
  obtain ⟨l, hl, e⟩ := find_of_holds hid hp hrows
  rw [h] at e
  cases l with
  | nil => cases e
  | cons r l =>
    cases e
    have hr := List.mem_filter.1 (hl.mem_iff.1 List.mem_cons_self)
    exact ⟨rows, r, hrows, hr.1, hr.2, rfl⟩

theorem find_eq_none (hid : id ≠ "") (hp : p.isClosed = false) (h : p.Holds s rows)
    (hnone : ∀ r ∈ rows, isCandidate now id r = false) : s.find now id p = .ok none := by
  obtain ⟨l, hl, e⟩ := find_of_holds hid hp h
  have hempty : rows.filter (isCandidate now id) = [] :=
    List.filter_eq_nil_iff.2 fun r hr => by simp [hnone r hr]
  rw [hempty, List.perm_nil] at hl
  rw [e, hl]
  rfl

theorem exists_find_eq_ok {r : Row} (hid : id ≠ "") (hp : p.isClosed = false) (h : p.Holds s rows)
    (hr : r ∈ rows) (hc : isCandidate now id r) : ∃ v, s.find now id p = .ok (some v) := by
  obtain ⟨l, hl, e⟩ := find_of_holds hid hp h
  have hmem : r ∈ l := hl.mem_iff.2 (List.mem_filter.2 ⟨hr, hc⟩)
  obtain ⟨x, l, rfl⟩ := List.exists_cons_of_ne_nil (List.ne_nil_of_mem hmem)
  exact ⟨x.toVisitor, e⟩

/-- A deletion by identifier is a search for a live record and the deletion of what it finds. -/
theorem softDeleteById_eq_ok {p' : Pool} :
    s.softDeleteById now id p = .ok p' ↔
      ∃ v, s.find now id p = .ok (some v) ∧ (s.write .softDelete now v p).result = .ok p' := by
  unfold softDeleteById
  constructor
  · intro h
    split at h
    · cases h
    · cases h
    · next v hv => exact ⟨v, hv, h⟩
  · rintro ⟨v, hv, h⟩
    rw [hv]
    exact h

theorem softDeleteById_of_find_none (h : s.find now id p = .ok none) :
    s.softDeleteById now id p = .error (.noVisitor id) := by
  rw [softDeleteById, h]

end Store

/-- The row has this identifier, but for blanks around either of them. -/
def Row.IsNamed (id : String) (r : Row) : Prop :=
  trim (r.value .id).toText = trim id

theorem Row.isNamed_of_hasId {id : String} {r : Row} (h : r.hasId (trim id)) : r.IsNamed id := by
  have h : r.value .id = .text (trim id) := beq_iff_eq.1 h
  rw [IsNamed, h, Stored.toText_text, trim_trim]

namespace Store

variable {s : Store} {now : Instant} {id : String} {p p' : Pool} {rows : Rows}

theorem hasId_of_isCandidate {r : Row} (hid : trim id ≠ "") (h : isCandidate now id r) :
    r.hasId (trim id) := by
  rw [isCandidate, Bool.and_eq_true, Bool.or_eq_true, decide_eq_true_eq] at h
  exact h.1.resolve_left hid

theorem ne_empty_of_trim (h : trim id ≠ "") : id ≠ "" :=
  fun e => h (by rw [e]; rfl)

variable [Engine]

/-- The record that is found has the trimmed identifier. -/
theorem id_of_find {v : Visitor} (hid : trim id ≠ "") (h : s.find now id p = .ok (some v)) :
    v.value .id = trim id := by
  obtain ⟨rows, r, -, -, hr, rfl⟩ := exists_candidate_of_find (ne_empty_of_trim hid) h
  exact congrArg Stored.toText (beq_iff_eq.1 (hasId_of_isCandidate hid hr))

theorem frame_softDeleteById (hid : trim id ≠ "") (h : s.softDeleteById now id p = .ok p') :
    Pool.Frame s (Row.IsNamed id) p p' := by
  obtain ⟨v, hv, h⟩ := softDeleteById_eq_ok.1 h
  have hframe := Pool.Frame.write h
  rw [id_of_find hid hv] at hframe
  exact hframe.mono fun r => Row.isNamed_of_hasId

/-- A live row of the identifier is found and deleted. -/
theorem exists_softDeleteById_eq_ok {r : Row} (hid : trim id ≠ "") (hp : p.isClosed = false)
    (h : p.Holds s rows) (hr : r ∈ rows) (hlive : r.isLive now) (hname : r.hasId (trim id)) :
    ∃ v, s.find now id p = .ok (some v) ∧ ∃ p', s.softDeleteById now id p = .ok p' := by
  have hc : isCandidate now id r := by
    rw [isCandidate, hname, hlive, Bool.or_true]
    rfl
  obtain ⟨v, hv⟩ := exists_find_eq_ok (ne_empty_of_trim hid) hp h hr hc
  have hvid : v.value .id ≠ "" := by
    rw [id_of_find hid hv]
    exact hid
  obtain ⟨p', hp'⟩ := exists_write_eq_ok .softDelete now hvid hp h
  exact ⟨v, hv, p', softDeleteById_eq_ok.2 ⟨v, hv, hp'⟩⟩

theorem softDeleteById_eq_noVisitor (hid : trim id ≠ "") (hp : p.isClosed = false)
    (h : p.Holds s rows) (hnone : ∀ r ∈ rows, r.isLive now → ¬r.IsNamed id) :
    s.softDeleteById now id p = .error (.noVisitor id) := by
  refine softDeleteById_of_find_none (find_eq_none (ne_empty_of_trim hid) hp h fun r hr => ?_)
  rw [Bool.eq_false_iff]
  intro hc
  have hlive : r.isLive now := (Bool.and_eq_true _ _ ▸ hc).2
  exact hnone r hr hlive (Row.isNamed_of_hasId (hasId_of_isCandidate hid hc))

end Store

/-! ## Requests to delete -/

namespace Service

variable {id : String} {r : Request} {segment : List Char}

@[simp] theorem status_finished (e : Endpoint) (method : String) (response : Response) :
    (finished e method response).status = response.status := by
  unfold finished
  dsimp only
  split <;> split <;> rfl

section

variable [Engine]

/-- A request to delete a record is refused, or it deletes the record. -/
theorem serve_delete (sv : Service) (now : Instant) (random : Nat) (t : ServiceState)
    (he : Endpoint.ofPath? r.path = some (.visitor segment))
    (hs : Form.decodePercent? segment = some id) (hm : r.method = "DELETE") :
    (∃ why, sv.gate.judge r = .refused why ∧ (sv.serve now random r t).2 = t) ∨
      (∃ cookie, sv.gate.judge r = .admitted cookie ∧
        (sv.serve now random r t).1.status = (sv.deleteVisitor now id t).1.status ∧
        (sv.serve now random r t).2 = (sv.deleteVisitor now id t).2) := by
  have htrack : sv.track now random r t = t := by
    rw [track, isTracked_eq_false _ (by rw [hm]; decide)]
    rfl
  have hknown : r.method ∈ (Endpoint.visitor segment).methods := by simp [hm, Endpoint.methods]
  have hanswer : sv.answerMethod now random (.visitor segment) r t = sv.deleteVisitor now id t := by
    rw [answerMethod, if_pos hknown, answer, hs]
    exact if_pos hm
  have happroach : sv.approach now random (.visitor segment) r t =
      sv.enter now random (.visitor segment) r t := rfl
  rw [serve, htrack, he]
  dsimp only
  rw [happroach, enter, status_finished]
  cases sv.gate.judge r with
  | refused why => exact .inl ⟨why, rfl, rfl⟩
  | admitted cookie =>
    refine .inr ⟨cookie, rfl, ?_⟩
    rw [hanswer]
    cases cookie <;> exact ⟨rfl, rfl⟩

/-- Operations by an identifier touch only the record of that identifier: a record that is found has
it, a deletion leaves all other rows as they were, and where no live record has it, a deletion is
answered with `NotFound`. Blanks around an identifier do not count. A live record of the identifier
is deleted. -/
structure TouchesOnly (sv : Service) (now : Instant) (id : String) (t : ServiceState) : Prop where
  found : ∀ v, sv.store.find now id t.pool = .ok (some v) → trim (v.value .id) = trim id
  kept : ∀ p, sv.store.softDeleteById now id t.pool = .ok p →
    Pool.Frame sv.store (Row.IsNamed id) t.pool p
  missing : ∀ rows, t.pool.isClosed = false → t.pool.Holds sv.store rows →
    (∀ r ∈ rows, r.isLive now → ¬r.IsNamed id) →
    sv.store.softDeleteById now id t.pool = .error (.noVisitor id)
  present : ∀ rows r, t.pool.isClosed = false → t.pool.Holds sv.store rows →
    r ∈ rows → r.isLive now → r.hasId (trim id) → ∃ v, sv.store.find now id t.pool = .ok (some v) ∧
      ∃ p, sv.store.softDeleteById now id t.pool = .ok p
  keptOnRequest : ∀ random r segment, Endpoint.ofPath? r.path = some (.visitor segment) →
    Form.decodePercent? segment = some id → r.method = "DELETE" →
    Pool.Frame sv.store (Row.IsNamed id) t.pool (sv.serve now random r t).2.pool
  missingOnRequest : ∀ random r segment cookie rows,
    Endpoint.ofPath? r.path = some (.visitor segment) → Form.decodePercent? segment = some id →
    r.method = "DELETE" → sv.gate.judge r = .admitted cookie →
    t.pool.isClosed = false → t.pool.Holds sv.store rows →
    (∀ r ∈ rows, r.isLive now → ¬r.IsNamed id) →
    (sv.serve now random r t).1.status = 404 ∧ (sv.serve now random r t).2 = t

/-- With an identifier that is not blank the search has a condition, so only the row of that
identifier is found. -/
theorem touchesOnly_of_not_blank (sv : Service) (now : Instant) (t : ServiceState)
    (hid : trim id ≠ "") :
    sv.TouchesOnly now id t where
  found v hv := by
    rw [Store.id_of_find hid hv, trim_trim]
  kept p hp := Store.frame_softDeleteById hid hp
  missing rows hp hrows hnone := Store.softDeleteById_eq_noVisitor hid hp hrows hnone
  present rows r hp hrows hr hlive hname :=
    Store.exists_softDeleteById_eq_ok hid hp hrows hr hlive hname
  keptOnRequest random r segment he hs hm := by
    rcases serve_delete sv now random t he hs hm with
      ⟨why, -, ht⟩ | ⟨cookie, -, -, ht⟩
    · rw [ht]
      exact .refl ..
    · rw [ht, deleteVisitor]
      split
      · next p hp => exact Store.frame_softDeleteById hid hp
      · exact .refl ..
  missingOnRequest random r segment cookie rows he hs hm hg hp hrows hnone := by
    have hdelete := Store.softDeleteById_eq_noVisitor hid hp hrows hnone
    rcases serve_delete sv now random t he hs hm with
      ⟨why, hw, -⟩ | ⟨cookie', -, hstatus, ht⟩
    · rw [hw] at hg
      cases hg
    · rw [hstatus, ht, deleteVisitor, hdelete]
      exact ⟨rfl, rfl⟩

/-! ## Blank identifiers -/

/-- A service over a table with one live row, of the identifier `a`. -/
def lone : Service :=
  { store := ⟨"visits"⟩, gate := ⟨""⟩, countryHeader := "", homeUrl := "", websiteUrl := ""
    limiter := .refilling 1 1 }

def loneVisit : Visitor :=
  .visit "a" "/" "2024-01-01 00:00:00"

def loneState : ServiceState :=
  { pool := .ofVisits [loneVisit]
    channel := { capacity := 1, capacity_pos := Nat.one_pos }, cache := { lifetimeSeconds := 0 } }

/-- A blank identifier is no filter, so an operation by it takes the first live row. -/
theorem not_touchesOnly_of_blank (hid : id ≠ "") (hb : trim id = "") :
    ¬lone.TouchesOnly ⟨0, 0⟩ id loneState := by
  intro h
  have hholds : loneState.pool.Holds lone.store [.ofVisitor loneVisit] := Pool.holds_ofVisits _
  have hlive : (Row.ofVisitor loneVisit).isLive ⟨0, 0⟩ := by
    rw [Row.isLive_ofVisitor (Visitor.inLayout_of_all (by decide)).isKept]
    decide
  have hone : [Row.ofVisitor loneVisit].filter (Store.isCandidate ⟨0, 0⟩ id) =
      [.ofVisitor loneVisit] :=
    List.filter_eq_self.2 fun r hr => by
      rw [List.mem_singleton.1 hr, Store.isCandidate, hlive, hb]
      rfl
  obtain ⟨l, hl, hfind⟩ := Store.find_of_holds hid rfl hholds
  rw [hone, List.perm_singleton] at hl
  rw [hl] at hfind
  have hfound : trim ((Row.ofVisitor loneVisit).toVisitor.value .id) = trim id := h.found _ hfind
  rw [hb] at hfound
  change trim "a" = "" at hfound
  exact absurd hfound (by decide)

/-- Operations by identifier keep to their record exactly when the identifier is not blank. -/
theorem touchesOnly_iff_not_blank (hid : id ≠ "") :
    (∀ sv now t, TouchesOnly sv now id t) ↔ trim id ≠ "" :=
  ⟨fun h hb => not_touchesOnly_of_blank hid hb (h _ _ _),
    fun hid sv now t => touchesOnly_of_not_blank sv now t hid⟩

end

theorem touchesOnly_between_blanks :
    " a " ≠ "" ∧ ((∀ sv now t, TouchesOnly sv now " a " t) ↔ trim " a " ≠ "") ∧ trim " a " = "a" :=
  ⟨by decide, touchesOnly_iff_not_blank (by decide), by decide⟩

theorem not_touchesOnly_blank :
    ¬∀ id : String, id ≠ "" → ∀ sv now t, TouchesOnly sv now id t :=
  fun h => not_touchesOnly_of_blank (by decide) (by decide) (h " " (by decide) _ _ _)

end Service

end VisitLog

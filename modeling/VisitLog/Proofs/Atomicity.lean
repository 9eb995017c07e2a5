import VisitLog.Proofs.Captures
import VisitLog.Proofs.Writes

/-!
# Operations that fail

An operation of the store is a plan of database statements, made from its arguments and from what it
reads. Statements are run one by one, and what they did before one of them fails stays, unless they
form a transaction, which is then rolled back. Every plan has one statement at most or is a
transaction (`run_plan`), so an operation that fails leaves nothing behind in the database. The
record of a failed write stays dirty wherever it was, and so the next write that succeeds has all
its changes.

Main statement: `Store.failsCleanly`.
-/

namespace VisitLog

open Migration

/-! ## Statements and transactions -/

namespace Pool

/-- Runs statements one by one. What was changed before a failure stays. -/
def execute (changes : List Change) (p : Pool) : Pool × Option Failure :=
  if p.isClosed then (p, some .poolClosed)
  else
    match inOrder changes p.database with
    | (db, none) => ({ p with database := db }, none)
    | (db, some fault) => ({ p with database := db }, some (.database fault))

/-- Runs statements one by one, and goes back to the beginning if one of them fails. -/
def transact (changes : List Change) (p : Pool) : Pool × Option Failure :=
  match p.execute changes with
  | (p', none) => (p', none)
  | (_, some failure) => (p, some failure)

/-- A result, where nothing is changed by a failure. -/
def settle (p : Pool) : Except Failure Pool → Pool × Option Failure
  | .ok p' => (p', none)
  | .error failure => (p, some failure)

variable {p : Pool} {s : Store}

/-- A statement alone changes the database or fails. -/
theorem execute_singleton (change : Change) (p : Pool) :
    p.execute [change] = p.settle (p.change change) := by
  obtain ⟨db, isClosed⟩ := p
  unfold execute Pool.change read inOrder settle
  cases isClosed with
  | true => rfl
  | false =>
    dsimp only
    cases change db with
    | ok db => rfl
    | error fault => rfl

end Pool

namespace Database

variable [Engine]

variable {db : Database} {table : String} {v : Visitor} {vs : List Visitor}

theorem insert_of_rows {name : String} {rows : Rows} (h : db.rows "id" table = .ok (name, rows)) :
    insert table v db = (rows.insert? name v).map fun rows =>
    db.setContents table (.visits rows) := by
  unfold insert
  rw [h]
  cases hv : rows.insert? name v <;> simp [Bind.bind, Except.bind, hv] <;> rfl

theorem insertAll_of_rows {name : String} {rows : Rows}
    (h : db.rows "id" table = .ok (name, rows)) :
    insertAll table vs db =
      (Rows.insertAll? name rows vs).map fun rows => db.setContents table (.visits rows) := by
  unfold insertAll
  rw [h]
  cases hv : Rows.insertAll? name rows vs <;> simp [Bind.bind, Except.bind, hv] <;> rfl

/-- The first row is inserted, and then the others. -/
theorem insertAll_cons :
    insertAll table (v :: vs) db = insert table v db >>= insertAll table vs := by
  cases h : db.rows "id" table with
  | error fault =>
    unfold insertAll insert
    rw [h]
    rfl
  | ok named =>
    obtain ⟨name, rows⟩ := named
    rw [insertAll_of_rows h, insert_of_rows h, Rows.insertAll?]
    cases rows.insert? name v with
    | error fault => rfl
    | ok rows' =>
      have hrows' : (db.setContents table (.visits rows')).rows "id" table = .ok (name, rows') :=
        rows_eq_ok.2 (table?_setContents_self (rows_eq_ok.1 h))
      refine Eq.trans ?_ (insertAll_of_rows hrows').symm
      simp only [setContents_setContents]

theorem insertAll_singleton : insertAll table [v] db = insert table v db := by
  cases h : db.rows "id" table with
  | error fault =>
    unfold insertAll insert
    rw [h]
    rfl
  | ok named =>
    rw [insertAll_of_rows h, insert_of_rows h, Rows.insertAll?]
    cases named.2.insert? named.1 v <;> rfl

/-- Rows inserted one by one are in the table like those inserted all at once; otherwise one of the
insertions fails, for the same reason. -/
theorem inOrder_insert (hvs : vs ≠ []) (table : String) (db : Database) :
    match insertAll table vs db with
    | .ok db' => inOrder (vs.map (insert table)) db = (db', none)
    | .error fault => (inOrder (vs.map (insert table)) db).2 = some fault := by
  induction vs generalizing db with
  | nil => exact absurd rfl hvs
  | cons v vs ih =>
    cases vs with
    | nil =>
      rw [insertAll_singleton, List.map_singleton]
      unfold inOrder
      cases insert table v db <;> rfl
    | cons w vs =>
      rw [insertAll_cons, List.map_cons, inOrder]
      cases insert table v db with
      | error fault => rfl
      | ok db' => exact ih (List.cons_ne_nil w vs) db'

end Database

namespace Pool

/-- A batch inserted row by row in a transaction is in the table as a whole, or nothing is. -/
theorem transact_insert [Engine] {vs : List Visitor} (hvs : vs ≠ []) (s : Store) (p : Pool) :
    p.transact (vs.map (Database.insert s.table)) =
    p.settle (p.change (Database.insertAll s.table vs)) := by
  obtain ⟨db, isClosed⟩ := p
  have hinsert := Database.inOrder_insert hvs s.table db
  unfold transact execute Pool.change read settle
  cases isClosed with
  | true => rfl
  | false =>
    dsimp only
    cases hall : Database.insertAll s.table vs db with
    | ok db' =>
      rw [hall] at hinsert
      dsimp only at hinsert
      rw [hinsert]
      rfl
    | error fault =>
      rw [hall] at hinsert
      dsimp only at hinsert
      generalize inOrder (vs.map (Database.insert s.table)) db = tried at hinsert ⊢
      obtain ⟨db', failed⟩ := tried
      dsimp only at hinsert
      subst hinsert
      rfl

end Pool

namespace Store

variable [Engine]

theorem result_create (s : Store) (now : Instant) (v : Visitor) (p : Pool) :
    (s.create now v p).result = p.change (Database.insert s.table (dated now v)) := by
  unfold create dated
  dsimp only
  split
  · next h => exact h.symm
  · next h => exact h.symm

/-- What becomes of an update: it needs an identifier, and without changes it does nothing. -/
theorem result_update (s : Store) (now : Instant) (v : Visitor) (p : Pool) :
    (s.update now v p).result =
      if (v.value .id).isEmpty then .error .idRequired
      else if !v.isDirty then .ok p
      else p.change (Database.update s.table (v.value .id) (written (stamped now v))) := by
  unfold update
  split
  · rfl
  · split
    · rfl
    · dsimp only
      split
      · next h => exact h.symm
      · next h => exact h.symm

theorem map_createBatch {vs : List Visitor} (hvs : vs ≠ []) (s : Store) (now : Instant) (p : Pool) :
    (s.createBatch now vs p).map Prod.snd =
      p.change (Database.insertAll s.table (vs.map (stampCaptured now))) := by
  unfold createBatch
  split
  · exact absurd rfl hvs
  · split
    · next h => exact h.symm
    · next h => exact h.symm

theorem map_purge (s : Store) (olderThan : Instant) (p : Pool) :
    (s.purge olderThan p).map Prod.snd =
      p.change fun db => (Database.purge s.table olderThan.layout db).map Prod.snd := by
  obtain ⟨db, isClosed⟩ := p
  unfold purge Pool.change Pool.read
  cases isClosed with
  | true => rfl
  | false =>
    dsimp only
    cases Database.purge s.table olderThan.layout db <;> rfl

end Store

/-! ## Operations -/

/-- What a client can ask of a store that changes the database. -/
inductive Operation where
  | create (v : Visitor)
  | createBatch (vs : List Visitor)
  | update (v : Visitor)
  | softDelete (v : Visitor)
  | softDeleteById (id : String)
  | delete (v : Visitor)
  | deleteById (id : String)
  | purge (olderThan : Instant)

/-- The statements of an operation, if it comes to any. -/
inductive Plan where
  | refuse (failure : Failure)
  | nothing
  | statement (change : Change)
  | transaction (changes : List Change)

namespace Plan

/-- Carries out a plan: the database afterwards, and why it failed if it did. -/
def run (p : Pool) : Plan → Pool × Option Failure
  | refuse failure => (p, some failure)
  | nothing => (p, none)
  | statement change => p.execute [change]
  | transaction changes => p.transact changes

/-- The plan of an update. -/
def ofUpdate [Engine] (s : Store) (now : Instant) (v : Visitor) : Plan :=
  if (v.value .id).isEmpty then .refuse .idRequired
  else if !v.isDirty then .nothing
  else .statement (Database.update s.table (v.value .id) (Store.written (Store.stamped now v)))

/-- The plan of a removal. -/
def ofDelete (s : Store) (id : String) : Plan :=
  if id.isEmpty then .refuse .idRequired else .statement (Database.delete s.table id)

end Plan

namespace Operation

/-- The plan of an operation; a soft delete by identifier reads the record first. -/
def plan [Engine] (s : Store) (now : Instant) (p : Pool) : Operation → Plan
  | create v => .statement (Database.insert s.table (Store.dated now v))
  | createBatch [] => .nothing
  | createBatch vs =>
      .transaction (vs.map fun v => Database.insert s.table (Store.stampCaptured now v))
  | update v => .ofUpdate s now v
  | softDelete v => .ofUpdate s now (v.set .deletedAt now.layout)
  | softDeleteById id =>
    match s.find now id p with
    | .error failure => .refuse failure
    | .ok none => .refuse (.noVisitor id)
    | .ok (some v) => .ofUpdate s now (v.set .deletedAt now.layout)
  | delete v => .ofDelete s (v.value .id)
  | deleteById id => .ofDelete s id
  | purge olderThan => .statement fun db =>
      (Database.purge s.table olderThan.layout db).map Prod.snd

/-- What the store gives back for an operation. -/
def result [Engine] (s : Store) (now : Instant) (p : Pool) : Operation → Except Failure Pool
  | create v => (s.create now v p).result
  | createBatch vs => (s.createBatch now vs p).map Prod.snd
  | update v => (s.update now v p).result
  | softDelete v => (s.softDelete now v p).result
  | softDeleteById id => s.softDeleteById now id p
  | delete v => s.delete v p
  | deleteById id => s.deleteById id p
  | purge olderThan => (s.purge olderThan p).map Prod.snd

variable {s : Store} {now : Instant} {p : Pool}

theorem run_ofUpdate [Engine] (s : Store) (now : Instant) (v : Visitor) (p : Pool) :
    (Plan.ofUpdate s now v).run p = p.settle (s.update now v p).result := by
  rw [Plan.ofUpdate, Store.result_update]
  split
  · rfl
  · split
    · rfl
    · exact Pool.execute_singleton _ p

theorem run_ofDelete (s : Store) (id : String) (p : Pool) :
    (Plan.ofDelete s id).run p = p.settle (s.deleteById id p) := by
  rw [Plan.ofDelete, Store.deleteById]
  split
  · rfl
  · exact Pool.execute_singleton _ p

/-- What the store gives back is what the statements of the operation come to. -/
theorem run_plan [Engine] (op : Operation) (s : Store) (now : Instant) (p : Pool) :
    (op.plan s now p).run p = p.settle (op.result s now p) := by
  cases op with
  | create v =>
    rw [result, Store.result_create]
    exact Pool.execute_singleton _ p
  | createBatch vs =>
    cases vs with
    | nil => rfl
    | cons v vs =>
      have hne : v :: vs ≠ [] := List.cons_ne_nil v vs
      have hne' : (v :: vs).map (Store.stampCaptured now) ≠ [] := mt List.map_eq_nil_iff.1 hne
      have hinsert := Pool.transact_insert hne' s p
      rw [result, Store.map_createBatch hne, ← hinsert, List.map_map]
      rfl
  | update v => exact run_ofUpdate s now v p
  | softDelete v => exact run_ofUpdate s now _ p
  | softDeleteById id =>
    cases h : s.find now id p with
    | error failure =>
      simp only [plan, result, Store.softDeleteById, h]
      rfl
    | ok found =>
      cases found with
      | none =>
        simp only [plan, result, Store.softDeleteById, h]
        rfl
      | some v =>
        simp only [plan, result, Store.softDeleteById, h]
        exact run_ofUpdate s now _ p
  | delete v => exact run_ofDelete s _ p
  | deleteById id => exact run_ofDelete s id p
  | purge olderThan =>
    rw [result, Store.map_purge]
    exact Pool.execute_singleton _ p

end Operation

/-! ## Writes that are repeated -/

/-- The same record, perhaps with another identifier. -/
def Visitor.IsRenamed (v v' : Visitor) : Prop :=
  ∀ c, c ≠ .id → v'.value c = v.value c ∧ v'.dirty c = v.dirty c

/-- The columns that a write sets itself. -/
def Write.stamps (w : Write) (c : Column) : Prop :=
  c = .updatedAt ∨ w = .softDelete ∧ c = .deletedAt

theorem Write.submitted_of_not_stamps {w : Write} {c : Column} (h : ¬w.stamps c) (now : Instant)
    (v : Visitor) : (w.submitted now v).value c = v.value c := by
  cases w with
  | update => rfl
  | softDelete => exact if_neg fun hc => h (.inr ⟨rfl, hc⟩)

theorem Write.submitted_of_stamps {w : Write} {c : Column} (h : w.stamps c) (hc : c ≠ .updatedAt)
    (now : Instant) (v : Visitor) : (w.submitted now v).value c = now.layout := by
  obtain ⟨rfl, rfl⟩ := h.resolve_left hc
  rfl

theorem Write.dirty_submitted {v : Visitor} {c : Column} (h : v.dirty c) (w : Write)
    (now : Instant) :
    (w.submitted now v).dirty c := by
  cases w with
  | update => exact h
  | softDelete => rw [Write.submitted, Visitor.dirty_set, h, Bool.or_true]

namespace Store

variable [Engine]

variable {s : Store} {w : Write} {now : Instant} {v : Visitor} {p : Pool} {failure : Failure}
    {c : Column}

/-- A failed write gives the record back as it was submitted, perhaps with the stamp of the
write. -/
theorem record_of_error (h : (s.write w now v p).result = .error failure) :
    (s.write w now v p).record = w.submitted now v ∨
      (s.write w now v p).record = stamped now (w.submitted now v) := by
  have out := s.outcome_write w now v p
  generalize s.write w now v p = a at out h ⊢
  cases out with
  | nameless => exact .inl rfl
  | refused => exact .inr rfl
  | unchanged | stored => cases h

theorem dirty_of_error (h : (s.write w now v p).result = .error failure) (hc : v.dirty c) :
    (s.write w now v p).record.dirty c := by
  have hsubmitted := Write.dirty_submitted hc w now
  rcases record_of_error h with hrecord | hrecord
  · rw [hrecord]
    exact hsubmitted
  · rw [hrecord, stamped, Visitor.dirty_set, hsubmitted, Bool.or_true]

theorem value_of_error (h : (s.write w now v p).result = .error failure) (hc : ¬w.stamps c) :
    (s.write w now v p).record.value c = v.value c := by
  have hsubmitted := Write.submitted_of_not_stamps hc now v
  rcases record_of_error h with hrecord | hrecord
  · rw [hrecord, hsubmitted]
  · rw [hrecord, stamped, Visitor.value_set, if_neg fun e => hc (.inl e), hsubmitted]

/-- Of a failed write only the stamps stay behind in the record. -/
theorem stamp_of_error (h : (s.write w now v p).result = .error failure) (hc : w.stamps c) :
    (s.write w now v p).record.value c = now.layout ∨
      c = .updatedAt ∧ (s.write w now v p).record.value c = v.value c := by
  by_cases hupdated : c = .updatedAt
  · subst hupdated
    rcases record_of_error h with hrecord | hrecord
    · refine .inr ⟨rfl, ?_⟩
      rw [hrecord]
      cases w <;> rfl
    · rw [hrecord]
      exact .inl rfl
  · have hsubmitted := Write.submitted_of_stamps hc hupdated now v
    rcases record_of_error h with hrecord | hrecord
    · rw [hrecord]
      exact .inl hsubmitted
    · rw [hrecord, stamped, Visitor.value_set, if_neg hupdated]
      exact .inl hsubmitted

/-- A write of a record that has an identifier puts all its changes into the row, once it can. -/
theorem exists_written {r : Row} (w : Write) (now : Instant) (hid : v.value .id ≠ "")
    (hp : p.isClosed = false)
    (hrow : p.HasRow s (v.value .id) r) : ∃ p', (s.write w now v p).result = .ok p' ∧
      ∃ r', p'.HasRow s (v.value .id) r' ∧ ∀ c, c ≠ .id → v.dirty c →
        (¬w.stamps c → r'.value c = .ofText c.isDatetime (v.value c)) ∧
        (w.stamps c → r'.value c = .text now.layout) := by
  obtain ⟨rows, hrows, hone⟩ := hrow
  rw [← id_submitted w now v] at hid
  have out := s.outcome_write w now v p
  generalize s.write w now v p = a at out ⊢
  cases out with
  | nameless h => exact absurd h hid
  | refused _ _ h => exact absurd hrows (h rows hp)
  | unchanged _ hclean =>
    refine ⟨p, rfl, r, ⟨rows, hrows, hone⟩, fun c _ hc => ?_⟩
    cases (Visitor.dirty_of_isDirty hclean c).symm.trans (Write.dirty_submitted hc w now)
  | @stored rows' _ _ _ hrows' =>
    cases hrows.unique hrows'
    have hrow : p.HasRow s ((w.submitted now v).value .id) r :=
      id_submitted w now v ▸ ⟨rows, hrows, hone⟩
    have hwritten := hrow.update hrows (stamped now (w.submitted now v))
    rw [← id_submitted w now v]
    refine ⟨_, rfl, _, hwritten, fun c hne hc => ?_⟩
    have hdirty : (stamped now (w.submitted now v)).dirty c := by
      rw [stamped, Visitor.dirty_set, Write.dirty_submitted hc w now, Bool.or_true]
    rw [Row.value_write_written, if_pos ⟨hdirty, hne⟩, stamped, Visitor.value_set]
    constructor
    · intro hstamps
      rw [if_neg fun e => hstamps (.inl e), Write.submitted_of_not_stamps hstamps]
    · intro hstamps
      split
      · exact now.isKept_layout.ofText _
      · next hne => rw [Write.submitted_of_stamps hstamps hne, now.isKept_layout.ofText]

/-! ## Every operation -/

/-- What a failure leaves behind. `carried` and `atomic`: an operation is a run of its statements,
and if it fails the database is as it was. `keeps`: the record of a failed write is dirty wherever
it was, with the same texts but for the stamps of the write. `repeats`: hence the same write, when
the database can be reached and the record has an identifier, puts all changes into the row.
`creates`: a new record is refused exactly when a row has its identifier. -/
structure FailsCleanly (s : Store) : Prop where
  carried : ∀ (op : Operation) (now : Instant) (p : Pool),
    (op.plan s now p).run p = p.settle (op.result s now p)
  atomic : ∀ (op : Operation) (now : Instant) (p p' : Pool) (failure : Failure),
    (op.plan s now p).run p = (p', some failure) → p' = p
  keeps : ∀ w now v p failure, (s.write w now v p).result = .error failure → ∀ c,
    (v.dirty c → (s.write w now v p).record.dirty c) ∧
    (¬w.stamps c → (s.write w now v p).record.value c = v.value c) ∧
    (w.stamps c → (s.write w now v p).record.value c = now.layout ∨
      c = .updatedAt ∧ (s.write w now v p).record.value c = v.value c)
  repeats : ∀ w now v p failure, (s.write w now v p).result = .error failure →
    ∀ v' later p' r, (s.write w now v p).record.IsRenamed v' → v'.value .id ≠ "" →
    p'.isClosed = false →
      p'.HasRow s (v'.value .id) r → ∃ p'', (s.write w later v' p').result = .ok p'' ∧
        ∃ r', p''.HasRow s (v'.value .id) r' ∧ ∀ c, c ≠ .id → v.dirty c →
          (¬w.stamps c → r'.value c = .ofText c.isDatetime (v.value c)) ∧
          (w.stamps c → r'.value c = .text later.layout)
  creates : ∀ now v p rows, p.isClosed = false → p.Holds s rows →
    ((∃ p', (s.create now v p).result = .ok p') ↔ ∀ r ∈ rows, r.value .id ≠ .text (v.value .id))

/-- Operations that fail change nothing, and the changes of a record are not lost. -/
theorem failsCleanly (s : Store) : s.FailsCleanly where
  carried op now p := op.run_plan s now p
  atomic op now p p' failure h := by
    rw [op.run_plan] at h
    cases hresult : op.result s now p with
    | ok q =>
      rw [hresult] at h
      cases h
    | error why =>
      rw [hresult] at h
      exact (congrArg Prod.fst h).symm
  keeps w now v p failure h c := ⟨dirty_of_error h, value_of_error h, stamp_of_error h⟩
  repeats w now v p failure h v' later p' r hrenamed hid hp hrow := by
    obtain ⟨p'', hp'', r', hr', hall⟩ := exists_written w later hid hp hrow
    refine ⟨p'', hp'', r', hr', fun c hne hc => ?_⟩
    obtain ⟨hvalue, hdirty⟩ := hrenamed c hne
    obtain ⟨hkept, hstamped⟩ := hall c hne (hdirty.trans (dirty_of_error h hc))
    refine ⟨fun hstamps => ?_, hstamped⟩
    rw [hkept hstamps, hvalue, value_of_error h hstamps]
  creates now v p rows hp hrows := by
    rw [← Rows.hasId_eq_false, result_create]
    simp only [Pool.change_insert_eq_ok]
    constructor
    · rintro ⟨p', -, rows', hrows', hid, -⟩
      cases hrows.unique hrows'
      exact hid
    · intro hid
      exact ⟨_, hp, rows, hrows, hid, rfl⟩

end Store

end VisitLog

import VisitLog.Database.Planner
import VisitLog.Proofs.Sessions
import VisitLog.Proofs.WellFormed

/-!
# The order of steps

Visits are registered one after another, and their sessions are read later. An engine that reads
along the times of creation lists visits of one second as they were inserted (`Session.KeepsTies`),
and turning its answer round turns these round as well. So the steps of a session come in the order
of their seconds, and those of one second in the reverse of the order in which they were registered.
That is the order of registration only where each second of a session reads the same from both ends.

Main statement: `Registration.exists_recent_registerAll`.
-/

namespace VisitLog

/-! ## Lists in the order of a text -/

section

variable {α : Type} {f : α → String} {l l' : List α}

/-- Lists in the order of a text are equal if they have the same members with each text, in the same
order. -/
theorem eq_of_pairwise_of_filter_eq (hl : l.Pairwise fun a b => f a ≤ f b)
    (hl' : l'.Pairwise fun a b => f a ≤ f b)
    (h : ∀ t, l.filter (fun a => f a = t) = l'.filter fun a => f a = t) : l = l' := by
  have hmem (a : α) : a ∈ l ↔ a ∈ l' := by
    have := congrArg (a ∈ ·) (h (f a))
    simpa using this
  induction l generalizing l' with
  | nil =>
    symm
    apply List.eq_nil_iff_forall_not_mem.2
    simpa using hmem
  | cons a l ih =>
    cases l' with
    | nil => simpa using hmem a
    | cons b l' =>
      rw [List.pairwise_cons] at hl hl'
      have hab : f a = f b := by
        apply String.le_antisymm
        · rcases List.mem_cons.1 ((hmem b).2 List.mem_cons_self) with rfl | hb
          · exact String.le_refl _
          · exact hl.1 b hb
        · rcases List.mem_cons.1 ((hmem a).1 List.mem_cons_self) with rfl | ha
          · exact String.le_refl _
          · exact hl'.1 a ha
      have hhead := h (f a)
      rw [List.filter_cons_of_pos (by simp), List.filter_cons_of_pos (by simp [hab]),
        List.cons.injEq] at hhead
      obtain ⟨rfl, -⟩ := hhead
      have htail (t : String) : l.filter (fun a => f a = t) = l'.filter fun a => f a = t := by
        have ht := h t
        simp only [List.filter_cons] at ht
        split at ht
        · exact (List.cons.inj ht).2
        · exact ht
      rw [ih hl.2 hl'.2 htail]
      intro c
      have := congrArg (c ∈ ·) (htail (f c))
      simpa using this

end

namespace Session

variable {l vs : List Visitor} {x : Session} {k t : String}

/-! ## Steps of one second -/

/-- The steps of a time. -/
def stepsAt (t : String) (steps : List SessionStep) : List SessionStep :=
  steps.filter fun a => a.time = t

theorem stepsAt_reverse (t : String) (steps : List SessionStep) :
    stepsAt t steps.reverse = (stepsAt t steps).reverse := by
  simp [stepsAt]

theorem stepsAt_stepsIn (t k : String) (vs : List Visitor) :
    stepsAt t (stepsIn k vs) = stepsIn k (vs.filter fun v => v.value .createdAt = t) := by
  simp only [stepsAt, stepsIn, List.filter_map, List.filter_filter]
  exact congrArg _ (List.filter_congr fun v _ => Bool.and_comm ..)

/-- The first list has the visits of the second one, and those of one time in the same order. -/
def SameWithinTimes (l vs : List Visitor) : Prop :=
  ∀ t, l.filter (fun v => v.value .createdAt = t) = vs.filter fun v => v.value .createdAt = t

theorem SameWithinTimes.mem_iff (h : SameWithinTimes l vs) {v : Visitor} : v ∈ l ↔ v ∈ vs := by
  have hfilter := congrArg (v ∈ ·) (h (v.value .createdAt))
  simpa using hfilter

/-- The steps of one second come in the reverse order of the visits. -/
theorem stepsAt_of_mem_group (h : SameWithinTimes l vs) (hx : x ∈ group l.reverse) (t : String) :
    stepsAt t x.steps = (stepsAt t (stepsIn x.key vs)).reverse := by
  rw [steps_of_mem_group hx, stepsIn_reverse, stepsAt_reverse, stepsAt_stepsIn, h t,
    ← stepsAt_stepsIn]

/-- How the sessions of visits order their steps, given the visits in the order of their
registration. `keys`: every visit has a session, and every session a visit. `ascending`: steps come
in the order of their times. `ties`: those of one time come in the reverse order of registration.
`inOrder_iff`: so all steps come in the order of registration exactly if the steps of each session
and time read the same from both ends. -/
structure ReversesTies (vs : List Visitor) (ss : List Session) : Prop where
  keys : ∀ k, k ∈ ss.map key ↔ ∃ v ∈ vs, keyOf v = k
  ascending : ∀ x ∈ ss, x.steps.Pairwise fun a b => a.time ≤ b.time
  ties : ∀ x ∈ ss, ∀ t, stepsAt t x.steps = (stepsAt t (stepsIn x.key vs)).reverse
  inOrder_iff : (∀ x ∈ ss, x.steps = stepsIn x.key vs) ↔
    ∀ k t, (stepsAt t (stepsIn k vs)).reverse = stepsAt t (stepsIn k vs)

/-- Turning the newest visits round puts those of one second into the wrong order. -/
theorem reversesTies (hsorted : IsNewestFirst l) (h : SameWithinTimes l vs)
    (hvs : vs.Pairwise fun u v => u.value .createdAt ≤ v.value .createdAt) :
    ReversesTies vs (group l.reverse) := by
  have hkeys (k : String) : k ∈ (group l.reverse).map key ↔ ∃ v ∈ vs, keyOf v = k := by
    simp only [mem_keys_group, List.mem_reverse, h.mem_iff]
  have hascending : ∀ x ∈ group l.reverse, x.steps.Pairwise fun a b => a.time ≤ b.time := by
    intro x hx
    rw [steps_of_mem_group hx]
    exact pairwise_stepsIn x.key (List.pairwise_reverse.2 hsorted)
  refine ⟨hkeys, hascending, fun x hx => stepsAt_of_mem_group h hx, ?inOrder⟩
  constructor
  · intro hinOrder k t
    by_cases hk : k ∈ (group l.reverse).map key
    · obtain ⟨x, hx, rfl⟩ := List.mem_map.1 hk
      rw [← stepsAt_of_mem_group h hx, hinOrder x hx]
    · rw [hkeys] at hk
      rw [stepsIn_eq_nil fun v hv hkey => hk ⟨v, hv, hkey⟩]
      rfl
  · intro hsame x hx
    apply eq_of_pairwise_of_filter_eq (hascending x hx) (pairwise_stepsIn x.key hvs)
    intro t
    exact (stepsAt_of_mem_group h hx t).trans (hsame x.key t)

/-- Nothing is turned round where the visits of a session have different times. -/
theorem reverse_stepsAt
    (h : vs.Pairwise fun u v => keyOf u = keyOf v → u.value .createdAt ≠ v.value .createdAt)
    (k t : String) : (stepsAt t (stepsIn k vs)).reverse = stepsAt t (stepsIn k vs) := by
  rw [stepsAt_stepsIn, stepsIn, List.filter_filter]
  generalize hl : vs.filter (fun v => decide (keyOf v = k) && decide (v.value .createdAt = t)) = l
  have hdifferent := hl ▸ h.filter _
  have hsame : ∀ v ∈ l, keyOf v = k ∧ v.value .createdAt = t := by
    intro v hv
    rw [← hl, List.mem_filter, Bool.and_eq_true, decide_eq_true_iff, decide_eq_true_iff] at hv
    exact hv.2
  rcases l with _ | ⟨u, _ | ⟨v, l⟩⟩
  · rfl
  · rfl
  · obtain ⟨hu, hu'⟩ := hsame u (by simp)
    obtain ⟨hv, hv'⟩ := hsame v (by simp)
    have huv := (List.pairwise_cons.1 hdifferent).1 v List.mem_cons_self
    exact absurd (hu'.trans hv'.symm) (huv (hu.trans hv.symm))

/-! ## The order in which the engine lists -/

section

variable [Engine]

/-- The engine lists the visits of one time in the order in which they were inserted. -/
def KeepsTies (s : Store) (now : Instant) : Prop :=
  ∀ rows : Rows, rows.IsText .createdAt →
    SameWithinTimes ((Engine.arrange (windowQuery s now) rows).map Row.toVisitor)
      (rows.map Row.toVisitor)

theorem KeepsTies.sameWithinTimes {s : Store} {now : Instant} {rows : Rows} (h : KeepsTies s now)
    (hcreated : rows.IsText .createdAt) (hdeleted : rows.IsText .deletedAt) :
    SameWithinTimes (listed s now rows) (window now rows) := by
  rw [listed, window, List.filter_map, filter_admits_windowQuery s now hcreated hdeleted]
  exact h _ fun r hr => hcreated r (List.mem_of_mem_filter hr)

end

/-- The first visit is not older than the second one. -/
def isNewer (u v : Visitor) : Bool :=
  v.value .createdAt ≤ u.value .createdAt

/-- Sorted with the newest visits first, those of one time keep their order. -/
theorem sameWithinTimes_mergeSort (vs : List Visitor) :
    SameWithinTimes (vs.mergeSort isNewer) vs := by
  intro t
  have htrans (u v w : Visitor) (huv : isNewer u v) (hvw : isNewer v w) : isNewer u w :=
    decide_eq_true (String.le_trans (of_decide_eq_true hvw) (of_decide_eq_true huv))
  have htotal (u v : Visitor) : isNewer u v || isNewer v u := by
    simpa [isNewer] using String.le_total ..
  have hpairwise : (vs.filter fun v => v.value .createdAt = t).Pairwise fun u v => isNewer u v := by
    rw [List.pairwise_filter]
    apply List.pairwise_of_forall
    intro u v hu hv
    have hsame : v.value .createdAt = u.value .createdAt :=
      (of_decide_eq_true hv).trans (of_decide_eq_true hu).symm
    exact decide_eq_true (hsame ▸ String.le_refl _)
  have hsublist : (vs.filter fun v => v.value .createdAt = t).Sublist (vs.mergeSort isNewer) :=
    List.sublist_mergeSort htrans htotal hpairwise List.filter_sublist
  have hkept := hsublist.filter fun v => v.value .createdAt = t
  rw [List.filter_filter] at hkept
  simp only [Bool.and_self] at hkept
  have hperm : (vs.mergeSort isNewer).Perm vs := List.mergeSort_perm ..
  exact (hkept.eq_of_length (hperm.filter _).length_eq.symm).symm

/-- Creation has an index that runs downwards, and the usual engine reads the rows of the window
along it. -/
theorem keepsTies_usual (s : Store) (now : Instant) : KeepsTies s now := by
  intro rows hrows
  have harrange : Engine.arrange (windowQuery s now) rows = rows.downwards .createdAt := rfl
  have hsort : (rows.downwards .createdAt).map Row.toVisitor =
      (rows.map Row.toVisitor).mergeSort isNewer :=
    List.map_mergeSort fun a ha b hb => hrows.atMost hb ha
  rw [harrange, hsort]
  exact sameWithinTimes_mergeSort _

end Session

/-! ## Registrations -/

/-- A visit that is registered: the clock at which its record is built, and the one at which it is
stored. -/
structure Registration where
  visit : Visit
  random : Nat
  built : Instant
  stored : Instant

namespace Registration

variable {s : Store} {now : Instant} {g : Registration} {gs : List Registration} {p p' : Pool}
    {rows : Rows}

/-- The record of the visit. -/
def submitted (g : Registration) : Visitor :=
  g.visit.toVisitor g.built g.random

/-- The record as it comes back when it was stored. -/
def record (g : Registration) : Visitor :=
  (Store.dated g.stored g.submitted).clean

/-- Registers visits, one after another. -/
def registerAll [Engine] (s : Store) : List Registration → Pool → Except Failure Pool
  | [], p => .ok p
  | g :: gs, p => do
    let p ← (s.create g.stored g.submitted p).result
    registerAll s gs p

theorem isKept_record (g : Registration) : g.record.IsKept := by
  have hcaptured := Visitor.isCaptured_toVisitor g.built g.random g.visit
  exact (Store.isKept_dated hcaptured.isKept g.stored).clean

theorem toVisitor_record [Engine] (g : Registration) :
    (Row.ofVisitor g.record).toVisitor = g.record :=
  Row.toVisitor_ofVisitor g.isKept_record

theorem createdAt_record (g : Registration) : g.record.value .createdAt = g.stored.layout := rfl

theorem deletedAt_record (g : Registration) : g.record.value .deletedAt = Visitor.never :=
  g.visit.deletedAt_toVisitor g.built g.random

theorem value_record {c : Column} {text : String} (h : (c, text) ∈ g.visit.fields)
    (hcreated : c ≠ .createdAt)
    (hupdated : c ≠ .updatedAt) : g.record.value c = text := by
  have hrecord : g.record.value c = g.submitted.value c := by
    rw [record, Visitor.value_clean, Store.dated, Visitor.value_set, if_neg hupdated,
      Visitor.value_set, if_neg hcreated]
  exact hrecord.trans (g.visit.value_toVisitor_of_mem g.built g.random h)

/-- Registered visits have a fingerprint, so their sessions go by the address and the user agent. -/
theorem keyOf_record (g : Registration) : Session.keyOf g.record =
    Visitor.fingerprintOf (Visit.fitted .ipAddress g.visit.ipAddress)
      (Visit.fitted .userAgent g.visit.userAgent) := by
  have hfilled : g.record.value .fingerprint ≠ "" := g.visit.fingerprint_ne_empty g.built g.random
  have hfingerprint : g.record.value .fingerprint =
      Visitor.fingerprintOf (g.record.value .ipAddress) (g.record.value .userAgent) := rfl
  have haddress : g.record.value .ipAddress = Visit.fitted .ipAddress g.visit.ipAddress :=
    value_record (by simp [Visit.fields]) (by decide) (by decide)
  have hagent : g.record.value .userAgent = Visit.fitted .userAgent g.visit.userAgent :=
    value_record (by simp [Visit.fields]) (by decide) (by decide)
  rw [Session.keyOf_eq_fingerprint hfilled, hfingerprint, haddress, hagent]

theorem stepOf_record (g : Registration) : Session.stepOf g.record =
    ⟨g.stored.layout, Visit.fitted .path g.visit.path, Visit.fitted .userReferrer
      g.visit.referrer⟩ := by
  have hpath : g.record.value .path = Visit.fitted .path g.visit.path :=
    value_record (by simp [Visit.fields]) (by decide) (by decide)
  have hreferrer : g.record.value .userReferrer = Visit.fitted .userReferrer g.visit.referrer :=
    value_record (by simp [Visit.fields]) (by decide) (by decide)
  rw [Session.stepOf, g.createdAt_record, hpath, hreferrer]

/-- Visits that were registered are behind the rows of the table, in order. -/
theorem holds_of_registerAll [Engine] (hp : p.isClosed = false) (h : p.Holds s rows)
    (hall : registerAll s gs p = .ok p') :
    p'.isClosed = false ∧ p'.Holds s (rows ++ gs.map fun g => .ofVisitor g.record) := by
  induction gs generalizing p rows with
  | nil =>
    cases hall
    rw [List.map_nil, List.append_nil]
    exact ⟨hp, h⟩
  | cons g gs ih =>
    obtain ⟨q, hq, hall⟩ := bind_eq_ok.1 hall
    obtain ⟨v, hv⟩ : ∃ v, s.create g.stored g.submitted p = ⟨v, .ok q⟩ :=
      ⟨_, congrArg (Attempt.mk _) hq⟩
    obtain ⟨-, rows', hrows', -, rfl⟩ := Store.create_eq_ok hv
    cases h.unique hrows'
    have hrest := ih (p := p.withRows s _) hp (h.withRows _) hall
    rw [List.append_assoc] at hrest
    exact hrest

/-- Visits with free and different identifiers can be registered. -/
theorem exists_registerAll [Engine] (hp : p.isClosed = false) (h : p.Holds s rows)
    (hfree : ∀ g ∈ gs, rows.hasId (g.submitted.value .id) = false)
    (hdistinct : gs.Pairwise fun g g' => g.submitted.value .id ≠ g'.submitted.value .id) :
    ∃ p', registerAll s gs p = .ok p' := by
  induction gs generalizing p rows with
  | nil => exact ⟨p, rfl⟩
  | cons g gs ih =>
    rw [List.forall_mem_cons] at hfree
    rw [List.pairwise_cons] at hdistinct
    obtain ⟨v, q, hq⟩ := Store.exists_create_eq_ok g.stored hp h hfree.1
    obtain ⟨-, rows', hrows', -, rfl⟩ := Store.create_eq_ok hq
    cases h.unique hrows'
    have hrest : ∀ g' ∈ gs, Rows.hasId (rows ++ [.ofVisitor (Store.dated g.stored g.submitted)])
        (g'.submitted.value .id) = false := by
      intro g' hg'
      have hnew : Rows.hasId [.ofVisitor (Store.dated g.stored g.submitted)]
          (g'.submitted.value .id) = false :=
        Rows.hasId_singleton.2 (hdistinct.1 g' hg')
      rw [Rows.hasId_append, hfree.2 g' hg', hnew]
      rfl
    obtain ⟨p', hall⟩ := ih (p := p.withRows s _) hp (h.withRows _) hrest hdistinct.2
    exact ⟨p', bind_eq_ok.2 ⟨_, congrArg Attempt.result hq, hall⟩⟩

/-- At most a thousand registrations, at clocks that do not go back, and all of them live and in the
window of a clock. -/
structure FillsWindow (now : Instant) (gs : List Registration) : Prop where
  length_le : gs.length ≤ 1000
  ascending : gs.Pairwise fun g g' => g.stored ≤ g'.stored
  years : ∀ g ∈ gs, g.stored.Within 0 9999
  since : ∀ g ∈ gs, now.addDays (-31) ≤ g.stored
  live : now.layout < Visitor.never

variable (h : FillsWindow now gs)
include h

theorem FillsWindow.pairwise :
    (gs.map record).Pairwise fun u v => u.value .createdAt ≤ v.value .createdAt := by
  rw [List.pairwise_map]
  apply h.ascending.imp_of_mem
  intro g g' hg hg' hle
  exact Instant.layout_le_layout hle (h.years g hg).sound (h.years g' hg')

/-- After a run of registrations the window holds just these. -/
theorem FillsWindow.window_eq [Engine] (hnow : now.IsSound)
    (hbefore : Session.window now rows = []) :
    Session.window now (rows ++ gs.map fun g => .ofVisitor g.record) = gs.map record := by
  have hrecords : (gs.map fun g => Row.ofVisitor g.record).map Row.toVisitor = gs.map record := by
    rw [List.map_map]
    exact List.map_congr_left fun g _ => g.toVisitor_record
  rw [Session.window, List.map_append, List.filter_append, ← Session.window, hbefore,
    List.nil_append, hrecords, List.filter_eq_self, List.forall_mem_map]
  intro g hg
  rw [Session.inWindow_eq, g.createdAt_record, g.deletedAt_record,
    decide_eq_true h.live, Bool.and_true]
  apply decide_eq_true
  exact Instant.layout_le_layout (h.since g hg) (Session.isSound_windowStart hnow) (h.years g hg)

/-- The sessions that are read later are those of the registered visits. -/
theorem exists_listed [Engine] (hp : p.isClosed = false) (hrows : p.Holds s rows)
    (hlayout : ∀ r ∈ rows, r.InLayout) (hbefore : Session.window now rows = [])
    (hall : registerAll s gs p = .ok p') (hnow : now.IsSound)
    (hties : Session.KeepsTies s now) :
    ∃ l : List Visitor, Session.IsNewestFirst l ∧ Session.SameWithinTimes l (gs.map record) ∧
      Session.recent s now p' = .ok (Session.group l.reverse) := by
  obtain ⟨hp', hrows'⟩ := holds_of_registerAll hp hrows hall
  have htext (c : Column) : Rows.IsText (rows ++ gs.map fun g => .ofVisitor g.record) c := by
    intro r hr
    rcases List.mem_append.1 hr with hr | hr
    · exact (hlayout r hr).value c
    · obtain ⟨g, -, rfl⟩ := List.mem_map.1 hr
      rw [g.toVisitor_record]
      exact Row.value_ofVisitor g.isKept_record c
  have hperm := Session.perm_listed s now (htext .createdAt) (htext .deletedAt)
  have hsame := hties.sameWithinTimes (htext .createdAt) (htext .deletedAt)
  rw [h.window_eq hnow hbefore] at hperm hsame
  refine ⟨_, Session.isNewestFirst_listed s now (htext .createdAt), hsame, ?_⟩
  rw [Session.recent_eq hp' hrows' hnow, List.take_of_length_le]
  rw [hperm.length_eq, List.length_map]
  exact h.length_le

omit h

/-- Visits that are registered one after another come into their sessions second by second, and
within a second from the last to the first, if the engine lists those of one second as they were
inserted. -/
theorem exists_recent_registerAll [Engine] (hp : p.isClosed = false) (hrows : p.Holds s rows)
    (hlayout : ∀ r ∈ rows, r.InLayout) (hbefore : Session.window now rows = [])
    (hall : registerAll s gs p = .ok p') (hnow : now.IsSound) (h : FillsWindow now gs)
    (hties : Session.KeepsTies s now) :
    ∃ ss, Session.recent s now p' = .ok ss ∧ Session.ReversesTies (gs.map record) ss := by
  obtain ⟨l, hsorted, hsame, hrecent⟩ := exists_listed h hp hrows hlayout hbefore hall hnow hties
  exact ⟨_, hrecent, Session.reversesTies hsorted hsame h.pairwise⟩

/-- Two visits of one client, of which the second is registered at some later time. -/
def twoVisits (later : Instant) : List Registration :=
  [⟨{ path := "/first", ipAddress := "192.0.2.1" }, 0, Retention.julyFirst, Retention.julyFirst⟩,
    ⟨{ path := "/second", ipAddress := "192.0.2.1" }, 1, later, later⟩]

theorem fillsWindow_twoVisits {later : Instant} (hlater : Retention.julyFirst ≤ later)
    (hyear : later.Within 0 9999) :
    FillsWindow Retention.julyFirst (twoVisits later) where
  length_le := by
    change 2 ≤ 1000
    decide
  ascending := by simpa [twoVisits] using hlater
  years := by
    have hfirst : Retention.julyFirst.Within 0 9999 := ⟨.inl (by decide), by decide, by decide⟩
    simpa [twoVisits] using ⟨hfirst, hyear⟩
  since := by
    have hstart : Retention.julyFirst.addDays (-31) ≤ Retention.julyFirst := .inl (by decide)
    simpa [twoVisits] using ⟨hstart, Instant.le_trans hstart hlater⟩
  live := by decide

theorem exists_registerAll_twoVisits [Engine] (later : Instant)
    (h : Visitor.makeId Retention.julyFirst 0 ≠ Visitor.makeId later 1) :
    ∃ p', registerAll ⟨"visits"⟩ (twoVisits later) (.ofVisits []) = .ok p' := by
  apply exists_registerAll rfl (Pool.holds_ofVisits [])
  · intro g _
    rfl
  · simpa [twoVisits, submitted, Visit.id_toVisitor] using h

/-- A second between the visits keeps them in order. -/
theorem exists_recent_registerAll_apart :
    FillsWindow Retention.julyFirst (twoVisits ⟨1719792001, 0⟩) ∧
    ∃ p' ss, registerAll ⟨"visits"⟩ (twoVisits ⟨1719792001, 0⟩) (.ofVisits []) = .ok p' ∧
      Session.recent ⟨"visits"⟩ Retention.julyFirst p' = .ok ss ∧
      ∀ x ∈ ss, x.steps = Session.stepsIn x.key ((twoVisits ⟨1719792001, 0⟩).map record) := by
  have hfills : FillsWindow Retention.julyFirst (twoVisits ⟨1719792001, 0⟩) :=
    fillsWindow_twoVisits (.inl (by decide)) ⟨.inl (by decide), by decide, by decide⟩
  have hsound : Retention.julyFirst.IsSound := .inl (by decide)
  obtain ⟨p', hall⟩ := exists_registerAll_twoVisits ⟨1719792001, 0⟩ (by decide)
  obtain ⟨ss, hrecent, hties⟩ :=
    exists_recent_registerAll rfl (Pool.holds_ofVisits []) nofun rfl hall hsound
    hfills (Session.keepsTies_usual _ _)
  refine ⟨hfills, p', ss, hall, hrecent, hties.inOrder_iff.2 (Session.reverse_stepsAt ?_)⟩
  have htimes : Retention.julyFirst.layout ≠ Instant.layout ⟨1719792001, 0⟩ := by decide
  simpa [twoVisits, createdAt_record] using fun _ => htimes

/-- Two visits of one second change places. -/
theorem not_inOrder_sameSecond :
    ¬∀ (s : Store) (now : Instant) (gs : List Registration) (p p' : Pool), p.isClosed = false →
    p.Holds s [] → registerAll s gs p = .ok p' → now.IsSound → FillsWindow now gs →
      ∃ ss, Session.recent s now p' = .ok ss ∧ ∀ x ∈ ss, x.steps = Session.stepsIn x.key
        (gs.map record) := by
  intro hall
  have hfills : FillsWindow Retention.julyFirst (twoVisits Retention.julyFirst) :=
    fillsWindow_twoVisits (Instant.le_refl _) ⟨.inl (by decide), by decide, by decide⟩
  have hsound : Retention.julyFirst.IsSound := .inl (by decide)
  obtain ⟨p', hp'⟩ := exists_registerAll_twoVisits Retention.julyFirst (by decide)
  obtain ⟨ss, hrecent, hinOrder⟩ := hall _ _ _ _ _ rfl (Pool.holds_ofVisits []) hp' hsound hfills
  obtain ⟨l, hsorted, hties, hlisted⟩ :=
    exists_listed hfills rfl (Pool.holds_ofVisits []) nofun rfl hp' hsound
    (Session.keepsTies_usual _ _)
  rw [hlisted] at hrecent
  cases hrecent
  obtain ⟨k, hsteps⟩ : ∃ k, Session.stepsAt Retention.julyFirst.layout
      (Session.stepsIn k ((twoVisits Retention.julyFirst).map record)) =
        [⟨Retention.julyFirst.layout, "/first", ""⟩,
          ⟨Retention.julyFirst.layout, "/second", ""⟩] := by
    refine ⟨Visitor.fingerprintOf (Visit.fitted .ipAddress "192.0.2.1")
      (Visit.fitted .userAgent ""), ?_⟩
    have hfirst : Visit.fitted .path "/first" = "/first" := by decide
    have hsecond : Visit.fitted .path "/second" = "/second" := by decide
    have hnowhere : Visit.fitted .userReferrer "" = "" := by decide
    simp [twoVisits, Session.stepsAt, Session.stepsIn, keyOf_record, stepOf_record, hfirst,
      hsecond, hnowhere]
  have hreverses := Session.reversesTies hsorted hties hfills.pairwise
  have hsame := hreverses.inOrder_iff.1 hinOrder k Retention.julyFirst.layout
  rw [hsteps] at hsame
  exact absurd hsame (by decide)

end Registration

end VisitLog

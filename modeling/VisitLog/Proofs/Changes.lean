import Mathlib.Data.List.Induction
import VisitLog.Visitor

/-!
# Changes of a record

A record starts anew, blank or from stored texts (`Origin`). Then its columns are set and it is
marked unchanged, any number of times and in any order (`Edit`). Which columns count as changed at
the end, and what stands in all of them, is said by the list of these edits alone: by the edits that
stand last of their kind (`Edit.Latest`).

Main statement: `tracksChanges`.
-/

namespace VisitLog.Visitor

/-- How a record starts. -/
inductive Origin where
  | fresh (now : Instant) (random : Nat)
  | blank
  | hydrated (fields : List (String × String))

namespace Origin

/-- The record at its start. -/
def start : Origin → Visitor
  | fresh now random => .fresh now random
  | blank => .blank
  | hydrated fields => hydrate fields

/-- The text that a column starts with. Of several stored under its name the last one counts. -/
def initial : Origin → Column → String
  | fresh now random, .id => makeId now random
  | fresh now _, .createdAt | fresh now _, .updatedAt => now.layout
  | fresh _ _, .deletedAt => never
  | fresh _ _, _ | blank, _ => ""
  | hydrated fields, c => ((fields.reverse.find? fun f => f.1 == c.name).map Prod.snd).getD ""

/-- Whether all columns count as changed at the start. -/
def isNew : Origin → Bool
  | fresh _ _ => true
  | blank | hydrated _ => false

theorem hydrate_concat (fields : List (String × String)) (f : String × String) :
    hydrate (fields ++ [f]) = match Column.ofName? f.1 with
      | some c => (hydrate fields).assign c f.2
      | none => hydrate fields := by
  rw [hydrate, List.foldl_append]
  rfl

/-- A record from stored fields has the last value given for each column. -/
theorem value_hydrate (fields : List (String × String)) (c : Column) :
    (hydrate fields).value c = (hydrated fields).initial c := by
  induction fields using List.reverseRecOn with
  | nil => rfl
  | append_singleton fields f ih =>
    rw [hydrate_concat]
    simp only [initial, List.reverse_append, List.reverse_singleton, List.singleton_append,
      List.find?_cons] at ih ⊢
    cases hname : Column.ofName? f.1 with
    | none =>
      have hne : (f.1 == c.name) = false := by
        rw [beq_eq_false_iff_ne]
        rintro hc
        rw [hc, Column.ofName?_name] at hname
        cases hname
      rw [hne]
      exact ih
    | some d =>
      have hd := Column.name_of_ofName? hname
      by_cases hc : c = d
      · subst hc
        simp [assign, hd]
      · have hne : (f.1 == c.name) = false := by
          rw [beq_eq_false_iff_ne, ← hd]
          exact fun h => hc (Column.name_injective h).symm
        rw [hne]
        simpa [assign, hc] using ih

theorem dirty_hydrate (fields : List (String × String)) (c : Column) :
    (hydrate fields).dirty c = false := by
  induction fields using List.reverseRecOn with
  | nil => rfl
  | append_singleton fields f ih =>
    rw [hydrate_concat]
    cases Column.ofName? f.1 with
    | none => exact ih
    | some d => exact ih

theorem value_start (o : Origin) (c : Column) : o.start.value c = o.initial c := by
  cases o with
  | fresh now random => cases c <;> rfl
  | blank => rfl
  | hydrated fields => exact value_hydrate fields c

theorem dirty_start (o : Origin) (c : Column) : o.start.dirty c = o.isNew := by
  cases o with
  | fresh now random => rfl
  | blank => rfl
  | hydrated fields => exact dirty_hydrate fields c

end Origin

/-! ## Edits -/

/-- What is done to a record between its start and now. -/
inductive Edit where
  | set (c : Column) (s : String)
  | clean
  deriving DecidableEq

/-- The record after an edit. -/
def edit (v : Visitor) : Edit → Visitor
  | .set c s => v.set c s
  | .clean => v.clean

/-- The record after edits, one after another. -/
def edited (v : Visitor) (es : List Edit) : Visitor :=
  es.foldl edit v

namespace Edit

/-- An edit is among the others, and behind it there are only edits of some kind. -/
def Latest (e : Edit) (others : Edit → Prop) (es : List Edit) : Prop :=
  ∃ before after, es = before ++ e :: after ∧ ∀ x ∈ after, others x

/-- The column was set, and the record not marked unchanged since. -/
def SetLately (es : List Edit) (c : Column) : Prop :=
  ∃ s, Latest (set c s) (· ≠ clean) es

/-- The column was set to this text, and not set since. -/
def LastSet (es : List Edit) (c : Column) (s : String) : Prop :=
  Latest (set c s) (fun x => ∀ t, x ≠ set c t) es

variable {e x : Edit} {others : Edit → Prop} {es : List Edit} {c d : Column} {s t : String}

theorem not_latest_nil : ¬Latest e others [] := by
  rintro ⟨before, after, h, -⟩
  simp at h

/-- An edit at the end is the latest one of its kind. -/
theorem latest_concat : Latest e others (es ++ [x]) ↔ e = x ∨ others x ∧ Latest e others es := by
  constructor
  · rintro ⟨before, after, h, hafter⟩
    induction after using List.reverseRecOn with
    | nil =>
      obtain ⟨-, hlast⟩ := List.append_inj' h rfl
      exact .inl (List.singleton_inj.1 hlast).symm
    | append_singleton after y _ =>
      rw [← List.cons_append, ← List.append_assoc] at h
      obtain ⟨hes, hlast⟩ := List.append_inj' h rfl
      cases List.singleton_inj.1 hlast
      refine .inr ⟨hafter x (by simp), before, after, hes, fun y hy => ?_⟩
      exact hafter y (List.mem_append_left _ hy)
  · rintro (rfl | ⟨hx, before, after, rfl, hafter⟩)
    · exact ⟨es, [], rfl, by simp⟩
    · refine ⟨before, after ++ [x], by simp, fun y hy => ?_⟩
      rcases List.mem_append.1 hy with hy | hy
      · exact hafter y hy
      · exact List.mem_singleton.1 hy ▸ hx

theorem setLately_set : SetLately (es ++ [set d t]) c ↔ c = d ∨ SetLately es c := by
  simp [SetLately, latest_concat, exists_or]

theorem not_setLately_clean : ¬SetLately (es ++ [clean]) c := by
  simp [SetLately, latest_concat]

theorem lastSet_set : LastSet (es ++ [set d t]) c s ↔ c = d ∧ s = t ∨ c ≠ d ∧ LastSet es c s := by
  simp [LastSet, latest_concat, eq_comm]

theorem lastSet_clean : LastSet (es ++ [clean]) c s ↔ LastSet es c s := by
  simp [LastSet, latest_concat]

end Edit

open Edit

variable {v : Visitor} {es : List Edit} {c : Column} {s : String}

theorem edited_concat (v : Visitor) (es : List Edit) (e : Edit) :
    v.edited (es ++ [e]) = (v.edited es).edit e := by
  simp [edited]

/-- A column counts as changed if it was set lately, or from the start while the record was never
marked. -/
theorem dirty_edited : (v.edited es).dirty c ↔ SetLately es c ∨ v.dirty c ∧ .clean ∉ es := by
  induction es using List.reverseRecOn with
  | nil => simp [edited, SetLately, not_latest_nil]
  | append_singleton es e ih =>
    rw [edited_concat]
    cases e with
    | set d t => simp [edit, setLately_set, ih, or_assoc]
    | clean => simp [edit, not_setLately_clean]

/-- In a column stands what it was last set to, or what stood there from the start. -/
theorem value_edited : (v.edited es).value c = s ↔ LastSet es c s ∨ (∀ t, .set c t ∉ es) ∧
    v.value c = s := by
  induction es using List.reverseRecOn with
  | nil => simp [edited, LastSet, not_latest_nil]
  | append_singleton es e ih =>
    rw [edited_concat]
    cases e with
    | set d t =>
      by_cases hc : c = d
      · subst hc
        have hset : ¬∀ s, .set c s ∉ es ++ [.set c t] := fun h => h t (by simp)
        simp only [edit, lastSet_set, hset, value_set, if_true, @eq_comm _ t, ne_eq, not_true,
          false_and, or_false, true_and]
      · simp [edit, lastSet_set, hc, ih]
    | clean => simp [edit, lastSet_clean, ih]

/-! ## What is listed -/

theorem map_changed (v : Visitor) : v.changed.map Prod.fst = Column.all.filter v.dirty := by
  rw [changed, List.map_map]
  exact List.map_id _

theorem get?_name (v : Visitor) (c : Column) : v.get? c.name = some (v.value c) := by
  simp [get?, Column.ofName?_name]

theorem mem_data : (c, s) ∈ v.data ↔ v.value c = s := by
  simp [data, Column.mem_all]

/-- What a record lists after edits. `changed`, `ordered`: as changed, exactly the columns that were
set since the record was last marked unchanged, or all if it is new and never was, each once, in
table order, and with its text. `columns`, `data`: in full, all columns with the text that each was
last set to, or its initial one. `named`: by name, the same texts. `others`: an edit of one column
leaves the others. -/
structure TracksChanges (o : Origin) (es : List Edit) (v : Visitor) : Prop where
  changed : ∀ c s, (c, s) ∈ v.changed ↔ s = v.value c ∧ (SetLately es c ∨ o.isNew ∧ .clean ∉ es)
  ordered : (v.changed.map Prod.fst).Sublist Column.all ∧ (v.changed.map Prod.fst).Nodup
  columns : v.data.map Prod.fst = Column.all
  data : ∀ c s, (c, s) ∈ v.data ↔ LastSet es c s ∨ (∀ t, .set c t ∉ es) ∧ s = o.initial c
  named : ∀ c s, (c, s) ∈ v.data ↔ v.get? c.name = some s
  others : ∀ c s x, x ≠ c → (v.set c s).value x = v.value x ∧ (v.set c s).dirty x = v.dirty x

/-- A record knows exactly what was changed since it was last marked as clean, over any history of
edits. -/
theorem tracksChanges (o : Origin) (es : List Edit) : TracksChanges o es (o.start.edited es) := by
  constructor
  case changed =>
    intro c s
    rw [mem_changed, dirty_edited, o.dirty_start, and_comm]
  case ordered =>
    rw [map_changed]
    exact ⟨List.filter_sublist, Column.nodup_all.filter _⟩
  case columns => exact map_data _
  case data =>
    intro c s
    rw [mem_data, value_edited, o.value_start, @eq_comm _ s]
  case named =>
    intro c s
    rw [mem_data, get?_name, Option.some_inj]
  case others =>
    intro c s x hx
    simp [hx]

/-- What was set before the record was marked unchanged does not count, and a text that stays the
same does. -/
example : ((Origin.start (.hydrated [("path", "/a"), ("referrer", "b")])).edited
    [.set .country "DE", .clean, .set .path "/a"]).changed = [(.path, "/a")] := by
  decide

end VisitLog.Visitor

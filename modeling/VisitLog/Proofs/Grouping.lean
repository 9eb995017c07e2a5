import VisitLog.Proofs.Sessions

/-!
# Grouping is a stable partition

A visit goes to the end of the session of its key, or begins a session behind all others. So
sessions come in the order in which their keys first appear (`map_key_group`), each has the address
of the first visit with its key (`ipAddress_of_mem_group`), and its steps are those of the visits
with its key, in their order. This leaves nothing open: sessions of which this holds are those that
grouping makes.

Main statement: `Session.partitions_iff`.
-/

namespace VisitLog

namespace Session

variable {ss : List Session} {x : Session} {v : Visitor} {vs : List Visitor} {k : String}

/-! ## One visit after another -/

/-- The first visit with a key. -/
def firstIn? (k : String) (vs : List Visitor) : Option Visitor :=
  vs.find? fun v => keyOf v = k

theorem firstIn?_eq_none (h : ∀ v ∈ vs, keyOf v ≠ k) : firstIn? k vs = none := by
  simpa [firstIn?] using h

theorem firstIn?_append_of_eq_some (h : firstIn? k vs = some v) (ws : List Visitor) :
    firstIn? k (vs ++ ws) = some v := by
  rw [firstIn?, List.find?_append, ← firstIn?, h, Option.some_or]

theorem firstIn?_append_singleton (h : ∀ u ∈ vs, keyOf u ≠ keyOf v) :
    firstIn? (keyOf v) (vs ++ [v]) = some v := by
  rw [firstIn?, List.find?_append, ← firstIn?, firstIn?_eq_none h]
  simp

/-- A key that is new comes behind the others. -/
theorem map_key_add (ss : List Session) (v : Visitor) : (add ss v).map key =
    if keyOf v ∈ ss.map key then ss.map key else ss.map key ++ [keyOf v] := by
  induction ss with
  | nil => rfl
  | cons s ss ih =>
    unfold add
    by_cases hkey : s.key = keyOf v
    · rw [if_pos hkey, if_pos (by simp [hkey])]
      rfl
    · rw [if_neg hkey, List.map_cons, ih, List.map_cons]
      by_cases hmem : keyOf v ∈ ss.map key
      · rw [if_pos hmem, if_pos (List.mem_cons_of_mem _ hmem)]
      · rw [if_neg hmem, if_neg, List.cons_append]
        exact List.not_mem_cons_of_ne_of_not_mem (Ne.symm hkey) hmem

/-- Sessions come in the order in which their keys first appear. -/
theorem map_key_group (vs : List Visitor) : (group vs).map key = (vs.map keyOf).eraseDups := by
  induction vs using List.reverseRecOn with
  | nil => rfl
  | append_singleton vs v ih =>
    rw [group_append, map_key_add, ih, List.map_append, List.map_singleton, List.eraseDups_append]
    by_cases hmem : keyOf v ∈ vs.map keyOf
    · have hold : [keyOf v].removeAll (vs.map keyOf) = [] := by
        rw [List.removeAll, List.filter_cons_of_neg (by simpa using hmem), List.filter_nil]
      rw [if_pos (List.mem_eraseDups.2 hmem), hold, List.eraseDups_nil, List.append_nil]
    · have hnew : [keyOf v].removeAll (vs.map keyOf) = [keyOf v] := by
        rw [List.removeAll, List.filter_cons_of_pos (by simpa using hmem), List.filter_nil]
      rw [if_neg (mt List.mem_eraseDups.1 hmem), hnew]
      rfl

/-- A session has the address of the first visit with its key. -/
theorem ipAddress_of_mem_group (h : x ∈ group vs) :
    ∃ v, firstIn? x.key vs = some v ∧ x.ipAddress = v.value .ipAddress := by
  induction vs using List.reverseRecOn generalizing x with
  | nil => simp [group] at h
  | append_singleton vs v ih =>
    rw [group_append] at h
    rcases mem_add (keys_group_nodup vs) h with ⟨hmem, -⟩ | ⟨y, hy, -, rfl⟩ | ⟨hnew, rfl⟩
    · obtain ⟨u, hfirst, haddress⟩ := ih hmem
      exact ⟨u, firstIn?_append_of_eq_some hfirst _, haddress⟩
    · obtain ⟨u, hfirst, haddress⟩ := ih hy
      exact ⟨u, firstIn?_append_of_eq_some hfirst _, haddress⟩
    · refine ⟨v, firstIn?_append_singleton fun u hu hkey => ?_, rfl⟩
      exact hnew (mem_keys_group.2 ⟨u, hu, hkey⟩)

/-! ## The partition -/

/-- How sessions partition visits. `nodup`: no two have one key. `keys`: they come in the order in
which their keys first appear. `steps`: each has the steps of the visits with its key, in their
order. `once`: so every visit is a step of one session. `ipAddress`: the address is that of the
first visit with the key. -/
structure Partitions (vs : List Visitor) (ss : List Session) : Prop where
  nodup : (ss.map key).Nodup
  keys : ss.map key = (vs.map keyOf).eraseDups
  steps : ∀ x ∈ ss, x.steps = (vs.filter fun v => keyOf v = x.key).map stepOf
  once : (allSteps ss).Perm (vs.map stepOf)
  ipAddress : ∀ x ∈ ss, ∃ v, firstIn? x.key vs = some v ∧ x.ipAddress = v.value .ipAddress

theorem partitions_group (vs : List Visitor) : Partitions vs (group vs) where
  nodup := keys_group_nodup vs
  keys := map_key_group vs
  steps _ hx := steps_of_mem_group hx
  once := perm_steps_group vs
  ipAddress _ hx := ipAddress_of_mem_group hx

/-- The session of the visits with a key. -/
def ofKey (vs : List Visitor) (k : String) : Session where
  key := k
  ipAddress := (firstIn? k vs).elim "" fun v => v.value .ipAddress
  steps := stepsIn k vs

theorem key_ofKey (vs : List Visitor) (k : String) : (ofKey vs k).key = k := rfl

theorem Partitions.eq_ofKey (h : Partitions vs ss) (hx : x ∈ ss) : x = ofKey vs x.key := by
  obtain ⟨v, hfirst, haddress⟩ := h.ipAddress x hx
  have hsteps := h.steps x hx
  cases x
  rw [ofKey, hfirst]
  simp only [mk.injEq, true_and]
  exact ⟨haddress, hsteps⟩

theorem Partitions.eq_map (h : Partitions vs ss) :
    ss = (vs.map keyOf).eraseDups.map (ofKey vs) := by
  rw [← h.keys, List.map_map]
  conv_lhs => rw [← List.map_id ss]
  exact List.map_congr_left fun x hx => h.eq_ofKey hx

/-- The sessions that partition visits are those that grouping makes, and no others. -/
theorem partitions_iff : Partitions vs ss ↔ ss = group vs := by
  constructor
  · intro h
    exact h.eq_map.trans (partitions_group vs).eq_map.symm
  · rintro rfl
    exact partitions_group vs

end Session

end VisitLog

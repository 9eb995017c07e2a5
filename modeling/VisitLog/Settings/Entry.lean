import VisitLog.Text.Lowercase
import VisitLog.Toml.Value

/-!
# Entries of the settings

Settings come from several sources. An `Entry` is a value with the source that it came from, and
tables are put together from all sources; names do not differ in case.

Main statements: `lookup_put` (setting one name leaves the others), `exists_at?_updateAt` (a change
takes place where its path leads) and `at?_setAt_name` (a value without parts is found where it was
set, under the small name).
-/

namespace VisitLog

/-- A value and the source that gave it. Tables put together from sources have none. -/
inductive Entry where
  | scalar (source : Option String) (s : Scalar)
  | list (source : Option String) (items : List Entry)
  | table (source : Option String) (fields : List (String × Entry))

namespace Entry

mutual

/-- The entry of a value in a file. -/
def ofToml (source : Option String) : Toml → Entry
  | .scalar s => .scalar source s
  | .list vs => .list source (ofItems source vs)
  | .table fs => .table source (ofFields source fs)

/-- The entries of the items of a list. -/
def ofItems (source : Option String) : List Toml → List Entry
  | [] => []
  | v :: vs => ofToml source v :: ofItems source vs

/-- The entries of the fields of a table. -/
def ofFields (source : Option String) : List (String × Toml) → List (String × Entry)
  | [] => []
  | (k, v) :: fs => (k, ofToml source v) :: ofFields source fs

end

/-- The empty table. -/
def empty : Entry := .table none []

/-- An entry that has not been set. -/
def unset : Entry := .scalar none .nothing

/-- The fields of a table, none of another entry. -/
def fields : Entry → List (String × Entry)
  | table _ fs => fs
  | _ => []

/-- The items of a list, none of another entry. -/
def items : Entry → List Entry
  | list _ es => es
  | _ => []

/-- The entry if it is a table, and the empty table in its place. -/
def asTable : Entry → Entry
  | table source fs => .table source fs
  | _ => empty

/-- The table with an entry under a name, in place of another one. -/
def put (into : Entry) (name : String) (e : Entry) : Entry :=
  match into with
  | table source fs =>
    if fs.any fun f => f.1 == name then
      .table source (fs.map fun f => if f.1 == name then (name, e) else f)
    else .table source (fs ++ [(name, e)])
  | _ => .table none [(name, e)]

mutual

/-- Sets an entry under a name in lower case. Tables are merged, and all else is replaced. -/
def assign (name : String) (e : Entry) (into : Entry) : Entry :=
  let name := Text.lower name
  match e with
  | .table _ fs =>
    into.asTable.put name (assignAll fs ((into.fields.lookup name).getD empty))
  | .list source es => into.asTable.put name (.list source es)
  | .scalar source s => into.asTable.put name (.scalar source s)

/-- Sets several entries, one after another. -/
def assignAll : List (String × Entry) → Entry → Entry
  | [], into => into
  | (name, e) :: fs, into => assignAll fs (assign name e into)

end

/-! ## Paths -/

/-- A step from an entry to a part of it. -/
inductive Step where
  | name (s : String)
  /-- A place in a list; from the end if it is negative. -/
  | index (n : Int)
  deriving DecidableEq, Repr

/-- The place in a list of a length. -/
def placeOf (n : Int) (length : Nat) : Nat :=
  if 0 ≤ n then n.toNat else length - n.natAbs

/-- The list with an item changed; missing items before it are filled in. -/
def updateItem (n : Int) (f : Entry → Entry) (e : Entry) : Entry :=
  let es := e.items
  let place := placeOf n es.length
  let es := es ++ List.replicate (place + 1 - es.length) unset
  let source :=
    match e with
    | .list source _ => source
    | _ => none
  .list source (es.modify place f)

/-- Changes the part at the end of a path; what is in the way is replaced. -/
def updateAt (f : Entry → Entry) : List Step → Entry → Entry
  | [], e => f e
  | .name s :: steps, e =>
    e.asTable.put s (updateAt f steps ((e.fields.lookup s).getD unset))
  | .index n :: steps, e => updateItem n (updateAt f steps) e

/-- Sets the entry at the end of a path. -/
def setAt (path : List Step) (e : Entry) (root : Entry) : Entry :=
  match path.getLast? with
  | some (.name s) => updateAt (assign s e) path.dropLast root
  | some (.index n) => updateAt (updateItem n fun _ => e) path.dropLast root
  | none => root

/-- The part at the end of a path. -/
def at? : List Step → Entry → Option Entry
  | [], e => some e
  | .name s :: steps, e => (e.fields.lookup s).bind (at? steps)
  | .index n :: steps, e => e.items[placeOf n e.items.length]?.bind (at? steps)

/-! ## Lemmas -/

theorem lookup_map_of_ne {name k : String} (e : Entry) (h : k ≠ name)
    (fs : List (String × Entry)) :
    (fs.map fun f => if f.1 == name then (name, e) else f).lookup k = fs.lookup k := by
  induction fs with
  | nil => rfl
  | cons f fs ih =>
    rw [List.map_cons]
    by_cases hname : f.1 = name
    · rw [if_pos (beq_iff_eq.2 hname), List.lookup_cons, ih,
        beq_false_of_ne h, List.lookup_cons, hname, beq_false_of_ne h]
    · rw [if_neg (mt beq_iff_eq.1 hname), List.lookup_cons, List.lookup_cons, ih]

theorem lookup_map_self {name : String} (e : Entry) {fs : List (String × Entry)}
    (h : fs.any fun f => f.1 == name) :
    (fs.map fun f => if f.1 == name then (name, e) else f).lookup name = some e := by
  induction fs with
  | nil => cases h
  | cons f fs ih =>
    rw [List.map_cons]
    by_cases hname : f.1 = name
    · rw [if_pos (beq_iff_eq.2 hname), List.lookup_cons, beq_self_eq_true]
    · rw [List.any_cons, beq_false_of_ne hname, Bool.false_or] at h
      rw [if_neg (mt beq_iff_eq.1 hname), List.lookup_cons, beq_false_of_ne (Ne.symm hname)]
      exact ih h

theorem lookup_append_of_not_any {name : String} (e : Entry) (k : String)
    {fs : List (String × Entry)} (h : ¬ fs.any fun f => f.1 == name) :
    (fs ++ [(name, e)]).lookup k = if k = name then some e else fs.lookup k := by
  induction fs with
  | nil =>
    by_cases hk : k = name
    · simp [hk]
    · simp [hk, List.lookup_cons, beq_false_of_ne hk]
  | cons f fs ih =>
    simp only [List.any_cons, Bool.or_eq_true, beq_iff_eq, not_or] at h
    rw [List.cons_append, List.lookup_cons, List.lookup_cons, ih h.2]
    by_cases hk : k = f.1
    · simp [hk, h.1]
    · rw [beq_false_of_ne hk]

/-- A table has the entry under the name it was put under, and is as it was under all others. -/
theorem lookup_put (into : Entry) (name : String) (e : Entry) (k : String) :
    (into.put name e).fields.lookup k = if k = name then some e else into.fields.lookup k := by
  have hempty : ¬ ([] : List (String × Entry)).any fun f => f.1 == name := Bool.false_ne_true
  cases into with
  | table source fs =>
    by_cases h : fs.any fun f => f.1 == name
    · rw [put, if_pos h]
      by_cases hk : k = name
      · rw [if_pos hk, hk]
        exact lookup_map_self e h
      · rw [if_neg hk]
        exact lookup_map_of_ne e hk fs
    · rw [put, if_neg h]
      exact lookup_append_of_not_any e k h
  | scalar _ _ | list _ _ => exact lookup_append_of_not_any e k hempty

theorem fields_put_of_not_any {into : Entry} {name : String} (e : Entry)
    (h : ¬ into.fields.any fun f => f.1 == name) :
    (into.put name e).fields = into.fields ++ [(name, e)] := by
  cases into with
  | table source fs => exact congrArg fields (if_neg h)
  | scalar _ _ | list _ _ => rfl

@[simp] theorem fields_asTable (e : Entry) : e.asTable.fields = e.fields := by
  cases e <;> rfl

theorem assign_scalar (name : String) (source : Option String) (s : Scalar) (into : Entry) :
    assign name (.scalar source s) into =
      into.asTable.put (Text.lower name) (.scalar source s) := by
  simp [assign]

/-- Filling a list up to a place does not move the place. -/
theorem placeOf_max (n : Int) (length : Nat) :
    placeOf n length < max length (placeOf n length + 1) ∧
      placeOf n (max length (placeOf n length + 1)) = placeOf n length := by
  unfold placeOf
  split <;> omega

theorem getElem?_updateItem (n : Int) (f : Entry → Entry) (e : Entry) :
    ∃ x, (updateItem n f e).items[placeOf n (updateItem n f e).items.length]? = some (f x) := by
  obtain ⟨hlt, hplace⟩ := placeOf_max n e.items.length
  generalize hes : e.items ++ List.replicate (placeOf n e.items.length + 1 - e.items.length) unset =
    es
  have hlength : es.length = max e.items.length (placeOf n e.items.length + 1) := by
    rw [← hes, List.length_append, List.length_replicate]
    omega
  have hitems : (updateItem n f e).items = es.modify (placeOf n e.items.length) f := by
    rw [← hes]
    rfl
  obtain ⟨x, hx⟩ : ∃ x, es[placeOf n e.items.length]? = some x :=
    ⟨_, List.getElem?_eq_getElem (hlength ▸ hlt)⟩
  refine ⟨x, ?_⟩
  rw [hitems, List.length_modify, hlength, hplace, List.getElem?_modify_eq, hx]
  rfl

/-- What stands at the end of a path after a change there is what the change makes of something. -/
theorem exists_at?_updateAt (f : Entry → Entry) (path : List Step) (e : Entry) :
    ∃ x, at? path (updateAt f path e) = some (f x) := by
  induction path generalizing e with
  | nil => exact ⟨e, rfl⟩
  | cons step path ih =>
    cases step with
    | name s =>
      obtain ⟨x, hx⟩ := ih ((e.fields.lookup s).getD unset)
      refine ⟨x, ?_⟩
      rw [updateAt, at?, lookup_put, if_pos rfl]
      exact hx
    | index n =>
      obtain ⟨y, hy⟩ := getElem?_updateItem n (updateAt f path) e
      obtain ⟨x, hx⟩ := ih y
      refine ⟨x, ?_⟩
      rw [updateAt, at?, hy]
      exact hx

/-- A path in two pieces leads where the second piece leads from the end of the first. -/
theorem at?_append (path path' : List Step) (e : Entry) :
    at? (path ++ path') e = (at? path e).bind (at? path') := by
  induction path generalizing e with
  | nil => rfl
  | cons step path ih =>
    cases step with
    | name s =>
      cases h : e.fields.lookup s with
      | none => simp [at?, h]
      | some x => simp [at?, h, ih]
    | index n =>
      cases h : e.items[placeOf n e.items.length]? with
      | none => simp [at?, h]
      | some x => simp [at?, h, ih]

/-- A value without parts is found where it was set. -/
theorem at?_setAt_name (path : List Step) (name : String) (source : Option String) (s : Scalar)
    (root : Entry) :
    at? (path ++ [.name (Text.lower name)]) (setAt (path ++ [.name name]) (.scalar source s) root) =
      some (.scalar source s) := by
  obtain ⟨x, hx⟩ := exists_at?_updateAt (assign name (.scalar source s)) path root
  have hset : setAt (path ++ [.name name]) (.scalar source s) root =
      updateAt (assign name (.scalar source s)) path root := by
    simp [setAt]
  rw [hset, at?_append, hx, Option.bind_some, assign_scalar, at?, lookup_put, if_pos rfl]
  rfl

end Entry

end VisitLog

import VisitLog.Proofs.Selection

/-!
# Options within the limits of the engine

The engine refuses a statement with too many values, and a pattern that is too long where it is
tried. `Options.isWithinLimits` says of options that their listing meets neither
(`refusal?_eq_none`): only long lists of identifiers bind many values, and only the part of a path
that is searched for is a pattern.
-/

namespace VisitLog

open Text

namespace Options

/-- The greatest size of a part of a path that is searched for, in octets. Its pattern has two
more. -/
def longestPart : Nat := longestPattern - 2

/-- The part of a path, if one is searched for, is not too long. An exact path wins over a part. -/
def isSearchable (o : Options) : Bool :=
  isGiven o.pathExact || asks o.pathContains fun s => s.utf8ByteSize ≤ longestPart

/-- The number of values that the filters bind. A country or a device that is not known is no
value. -/
def filterValues (o : Options) : Nat :=
  (isGiven o.id).toNat + (o.idIn.filter fun s => trim s != "").length +
    (o.country.any fun s => trim s != "" && trim s != Query.emptyWord).toNat +
    (isGiven o.pathExact || isGiven o.pathContains).toNat +
    (o.deviceType.any fun s => trim s != "" && !sameLetters (trim s) Query.emptyWord).toNat +
    (isGiven o.createdFrom).toNat + (isGiven o.createdTo).toNat + (!o.withDeleted).toNat

/-- The number of values that a listing binds: those of the filters and of the page. -/
def valueCount (o : Options) : Nat :=
  o.filterValues +
    if o.countOnly then 0 else (decide (0 < o.limit)).toNat + (decide (0 < o.offset)).toNat

/-- The options look in paths for a text that is too long, and get a fault for it. -/
def FailsAsTooLong {α : Type} (o : Options) (result : Except Failure α) : Prop :=
  o.isSearchable = false ∧ result = .error (.database .patternTooLong)

/-- The result is this value, unless it is a fault for a text that is too long to be looked for. -/
def Gives {α : Type} (o : Options) (result : Except Failure α) (a : α) : Prop :=
  result = .ok a ∨ o.FailsAsTooLong result

theorem Gives.eq_ok {α : Type} {o : Options} {result : Except Failure α} {a : α}
    (h : o.Gives result a)
    (hsearch : o.isSearchable) : result = .ok a :=
  h.resolve_right fun hfails => Bool.false_ne_true (hfails.1.symm.trans hsearch)

/-- A computation in steps gives a fault as soon as one of them does. -/
theorem Gives.bind {α β : Type} {o : Options} {result : Except Failure α} {f : α → Except Failure β}
    {a : α} {b : β} (h : o.Gives result a)
    (hf : result = .ok a → o.Gives (f a) b) :
    o.Gives (result >>= f) b := by
  rcases h with hok | ⟨hsearch, hfails⟩
  · have hb := hf hok
    rwa [hok]
  · rw [hfails]
    exact .inr ⟨hsearch, rfl⟩

/-- The engine runs the listing whatever the rows. -/
def isWithinLimits (o : Options) : Bool :=
  o.valueCount ≤ Database.mostValues && o.isSearchable

/-- Apart from the identifiers there are seven values at most. -/
theorem filterValues_le (o : Options) : o.filterValues ≤ o.idIn.length + 7 := by
  have hids : (o.idIn.filter fun s => trim s != "").length ≤ o.idIn.length :=
    List.length_filter_le ..
  have hid := Bool.toNat_le (isGiven o.id)
  have hcountry := Bool.toNat_le (o.country.any fun s => trim s != "" && trim s != Query.emptyWord)
  have hpath := Bool.toNat_le (isGiven o.pathExact || isGiven o.pathContains)
  have hdevice := Bool.toNat_le
    (o.deviceType.any fun s => trim s != "" && !sameLetters (trim s) Query.emptyWord)
  have hfrom := Bool.toNat_le (isGiven o.createdFrom)
  have hto := Bool.toNat_le (isGiven o.createdTo)
  have hlive := Bool.toNat_le (!o.withDeleted)
  unfold filterValues
  omega

theorem valueCount_le (o : Options) : o.valueCount ≤ o.filterValues + 2 := by
  have hlimit := Bool.toNat_le (decide (0 < o.limit))
  have hoffset := Bool.toNat_le (decide (0 < o.offset))
  unfold valueCount
  split <;> omega

end Options

namespace Query

variable {o : Options} {now : Instant} {q : Query} {rows : Rows}

/-! ## Values -/

theorem sum_filterMap_self {α : Type} (l : List (Option α)) (f : α → Nat) :
    ((l.filterMap fun x => x).map f).sum = (l.map fun x => x.elim 0 f).sum := by
  induction l with
  | nil => rfl
  | cons x l ih =>
    cases x with
    | none => exact ih.trans (Nat.zero_add _).symm
    | some a => exact congrArg (f a + ·) ih

/-- A filter that stands for a condition with one value. -/
theorem elim_filled? (given : Option String) (condition : String → Condition)
    (h : ∀ s, (condition s).valueCount = 1) :
    ((filled? given).map condition).elim 0 Condition.valueCount = (isGiven given).toNat := by
  rw [isGiven_eq]
  cases filled? given with
  | none => rfl
  | some s => exact h s

/-- A filter in which one word stands for a condition without a value. -/
theorem elim_orEmpty (given : Option String) (c : Column) (isWord : String → Bool) :
    ((filled? given).map fun s => if isWord s then Condition.isEmpty c else .equals c s).elim 0
        Condition.valueCount =
      (given.any fun s => trim s != "" && !isWord (trim s)).toNat := by
  cases given with
  | none => rfl
  | some s =>
    rw [filled?_some, Option.any_some]
    by_cases hs : trim s = ""
    · rw [if_pos hs, hs]
      rfl
    · rw [if_neg hs, bne_iff_ne.2 hs, Bool.true_and, Option.map_some, Option.elim_some]
      cases isWord (trim s) <;> rfl

theorem elim_idsCondition (ids : List String) :
    (idsCondition ids).elim 0 Condition.valueCount = (ids.filter fun s => trim s != "").length := by
  have hlength : (ids.filterMap fun id => filled? (some id)).length =
      (ids.filter fun s => trim s != "").length := by
    induction ids with
    | nil => rfl
    | cons id ids ih =>
      by_cases hid : trim id = ""
      · rw [List.filterMap_cons_none (by rw [filled?_some, if_pos hid]),
          List.filter_cons_of_neg (by simp [hid]), ih]
      · rw [List.filterMap_cons_some (by rw [filled?_some, if_neg hid]),
          List.filter_cons_of_pos (by simp [hid]), List.length_cons, List.length_cons, ih]
  rw [← hlength]
  unfold idsCondition
  split
  · next h => rw [h]; rfl
  · rfl

theorem elim_pathCondition (o : Options) :
    (pathCondition o).elim 0 Condition.valueCount =
      (isGiven o.pathExact || isGiven o.pathContains).toNat := by
  rw [isGiven_eq, isGiven_eq, pathCondition]
  cases filled? o.pathExact with
  | some path => rfl
  | none => cases filled? o.pathContains <;> rfl

/-- The conditions bind the values of the filters. -/
theorem sum_conditionsOf (now : Instant) (o : Options) :
    ((conditionsOf now o).map Condition.valueCount).sum = o.filterValues := by
  have hid := elim_filled? o.id (.equals .id) fun _ => rfl
  have hcountry := elim_orEmpty o.country .country fun s => decide (s = emptyWord)
  have hdevice := elim_orEmpty o.deviceType .userDeviceType fun s => sameLetters s emptyWord
  have hfrom :=
    elim_filled? o.createdFrom (fun s => .atLeast .createdAt (normalize false s)) fun _ => rfl
  have hto := elim_filled? o.createdTo (fun s => .atMost .createdAt (normalize true s)) fun _ => rfl
  have hlive : (if o.withDeleted then none else some (Condition.above .deletedAt now.layout)).elim 0
      Condition.valueCount = (!o.withDeleted).toNat := by
    cases o.withDeleted <;> rfl
  simp only [decide_eq_true_eq] at hcountry
  rw [conditionsOf, sum_filterMap_self, Options.filterValues]
  simp only [List.map_cons, List.map_nil, List.sum_cons, List.sum_nil, hid,
    elim_idsCondition, hcountry, elim_pathCondition, hdevice, hfrom, hto, hlive]
  simp only [bne, BEq.beq, Nat.add_zero, Nat.add_assoc]

/-! ## Patterns -/

/-- The pattern of a part is longer by its two wildcards. -/
theorem isTooLong_part (c : Column) (part : String) :
    (Condition.like c ("%" ++ part ++ "%")).isTooLong =
      !decide (part.utf8ByteSize ≤ Options.longestPart) := by
  have hsize : ("%" ++ part ++ "%").utf8ByteSize = part.utf8ByteSize + 2 := by
    have hone : "%".utf8ByteSize = 1 := by decide
    rw [String.utf8ByteSize_append, String.utf8ByteSize_append, hone]
    omega
  have hlongest : longestPattern = Options.longestPart + 2 := rfl
  rw [Condition.isTooLong, hsize, ← decide_not, decide_eq_decide, Nat.not_le, hlongest]
  exact Nat.add_lt_add_iff_right

theorem all_pathCondition (o : Options) :
    ((pathCondition o).all fun k => !k.isTooLong) = o.isSearchable := by
  rw [Options.isSearchable, isGiven_eq, ← all_filled?, pathCondition]
  cases filled? o.pathExact with
  | some path => rfl
  | none =>
    rw [Option.isSome_none, Bool.false_or, Option.all_map]
    refine congrArg (Option.all · _) (funext fun part => ?_)
    rw [isTooLong_part, Bool.not_not]

/-- Of the conditions of options only that on a part of a path may be too long. -/
theorem all_conditionsOf (now : Instant) (o : Options) :
    ((conditionsOf now o).all fun k => !k.isTooLong) = o.isSearchable := by
  have hfilled (given : Option String) (condition : String → Condition)
      (h : ∀ s, (condition s).isTooLong = false) :
      (((filled? given).map condition).all fun k => !k.isTooLong) = true := by
    rw [Option.all_map]
    cases filled? given with
    | none => rfl
    | some s => exact congrArg not (h s)
  have hids : ((idsCondition o.idIn).all fun k => !k.isTooLong) = true := by
    unfold idsCondition
    split <;> rfl
  have hlive : ((if o.withDeleted then none else some (Condition.above .deletedAt now.layout)).all
      fun k => !k.isTooLong) = true := by
    cases o.withDeleted <;> rfl
  rw [conditionsOf, all_filterMap_self]
  simp only [List.all_cons, List.all_nil, hids, hlive, all_pathCondition,
    Bool.true_and, Bool.and_true]
  rw [hfilled _ _ fun _ => rfl, hfilled _ _ fun _ => by split <;> rfl,
    hfilled _ _ fun _ => by split <;> rfl, hfilled _ _ fun _ => rfl, hfilled _ _ fun _ => rfl]
  simp

theorem not_isSearchable_of_isTooLong (hq : q.conditions = conditionsOf now o)
    (h : ∃ k ∈ q.conditions, k.isTooLong) : o.isSearchable = false := by
  obtain ⟨k, hk, hlong⟩ := h
  rw [← all_conditionsOf now, ← hq, List.all_eq_false]
  exact ⟨k, hk, by simpa using hlong⟩

variable [Engine]

theorem isTooComplex_of_isSearchable {purpose : Purpose} (hq : q.conditions = conditionsOf now o)
    (h : o.isSearchable) : q.isTooComplex purpose rows = false := by
  rw [← all_conditionsOf now, ← hq, List.all_eq_true] at h
  exact isTooComplex_eq_false fun k hk => by simpa using h k hk

end Query

/-! ## A long text -/

/-- A letter, repeated. -/
def Text.repeated (n : Nat) : String :=
  String.ofList (List.replicate n 'a')

theorem Text.trim_repeated (n : Nat) : trim (repeated n) = repeated n := by
  refine trim_of_not_blank fun c hc => ?_
  rw [repeated, String.toList_ofList, List.mem_replicate] at hc
  rw [hc.2]
  decide

theorem Text.utf8ByteSize_repeated (n : Nat) : (repeated n).utf8ByteSize = n := by
  induction n with
  | zero => rfl
  | succ n ih =>
    have hsucc : repeated (n + 1) = "a" ++ repeated n := by
      rw [repeated, List.replicate_succ, String.ofList_cons]
      rfl
    have hone : "a".utf8ByteSize = 1 := by decide
    rw [hsucc, String.utf8ByteSize_append, ih, hone, Nat.add_comm]

theorem Text.filled?_repeated {n : Nat} (h : n ≠ 0) :
    filled? (some (repeated n)) = some (repeated n) := by
  rw [filled?_some, trim_repeated, if_neg]
  intro hempty
  have hsize := utf8ByteSize_repeated n
  rw [hempty] at hsize
  exact h hsize.symm

/-- Options that search paths for a text, one octet too long. -/
structure Options.IsTooLong (o : Options) : Prop where
  exact : o.pathExact = none
  part : o.pathContains = some (Text.repeated 49999)

namespace Options.IsTooLong

variable {o : Options}

theorem pathCondition (h : o.IsTooLong) :
    Query.pathCondition o = some (.like .path ("%" ++ Text.repeated 49999 ++ "%")) := by
  have hpart := Text.filled?_repeated (n := 49999) (by decide)
  rw [Query.pathCondition, h.exact, h.part, hpart]
  rfl

theorem isSearchable (h : o.IsTooLong) : o.isSearchable = false := by
  rw [← Query.all_pathCondition, h.pathCondition, Option.all_some, Query.isTooLong_part,
    Text.utf8ByteSize_repeated]
  decide

end Options.IsTooLong

end VisitLog

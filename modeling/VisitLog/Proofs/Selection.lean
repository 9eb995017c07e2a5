import VisitLog.Proofs.Queries
import VisitLog.Text.Search

/-!
# Which records a listing selects

`Options.selects` says which records pass the filters of options, without any query. Its one
parameter is the part of a path that is searched for `path_contains`: a pattern of the database sees
a text only up to its first NUL, so `untilNul` is what the database answers
(`all_holds_eq_selects`).
-/

namespace VisitLog

open Text

namespace Text

/-! ## Parts of texts -/

/-- The part stands somewhere in the text, where the case of ASCII letters does not count. -/
def containsLetters (part cs : List Char) : Bool :=
  contains (foldLetters part) (foldLetters cs)

theorem containsLetters_iff {part cs : List Char} :
    containsLetters part cs ↔ ∃ a m b, cs = a ++ (m ++ b) ∧ foldLetters m = foldLetters part := by
  constructor
  · intro h
    obtain ⟨a, b, h⟩ := exists_append_of_contains h
    obtain ⟨a', rest, rfl, -, hrest⟩ := List.map_eq_append_iff.1 h
    obtain ⟨m, b', rfl, hm, -⟩ := List.map_eq_append_iff.1 hrest
    exact ⟨a', m, b', rfl, hm⟩
  · rintro ⟨a, m, b, rfl, h⟩
    rw [containsLetters, foldLetters_append, foldLetters_append, h]
    exact contains_append ..

/-- The characters stand for themselves in a pattern, and none of them ends it. -/
def isLiteral (cs : List Char) : Bool :=
  cs.all fun c => c ≠ '%' && c ≠ '_' && c ≠ '\x00'

theorem isLiteral_cons {c : Char} {cs : List Char} :
    isLiteral (c :: cs) ↔ (c ≠ '%' ∧ c ≠ '_' ∧ c ≠ '\x00') ∧ isLiteral cs := by
  simp [isLiteral, and_assoc]

theorem standsFor_iff {p c : Char} (h : p ≠ '_') : standsFor p c ↔ c.toLower = p.toLower := by
  rw [standsFor, Bool.or_eq_true, decide_eq_true_eq, decide_eq_true_eq, eq_comm (a := p.toLower)]
  exact or_iff_right h

theorem matchesFrom_many (ps cs : List Char) :
    matchesFrom ('%' :: ps) cs = (ends cs).any (matchesFrom ps) := by
  rw [matchesFrom.eq_def]
  exact if_pos rfl

theorem matchesFrom_cons {p : Char} (hp : p ≠ '%') (ps cs : List Char) :
    matchesFrom (p :: ps) cs ↔ ∃ c cs', cs = c :: cs' ∧ standsFor p c ∧ matchesFrom ps cs' := by
  rw [matchesFrom.eq_def]
  dsimp only
  rw [if_neg hp]
  cases cs with
  | nil => simp
  | cons c cs => simp

/-- A literal in front of a pattern takes up as many characters, equal but for the case of
letters. -/
theorem matchesFrom_append {part ps cs : List Char} (h : isLiteral part) :
    matchesFrom (part ++ ps) cs ↔
      ∃ m b, cs = m ++ b ∧ foldLetters m = foldLetters part ∧ matchesFrom ps b := by
  induction part generalizing cs with
  | nil =>
    refine ⟨fun h => ⟨[], cs, rfl, rfl, h⟩, ?_⟩
    rintro ⟨m, b, rfl, hm, h⟩
    rw [foldLetters, foldLetters, List.map_nil, List.map_eq_nil_iff] at hm
    rw [hm]
    exact h
  | cons p part ih =>
    obtain ⟨⟨hp, hp', -⟩, hpart⟩ := isLiteral_cons.1 h
    rw [List.cons_append, matchesFrom_cons hp]
    constructor
    · rintro ⟨c, cs, rfl, hc, h⟩
      obtain ⟨m, b, rfl, hm, hb⟩ := (ih hpart).1 h
      exact ⟨c :: m, b, rfl, List.cons_eq_cons.2 ⟨(standsFor_iff hp').1 hc, hm⟩, hb⟩
    · rintro ⟨m, b, rfl, hm, hb⟩
      obtain ⟨c, m, rfl, hc, hm⟩ := List.map_eq_cons_iff.1 hm
      exact ⟨c, m ++ b, rfl, (standsFor_iff hp').2 hc, (ih hpart).2 ⟨m, b, rfl, hm, hb⟩⟩

theorem matchesFrom_part {part cs : List Char} (h : isLiteral part) :
    matchesFrom ('%' :: (part ++ ['%'])) cs = containsLetters part cs := by
  rw [Bool.eq_iff_iff, containsLetters_iff, matchesFrom_many, List.any_eq_true]
  constructor
  · rintro ⟨e, he, hm⟩
    obtain ⟨a, rfl⟩ := mem_ends.1 he
    obtain ⟨m, b, rfl, hm, -⟩ := (matchesFrom_append h).1 hm
    exact ⟨a, m, b, rfl, hm⟩
  · rintro ⟨a, m, b, rfl, hm⟩
    exact ⟨m ++ b, mem_ends.2 (List.suffix_append ..),
      (matchesFrom_append h).2 ⟨m, b, rfl, hm, matchesFrom_any b⟩⟩

/-- A pattern that asks for a part anywhere sees the text up to its first NUL. -/
theorem like_part {part s : String} (h : isLiteral part.toList) :
    like ("%" ++ part ++ "%") s = containsLetters part.toList (untilNul s.toList) := by
  have hpattern : ("%" ++ part ++ "%").toList = '%' :: (part.toList ++ ['%']) := by simp
  have hnul : untilNul ('%' :: (part.toList ++ ['%'])) = '%' :: (part.toList ++ ['%']) := by
    refine List.takeWhile_eq_self_iff.2 fun c hc => ?_
    have hall := List.all_eq_true.1 h c
    simp only [List.mem_cons, List.mem_append, List.not_mem_nil, or_false] at hc
    rcases hc with rfl | hc | rfl
    · decide
    · simp_all
    · decide
  rw [like, hpattern, hnul, matchesFrom_part h]

/-! ## Filters -/

/-- A filter that is absent or blank asks for nothing; any other asks its test of the trimmed
text. -/
def asks (given : Option String) (test : String → Bool) : Bool :=
  given.all fun s => trim s == "" || test (trim s)

/-- The filter is present, and not blank. -/
def isGiven (given : Option String) : Bool :=
  given.any fun s => trim s != ""

theorem all_filled? (given : Option String) (test : String → Bool) :
    (filled? given).all test = asks given test := by
  cases given with
  | none => rfl
  | some s =>
    rw [filled?_some, asks, Option.all_some]
    split
    · next h => rw [h]; rfl
    · next h => rw [beq_false_of_ne h]; rfl

theorem asks_congr {given : Option String} {asked test test' : String → Bool} (h : asks given asked)
    (heq : ∀ s, asked s → test s = test' s) : asks given test = asks given test' := by
  cases given with
  | none => rfl
  | some s =>
    rw [asks, Option.all_some, Bool.or_eq_true] at h
    rw [asks, asks, Option.all_some, Option.all_some]
    rcases h with h | h
    · rw [h, Bool.true_or, Bool.true_or]
    · rw [heq _ h]

theorem isGiven_eq (given : Option String) : isGiven given = (filled? given).isSome := by
  cases given with
  | none => rfl
  | some s =>
    rw [filled?_some, isGiven, Option.any_some]
    split <;> simp_all

end Text

/-! ## The specification -/

namespace Options

/-- The record passes every filter that is present. `searched` is the part of a path in which a text
of `path_contains` is looked for. -/
def selects (searched : List Char → List Char) (now : Instant) (o : Options) (v : Visitor) : Bool :=
  asks o.id (fun s => v.value .id == s) &&
  (o.idIn.all (fun s => trim s == "") || o.idIn.any fun s =>
    trim s != "" && v.value .id == trim s) &&
  asks o.country (fun s => v.value .country == if s = "empty" then "" else s) &&
  (if isGiven o.pathExact then asks o.pathExact fun s => v.value .path == s
    else asks o.pathContains fun s => containsLetters s.toList (searched (v.value .path).toList)) &&
  asks o.deviceType (fun s => v.value .userDeviceType == if sameLetters s "empty" then "" else s) &&
  asks o.createdFrom (fun s => normalize false s ≤ v.value .createdAt) &&
  asks o.createdTo (fun s => v.value .createdAt ≤ normalize true s) &&
  (o.withDeleted || now.layout < v.value .deletedAt)

end Options

namespace Condition

variable [Engine]

variable {r : Row} {c : Column} {t s : String}

theorem holds_equals (h : r.value c = .text t) (hc : c.isDatetime = false) :
    (equals c s).holds r = (t == s) := by
  rw [holds, h, hc, Stored.ofText_false, Bool.eq_iff_iff, beq_iff_eq, beq_iff_eq, Stored.text.injEq]

theorem holds_isEmpty (h : r.value c = .text t) (hc : c.isDatetime = false) :
    (isEmpty c).holds r = (t == "") :=
  holds_equals h hc

/-- The condition of a filter in which one word stands for the empty text. -/
theorem holds_orEmpty {named : Prop} [Decidable named] (h : r.value c = .text t)
    (hc : c.isDatetime = false) :
    (if named then isEmpty c else equals c s).holds r = (t == if named then "" else s) := by
  split
  · exact holds_isEmpty h hc
  · exact holds_equals h hc

theorem holds_oneOf (h : r.value c = .text t) (hc : c.isDatetime = false) (ss : List String) :
    (oneOf c ss).holds r = ss.any fun s => t == s :=
  congrArg ss.any (funext fun _ => holds_equals h hc)

theorem holds_like (h : r.value c = .text t) : (like c s).holds r = Text.like s t := by
  rw [holds, h, Stored.toText_text]

theorem holds_above (h : r.value c = .text t) (hs : Stored.IsKept s) :
    (above c s).holds r = decide (s < t) := by
  rw [holds, h, hs.ofText, Stored.less_text]

theorem holds_atLeast (h : r.value c = .text t) (hs : Stored.IsKept s) :
    (atLeast c s).holds r = decide (s ≤ t) := by
  rw [holds, h, hs.ofText, Stored.atMost, Stored.less_text, ← decide_not, decide_eq_decide,
    String.not_lt]

theorem holds_atMost (h : r.value c = .text t) (hs : Stored.IsKept s) :
    (atMost c s).holds r = decide (t ≤ s) := by
  rw [holds, h, hs.ofText, Stored.atMost, Stored.less_text, ← decide_not, decide_eq_decide,
    String.not_lt]

/-- A condition that stands for a filter asks what the filter asks. -/
theorem all_holds_filled? (r : Row) (given : Option String) (condition : String → Condition) :
    ((filled? given).map condition).all (holds r) = asks given fun s => (condition s).holds r := by
  rw [Option.all_map, all_filled?]

theorem all_holds_eq_asks {given : Option String} {condition : String → Condition}
    {test : String → Bool} (h : ∀ s, (condition s).holds r = test s) :
    ((filled? given).map condition).all (holds r) = asks given test := by
  rw [all_holds_filled?]
  exact congrArg (asks given) (funext h)

end Condition

namespace Query

variable {v : Visitor} {o : Options} {now : Instant}

/-- A list of identifiers admits a row exactly if all of them are blank or one is the row's own. -/
theorem holds_idsCondition [Engine] {r : Row} {t : String} (h : r.value .id = .text t)
    (ids : List String) :
    (idsCondition ids).all (Condition.holds r) =
      (ids.all (fun s => trim s == "") || ids.any fun s => trim s != "" && t == trim s) := by
  have hmem : ∀ u, u ∈ ids.filterMap (fun id => filled? (some id)) ↔
      ∃ s ∈ ids, trim s ≠ "" ∧ u = trim s := by
    intro u
    simp only [List.mem_filterMap, filled?_eq_some, Option.some.injEq]
    constructor
    · rintro ⟨s, hs, _, rfl, hne, rfl⟩
      exact ⟨s, hs, hne, rfl⟩
    · rintro ⟨s, hs, hne, rfl⟩
      exact ⟨s, hs, s, rfl, hne, rfl⟩
  unfold idsCondition
  split
  · next hnil =>
    have hall : ids.all fun s => trim s == "" := by
      refine List.all_eq_true.2 fun s hs => beq_iff_eq.2 (Classical.byContradiction fun hne => ?_)
      have := (hmem (trim s)).2 ⟨s, hs, hne, rfl⟩
      rw [hnil] at this
      cases this
    rw [hall]
    rfl
  · next us hne =>
    have hall : (ids.all fun s => trim s == "") = false := by
      obtain ⟨u, hu⟩ := List.exists_mem_of_ne_nil _ hne
      obtain ⟨s, hs, hs', -⟩ := (hmem u).1 hu
      exact List.all_eq_false.2 ⟨s, hs, by simpa using hs'⟩
    rw [hall, Bool.false_or, Option.all_some, Condition.holds_oneOf h rfl, Bool.eq_iff_iff,
      List.any_eq_true, List.any_eq_true]
    constructor
    · rintro ⟨u, hu, hut⟩
      obtain ⟨s, hs, hs', rfl⟩ := (hmem u).1 hu
      exact ⟨s, hs, by simpa [hs'] using hut⟩
    · rintro ⟨s, hs, hst⟩
      rw [Bool.and_eq_true, bne_iff_ne] at hst
      exact ⟨trim s, (hmem _).2 ⟨s, hs, hst.1, rfl⟩, hst.2⟩

theorem holds_pathCondition [Engine] {r : Row} {t : String} (h : r.value .path = .text t)
    (hpart : asks o.pathContains fun s => isLiteral s.toList) :
    (pathCondition o).all (Condition.holds r) =
      if isGiven o.pathExact then asks o.pathExact fun s => t == s
      else asks o.pathContains fun s => containsLetters s.toList (untilNul t.toList) := by
  rw [isGiven_eq, pathCondition, ← all_filled? o.pathExact]
  cases filled? o.pathExact with
  | some path => exact Condition.holds_equals h rfl
  | none =>
    rw [Option.isSome_none, if_neg Bool.false_ne_true, Condition.all_holds_filled?]
    refine asks_congr hpart fun s hs => ?_
    rw [Condition.holds_like h, like_part hs]

theorem all_filterMap_self {α : Type} (l : List (Option α)) (p : α → Bool) :
    (l.filterMap fun x => x).all p = l.all (Option.all p) := by
  rw [List.all_filterMap]
  refine congrArg l.all (funext fun x => ?_)
  cases x <;> rfl

/-- The conditions of options say what the filters say. -/
theorem all_holds_eq_selects [Engine] (hv : v.IsKept) (hfrom : asks o.createdFrom isBound)
    (hto : asks o.createdTo isBound) (hpart : asks o.pathContains fun s => isLiteral s.toList) :
    (conditionsOf now o).all (Condition.holds (.ofVisitor v)) = o.selects untilNul now v := by
  have hvalue := Row.value_ofVisitor hv
  rw [conditionsOf, all_filterMap_self, Options.selects]
  simp only [List.all_cons, List.all_nil, Bool.and_true, Bool.and_assoc]
  refine congrArg₂ and ?id <| congrArg₂ and ?ids <| congrArg₂ and ?country <| congrArg₂ and ?path <|
    congrArg₂ and ?device <| congrArg₂ and ?low <| congrArg₂ and ?high ?live
  case id => exact Condition.all_holds_eq_asks fun s => Condition.holds_equals (hvalue .id) rfl
  case ids => exact holds_idsCondition (hvalue .id) o.idIn
  case country => exact Condition.all_holds_eq_asks fun s => Condition.holds_orEmpty (hvalue _) rfl
  case path => exact holds_pathCondition (hvalue .path) hpart
  case device => exact Condition.all_holds_eq_asks fun s => Condition.holds_orEmpty (hvalue _) rfl
  case low =>
    rw [Condition.all_holds_filled?]
    exact asks_congr hfrom fun s hs =>
      Condition.holds_atLeast (hvalue .createdAt) (isKept_normalize false hs)
  case high =>
    rw [Condition.all_holds_filled?]
    exact asks_congr hto fun s hs =>
      Condition.holds_atMost (hvalue .createdAt) (isKept_normalize true hs)
  case live =>
    cases o.withDeleted with
    | true => rw [Bool.true_or, if_pos rfl, Option.all_none]
    | false =>
      rw [Bool.false_or, if_neg Bool.false_ne_true, Option.all_some]
      exact Condition.holds_above (hvalue .deletedAt) now.isKept_layout

end Query

end VisitLog

import VisitLog.Proofs.Listing
import VisitLog.Query.Sql

/-!
# The texts of queries

The text of a statement is read back here: `Sql.placeholders` finds the numbers behind its question
marks, whatever wrote them. A statement whose fixed texts hold no question mark and start with no
digit has the placeholders of its values, one each and in order (`Sql.placeholders_text`), and the
statements of a query are such.

`Options.shape` is all of options that reaches a text: which filters are given, and the names that
the library knows.

Main statement: `Query.text_of_shape`.
-/

namespace VisitLog

open Text

namespace Sql

/-! ## Placeholders -/

/-- The digits behind each question mark of a text. -/
def placeholdersOf : List Char → List String
  | [] => []
  | c :: cs =>
    if c = '?' then String.ofList (cs.takeWhile Char.isDigit) :: placeholdersOf cs
      else placeholdersOf cs

/-- The placeholders of a statement, without their question marks. -/
def placeholders (s : String) : List String :=
  placeholdersOf s.toList

/-- The numbers from 1 on. -/
def numbers (n : Nat) : List String :=
  (List.range' 1 n).map natText

/-- The text holds no question mark. -/
def isUnmarked (s : String) : Bool :=
  s.toList.all fun c => c ≠ '?'

/-- The text holds no question mark, and it is no continuation of a number. -/
def isPlainText (s : String) : Bool :=
  isUnmarked s && s.toList.head?.any fun c => !c.isDigit

/-- A piece that leaves the placeholders around it as they are. -/
def Piece.isPlain : Piece → Bool
  | fixed s => isPlainText s
  | bound _ => true

theorem placeholdersOf_append {s : String} (h : isUnmarked s) (cs : List Char) :
    placeholdersOf (s.toList ++ cs) = placeholdersOf cs := by
  unfold isUnmarked at h
  revert h
  induction s.toList with
  | nil => exact fun _ => rfl
  | cons d ds ih =>
    intro h
    rw [List.all_cons, Bool.and_eq_true, decide_eq_true_eq] at h
    rw [List.cons_append, placeholdersOf, if_neg h.1, ih h.2]

theorem isDigit_of_mem_natText {n : Nat} {c : Char} (h : c ∈ (natText n).toList) : c.isDigit := by
  rw [natText, String.toList_ofList] at h
  exact Nat.isDigit_of_mem_toDigits (by decide) (by decide) h

/-- A number ends where no digit follows. -/
theorem placeholdersOf_number (n : Nat) {cs : List Char} (h : ∀ c ∈ cs.head?, c.isDigit = false) :
    placeholdersOf ('?' :: ((natText n).toList ++ cs)) = natText n :: placeholdersOf cs := by
  have hrest : cs.takeWhile Char.isDigit = [] := by
    cases cs with
    | nil => rfl
    | cons c cs => exact List.takeWhile_cons_of_neg (by simp [h c rfl])
  have hunmarked : isUnmarked (natText n) := by
    refine List.all_eq_true.2 fun c hc => decide_eq_true fun e => ?_
    subst e
    cases isDigit_of_mem_natText hc
  rw [placeholdersOf, if_pos rfl, placeholdersOf_append hunmarked,
    List.takeWhile_append_of_pos fun c => isDigit_of_mem_natText, hrest, List.append_nil,
    String.ofList_toList]

theorem isDigit_head_textFrom {n : Nat} {ps : List Piece} (h : ps.all Piece.isPlain) :
    ∀ c ∈ (textFrom n ps).toList.head?, c.isDigit = false := by
  intro c hc
  cases ps with
  | nil => cases hc
  | cons p ps =>
    cases p with
    | fixed s =>
      have hs : isPlainText s := (Bool.and_eq_true _ _ ▸ h).1
      rw [isPlainText, Bool.and_eq_true] at hs
      rw [textFrom, String.toList_append, List.head?_append] at hc
      cases hhead : s.toList.head? with
      | none =>
        rw [hhead] at hs
        cases hs.2
      | some d =>
        rw [hhead] at hs hc
        cases hc
        exact Bool.not_eq_true' _ ▸ hs.2
    | bound v =>
      rw [textFrom, String.toList_append, String.toList_append] at hc
      cases hc
      rfl

/-- The placeholders in the text of pieces are numbered in the order of their values. -/
theorem placeholdersOf_textFrom {n : Nat} {ps : List Piece} (h : ps.all Piece.isPlain) :
    placeholdersOf (textFrom n ps).toList = (List.range' n (values ps).length).map natText := by
  induction ps generalizing n with
  | nil => rfl
  | cons p ps ih =>
    rw [List.all_cons, Bool.and_eq_true] at h
    cases p with
    | fixed s =>
      have hs : isUnmarked s := (Bool.and_eq_true _ _ ▸ h.1).1
      rw [textFrom, String.toList_append, placeholdersOf_append hs, ih h.2]
      rfl
    | bound v =>
      -- The digits of this placeholder end where the next piece begins.
      have hnumber := placeholdersOf_number n (isDigit_head_textFrom (n := n + 1) h.2)
      rw [ih h.2] at hnumber
      rw [textFrom, String.toList_append, String.toList_append, List.append_assoc]
      exact hnumber

/-- The placeholders of a plain statement are those of its values. -/
theorem placeholders_text {ps : List Piece} (h : ps.all Piece.isPlain) :
    placeholders (text ps) = numbers (values ps).length :=
  placeholdersOf_textFrom h

/-! ## Plain pieces -/

theorem isUnmarked_append {a b : String} (ha : isUnmarked a) (hb : isUnmarked b) :
    isUnmarked (a ++ b) := by
  rw [isUnmarked, String.toList_append, List.all_append, Bool.and_eq_true]
  exact ⟨ha, hb⟩

theorem isPlainText_append {a b : String} (ha : isPlainText a) (hb : isUnmarked b) :
    isPlainText (a ++ b) := by
  rw [isPlainText, Bool.and_eq_true] at ha ⊢
  refine ⟨isUnmarked_append ha.1 hb, ?_⟩
  rw [String.toList_append, List.head?_append]
  cases hhead : a.toList.head? with
  | none =>
    rw [hhead] at ha
    cases ha.2
  | some c =>
    rw [hhead] at ha
    exact ha.2

theorem isPlainText_name (c : Column) : isPlainText c.name := by
  cases c <;> decide

theorem isUnmarked_name (c : Column) : isUnmarked c.name :=
  (Bool.and_eq_true _ _ ▸ isPlainText_name c).1

/-- A quoted identifier holds no placeholder. -/
theorem isUnmarked_quoteIdentifier {name : String} (h : isPlainIdentifier name) :
    isUnmarked (quoteIdentifier name) := by
  have hchars : ∀ c ∈ name.toList, c ≠ '?' := by
    rintro c hc rfl
    unfold isPlainIdentifier at h
    split at h
    · next hnil => rw [hnil] at hc; cases hc
    · next d ds hcons =>
      rw [Bool.and_eq_true, Bool.and_eq_true] at h
      rw [hcons] at hc
      rcases List.mem_cons.1 hc with rfl | hc
      · exact absurd h.1.1 (by decide)
      · exact absurd (List.all_eq_true.1 h.2 _ hc) (by decide)
  have hquoted (cs : List Char) (hcs : ∀ c ∈ cs, c ≠ '?') : ∀ c ∈ quoteChars cs, c ≠ '?' := by
    induction cs with
    | nil => exact nofun
    | cons d ds ih =>
      rw [List.forall_mem_cons] at hcs
      unfold quoteChars
      split
      · simp only [List.forall_mem_cons]
        exact ⟨by decide, by decide, ih hcs.2⟩
      · exact List.forall_mem_cons.2 ⟨hcs.1, ih hcs.2⟩
  rw [isUnmarked, quoteIdentifier, String.toList_ofList, List.all_eq_true]
  intro c hc
  refine decide_eq_true ?_
  rcases List.mem_cons.1 hc with rfl | hc
  · decide
  · rcases List.mem_append.1 hc with hc | hc
    · exact hquoted _ hchars c hc
    · rw [List.mem_singleton.1 hc]
      decide

theorem all_intersperse {α : Type} {f : α → Bool} {l : List α} {sep : α} (h : l.all f)
    (hsep : f sep) :
    (l.intersperse sep).all f := by
  fun_induction List.intersperse sep l with
  | case1 => rfl
  | case2 => exact h
  | case3 x y l ih =>
    rw [List.all_cons, Bool.and_eq_true] at h
    rw [List.all_cons, List.all_cons, h.1, hsep, ih h.2]
    rfl

end Sql

open Sql

namespace Condition

theorem all_isPlain_compared (c : Column) {operator : String} (h : isUnmarked operator)
    (s : String) :
    (compared c operator s).all Piece.isPlain := by
  rw [compared, List.all_cons, Piece.isPlain, isPlainText_append (isPlainText_name c) h]
  rfl

theorem all_isPlain_pieces (k : Condition) : k.pieces.all Piece.isPlain := by
  cases k with
  | equals c s | like c s | atLeast c s | atMost c s | above c s =>
      exact all_isPlain_compared c (by decide) s
  | isEmpty c =>
    rw [pieces, List.all_cons, Piece.isPlain, isPlainText_append (isPlainText_name c) (by decide)]
    rfl
  | oneOf c ss =>
    have hlist : ((ss.map fun s => [Piece.bound (.text s)]).intersperse [.fixed ", "]).flatten.all
        Piece.isPlain := by
      rw [List.all_flatten]
      refine all_intersperse (List.all_eq_true.2 fun l hl => ?_) (by decide)
      obtain ⟨s, -, rfl⟩ := List.mem_map.1 hl
      rfl
    rw [pieces, List.cons_append, List.all_cons, List.all_append, hlist, Piece.isPlain,
      isPlainText_append (isPlainText_name c) (by decide)]
    decide

end Condition

namespace Query

variable {q q' : Query}

theorem all_isPlain_wherePieces (q : Query) : q.wherePieces.all Piece.isPlain := by
  unfold wherePieces
  split
  · rfl
  · next ks _ =>
    rw [List.all_cons, List.all_flatten,
      all_intersperse (List.all_eq_true.2 fun l hl => ?_) (by decide)]
    · decide
    · obtain ⟨k, -, rfl⟩ := List.mem_map.1 hl
      exact k.all_isPlain_pieces

theorem all_isPlain_tailPieces (q : Query) : q.tailPieces.all Piece.isPlain := by
  unfold tailPieces
  simp only [List.all_append, Bool.and_eq_true]
  refine ⟨⟨?order, ?limit⟩, ?offset⟩
  case order =>
    split
    · next o _ =>
      rw [List.all_cons, Piece.isPlain,
        isPlainText_append (isPlainText_append (by decide) (isUnmarked_name o.column)) ?direction]
      · rfl
      · split <;> decide
    · rfl
  case limit =>
    split
    · exact Bool.and_eq_true _ _ ▸ ⟨by decide, rfl⟩
    · decide
    · rfl
  case offset =>
    split
    · exact Bool.and_eq_true _ _ ▸ ⟨by decide, rfl⟩
    · rfl

theorem all_isPlain_selectPieces (h : isPlainIdentifier q.table) :
    q.selectPieces.all Piece.isPlain := by
  rw [selectPieces, List.all_cons, List.all_append, all_isPlain_wherePieces,
    all_isPlain_tailPieces, Piece.isPlain, isPlainText_append (by decide)
      (isUnmarked_quoteIdentifier h)]
  rfl

theorem all_isPlain_countPieces (h : isPlainIdentifier q.table) :
    q.countPieces.all Piece.isPlain := by
  have hquoted := isUnmarked_quoteIdentifier h
  unfold countPieces
  split
  · next c _ =>
    rw [List.all_cons, List.all_append, all_isPlain_wherePieces, Piece.isPlain, isPlainText_append
      (isPlainText_append (isPlainText_append (by decide) (isUnmarked_name c)) (by decide)) hquoted]
    decide
  · rw [List.all_cons, all_isPlain_wherePieces, Piece.isPlain,
      isPlainText_append (by decide) hquoted]
    rfl

end Query

/-! ## Shapes -/

/-- The condition with its values forgotten. -/
def Condition.shape (k : Condition) : List (Option String) :=
  k.pieces.map Piece.shape

theorem Condition.shape_atLeast (c : Column) (s t : String) :
    (atLeast c s).shape = (atLeast c t).shape := rfl

theorem Condition.shape_atMost (c : Column) (s t : String) :
    (atMost c s).shape = (atMost c t).shape := rfl

/-- What of options reaches the text of a query: which filters are given, and names that the library
knows. -/
structure Options.Shape where
  id : Bool
  /-- How many members are not blank. -/
  idIn : Nat
  /-- If given: whether by the word for the empty text. -/
  country : Option Bool
  pathExact : Bool
  pathContains : Bool
  /-- If given: whether by the word for the empty text. -/
  deviceType : Option Bool
  createdFrom : Bool
  createdTo : Bool
  withDeleted : Bool
  distinct : Option Column
  orderBy : Option Column
  direction : Direction
  isLimited : Bool
  isOffset : Bool
  countOnly : Bool
  deriving DecidableEq

def Options.shape (o : Options) : Shape where
  id := isGiven o.id
  idIn := (o.idIn.filter fun s => trim s != "").length
  country := (filled? o.country).map fun s => s == "empty"
  pathExact := isGiven o.pathExact
  pathContains := isGiven o.pathContains
  deviceType := (filled? o.deviceType).map fun s => sameLetters s "empty"
  createdFrom := isGiven o.createdFrom
  createdTo := isGiven o.createdTo
  withDeleted := o.withDeleted
  distinct := (filled? o.distinct).bind Column.ofName?
  orderBy := (filled? o.orderBy).bind Column.ofName?
  direction := o.direction
  isLimited := 0 < o.limit
  isOffset := 0 < o.offset
  countOnly := o.countOnly

namespace Query

variable {o o' : Options} {now now' : Instant} {given given' : Option String}

theorem none_or_some_of_isSome {α : Type} {a b : Option α} (h : a.isSome = b.isSome) :
    (a = none ∧ b = none) ∨ ∃ x y, a = some x ∧ b = some y := by
  cases a <;> cases b
  · exact .inl ⟨rfl, rfl⟩
  · cases h
  · cases h
  · exact .inr ⟨_, _, rfl, rfl⟩

/-- Conditions of one shape for all values of a filter depend on whether it is given. -/
theorem shape_filled? {f : String → Condition} (hf : ∀ s t, (f s).shape = (f t).shape)
    (h : isGiven given = isGiven given') :
    ((filled? given).map f).map Condition.shape = ((filled? given').map f).map Condition.shape := by
  rw [isGiven_eq, isGiven_eq] at h
  rcases none_or_some_of_isSome h with ⟨hs, ht⟩ | ⟨s, t, hs, ht⟩
  · rw [hs, ht]
  · rw [hs, ht]
    exact congrArg some (hf s t)

/-- Where a word stands for the empty text, they depend on whether the filter is that word. -/
theorem shape_orEmpty {c : Column} {isWord : String → Bool} {word : String → Prop}
    [DecidablePred word] (hword : ∀ s, word s ↔ isWord s)
    (h : (filled? given).map isWord = (filled? given').map isWord) :
    ((filled? given).map fun s => if word s then Condition.isEmpty c else .equals c s).map
      Condition.shape =
        ((filled? given').map fun s => if word s then Condition.isEmpty c else .equals c s).map
          Condition.shape := by
  have hshape (given : Option String) :
      ((filled? given).map fun s => if word s then Condition.isEmpty c else .equals c s).map
        Condition.shape = ((filled? given).map isWord).map fun w =>
          if w then (Condition.isEmpty c).shape else (Condition.equals c "").shape := by
    rw [Option.map_map, Option.map_map]
    refine congrArg (fun f => Option.map f _) (funext fun s => ?_)
    simp only [Function.comp_apply, hword]
    split <;> rfl
  rw [hshape, hshape, h]

theorem length_filled_ids (ids : List String) :
    (ids.filterMap fun id => filled? (some id)).length =
    (ids.filter fun s => trim s != "").length := by
  induction ids with
  | nil => rfl
  | cons id ids ih =>
    by_cases hid : trim id = ""
    · rw [List.filterMap_cons_none (by rw [filled?_some, if_pos hid]),
        List.filter_cons_of_neg (by simp [hid]), ih]
    · rw [List.filterMap_cons_some (by rw [filled?_some, if_neg hid]),
        List.filter_cons_of_pos (by simp [hid]), List.length_cons, List.length_cons, ih]

theorem map_intersperse {α β : Type} (f : α → β) (sep : α) :
    ∀ l : List α, (l.intersperse sep).map f = (l.map f).intersperse (f sep)
  | [] => rfl
  | [_] => rfl
  | x :: y :: l => by
    rw [List.intersperse_cons_cons, List.map_cons, List.map_cons, map_intersperse f sep (y :: l)]
    rfl

theorem shape_oneOf (c : Column) (ss : List String) :
    (Condition.oneOf c ss).shape = some (c.name ++ " IN (") ::
      (((List.replicate ss.length [none]).intersperse [some ", "]).flatten ++ [some ")"]) := by
  rw [Condition.shape, Condition.pieces, List.map_append, List.map_cons, List.map_flatten,
    map_intersperse, List.map_map, ← List.map_const']
  rfl

theorem shape_idsCondition {ids ids' : List String}
    (h : (ids.filter fun s => trim s != "").length = (ids'.filter fun s => trim s != "").length) :
    (idsCondition ids).map Condition.shape = (idsCondition ids').map Condition.shape := by
  rw [← length_filled_ids, ← length_filled_ids] at h
  unfold idsCondition
  split
  · next hnil =>
    rw [hnil, List.length_nil] at h
    rw [List.eq_nil_of_length_eq_zero h.symm]
  · split
    · next hnil =>
      rw [hnil, List.length_nil] at h
      exact absurd (List.eq_nil_of_length_eq_zero h) ‹_›
    · exact congrArg some (by rw [shape_oneOf, shape_oneOf, h])

theorem shape_pathCondition (hexact : isGiven o.pathExact = isGiven o'.pathExact)
    (hpart : isGiven o.pathContains = isGiven o'.pathContains) :
    (pathCondition o).map Condition.shape = (pathCondition o').map Condition.shape := by
  rw [isGiven_eq, isGiven_eq] at hexact
  unfold pathCondition
  rcases none_or_some_of_isSome hexact with ⟨hs, ht⟩ | ⟨s, t, hs, ht⟩
  · rw [hs, ht]
    exact shape_filled? (fun _ _ => rfl) hpart
  · rw [hs, ht]
    rfl

/-- The shape of options is all that the text of their conditions depends on. -/
theorem shapes_conditionsOf (now now' : Instant) (h : o.shape = o'.shape) :
    (conditionsOf now o).map Condition.shape = (conditionsOf now' o').map Condition.shape := by
  rw [Options.shape, Options.shape, Options.Shape.mk.injEq] at h
  obtain ⟨hid, hids, hcountry, hexact, hpart, hdevice, hfrom, hto, hdeleted, -⟩ := h
  have hfilter (ks : List (Option Condition)) :
      (ks.filterMap fun k => k).map Condition.shape =
      (ks.map (Option.map Condition.shape)).filterMap fun k => k := by
    rw [List.map_filterMap, List.filterMap_map]
    rfl
  rw [conditionsOf, conditionsOf, hfilter, hfilter]
  refine congrArg _ ?_
  simp only [List.map_cons, List.map_nil, List.cons.injEq, and_true]
  refine ⟨shape_filled? (fun _ _ => rfl) hid, shape_idsCondition hids,
    shape_orEmpty (fun _ => beq_iff_eq.symm) hcountry, shape_pathCondition hexact hpart,
    shape_orEmpty (fun _ => Iff.rfl) hdevice,
    shape_filled? (fun _ _ => Condition.shape_atLeast ..) hfrom,
    shape_filled? (fun _ _ => Condition.shape_atMost ..) hto, ?_⟩
  rw [hdeleted]
  split <;> rfl

/-! ## Texts -/

variable {table : String} {q q' : Query}

/-- Two queries whose texts differ in nothing. -/
structure SameText (q q' : Query) : Prop where
  table : q.table = q'.table
  conditions : q.conditions.map Condition.shape = q'.conditions.map Condition.shape
  distinct : q.distinct = q'.distinct
  order : q.order = q'.order
  limit : q.limit.isSome = q'.limit.isSome
  offset : q.offset.isSome = q'.offset.isSome

/-- Conditions of given shapes, joined. -/
def whereShapes : List (List (Option String)) → List (Option String)
  | [] => []
  | ks => some " WHERE " :: (ks.intersperse [some " AND "]).flatten

theorem shapes_wherePieces (q : Query) :
    q.wherePieces.map Piece.shape = whereShapes (q.conditions.map Condition.shape) := by
  unfold wherePieces whereShapes
  split
  · next hnil =>
    rw [hnil]
    rfl
  · next hne =>
    rw [List.map_cons, List.map_flatten, map_intersperse, List.map_map]
    split
    · next hnil => exact absurd (List.map_eq_nil_iff.1 hnil) hne
    · rfl

theorem SameText.wherePieces (h : q.SameText q') :
    q.wherePieces.map Piece.shape = q'.wherePieces.map Piece.shape := by
  rw [shapes_wherePieces, shapes_wherePieces, h.conditions]

theorem SameText.tailPieces (h : q.SameText q') :
    q.tailPieces.map Piece.shape = q'.tailPieces.map Piece.shape := by
  unfold Query.tailPieces
  rw [h.order]
  rcases none_or_some_of_isSome h.limit with ⟨hl, hl'⟩ | ⟨_, _, hl, hl'⟩ <;>
    rcases none_or_some_of_isSome h.offset with ⟨ho, ho'⟩ | ⟨_, _, ho, ho'⟩ <;>
    rw [hl, hl', ho, ho'] <;> simp only [List.map_append] <;> rfl

theorem SameText.selectSql (h : q.SameText q') : q.selectSql = q'.selectSql := by
  refine textFrom_congr ?_
  rw [selectPieces, selectPieces, List.map_cons, List.map_cons, List.map_append,
    List.map_append, h.wherePieces, h.tailPieces, h.table]

theorem SameText.countSql (h : q.SameText q') : q.countSql = q'.countSql := by
  refine textFrom_congr ?_
  unfold countPieces
  rw [h.distinct, h.table]
  split
  · rw [List.map_cons, List.map_cons, List.map_append, List.map_append, h.wherePieces]
  · rw [List.map_cons, List.map_cons, h.wherePieces]

theorem isSome_boundOf (n : Int) : (boundOf n).isSome = decide (0 < n) := by
  unfold boundOf
  split
  · next h => exact (decide_eq_true h).symm
  · next h => exact (decide_eq_false h).symm

/-- The text of a query depends on the shape of the options, not on the values in them. -/
theorem sameText_of_shape (hq : ofOptions table now o = .ok q)
    (hq' : ofOptions table now' o' = .ok q')
    (h : o.shape = o'.shape) : q.SameText q' := by
  obtain ⟨htable, hconditions, hdistinct, horder, hlimit, hoffset⟩ := ofOptions_cases hq
  obtain ⟨htable', hconditions', hdistinct', horder', hlimit', hoffset'⟩ := ofOptions_cases hq'
  have hcount : o.countOnly = o'.countOnly := congrArg Options.Shape.countOnly h
  have hdirection : o.direction = o'.direction := congrArg Options.Shape.direction h
  refine ⟨htable.trans htable'.symm, ?_, ?_, ?_, ?_, ?_⟩
  · rw [hconditions, hconditions']
    exact shapes_conditionsOf now now' h
  · rw [hdistinct, hdistinct']
    exact congrArg Options.Shape.distinct h
  · have horderBy : (filled? o.orderBy).bind Column.ofName? = (filled? o'.orderBy).bind
        Column.ofName? :=
      congrArg Options.Shape.orderBy h
    rw [horder, horder', horderBy, hcount, hdirection]
  · have hlimited : decide (0 < o.limit) = decide (0 < o'.limit) :=
      congrArg Options.Shape.isLimited h
    rw [hlimit, hlimit', hcount]
    split
    · rfl
    · rw [isSome_boundOf, isSome_boundOf, hlimited]
  · have hpast : decide (0 < o.offset) = decide (0 < o'.offset) := congrArg Options.Shape.isOffset h
    rw [hoffset, hoffset', hcount]
    split
    · rfl
    · rw [isSome_boundOf, isSome_boundOf, hpast]

/-- A count binds the values of its conditions. -/
theorem values_countPieces (q : Query) : values q.countPieces = values q.wherePieces := by
  unfold countPieces
  split
  · rw [← List.singleton_append, values_append, values_append]
    exact List.append_nil _
  · rfl

/-- The texts of a query on a table with a plain name depend on the shape of the options alone, and
a text has the placeholders of the values that are bound, one each and in their order. -/
theorem text_of_shape (ht : isPlainIdentifier table) (hq : ofOptions table now o = .ok q) :
    (∀ now' o' q', ofOptions table now' o' = .ok q' → o'.shape = o.shape →
      q'.selectSql = q.selectSql ∧ q'.countSql = q.countSql) ∧
    placeholders q.selectSql = numbers q.binds.length ∧
    (o.countOnly → placeholders q.countSql = numbers q.binds.length) := by
  obtain ⟨rfl, -, -, horder, hlimit, hoffset⟩ := ofOptions_cases hq
  refine ⟨fun now' o' q' hq' h => ?_, placeholders_text (all_isPlain_selectPieces ht), fun hc => ?_⟩
  · have hsame := sameText_of_shape hq' hq h
    exact ⟨hsame.selectSql, hsame.countSql⟩
  · rw [if_pos hc] at horder hlimit hoffset
    have htail : q.tailPieces = [] := by
      rw [tailPieces, horder, hlimit, hoffset]
      rfl
    have hbinds : q.binds = values q.wherePieces := by
      rw [binds, selectPieces, htail, List.append_nil]
      rfl
    rw [hbinds, ← values_countPieces]
    exact placeholders_text (all_isPlain_countPieces ht)

/-- Options with texts that look like parts of a statement, and their query. -/
def hostileOptions : Options :=
  { idIn := ["a", "?7", " "], country := some "' OR 1 = 1 --", orderBy := some "path", limit := 10
    withDeleted := true }

def hostileQuery : Query :=
  { table := "visits"
    conditions := [.oneOf .id ["a", "?7"], .equals .country "' OR 1 = 1 --"]
    distinct := none, order := some ⟨.path, .descending⟩, limit := some 10, offset := none }

theorem text_of_shape_hostile :
    isPlainIdentifier "visits" ∧ ofOptions "visits" ⟨0, 0⟩ hostileOptions = .ok hostileQuery ∧
      placeholders hostileQuery.selectSql = ["1", "2", "3", "4"] ∧
      ∀ o' q', ofOptions "visits" ⟨0, 0⟩ o' = .ok q' → o'.shape = hostileOptions.shape →
        q'.selectSql = hostileQuery.selectSql := by
  have ht : isPlainIdentifier "visits" := by decide
  have hq : ofOptions "visits" ⟨0, 0⟩ hostileOptions = .ok hostileQuery := rfl
  obtain ⟨hsame, hselect, -⟩ := text_of_shape ht hq
  exact ⟨ht, hq, hselect, fun o' q' hq' hshape => (hsame _ o' q' hq' hshape).1⟩

end Query

end VisitLog

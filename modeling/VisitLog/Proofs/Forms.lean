import Mathlib.Data.List.TakeWhile
import VisitLog.Dashboard.Page
import VisitLog.Http.Message

/-!
# Forms read back

What a form encodes is what it decodes to. First for one name or value: each character is written in
a way that gives its octets again (`Form.octets_encodeChar`), and the octets of a text are the text
(`Form.decodeValue_encodeChars`). Then for the fields: neither `&` nor `=` is among the characters
of a name or a value (`Form.mem_encodeChars`), so the pieces between them are the names and values.

Main statements: `Form.fields_encode` and `Page.parametersOf_address`.
-/

namespace VisitLog

namespace Text

/-! ## Pieces of a text -/

theorem splitAt_of_not_mem {sep : Char} {cs : List Char} (h : sep ∉ cs) :
    splitAt sep cs = [cs] := by
  induction cs with
  | nil => rfl
  | cons c cs ih =>
    rw [List.mem_cons, not_or] at h
    rw [splitAt, if_neg (Ne.symm h.1), ih h.2]

theorem splitAt_append {sep : Char} {a : List Char} (h : sep ∉ a) (b : List Char) :
    splitAt sep (a ++ sep :: b) = a :: splitAt sep b := by
  induction a with
  | nil => exact if_pos rfl
  | cons c a ih =>
    rw [List.mem_cons, not_or] at h
    rw [List.cons_append, splitAt, if_neg (Ne.symm h.1), ih h.2]

/-- Pieces without the character that stands between them are found again. -/
theorem splitAt_intersperse {sep : Char} {pieces : List (List Char)}
    (h : ∀ piece ∈ pieces, sep ∉ piece)
    (hne : pieces ≠ []) : splitAt sep (pieces.intersperse [sep]).flatten = pieces := by
  induction pieces with
  | nil => exact absurd rfl hne
  | cons piece pieces ih =>
    rw [List.forall_mem_cons] at h
    cases pieces with
    | nil =>
      rw [List.intersperse_singleton, List.flatten_singleton]
      exact splitAt_of_not_mem h.1
    | cons next pieces =>
      rw [List.intersperse_cons_cons, List.flatten_cons, List.flatten_cons, List.singleton_append,
        splitAt_append h.1, ih h.2 (List.cons_ne_nil next pieces)]

theorem mem_flatten_intersperse {sep d : Char} {pieces : List (List Char)}
    (h : d ∈ (pieces.intersperse [sep]).flatten) : d = sep ∨ ∃ piece ∈ pieces, d ∈ piece := by
  induction pieces with
  | nil => cases h
  | cons piece pieces ih =>
    cases pieces with
    | nil => exact .inr ⟨piece, List.mem_cons_self, by simpa using h⟩
    | cons next pieces =>
      rw [List.intersperse_cons_cons, List.flatten_cons, List.flatten_cons, List.mem_append,
        List.mem_append, List.mem_singleton] at h
      obtain h | rfl | h := h
      · exact .inr ⟨piece, List.mem_cons_self, h⟩
      · exact .inl rfl
      · obtain hsep | ⟨other, hother, hd⟩ := ih h
        · exact .inl hsep
        · exact .inr ⟨other, List.mem_cons_of_mem _ hother, hd⟩

theorem cutAt?_append {sep : Char} {a : List Char} (h : sep ∉ a) (b : List Char) :
    cutAt? sep (a ++ sep :: b) = some (a, b) := by
  induction a with
  | nil => exact if_pos rfl
  | cons c a ih =>
    rw [List.mem_cons, not_or] at h
    rw [List.cons_append, cutAt?, if_neg (Ne.symm h.1), ih h.2]
    rfl

namespace Form

/-! ## One name or value -/

theorem lt_of_mem_encodeChar {c : Char} {b : Nat} (h : b ∈ Utf8.encodeChar c) : b < 256 := by
  have hc := Utf8.isScalar c
  unfold Utf8.encodeChar at h
  dsimp only at h
  split at h
  · simp only [List.mem_cons, List.not_mem_nil, or_false] at h
    omega
  · split at h
    · simp only [List.mem_cons, List.not_mem_nil, or_false] at h
      omega
    · split at h <;> simp only [List.mem_cons, List.not_mem_nil, or_false] at h <;> omega

theorem octets_cons {c : Char} (h : c ≠ '%') (cs : List Char) :
    octets (c :: cs) = Utf8.encodeChar c ++ octets cs := by
  rw [octets]
  intro a b cs hc
  exact absurd hc h

theorem octets_percents {bs : List Nat} (h : ∀ b ∈ bs, b < 256) (cs : List Char) :
    octets (bs.flatMap percent ++ cs) = bs ++ octets cs := by
  induction bs with
  | nil => rfl
  | cons b bs ih =>
    rw [List.forall_mem_cons] at h
    rw [List.flatMap_cons, List.append_assoc, octets_percent h.1, ih h.2]
    rfl

theorem isPlain_upperDigit (n : Nat) : isPlain (Hex.upperDigit n) := by
  have h : ∀ m, m < 16 → isPlain (Hex.upperDigit m) := by decide
  have hmod : Hex.upperDigit (n % 16) = Hex.upperDigit n := by simp [Hex.upperDigit]
  exact hmod ▸ h (n % 16) (Nat.mod_lt _ (by decide))

/-- What a form writes for a character is plain, a blank or an octet. -/
theorem mem_encodeChar {c d : Char} (h : d ∈ encodeChar c) : isPlain d ∨ d = '+' ∧
    c = ' ' ∨ d = '%' := by
  unfold encodeChar at h
  split at h
  · next hplain =>
    obtain rfl := List.mem_singleton.1 h
    exact .inl hplain
  · split at h
    · next hblank => exact .inr (.inl ⟨List.mem_singleton.1 h, hblank⟩)
    · obtain ⟨b, -, hb⟩ := List.mem_flatMap.1 h
      simp only [percent, List.mem_cons, List.not_mem_nil, or_false] at hb
      rcases hb with rfl | rfl | rfl
      · exact .inr (.inr rfl)
      · exact .inl (isPlain_upperDigit _)
      · exact .inl (isPlain_upperDigit _)

theorem mem_encodeChars {cs : List Char} {d : Char} (h : d ∈ encodeChars cs) :
    isPlain d ∨ d = '+' ∨ d = '%' := by
  obtain ⟨c, -, hd⟩ := List.mem_flatMap.1 h
  exact (mem_encodeChar hd).imp_right (Or.imp_left And.left)

theorem blanks_encodeChar {c : Char} (h : c ≠ ' ') : blanks (encodeChar c) = encodeChar c := by
  refine (List.map_congr_left fun d hd => if_neg ?_).trans (List.map_id _)
  rintro rfl
  obtain hplain | ⟨-, hblank⟩ | hpercent := mem_encodeChar hd
  · exact absurd hplain (by decide)
  · exact h hblank
  · exact absurd hpercent (by decide)

theorem octets_encodeChar (c : Char) (cs : List Char) :
    octets (blanks (encodeChar c) ++ cs) = Utf8.encodeChar c ++ octets cs := by
  by_cases hblank : c = ' '
  · subst hblank
    exact octets_cons (by decide) cs
  · rw [blanks_encodeChar hblank, encodeChar, if_neg hblank]
    split
    · next hplain =>
      refine octets_cons ?_ cs
      rintro rfl
      exact absurd hplain (by decide)
    · exact octets_percents (fun b => lt_of_mem_encodeChar) cs

theorem octets_encodeChars (cs : List Char) :
    octets (blanks (encodeChars cs)) = Utf8.encode cs := by
  induction cs with
  | nil => rfl
  | cons c cs ih =>
    rw [encodeChars, List.flatMap_cons, ← encodeChars, blanks, List.map_append, ← blanks, ← blanks,
      octets_encodeChar, ih]
    rfl

/-- A name or a value reads back. -/
theorem decodeValue_encodeChars (s : String) : decodeValue (encodeChars s.toList) = s := by
  rw [decodeValue, octets_encodeChars, Utf8.decodeLossy_encode, String.ofList_toList]

/-! ## Fields -/

/-- One field of an encoded form. -/
def encodeField (f : String × String) : List Char :=
  encodeChars f.1.toList ++ '=' :: encodeChars f.2.toList

theorem encode_eq (fs : List (String × String)) :
    encode fs = ((fs.map encodeField).intersperse ['&']).flatten := rfl

theorem mem_encodeField {f : String × String} {d : Char} (h : d ∈ encodeField f) :
    isPlain d ∨ d = '+' ∨ d = '%' ∨ d = '=' := by
  rw [encodeField, List.mem_append, List.mem_cons] at h
  obtain h | rfl | h := h
  · exact (mem_encodeChars h).imp_right (Or.imp_right .inl)
  · exact .inr (.inr (.inr rfl))
  · exact (mem_encodeChars h).imp_right (Or.imp_right .inl)

theorem mem_encode {fs : List (String × String)} {d : Char} (h : d ∈ encode fs) :
    isPlain d ∨ d = '+' ∨ d = '%' ∨ d = '=' ∨ d = '&' := by
  obtain rfl | ⟨piece, hpiece, hd⟩ := mem_flatten_intersperse h
  · exact .inr (.inr (.inr (.inr rfl)))
  · obtain ⟨f, -, rfl⟩ := List.mem_map.1 hpiece
    exact (mem_encodeField hd).imp_right (Or.imp_right (Or.imp_right .inl))

/-- The fields of a form read back, in their order. -/
theorem fields_encode (fs : List (String × String)) : fields (encode fs) = fs := by
  cases fs with
  | nil => rfl
  | cons f fs =>
    have hamp : ∀ piece ∈ (f :: fs).map encodeField, '&' ∉ piece :=
      List.forall_mem_map.2 fun f _ hmem => absurd (mem_encodeField hmem) (by decide)
    -- No field is dropped: there is at least its `=`.
    have hne : ∀ piece ∈ (f :: fs).map encodeField, !piece.isEmpty := by
      refine List.forall_mem_map.2 fun f _ => ?_
      simp [encodeField]
    rw [fields, encode_eq, splitAt_intersperse hamp (by simp),
      List.filter_eq_self.2 hne, List.map_map]
    refine (List.map_congr_left fun f _ => ?_).trans (List.map_id _)
    have heq : '=' ∉ encodeChars f.1.toList := fun hmem => absurd (mem_encodeChars hmem) (by decide)
    rw [Function.comp_apply, encodeField, cutAt?_append heq]
    exact Prod.ext (decodeValue_encodeChars f.1) (decodeValue_encodeChars f.2)

end Form

end Text

namespace Page

open Text Http

/-- The parameters that a request for an address has. -/
def parametersOf (address : String) : List (String × String) :=
  Request.parameters { query := (Request.splitTarget address).2 }

/-- An address of the dashboard splits at its question mark, as an encoded query has no other one.
-/
theorem splitTarget_address (path : String) (pairs : List (String × String)) :
    Request.splitTarget (address path pairs) =
      (dashboard, some (String.ofList
        (Form.encode (("path", path) :: pairs.filter fun p => !p.2.isEmpty)))) := by
  have hhash : ∀ c ∈ Form.encode (("path", path) :: pairs.filter fun p => !p.2.isEmpty),
      decide (c ≠ '#') := by
    intro c hc
    refine decide_eq_true ?_
    rintro rfl
    exact absurd (Form.mem_encode hc) (by decide)
  have htext : (address path pairs).toList = dashboard.toList ++
      '?' :: Form.encode (("path", path) :: pairs.filter fun p => !p.2.isEmpty) := by
    simp only [address, String.toList_append, String.toList_ofList, List.append_assoc]
    rfl
  generalize Form.encode (("path", path) :: pairs.filter fun p => !p.2.isEmpty) =
    query at hhash htext ⊢
  have hdashboard : dashboard.toList.all fun c => c ≠ '#' := rfl
  have htarget : (address path pairs).toList.takeWhile (fun c => c ≠ '#') = dashboard.toList ++
      '?' :: query := by
    rw [htext, List.takeWhile_append_of_pos (List.all_eq_true.1 hdashboard),
      List.takeWhile_cons_of_pos rfl, List.takeWhile_eq_self_iff.2 hhash]
  have hstart : (dashboard.toList ++ '?' :: query).head? = some '/' := rfl
  rw [Request.splitTarget, htarget, if_pos hstart, cutAt?_append (by decide)]
  rfl

/-- A link carries its page and the parameters that are not empty, in their order. -/
theorem parametersOf_address (path : String) (pairs : List (String × String)) :
    parametersOf (address path pairs) = ("path", path) :: pairs.filter fun p => !p.2.isEmpty := by
  rw [parametersOf, splitTarget_address, Request.parameters, Option.getD_some, String.toList_ofList,
    Form.fields_encode]

end Page

end VisitLog

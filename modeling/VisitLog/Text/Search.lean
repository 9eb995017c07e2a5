/-!
# Searching in text

Literals at the head of a text, the first place where a recogniser succeeds, and cutting at a
character. Main statements: `dropLiteral?_append` and `contains_append` relate them to `++`.
-/

namespace VisitLog.Text

/-- What follows a literal at the head of the text. -/
def dropLiteral? : (literal text : List Char) → Option (List Char)
  | [], cs => some cs
  | _ :: _, [] => none
  | l :: ls, c :: cs => if l = c then dropLiteral? ls cs else none

/-- The result of a recogniser at the first place where it succeeds, with the text from there. -/
def firstMatch {α : Type} (p : List Char → Option α) : List Char → Option α
  | [] => p []
  | c :: cs =>
    match p (c :: cs) with
    | some a => some a
    | none => firstMatch p cs

/-- What follows the first occurrence of a literal. -/
def after? (literal cs : List Char) : Option (List Char) :=
  firstMatch (dropLiteral? literal) cs

/-- The literal occurs in the text. -/
def contains (literal cs : List Char) : Bool :=
  (after? literal cs).isSome

/-- The string holds the other one. -/
def containsText (s literal : String) : Bool :=
  contains literal.toList s.toList

/-- What follows the first of several literals that stands at the head of the text. -/
def dropAny? (literals : List (List Char)) (cs : List Char) : Option (List Char) :=
  literals.findSome? fun l => dropLiteral? l cs

/-- The text up to the first occurrence of a literal, or all of it. -/
def before (literal : List Char) : List Char → List Char
  | [] => []
  | c :: cs => if (dropLiteral? literal (c :: cs)).isSome then [] else c :: before literal cs

/-- The pieces of a text between occurrences of a character. -/
def splitAt (sep : Char) : List Char → List (List Char)
  | [] => [[]]
  | c :: cs =>
    if c = sep then [] :: splitAt sep cs
    else
      match splitAt sep cs with
      | piece :: pieces => (c :: piece) :: pieces
      | [] => [[c]]

/-- The parts before and after the first occurrence of a character. -/
def cutAt? (sep : Char) : List Char → Option (List Char × List Char)
  | [] => none
  | c :: cs =>
    if c = sep then some ([], cs)
    else (cutAt? sep cs).map fun (a, b) => (c :: a, b)

/-! ## Lemmas -/

@[simp] theorem dropLiteral?_append (l cs : List Char) : dropLiteral? l (l ++ cs) = some cs := by
  induction l with
  | nil => rfl
  | cons x l ih => simp [dropLiteral?, ih]

theorem eq_append_of_dropLiteral? {l cs rest : List Char} (h : dropLiteral? l cs = some rest) :
    cs = l ++ rest := by
  induction l generalizing cs with
  | nil => simpa [dropLiteral?] using h
  | cons x l ih =>
    cases cs with
    | nil => simp [dropLiteral?] at h
    | cons c cs =>
      simp only [dropLiteral?] at h
      split at h
      · next hx => subst hx; simp [ih h]
      · cases h

/-- A text is found between any others. -/
theorem contains_append (a l b : List Char) : contains l (a ++ (l ++ b)) := by
  induction a with
  | nil =>
    simp only [contains, after?, List.nil_append]
    cases h : l ++ b with
    | nil =>
      have hl : l = [] := (List.append_eq_nil_iff.1 h).1
      subst hl
      simp [firstMatch, dropLiteral?]
    | cons c cs => simp [firstMatch, ← h]
  | cons c a ih =>
    simp only [contains, after?, List.cons_append, firstMatch] at ih ⊢
    split
    · rfl
    · exact ih

/-- What is found stands somewhere in the text. -/
theorem exists_append_of_contains {l cs : List Char} (h : contains l cs) :
    ∃ a b, cs = a ++ (l ++ b) := by
  induction cs with
  | nil =>
    simp only [contains, after?, firstMatch] at h
    obtain ⟨r, hr⟩ := Option.isSome_iff_exists.1 h
    exact ⟨[], r, by simpa using eq_append_of_dropLiteral? hr⟩
  | cons c cs ih =>
    simp only [contains, after?, firstMatch] at h
    cases hd : dropLiteral? l (c :: cs) with
    | some r => exact ⟨[], r, by simpa using eq_append_of_dropLiteral? hd⟩
    | none =>
      rw [hd] at h
      obtain ⟨a, b, hab⟩ := ih h
      exact ⟨c :: a, b, by simp [hab]⟩

end VisitLog.Text

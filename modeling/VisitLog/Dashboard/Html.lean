/-!
# Markup

A tree of elements and text. Texts and attribute values are escaped where the tree is written, so no
text can open or close a tag. Markup that is fixed in advance stands in `verbatim` nodes.

Main statements: `escape_append` and `not_mem_escapeChars` (no angle bracket or quote is left).
-/

namespace VisitLog

/-- A character as markup writes it. -/
def Html.escapeChar (c : Char) : List Char :=
  match c with
  | '&' => ['&', 'a', 'm', 'p', ';']
  | '<' => ['&', 'l', 't', ';']
  | '>' => ['&', 'g', 't', ';']
  | '"' => ['&', 'q', 'u', 'o', 't', ';']
  | '\'' => ['&', '#', '3', '9', ';']
  | c => [c]

/-- Characters as markup writes them. -/
def Html.escapeChars (cs : List Char) : List Char :=
  cs.flatMap Html.escapeChar

/-- A text as markup writes it. -/
def Html.escape (s : String) : String :=
  String.ofList (Html.escapeChars s.toList)

/-- An attribute of an element. -/
inductive Attribute where
  /-- The value is a text. -/
  | text (name value : String)
  /-- The value is written as it stands. -/
  | verbatim (name value : String)
  deriving DecidableEq, Repr

/-- An attribute as markup writes it. -/
def Attribute.render : Attribute → String
  | text name value => " " ++ name ++ "=\"" ++ Html.escape value ++ "\""
  | verbatim name value => " " ++ name ++ "=\"" ++ value ++ "\""

/-- The attributes of an element as markup writes them. -/
def Attribute.renderAll (as : List Attribute) : String :=
  String.join (as.map Attribute.render)

/-- Markup. -/
inductive Html where
  | text (s : String)
  /-- Markup that is written as it stands. -/
  | verbatim (s : String)
  | element (tag : String) (attributes : List Attribute) (content : List Html)
  /-- An element without content and without an end tag. -/
  | void (tag : String) (attributes : List Attribute)

namespace Html

mutual

/-- The text of markup. -/
def render : Html → String
  | text s => escape s
  | verbatim s => s
  | element tag attributes content =>
    "<" ++ tag ++ Attribute.renderAll attributes ++ ">" ++ renderAll content ++ "</" ++ tag ++ ">"
  | void tag attributes => "<" ++ tag ++ Attribute.renderAll attributes ++ ">"

/-- The text of markup in a row. -/
def renderAll : List Html → String
  | [] => ""
  | h :: hs => render h ++ renderAll hs

end

/-- An element of a class. -/
def ofClass (tag name : String) (content : List Html) : Html :=
  element tag [.text "class" name] content

/-- An element without attributes. -/
def plain (tag : String) (content : List Html) : Html :=
  element tag [] content

/-- A link. -/
def link (target : String) (content : List Html) : Html :=
  element "a" [.text "href" target] content

/-! ## Lemmas -/

@[simp] theorem escapeChars_append (a b : List Char) :
    escapeChars (a ++ b) = escapeChars a ++ escapeChars b := by
  simp [escapeChars]

theorem escape_append (a b : String) : escape (a ++ b) = escape a ++ escape b := by
  simp [escape, escapeChars]

/-- The character delimits tags or attribute values. -/
def isDelimiter (c : Char) : Bool :=
  c = '<' || c = '>' || c = '"' || c = '\''

theorem isDelimiter_of_mem_escapeChar {c x : Char} (h : x ∈ escapeChar c) :
    isDelimiter x = false := by
  have plain (s : List Char) (hs : s.all fun y => !isDelimiter y) (hx : x ∈ s) :
      isDelimiter x = false := by
    simpa using List.all_eq_true.1 hs x hx
  unfold escapeChar at h
  split at h
  · exact plain _ (by decide) h
  · exact plain _ (by decide) h
  · exact plain _ (by decide) h
  · exact plain _ (by decide) h
  · exact plain _ (by decide) h
  · rw [List.mem_singleton] at h
    subst h
    simp_all [isDelimiter]

theorem not_mem_escapeChars {c : Char} (h : isDelimiter c) (cs : List Char) :
    c ∉ escapeChars cs := by
  intro hc
  obtain ⟨x, _, hx⟩ := List.mem_flatMap.1 hc
  exact absurd h (by simp [isDelimiter_of_mem_escapeChar hx])

theorem renderAll_append (a b : List Html) : renderAll (a ++ b) = renderAll a ++ renderAll b := by
  induction a with
  | nil => simp [renderAll]
  | cons h hs ih => simp [renderAll, ih, String.append_assoc]

end Html

end VisitLog

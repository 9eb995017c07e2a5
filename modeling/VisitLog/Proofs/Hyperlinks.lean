import VisitLog.Dashboard.Html

/-!
# Links read back

What is written can be read. An escaped text reads back (`unescape_escape`), and so the links that a
reader finds in a text are those of the tree that it was written from, whatever texts stand beside
them. The reader follows tags and quoted values only, so names have to be plain and what is written
as it stands must not move the reader; of such a tree `Html.LeadsTo` says where its links lead.

Main statement: `Html.readsBack`.
-/

namespace VisitLog

namespace Html

/-! ## Entities -/

/-- The entities that stand in escaped texts. -/
def entities : List String := ["&amp;", "&lt;", "&gt;", "&quot;", "&#39;"]

/-- The characters with each entity replaced, from left to right. -/
def unescapeChars : List Char → List Char
  | '&' :: 'a' :: 'm' :: 'p' :: ';' :: cs => '&' :: unescapeChars cs
  | '&' :: 'l' :: 't' :: ';' :: cs => '<' :: unescapeChars cs
  | '&' :: 'g' :: 't' :: ';' :: cs => '>' :: unescapeChars cs
  | '&' :: 'q' :: 'u' :: 'o' :: 't' :: ';' :: cs => '"' :: unescapeChars cs
  | '&' :: '#' :: '3' :: '9' :: ';' :: cs => '\'' :: unescapeChars cs
  | c :: cs => c :: unescapeChars cs
  | [] => []

/-- The text with each entity replaced. -/
def unescape (s : String) : String :=
  String.ofList (unescapeChars s.toList)

/-- An entity has its ampersand in front only, and no other character has one. -/
theorem escapeChar_cases (c : Char) :
    (∃ e ∈ entities, e.toList = escapeChar c ∧ ∃ name, escapeChar c = '&' :: name ∧ '&' ∉ name) ∨
      c ≠ '&' ∧ escapeChar c = [c] := by
  unfold escapeChar
  split
  · exact .inl ⟨"&amp;", by simp [entities], rfl, _, rfl, by decide⟩
  · exact .inl ⟨"&lt;", by simp [entities], rfl, _, rfl, by decide⟩
  · exact .inl ⟨"&gt;", by simp [entities], rfl, _, rfl, by decide⟩
  · exact .inl ⟨"&quot;", by simp [entities], rfl, _, rfl, by decide⟩
  · exact .inl ⟨"&#39;", by simp [entities], rfl, _, rfl, by decide⟩
  · next hc _ _ _ _ => exact .inr ⟨hc, rfl⟩

theorem unescapeChars_cons {c : Char} (h : c ≠ '&') (cs : List Char) :
    unescapeChars (c :: cs) = c :: unescapeChars cs := by
  rw [unescapeChars] <;> exact fun _ hc => absurd hc h

theorem unescapeChars_escapeChar (c : Char) (cs : List Char) :
    unescapeChars (escapeChar c ++ cs) = c :: unescapeChars cs := by
  unfold escapeChar
  split
  · rfl
  · rfl
  · rfl
  · rfl
  · rfl
  · next hc _ _ _ _ => exact unescapeChars_cons hc cs

theorem unescapeChars_escapeChars (cs : List Char) : unescapeChars (escapeChars cs) = cs := by
  induction cs with
  | nil => rfl
  | cons c cs ih => rw [escapeChars, List.flatMap_cons, unescapeChars_escapeChar, ← escapeChars, ih]

theorem unescape_escape (s : String) : unescape (escape s) = s := by
  simp [unescape, escape, unescapeChars_escapeChars]

/-- Every ampersand in an escaped text starts one of the entities. -/
theorem exists_entity_of_escapeChars {cs before after : List Char}
    (h : escapeChars cs = before ++ '&' :: after) :
    ∃ e ∈ entities, e.toList <+: '&' :: after := by
  induction cs generalizing before with
  | nil => simp [escapeChars] at h
  | cons c cs ih =>
    rw [escapeChars, List.flatMap_cons, ← escapeChars, List.append_eq_append_iff] at h
    rcases h with ⟨skipped, -, hrest⟩ | ⟨rest, hchar, hrest⟩
    · exact ih hrest
    · -- The ampersand is one of those that `c` is written with, or the first one behind them.
      cases rest with
      | nil =>
        have hrest : escapeChars cs = [] ++ '&' :: after := hrest.symm
        exact ih hrest
      | cons d rest =>
        cases hrest
        rcases escapeChar_cases c with ⟨e, he, hwritten, name, hname, hamp⟩ | ⟨hc, hwritten⟩
        · rw [hname] at hchar
          cases before with
          | nil =>
            refine ⟨e, he, ?_⟩
            rw [hwritten, hname, hchar]
            exact List.prefix_append ..
          | cons x before =>
            cases hchar
            simp at hamp
        · rw [hwritten] at hchar
          cases before with
          | nil =>
            cases hchar
            exact absurd rfl hc
          | cons x before => simp at hchar

/-! ## Reading links -/

/-- Where a reader of markup stands: between tags, in a tag behind the beginning of a word, or in a
quoted value behind the word before it. -/
inductive Place where
  | content
  | tag (word : List Char)
  | quoted (word read : List Char)

/-- The targets of the links in markup, for a reader that comes from some place. -/
def linksFrom : Place → List Char → List String
  | _, [] => []
  | .content, c :: cs => linksFrom (if c = '<' then .tag [] else .content) cs
  | .tag word, c :: cs =>
    if c = '>' then linksFrom .content cs
    else if c = '"' then linksFrom (.quoted word []) cs
    else if c = ' ' then linksFrom (.tag []) cs
    else linksFrom (.tag (word ++ [c])) cs
  | .quoted word read, c :: cs =>
    if c = '"' then
      if word = "href=".toList then String.ofList (unescapeChars read) :: linksFrom (.tag []) cs
      else linksFrom (.tag []) cs
    else linksFrom (.quoted word (read ++ [c])) cs

/-- The targets of the links in the text of a page. -/
def linksIn (s : String) : List String :=
  linksFrom .content s.toList

theorem linksFrom_content {a : List Char} (h : '<' ∉ a) (rest : List Char) :
    linksFrom .content (a ++ rest) = linksFrom .content rest := by
  induction a with
  | nil => rfl
  | cons c a ih =>
    simp only [List.mem_cons, not_or] at h
    rw [List.cons_append, linksFrom, if_neg (Ne.symm h.1), ih h.2]

/-- A word that names a tag or an attribute. -/
def isName (cs : List Char) : Bool :=
  cs.all fun c => c ≠ '>' && c ≠ '"' && c ≠ ' '

theorem linksFrom_tag {a : List Char} (h : isName a) (word rest : List Char) :
    linksFrom (.tag word) (a ++ rest) = linksFrom (.tag (word ++ a)) rest := by
  induction a generalizing word with
  | nil => simp
  | cons c a ih =>
    simp only [isName, List.all_cons, Bool.and_eq_true, decide_eq_true_eq] at h
    rw [List.cons_append, linksFrom, if_neg h.1.1.1, if_neg h.1.1.2, if_neg h.1.2, ih h.2]
    simp

theorem linksFrom_quoted {a : List Char} (h : '"' ∉ a) (word read rest : List Char) :
    linksFrom (.quoted word read) (a ++ '"' :: rest) =
      if word = "href=".toList then String.ofList (unescapeChars (read ++ a)) ::
        linksFrom (.tag []) rest
      else linksFrom (.tag []) rest := by
  induction a generalizing read with
  | nil => simp [linksFrom]
  | cons c a ih =>
    simp only [List.mem_cons, not_or] at h
    rw [List.cons_append, linksFrom, if_neg (Ne.symm h.1), ih h.2]
    simp

/-- An attribute and its value. -/
theorem linksFrom_value {name value : List Char} (hname : isName name) (hvalue : '"' ∉ value)
    (word rest : List Char) :
    linksFrom (.tag word) (' ' :: (name ++ '=' :: '"' :: (value ++ '"' :: rest))) =
      if name = "href".toList then String.ofList (unescapeChars value) :: linksFrom (.tag []) rest
      else linksFrom (.tag []) rest := by
  have hword : "href=".toList = "href".toList ++ ['='] := rfl
  have hlast : name ++ ['='] = "href=".toList ↔
      name = "href".toList := by rw [hword, List.append_left_inj]
  have hstart : linksFrom (.tag word) (' ' :: (name ++ '=' :: '"' :: (value ++ '"' :: rest))) =
      linksFrom (.tag name) ('=' :: '"' :: (value ++ '"' :: rest)) :=
    linksFrom_tag hname [] _
  have hopen : linksFrom (.tag name) ('=' :: '"' :: (value ++ '"' :: rest)) =
      linksFrom (.quoted (name ++ ['=']) []) (value ++ '"' :: rest) :=
    rfl
  rw [hstart, hopen, linksFrom_quoted hvalue, List.nil_append]
  simp only [hlast]

end Html

/-! ## Links of a tree -/

namespace Attribute

/-- The target that an attribute names. -/
def href? : Attribute → Option String
  | text name value => if name = "href" then some value else none
  | verbatim .. => none

/-- The attribute is plain, and if it names a target, that is a good one. -/
def LeadsTo (good : String → Prop) : Attribute → Prop
  | text name value => Html.isName name.toList ∧ (name = "href" → good value)
  | verbatim name value => Html.isName name.toList ∧ name ≠ "href" ∧ '"' ∉ value.toList

end Attribute

namespace Html

mutual

/-- The targets of the links of a tree, in order. -/
def hrefs : Html → List String
  | text _ => []
  | verbatim _ => []
  | element _ attributes content => attributes.filterMap Attribute.href? ++ hrefsAll content
  | void _ attributes => attributes.filterMap Attribute.href?

/-- The targets of the links of trees in a row. -/
def hrefsAll : List Html → List String
  | [] => []
  | h :: hs => hrefs h ++ hrefsAll hs

end

/-- Markup that a reader of links passes. -/
def IsInert (s : String) : Prop :=
  ∀ rest, linksFrom .content (s.toList ++ rest) = linksFrom .content rest

/-- A plain tree whose links lead to good targets. -/
inductive LeadsTo (good : String → Prop) : Html → Prop
  | text (s : String) : LeadsTo good (text s)
  | verbatim {s : String} : IsInert s → LeadsTo good (verbatim s)
  | element {tag : String} {attributes : List Attribute} {content : List Html} : isName tag.toList →
    (∀ a ∈ attributes, a.LeadsTo good) → (∀ h ∈ content, LeadsTo good h) →
    LeadsTo good (element tag attributes content)
  | void {tag : String} {attributes : List Attribute} : isName tag.toList →
    (∀ a ∈ attributes, a.LeadsTo good) → LeadsTo good (void tag attributes)

/-- Text that opens no tag is inert. -/
theorem isInert_ofList {cs : List Char} (h : cs.all fun c => c ≠ '<') :
    IsInert (String.ofList cs) := by
  intro rest
  rw [String.toList_ofList]
  exact linksFrom_content (fun hmem => by simpa using List.all_eq_true.1 h _ hmem) rest

theorem isInert_append {a b : String} (ha : IsInert a) (hb : IsInert b) : IsInert (a ++ b) := by
  intro rest
  rw [String.toList_append, List.append_assoc, ha, hb]

theorem isInert_join {ss : List String} (h : ∀ s ∈ ss, IsInert s) : IsInert (String.join ss) := by
  induction ss with
  | nil => exact fun _ => rfl
  | cons s ss ih =>
    obtain ⟨hs, hss⟩ := List.forall_mem_cons.1 h
    rw [String.join_cons]
    exact isInert_append hs (ih hss)

variable {good : String → Prop} {rest : List Char}

/-- Reading over an attribute finds the link in it, if it has one, and comes back into the tag. -/
theorem linksFrom_attribute {a : Attribute} (h : a.LeadsTo good) (word : List Char) :
    linksFrom (.tag word) (a.render.toList ++ rest) = a.href?.toList ++
    linksFrom (.tag []) rest := by
  cases a with
  | text name value =>
    have hwritten : (Attribute.text name value).render.toList ++ rest =
        ' ' :: (name.toList ++ '=' :: '"' :: (escapeChars value.toList ++ '"' :: rest)) := by
      simp [Attribute.render, escape]
    rw [hwritten, linksFrom_value h.1 (not_mem_escapeChars rfl _), unescapeChars_escapeChars,
      String.ofList_toList]
    simp only [Attribute.href?, String.toList_inj]
    split <;> rfl
  | verbatim name value =>
    have hwritten : (Attribute.verbatim name value).render.toList ++ rest =
        ' ' :: (name.toList ++ '=' :: '"' :: (value.toList ++ '"' :: rest)) := by
      simp [Attribute.render]
    rw [hwritten, linksFrom_value h.1 h.2.2, if_neg fun e => h.2.1 (String.toList_inj.1 e)]
    rfl

/-- The attributes of a tag, up to its end. -/
theorem linksFrom_attributes {as : List Attribute} (h : ∀ a ∈ as, a.LeadsTo good)
    (word : List Char) :
    linksFrom (.tag word) ((Attribute.renderAll as).toList ++ '>' :: rest) =
      as.filterMap Attribute.href? ++ linksFrom .content rest := by
  induction as generalizing word with
  | nil => rfl
  | cons a as ih =>
    obtain ⟨ha, has⟩ := List.forall_mem_cons.1 h
    have hwritten : (Attribute.renderAll (a :: as)).toList = a.render.toList ++
        (Attribute.renderAll as).toList := by
      simp [Attribute.renderAll]
    rw [hwritten, List.append_assoc, linksFrom_attribute ha, ih has, List.filterMap_cons]
    cases a.href? <;> rfl

/-- A start tag. -/
theorem linksFrom_start {tag : String} {as : List Attribute} (htag : isName tag.toList)
    (h : ∀ a ∈ as, a.LeadsTo good) :
    linksFrom .content ('<' :: (tag.toList ++ ((Attribute.renderAll as).toList ++ '>' :: rest))) =
      as.filterMap Attribute.href? ++ linksFrom .content rest :=
  (linksFrom_tag htag [] _).trans (linksFrom_attributes h _)

/-- An end tag. -/
theorem linksFrom_end {tag : String} (htag : isName tag.toList) :
    linksFrom .content ('<' :: '/' :: (tag.toList ++ '>' :: rest)) = linksFrom .content rest :=
  linksFrom_tag htag ['/'] _

/-- What is read from each tree is read from all of them. -/
theorem linksFrom_row {hs : List Html}
    (h : ∀ x ∈ hs, ∀ rest, linksFrom .content ((render x).toList ++ rest) = hrefs x ++
      linksFrom .content rest) :
    linksFrom .content ((renderAll hs).toList ++ rest) = hrefsAll hs ++
    linksFrom .content rest := by
  induction hs with
  | nil => simp [renderAll, hrefsAll]
  | cons x hs ih =>
    obtain ⟨hx, hhs⟩ := List.forall_mem_cons.1 h
    rw [renderAll, String.toList_append, List.append_assoc, hx, ih hhs, hrefsAll, List.append_assoc]

/-- Reading over an element finds the links in it, in order, and comes back to where it began. -/
theorem linksFrom_render {x : Html} (h : LeadsTo good x) (rest : List Char) :
    linksFrom .content ((render x).toList ++ rest) = hrefs x ++ linksFrom .content rest := by
  induction h generalizing rest with
  | text s =>
    rw [render, escape, String.toList_ofList, linksFrom_content (not_mem_escapeChars rfl _), hrefs,
      List.nil_append]
  | verbatim hs => rw [render, hs, hrefs, List.nil_append]
  | @element tag attributes content htag has _ ih =>
    have hwritten : (render (element tag attributes content)).toList ++ rest =
        '<' :: (tag.toList ++ ((Attribute.renderAll attributes).toList ++
          '>' :: ((renderAll content).toList ++ '<' :: '/' :: (tag.toList ++ '>' :: rest)))) := by
      simp [render]
    rw [hwritten, linksFrom_start htag has, linksFrom_row ih, linksFrom_end htag, hrefs,
      List.append_assoc]
  | @void tag attributes htag has =>
    have hwritten : (render (void tag attributes)).toList ++ rest =
        '<' :: (tag.toList ++ ((Attribute.renderAll attributes).toList ++ '>' :: rest)) := by
      simp [render]
    rw [hwritten, linksFrom_start htag has, hrefs]

theorem linksIn_renderAll {hs : List Html} (h : ∀ x ∈ hs, LeadsTo good x) :
    linksIn (renderAll hs) = hrefsAll hs := by
  have hread : linksFrom .content ((renderAll hs).toList ++ []) = hrefsAll hs ++
      linksFrom .content [] :=
    linksFrom_row fun x hx => linksFrom_render (h x hx)
  rwa [List.append_nil, linksFrom, List.append_nil] at hread

theorem hrefsAll_eq_flatMap (hs : List Html) : hrefsAll hs = hs.flatMap hrefs := by
  induction hs with
  | nil => rfl
  | cons h hs ih => rw [hrefsAll, ih, List.flatMap_cons]

theorem good_of_href? {as : List Attribute} (h : ∀ a ∈ as, a.LeadsTo good) :
    ∀ u ∈ as.filterMap Attribute.href?, good u := by
  intro u hu
  obtain ⟨a, ha, hu⟩ := List.mem_filterMap.1 hu
  have hgood := h a ha
  cases a with
  | text name value =>
    obtain ⟨hname, hvalue⟩ := Option.ite_none_right_eq_some.1 hu
    cases hvalue
    exact hgood.2 hname
  | verbatim name value => cases hu

/-- Every link of an element is one that its parts allow. -/
theorem good_of_mem_hrefs {x : Html} (h : LeadsTo good x) : ∀ u ∈ hrefs x, good u := by
  induction h with
  | text s => simp [hrefs]
  | verbatim hs => simp [hrefs]
  | element htag has _ ih =>
    rw [hrefs, hrefsAll_eq_flatMap]
    intro u hu
    rcases List.mem_append.1 hu with hu | hu
    · exact good_of_href? has u hu
    · obtain ⟨y, hy, hu⟩ := List.mem_flatMap.1 hu
      exact ih y hy u hu
  | void htag has =>
    rw [hrefs]
    exact good_of_href? has

/-- The links that are read from the text of some trees are theirs, and lead to good targets. -/
structure ReadsBack (good : String → Prop) (hs : List Html) : Prop where
  links : linksIn (renderAll hs) = hrefsAll hs
  targets : ∀ u ∈ hrefsAll hs, good u

theorem readsBack {hs : List Html} (h : ∀ x ∈ hs, LeadsTo good x) : ReadsBack good hs where
  links := linksIn_renderAll h
  targets := by
    rw [hrefsAll_eq_flatMap]
    intro u hu
    obtain ⟨x, hx, hu⟩ := List.mem_flatMap.1 hu
    exact good_of_mem_hrefs (h x hx) u hu

example :
    linksIn (render (link "?a=\"1\"&b" [.text "<a href=\"x\">"])) = ["?a=\"1\"&b"] := by decide

/-! ## Plain trees -/

section

variable {s tag name target : String} {as : List Attribute} {content : List Html}

@[simp] theorem leadsTo_text : LeadsTo good (text s) :=
  .text s

@[simp] theorem leadsTo_verbatim : LeadsTo good (verbatim s) ↔ IsInert s := by
  refine ⟨fun h => ?_, .verbatim⟩
  cases h
  assumption

@[simp] theorem leadsTo_element : LeadsTo good (element tag as content) ↔
    isName tag.toList ∧ (∀ a ∈ as, a.LeadsTo good) ∧ ∀ x ∈ content, LeadsTo good x := by
  refine ⟨fun h => ?_, fun h => .element h.1 h.2.1 h.2.2⟩
  cases h with
  | element htag has hcontent => exact ⟨htag, has, hcontent⟩

@[simp] theorem leadsTo_void : LeadsTo good (void tag as) ↔ isName tag.toList ∧
    ∀ a ∈ as, a.LeadsTo good := by
  refine ⟨fun h => ?_, fun h => .void h.1 h.2⟩
  cases h with
  | void htag has => exact ⟨htag, has⟩

@[simp] theorem leadsTo_ofClass :
    LeadsTo good (ofClass tag name content) ↔ isName tag.toList ∧ ∀ x ∈ content,
    LeadsTo good x := by
  simp [ofClass, Attribute.LeadsTo, isName]

@[simp] theorem leadsTo_plain :
    LeadsTo good (plain tag content) ↔ isName tag.toList ∧ ∀ x ∈ content, LeadsTo good x := by
  simp [plain]

@[simp] theorem leadsTo_link : LeadsTo good (link target content) ↔ good target ∧ ∀ x ∈ content,
    LeadsTo good x := by
  simp [link, Attribute.LeadsTo, isName]

end

end Html

end VisitLog

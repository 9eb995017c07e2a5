import Mathlib.Data.List.Forall2
import VisitLog.Dashboard.PageViews
import VisitLog.Dashboard.VisitorActivity
import VisitLog.Dashboard.VisitorPaths
import VisitLog.Proofs.Tables

/-!
# The markup of a page

Only angle brackets and quotes open or close tags and attribute values. Texts are escaped where a
tree is written, so the delimiters of what is written are those of the tree without its texts, its
frame (`Html.delimiters_frame`). Each part of a page has a frame that tells no more of the visits
than how many there are.

Main statement: `Dashboard.keepsMarkup`.
-/

namespace VisitLog

namespace Html

/-! ## Frames -/

/-- The angle brackets and quotes of a text, in order. -/
def delimiters (s : String) : List Char :=
  s.toList.filter isDelimiter

@[simp] theorem delimiters_append (a b : String) :
    delimiters (a ++ b) = delimiters a ++ delimiters b := by
  rw [delimiters, String.toList_append, List.filter_append, delimiters, delimiters]

@[simp] theorem delimiters_escape (s : String) : delimiters (escape s) = [] := by
  rw [delimiters, escape, String.toList_ofList]
  exact List.filter_eq_nil_iff.2 fun c hc hd => not_mem_escapeChars hd _ hc

end Html

open Html

/-- The attribute with its text left out. -/
def Attribute.frame : Attribute → Attribute
  | text name _ => text name ""
  | verbatim name value => verbatim name value

namespace Html

mutual

/-- The tree with its texts left out: tags, attributes, and what is written as it stands. -/
def frame : Html → Html
  | text _ => text ""
  | verbatim s => verbatim s
  | element tag attributes content => element tag (attributes.map Attribute.frame) (frames content)
  | void tag attributes => void tag (attributes.map Attribute.frame)

/-- The trees in a row with their texts left out. -/
def frames : List Html → List Html
  | [] => []
  | h :: hs => frame h :: frames hs

end

theorem delimiters_attribute (a : Attribute) : delimiters a.frame.render = delimiters a.render := by
  cases a with
  | text name value => simp [Attribute.frame, Attribute.render]
  | verbatim name value => rfl

theorem delimiters_attributes (as : List Attribute) :
    delimiters (Attribute.renderAll (as.map Attribute.frame)) =
    delimiters (Attribute.renderAll as) := by
  induction as with
  | nil => rfl
  | cons a as ih =>
    simp only [Attribute.renderAll, List.map_cons, String.join_cons, delimiters_append] at ih ⊢
    rw [delimiters_attribute, ih]

mutual

/-- A tree is written with the delimiters of its frame. -/
theorem delimiters_frame (h : Html) : delimiters (render (frame h)) = delimiters (render h) := by
  cases h with
  | text s => simp [frame, render]
  | verbatim s => rfl
  | element tag attributes content =>
    simp only [frame, render, delimiters_append, delimiters_attributes, delimiters_frames content]
  | void tag attributes => simp only [frame, render, delimiters_append, delimiters_attributes]

theorem delimiters_frames (hs : List Html) :
    delimiters (renderAll (frames hs)) = delimiters (renderAll hs) := by
  cases hs with
  | nil => rfl
  | cons h hs => simp only [frames, renderAll, delimiters_append, delimiters_frame h,
      delimiters_frames hs]

end

/-- Two pieces of markup are written with the same delimiters. -/
def SameMarkup (hs hs' : List Html) : Prop :=
  delimiters (renderAll hs) = delimiters (renderAll hs')

theorem sameMarkup_of_frames {hs hs' : List Html} (h : frames hs = frames hs') :
    SameMarkup hs hs' := by
  rw [SameMarkup, ← delimiters_frames, h, delimiters_frames]

theorem sameMarkup_of_frame {h h' : Html} (e : frame h = frame h') : SameMarkup [h] [h'] :=
  sameMarkup_of_frames (congrArg (fun h => [h]) e)

/-! ## Equal frames -/

theorem frames_eq_map (hs : List Html) : frames hs = hs.map frame := by
  induction hs with
  | nil => rfl
  | cons h hs ih => rw [frames, ih, List.map_cons]

variable {tag : String} {attributes : List Attribute} {a a' b b' : List Html} {h h' : Html}

theorem frame_element (hb : frames b = frames b') :
    frame (element tag attributes b) = frame (element tag attributes b') := by
  rw [frame, frame, hb]

theorem frames_cons (hh : frame h = frame h') (hb : frames b = frames b') :
    frames (h :: b) = frames (h' :: b') := by
  rw [frames, frames, hh, hb]

theorem frames_append (ha : frames a = frames a') (hb : frames b = frames b') :
    frames (a ++ b) = frames (a' ++ b') := by
  simp only [frames_eq_map, List.map_append] at ha hb ⊢
  rw [ha, hb]

/-- What is the same for all elements is the same for lists of one length. -/
theorem map_eq_map_of_length {α β : Type} {f : α → β} {xs ys : List α} (hf : ∀ x y, f x = f y)
    (h : xs.length = ys.length) : xs.map f = ys.map f := by
  refine List.ext_getElem (by simpa only [List.length_map] using h) fun i _ _ => ?_
  rw [List.getElem_map, List.getElem_map]
  exact hf _ _

end Html

namespace Dashboard

/-! ## Parts of pages -/

variable {α : Type} {xs ys : List α} {cs cs' : List Crumb}

theorem frames_crumbItems (h : cs.length = cs'.length) :
    frames (crumbItems cs) = frames (crumbItems cs') := by
  induction cs generalizing cs' with
  | nil => rw [List.eq_nil_of_length_eq_zero h.symm]
  | cons c cs ih =>
    obtain ⟨c', cs', rfl⟩ := List.exists_cons_of_length_eq_add_one h.symm
    have hlength := Nat.succ.inj h
    cases cs with
    | nil =>
      rw [List.eq_nil_of_length_eq_zero hlength.symm]
      rfl
    | cons d ds =>
      obtain ⟨d', ds', rfl⟩ := List.exists_cons_of_length_eq_add_one hlength.symm
      exact frames_cons rfl (ih hlength)

theorem frames_breadcrumbs (h : cs.length = cs'.length) :
    frames (breadcrumbs cs) = frames (breadcrumbs cs') := by
  cases cs with
  | nil => rw [List.eq_nil_of_length_eq_zero h.symm]
  | cons c cs =>
    obtain ⟨c', cs', rfl⟩ := List.exists_cons_of_length_eq_add_one h.symm
    exact frames_cons (frame_element (frames_cons (frame_element (frames_crumbItems h)) rfl)) rfl

/-- The frame of a table depends on the numbers of its columns and rows and on the frames of its
cells. -/
theorem frame_table {headers headers' : List String} {rows rows' : List (List Html)}
    (hheaders : headers.length = headers'.length) (hrows : rows.map frames = rows'.map frames) :
    frame (table headers rows) = frame (table headers' rows') := by
  have hhead : frames (headers.map fun h => plain "th" [.text h]) =
      frames (headers'.map fun h => plain "th" [.text h]) := by
    rw [frames_eq_map, frames_eq_map, List.map_map, List.map_map]
    exact map_eq_map_of_length (fun _ _ => rfl) hheaders
  -- The frame of the body is made of the frames of the cells.
  have hbody (rows : List (List Html)) :
      frames (rows.map fun row => plain "tr" (row.map fun cell => plain "td" [cell])) =
        (rows.map frames).map fun row => plain "tr" (row.map fun cell => plain "td" [cell]) := by
    simp only [frames_eq_map, List.map_map, plain, frame, List.map_nil,
      Function.comp_def, List.map_cons]
  refine frame_element (frames_cons ?_ (frames_cons ?_ rfl))
  · exact frame_element (frames_cons (frame_element hhead) rfl)
  · refine frame_element ?_
    rw [hbody, hbody, hrows]

/-- A table of visits, or the message that there are none. -/
theorem frame_orTable {headers : List String} {row : α → List Html} {message : String}
    (hrow : ∀ x y, frames (row x) = frames (row y)) (h : xs.length = ys.length) :
    frame (if xs.isEmpty then alertInfo message else table headers (xs.map row)) =
      frame (if ys.isEmpty then alertInfo message else table headers (ys.map row)) := by
  have hempty : xs.isEmpty = ys.isEmpty := by
    rw [Bool.eq_iff_iff, List.isEmpty_iff_length_eq_zero, List.isEmpty_iff_length_eq_zero, h]
  rw [hempty]
  split
  · rfl
  · refine frame_table rfl ?_
    rw [List.map_map, List.map_map]
    exact map_eq_map_of_length hrow h

/-- Links between pages differ in the texts of their attributes only. -/
theorem frames_pagination (path path' : String) (pairs pairs' : List (String × String))
    (page totalPages : Int) :
    frames (pagination path pairs page totalPages) =
    frames (pagination path' pairs' page totalPages) := by
  unfold pagination
  split
  · rfl
  · refine frames_cons (frame_element (frames_cons (frame_element ?_) rfl)) rfl
    refine frames_append (frames_append ?back ?numbers) ?forward
    case back => split <;> rfl
    case numbers =>
      simp only [frames_eq_map, List.map_map]
      rfl
    case forward => split <;> rfl

theorem frame_filterForm {path path' : String} {fields fields' : List Field}
    (h : fields.map Field.name = fields'.map Field.name) :
    frame (filterForm path fields) = frame (filterForm path' fields') := by
  have hinputs (fields : List Field) :
      frames (fields.map fun f =>
        .void "input" [.text "type" "text", .verbatim "name" f.name, .text "placeholder" f.label,
            .text "value" f.value]) =
      (fields.map Field.name).map fun name =>
        .void "input" [.text "type" "", .verbatim "name" name, .text "placeholder" "",
          .text "value" ""] := by
    simp only [frames_eq_map, List.map_map]
    rfl
  refine frame_element (frames_append (frames_append rfl ?_) rfl)
  rw [hinputs, hinputs, h]

theorem frame_card (title title' : String) {b b' : List Html} (h : frames b = frames b') :
    frame (card title b) = frame (card title' b') :=
  frame_element (frames_cons rfl (frames_cons (frame_element h) rfl))

theorem frames_layout (title title' : String) {b b' : List Html} (hcs : cs.length = cs'.length)
    (hb : frames b = frames b') : frames (layout title cs b) = frames (layout title' cs' b') := by
  have hmain :
      frames ([newline] ++ breadcrumbs cs ++ [newline, plain "h1" [.text title], newline] ++
        b ++ [newline]) =
      frames ([newline] ++ breadcrumbs cs' ++ [newline, plain "h1" [.text title'], newline] ++
        b' ++ [newline]) :=
    frames_append
      (frames_append (frames_append (frames_append rfl (frames_breadcrumbs hcs)) rfl) hb) rfl
  refine frames_cons rfl (frames_cons rfl (frames_cons (frame_element ?_) rfl))
  refine frames_cons rfl (frames_cons rfl (frames_cons rfl (frames_cons (frame_element ?_) rfl)))
  exact frames_cons rfl (frames_cons rfl (frames_cons rfl (frames_cons (frame_element hmain) rfl)))

/-! ## Pages -/

/-- Two listings of as many visits, on the same one of as many pages. -/
structure Listing.SameShape (l l' : Listing) : Prop where
  visitors : l.visitors.length = l'.visitors.length
  paging : l.paging = l'.paging
  totalPages : l.totalPages = l'.totalPages

variable {l l' : Listing}

theorem Listing.SameShape.frames_links (h : l.SameShape l') (page : Page) :
    frames (l.links page) = frames (l'.links page) := by
  rw [Listing.links, Listing.links, ← h.paging, ← h.totalPages]
  exact frames_pagination ..

theorem frames_listBody (h : l.SameShape l') :
    frames (VisitorActivity.listBody l) = frames (VisitorActivity.listBody l') := by
  refine frames_cons (frame_filterForm rfl) (frames_cons (frame_card _ _ ?_) rfl)
  exact frames_cons (frame_orTable (fun _ _ => rfl) h.visitors) (frames_cons rfl (h.frames_links _))

theorem frames_detailBody (v v' : Visitor) {related related' : List Visitor}
    (h : related.length = related'.length) :
    frames (VisitorActivity.detailBody v related) =
    frames (VisitorActivity.detailBody v' related') := by
  refine frames_cons (frame_card _ _ ?_) (frames_cons (frame_card _ _ ?_) rfl)
  · exact frames_cons (frame_table rfl rfl) rfl
  · exact frames_cons (frame_orTable (fun _ _ => rfl) h) rfl

/-- Two sessions of as many steps. -/
def SameSteps (s s' : Session) : Prop :=
  s.steps.length = s'.steps.length

/-- Sessions with the same numbers of steps have the same frames. -/
theorem frames_sessionBlocks {ss ss' : List Session} (h : List.Forall₂ SameSteps ss ss') :
    frames (VisitorPaths.sessionBlocks ss) = frames (VisitorPaths.sessionBlocks ss') := by
  have hblock {s s' : Session} (h : SameSteps s s') :
      frames (VisitorPaths.sessionBlock s) = frames (VisitorPaths.sessionBlock s') := by
    refine frames_cons rfl (frames_cons (frame_table rfl ?_) rfl)
    rw [List.map_map, List.map_map]
    exact map_eq_map_of_length (fun _ _ => rfl) h
  have hblocks : frames (ss.flatMap VisitorPaths.sessionBlock) =
      frames (ss'.flatMap VisitorPaths.sessionBlock) := by
    induction h with
    | nil => rfl
    | cons h _ ih => exact frames_append (hblock h) ih
  -- Without sessions there is a message in place of the blocks, so it matters which lists are
  -- empty.
  unfold VisitorPaths.sessionBlocks
  cases h with
  | nil => rfl
  | cons => exact hblocks

theorem frames_pathsBody {ss ss' : List Session} (h : l.SameShape l')
    (hss : List.Forall₂ SameSteps ss ss') :
    frames (VisitorPaths.body l ss) = frames (VisitorPaths.body l' ss') := by
  refine frames_cons (frame_filterForm rfl)
    (frames_cons (frame_card _ _ ?_) (frames_cons (frame_card _ _ ?_) rfl))
  · exact frames_cons (frame_orTable (fun _ _ => rfl) h.visitors) (h.frames_links _)
  · exact frames_sessionBlocks hss

theorem frames_pageViewsBody (h : l.SameShape l') :
    frames (PageViews.body l) = frames (PageViews.body l') := by
  refine frames_cons (frame_filterForm rfl) (frames_cons (frame_card _ _ ?_) rfl)
  exact frames_cons (frame_orTable (fun _ _ => rfl) h.visitors) (h.frames_links _)

/-- No text adds a delimiter to the dashboard. The four pages of visits are written with the same
ones for inputs that differ in their texts only (`list`, `detail`, `paths`, `pageViews`), and so are
their parts. -/
structure KeepsMarkup : Prop where
  list : ∀ l l' : Listing, l.SameShape l' → SameMarkup (VisitorActivity.listBody l)
    (VisitorActivity.listBody l')
  detail : ∀ (v v' : Visitor) (related related' : List Visitor), related.length = related'.length →
    SameMarkup (VisitorActivity.detailBody v related) (VisitorActivity.detailBody v' related')
  paths : ∀ (l l' : Listing) (ss ss' : List Session), l.SameShape l' →
    List.Forall₂ SameSteps ss ss' → SameMarkup (VisitorPaths.body l ss) (VisitorPaths.body l' ss')
  pageViews : ∀ l l' : Listing, l.SameShape l' → SameMarkup (PageViews.body l) (PageViews.body l')
  layout : ∀ (title title' : String) (cs cs' : List Crumb) (b b' : List Html),
    cs.length = cs'.length → frames b = frames b' →
    SameMarkup (layout title cs b) (layout title' cs' b')
  breadcrumbs : ∀ cs cs' : List Crumb, cs.length = cs'.length →
    SameMarkup (breadcrumbs cs) (breadcrumbs cs')
  filterForm : ∀ (path path' : String) (fields fields' : List Field),
    fields.map Field.name = fields'.map Field.name → SameMarkup [filterForm path fields]
      [filterForm path' fields']
  card : ∀ (title title' : String) (b b' : List Html), frames b = frames b' →
    SameMarkup [card title b] [card title' b']
  alertDanger : ∀ message message', SameMarkup [alertDanger message] [alertDanger message']
  alertInfo : ∀ message message', SameMarkup [alertInfo message] [alertInfo message']
  table : ∀ (headers headers' : List String) (rows : List (List Html)), headers.length =
    headers'.length → SameMarkup [table headers rows] [table headers' rows]

/-- The markup of the dashboard does not depend on the texts in it: pages that differ in their texts
alone have the same angle brackets and quotes. -/
theorem keepsMarkup : KeepsMarkup where
  list _ _ h := sameMarkup_of_frames (frames_listBody h)
  detail v v' _ _ h := sameMarkup_of_frames (frames_detailBody v v' h)
  paths _ _ _ _ h hss := sameMarkup_of_frames (frames_pathsBody h hss)
  pageViews _ _ h := sameMarkup_of_frames (frames_pageViewsBody h)
  layout title title' _ _ _ _ hcs hb := sameMarkup_of_frames (frames_layout title title' hcs hb)
  breadcrumbs _ _ h := sameMarkup_of_frames (frames_breadcrumbs h)
  filterForm _ _ _ _ h := sameMarkup_of_frame (frame_filterForm h)
  card title title' _ _ h := sameMarkup_of_frame (frame_card title title' h)
  alertDanger _ _ := sameMarkup_of_frame rfl
  alertInfo _ _ := sameMarkup_of_frame rfl
  table _ _ _ h := sameMarkup_of_frame (frame_table h rfl)

/-- A page with one visit of a path. -/
def listingOf (path : String) : Listing :=
  { visitors := [.visit "a" path "2024-01-01 00:00:00"], paging := ⟨1, 10⟩, totalCount :=
    1, filters := {} }

theorem keepsMarkup_script :
    SameMarkup (PageViews.body (listingOf "</td><script>")) (PageViews.body (listingOf "/")) :=
  keepsMarkup.pageViews _ _ ⟨rfl, rfl, rfl⟩

end Dashboard

end VisitLog

import Pressroom.Application
import Pressroom.Proofs.FormRoundTrip

/-!
Serving a page. Loaded data always fits its view, so a page is the document of its data or the
error of its loading; a link with a query is read back as the path and the pairs it was made of.
-/

set_option autoImplicit false
set_option relaxedAutoImplicit false

namespace Pressroom.Markup

private theorem html_infix_htmlAll {n : Node} {nodes : List Node} (h : n ∈ nodes) :
    n.html <:+: htmlAll nodes := by
  induction nodes with
  | nil => cases h
  | cons m nodes ih =>
    rw [htmlAll]
    rcases List.mem_cons.1 h with rfl | h
    · exact (List.prefix_append n.html _).isInfix
    · exact (ih h).trans (List.suffix_append m.html _).isInfix

private theorem infix_el_of_mem {cs : List Char} {n : Node} {tag : String}
    {attrs : List (String × String)} {children : List Node} (hmem : n ∈ children)
    (hvoid : isVoid tag = false) (h : cs <:+: n.html) : cs <:+: (el tag attrs children).html := by
  have hchildren : htmlAll children <:+: (el tag attrs children).html := by
    rw [el, Node.html, hvoid]
    exact ⟨openTag tag attrs, closeTag tag, by simp⟩
  exact h.trans ((html_infix_htmlAll hmem).trans hchildren)

end Pressroom.Markup

namespace Pressroom.Page

open Pressroom.Content (Store)
open Pressroom.Markup (Node el infix_el_of_mem)

def Data.content : Data → Node
  | .home => homeContent
  | .catalog types => catalogContent types
  | .listing l => listingContent l
  | .createForm f => createContent f
  | .detail p => detailContent p

theorem kind_of_load {v : View} {q : Query} {messages : List Flash.Message} {s : Store}
    {data : Data} (h : load v q messages s = .ok data) : data.kind = v.accepts := by
  cases v with
  | home =>
    cases h
    rfl
  | admin =>
    cases h
    rfl
  | postList =>
    simp only [load] at h
    cases ht : requestedType q s with
    | error e =>
      rw [ht] at h
      cases h
    | ok t =>
      rw [ht] at h
      cases h
      rfl
  | postCreate =>
    simp only [load] at h
    cases ht : requestedType q s with
    | error e =>
      rw [ht] at h
      cases h
    | ok t =>
      rw [ht] at h
      cases h
      rfl
  | postDetail =>
    simp only [load] at h
    split at h
    · cases h
    · split at h
      · cases h
      · cases h
        rfl

theorem View.content_of_kind {v : View} {data : Data} (h : data.kind = v.accepts) :
    v.content ⟨some data⟩ = .ok data.content := by
  cases v with
  | home =>
    cases data with
    | home => rfl
    | _ => cases h
  | admin =>
    cases data with
    | catalog types => rfl
    | _ => cases h
  | postList =>
    cases data with
    | listing l => rfl
    | _ => cases h
  | postCreate =>
    cases data with
    | createForm f => rfl
    | _ => cases h
  | postDetail =>
    cases data with
    | detail p => rfl
    | _ => cases h

theorem Shell.render_of_kind (s : Shell) {v : View} {data : Data} (h : data.kind = v.accepts) :
    s.render v data = .ok (s.document data.content) := by
  have hcontent : v.content ⟨some data⟩ = .ok data.content := View.content_of_kind h
  have hpublish : Context.empty.publish data = .ok ⟨some data⟩ := rfl
  rw [render, if_pos h, hpublish]
  show (v.content ⟨some data⟩ >>= fun content => .ok (s.document content)) = _
  rw [hcontent]
  rfl

theorem Shell.content_infix_document (s : Shell) (content : Node) :
    content.html <:+: (s.document content).toList := by
  have hmain : content.html <:+: (el "main" [] [content]).html :=
    infix_el_of_mem List.mem_cons_self rfl (List.infix_refl _)
  have hwrap : content.html <:+: (s.wrap content).html := by
    refine infix_el_of_mem (List.mem_cons_of_mem _ List.mem_cons_self) rfl ?_
    exact infix_el_of_mem (List.mem_cons_of_mem _ List.mem_cons_self) rfl hmain
  rw [document, String.toList_append, Node.toHtml, String.toList_ofList]
  exact hwrap.trans (List.suffix_append _ _).isInfix

theorem errorItem_infix_createContent {f : CreateForm} {m : Flash.Message} (h : m ∈ f.errors) :
    (errorItem m).html <:+: (createContent f).html := by
  have hlist : errorList f.errors = el "ul" [("class", "errors")] (f.errors.map errorItem) := by
    have hne : f.errors.isEmpty = false := List.isEmpty_eq_false_iff.2 (List.ne_nil_of_mem h)
    rw [errorList, hne]
    rfl
  have hitem : (errorItem m).html <:+: (errorList f.errors).html := by
    rw [hlist]
    exact infix_el_of_mem (List.mem_map_of_mem h) rfl (List.infix_refl _)
  refine infix_el_of_mem (List.mem_cons_of_mem _ List.mem_cons_self) rfl ?_
  refine infix_el_of_mem ?_ rfl hitem
  simp

@[simp] theorem Query.parse_encode (pairs : List (String × String)) :
    Query.parse (Form.encode pairs) = ⟨firstValue? "type" pairs, firstValue? "slug" pairs⟩ := by
  rw [parse, Form.decode_encode]

end Pressroom.Page

namespace Pressroom.Route

theorem Target.parse_hrefWithQuery {path : String} (hmark : '?' ∉ path.toList)
    (hsharp : '#' ∉ path.toList) (pairs : List (String × String)) :
    Target.parse (Page.hrefWithQuery path pairs) = ⟨Path.parse path, Form.encode pairs⟩ := by
  have hlist : (Page.hrefWithQuery path pairs).toList =
      path.toList ++ '?' :: (Form.encode pairs).toList := by
    simp [Page.hrefWithQuery]
  have hquery : '#' ∉ (Form.encode pairs).toList :=
    Form.not_mem_encode rfl (by decide) (by decide) pairs
  have hall : '#' ∉ path.toList ++ '?' :: (Form.encode pairs).toList := by
    simp [hsharp, hquery]
  simp only [Target.parse, hlist, Text.before_eq_self hall, Text.before_append_cons hmark,
    Text.after?_append_cons hmark, String.ofList_toList, Option.getD_some]

theorem Target.parse_path {path : String} (hmark : '?' ∉ path.toList)
    (hsharp : '#' ∉ path.toList) : Target.parse path = ⟨Path.parse path, ""⟩ := by
  simp only [Target.parse, Text.before_eq_self hsharp, Text.before_eq_self hmark,
    Text.after?_eq_none hmark, String.ofList_toList, Option.getD_none, String.ofList_nil]

def Table.view? (t : Table) (p : Path) : Option Page.View :=
  (t.resolve p).toOption.map (·.module.view)

theorem Table.exists_resolution {t : Table} {p : Path} {v : Page.View} (h : t.view? p = some v) :
    ∃ r, t.resolve p = .ok r ∧ r.module.view = v := by
  obtain ⟨r, hr, hv⟩ := Option.map_eq_some_iff.1 h
  cases hresolve : t.resolve p with
  | error e =>
    rw [hresolve] at hr
    cases hr
  | ok found =>
    rw [hresolve] at hr
    cases hr
    exact ⟨r, rfl, hv⟩

theorem view?_default {t : Table} (h : Table.compile Config.Routes.default.entries = .ok t) :
    t.view? ⟨[]⟩ = some .home ∧ t.view? ⟨["admin"]⟩ = some .admin ∧
      t.view? ⟨["admin", "posts"]⟩ = some .postList ∧
      t.view? ⟨["admin", "posts", "create"]⟩ = some .postCreate ∧
      t.view? ⟨["post"]⟩ = some .postDetail := by
  have hviews : (Table.compile Config.Routes.default.entries).map (fun t =>
      [t.view? ⟨[]⟩, t.view? ⟨["admin"]⟩, t.view? ⟨["admin", "posts"]⟩,
        t.view? ⟨["admin", "posts", "create"]⟩, t.view? ⟨["post"]⟩]) =
      .ok [some .home, some .admin, some .postList, some .postCreate, some .postDetail] := rfl
  rw [h] at hviews
  injection hviews with hlist
  simpa using hlist

end Pressroom.Route

namespace Pressroom.Application

open Pressroom.Page (Data Query View)
open Pressroom.Content (ContentError NewPost Store)
open Pressroom.Route (Path)

theorem page_of_load {app : Application} {path : Path} {v : View} {q : Query}
    {messages : List Flash.Message} {data : Data} (hview : app.table.view? path = some v)
    (hload : Page.load v q messages app.store = .ok data) :
    (app.page path q messages).1 = .ok (app.shell.document data.content) := by
  obtain ⟨r, hresolve, rfl⟩ := Route.Table.exists_resolution hview
  simp only [page, hresolve, hload, render]
  rw [Page.Shell.render_of_kind app.shell (Page.kind_of_load hload)]
  rfl

theorem page_of_load_error {app : Application} {path : Path} {v : View} {q : Query}
    {messages : List Flash.Message} {e : ContentError} (hview : app.table.view? path = some v)
    (hload : Page.load v q messages app.store = .error e) :
    (app.page path q messages).1 = .error (.content e) := by
  obtain ⟨r, hresolve, rfl⟩ := Route.Table.exists_resolution hview
  simp only [page, hresolve, hload]

end Pressroom.Application

import Mathlib.Data.List.Forall2
import Pressroom.Proofs.PageOutcome
import Pressroom.Proofs.RejectedCreate
import Pressroom.Proofs.StoreReachable

/-!
Where the links of the site lead. A link is written by a view and read again as a target, whose path
is resolved and whose query is looked up in the store. Main statement: with the default routes every
link leads back to what it was written for, whatever characters ids and slugs are made of, and so
does the answer to a form that created a post.
-/

set_option autoImplicit false
set_option relaxedAutoImplicit false

namespace Pressroom.Markup

mutual

/-- The targets of the links in a node, in the order in which they are written. -/
def Node.links : Node → List String
  | .text _ => []
  | .fragment nodes => linksAll nodes
  | .element tag attrs children =>
    (if tag = "a" then (attrs.lookup "href").toList else []) ++
      if isVoid tag then [] else linksAll children

def linksAll : List Node → List String
  | [] => []
  | n :: rest => n.links ++ linksAll rest

end

attribute [simp] Node.links linksAll

@[simp] private theorem links_el (tag : String) (attrs : List (String × String))
    (children : List Node) :
    (el tag attrs children).links =
      (if tag = "a" then (attrs.lookup "href").toList else []) ++
        if isVoid tag then [] else linksAll children :=
  rfl

@[simp] private theorem links_when (p : Bool) (n : Node) :
    (Node.when p n).links = if p then n.links else [] := by
  cases p with
  | false => rfl
  | true => rfl

private theorem linksAll_map {α : Type} {items : List α} {node : α → Node} {target : α → String}
    (h : ∀ a ∈ items, (node a).links = [target a]) :
    linksAll (items.map node) = items.map target := by
  induction items with
  | nil => rfl
  | cons a items ih =>
    have hfirst : (node a).links = [target a] := h a List.mem_cons_self
    have hrest := ih fun b hb => h b (List.mem_cons_of_mem a hb)
    simp [hfirst, hrest]

end Pressroom.Markup

namespace Pressroom.Page

open Pressroom.Content (Post PostType)
open Pressroom.Markup (linksAll)

@[simp] private theorem links_labelled (tag : String) (attrs : List (String × String))
    (label : String) :
    (labelled tag attrs label).links =
      if tag = "a" then (attrs.lookup "href").toList else [] := by
  simp [labelled]

private theorem links_catalogContent (types : List PostType) :
    (catalogContent types).links = types.map fun t => listHref t.id := by
  have hlinks : linksAll (types.map typeLink) = types.map fun t => listHref t.id :=
    Markup.linksAll_map fun t _ => by simp +decide [typeLink]
  simp +decide [catalogContent, hlinks]

private theorem links_listItem (t : PostType) {p : Post} (h : p.slug ≠ "") :
    (listItem t p).links = [detailHref p.slug] := by
  have hplace : (itemPlace t p).links = [] := by
    unfold itemPlace
    split
    · rfl
    · simp
  simp +decide [listItem, itemTitle, itemStatus, h, hplace]

private theorem links_listingContent (t : PostType) {posts : List Post}
    (h : ∀ p ∈ posts, p.slug ≠ "") :
    (listingContent ⟨t, posts⟩).links =
      adminHref :: createHref t.id :: posts.map fun p => detailHref p.slug := by
  have hposts : linksAll (posts.map (listItem t)) = posts.map fun p => detailHref p.slug :=
    Markup.linksAll_map fun p hp => links_listItem t (h p hp)
  simp +decide [listingContent, hposts]

end Pressroom.Page

namespace Pressroom.Application

open Pressroom.Content (Call History NewPost Post PostType Store)
open Pressroom.Http (namedType)
open Pressroom.Page (Data Query View)
open Pressroom.Route (Path Table Target)

/-- What is found at a target: it is cut into path and query, the path is resolved, and the data of
its view are loaded. -/
def dataAt (app : Application) (target : String) (messages : List Flash.Message) :
    Except PageError Data :=
  app.dataFor (Target.parse target).path (Query.parse (Target.parse target).query) messages

private theorem dataFor_of_view {app : Application} {path : Path} {v : View}
    (h : app.table.view? path = some v) (q : Query) (messages : List Flash.Message) :
    app.dataFor path q messages = (Page.load v q messages app.store).mapError .content := by
  obtain ⟨r, hr, rfl⟩ := Table.exists_resolution h
  exact dataFor_of_resolve hr q messages

private theorem dataAt_hrefWithQuery {app : Application} (path : String) {p : Path} {v : View}
    (hmark : '?' ∉ path.toList) (hsharp : '#' ∉ path.toList) (hpath : Path.parse path = p)
    (hview : app.table.view? p = some v) (pairs : List (String × String))
    (messages : List Flash.Message) :
    app.dataAt (Page.hrefWithQuery path pairs) messages =
      (Page.load v ⟨Query.firstValue? "type" pairs, Query.firstValue? "slug" pairs⟩ messages
        app.store).mapError .content := by
  rw [dataAt, Target.parse_hrefWithQuery hmark hsharp, Query.parse_encode, hpath,
    dataFor_of_view hview]

private theorem getD_firstValue? (typeId : String) :
    (Query.firstValue? "type" [("type", typeId)]).getD Page.defaultPostType = namedType typeId := by
  by_cases h : typeId = ""
  · simp [Query.firstValue?, namedType, h]
  · simp [Query.firstValue?, namedType, h]

/-- Empty values count as none, so a link whose values are empty leads where its path alone leads. -/
private theorem dataAt_of_empty_values {path : String} (hmark : '?' ∉ path.toList)
    (hsharp : '#' ∉ path.toList) {pairs : List (String × String)}
    (hempty : ∀ pair ∈ pairs, pair.2 = "") (app : Application) (messages : List Flash.Message) :
    app.dataAt (Page.hrefWithQuery path pairs) messages = app.dataAt path messages := by
  have hvalue : ∀ key, Query.firstValue? key pairs = none := by
    intro key
    rw [Query.firstValue?, Option.map_eq_none_iff, List.find?_eq_none]
    intro pair hpair
    simp [hempty pair hpair]
  have hnone : Query.parse "" = ⟨none, none⟩ := rfl
  rw [dataAt, dataAt, Target.parse_hrefWithQuery hmark hsharp, Target.parse_path hmark hsharp,
    Query.parse_encode, hvalue, hvalue, hnone]

section DefaultRoutes

variable {app : Application}

private theorem dataAt_listHref
    (htable : Table.compile Config.Routes.default.entries = .ok app.table)
    (typeId : String) (messages : List Flash.Message) :
    app.dataAt (Page.listHref typeId) messages =
      match app.store.type? (namedType typeId) with
      | some t => .ok (.listing ⟨t, app.store.postsOfType t.id⟩)
      | none => .error (.content (.unknownPostType (namedType typeId))) := by
  obtain ⟨-, -, hview, -⟩ := Route.view?_default htable
  rw [Page.listHref, dataAt_hrefWithQuery "/admin/posts" (by decide) (by decide) rfl hview,
    Page.load_postList, getD_firstValue?]
  cases app.store.type? (namedType typeId) with
  | none => rfl
  | some t => rfl

private theorem dataAt_createHref
    (htable : Table.compile Config.Routes.default.entries = .ok app.table)
    (typeId : String) (messages : List Flash.Message) :
    app.dataAt (Page.createHref typeId) messages =
      match app.store.type? (namedType typeId) with
      | some t => .ok (.createForm ⟨t, messages⟩)
      | none => .error (.content (.unknownPostType (namedType typeId))) := by
  obtain ⟨-, -, -, hview, -⟩ := Route.view?_default htable
  rw [Page.createHref, dataAt_hrefWithQuery "/admin/posts/create" (by decide) (by decide) rfl hview,
    Page.load_postCreate, getD_firstValue?]
  cases app.store.type? (namedType typeId) with
  | none => rfl
  | some t => rfl

private theorem dataAt_detailHref
    (htable : Table.compile Config.Routes.default.entries = .ok app.table)
    {p : Post} (hslug : p.slug ≠ "") (hfound : app.store.postBySlug? p.slug = some p)
    (messages : List Flash.Message) :
    app.dataAt (Page.detailHref p.slug) messages = .ok (.detail p) := by
  obtain ⟨-, -, -, -, hview⟩ := Route.view?_default htable
  have hquery : Query.firstValue? "slug" [("slug", p.slug)] = some p.slug := by
    simp [Query.firstValue?, hslug]
  rw [Page.detailHref, dataAt_hrefWithQuery "/post" (by decide) (by decide) rfl hview, hquery]
  simp only [Page.load, hfound]
  rfl

private theorem dataAt_adminHref
    (htable : Table.compile Config.Routes.default.entries = .ok app.table)
    (messages : List Flash.Message) :
    app.dataAt Page.adminHref messages = .ok (.catalog app.store.types) := by
  obtain ⟨-, hview, -⟩ := Route.view?_default htable
  have htarget : app.dataAt Page.adminHref messages =
      app.dataFor ⟨["admin"]⟩ ⟨none, none⟩ messages := rfl
  rw [htarget, dataFor_of_view hview]
  rfl

end DefaultRoutes

/-- A link leads to the listing of a type, and the links found there lead on: one to the form for that
type, and one to each of its posts. -/
structure LeadsToType (app : Application) (link : String) (t : PostType) : Prop where
  listing : ∀ messages, app.dataAt link messages = .ok (.listing ⟨t, app.store.postsOfType t.id⟩)
  onward : ∃ form details,
    (Page.listingContent ⟨t, app.store.postsOfType t.id⟩).links =
      Page.adminHref :: form :: details ∧
    (∀ messages, app.dataAt form messages = .ok (.createForm ⟨t, messages⟩)) ∧
    List.Forall₂ (fun link p => ∀ messages, app.dataAt link messages = .ok (.detail p)) details
      (app.store.postsOfType t.id)

/-- A link for a type leads where a link without a type leads, and so does the link to the form that
stands in a listing of that type. -/
structure LeadsToDefault (app : Application) (link : String) (t : PostType) : Prop where
  listing : ∀ messages, app.dataAt link messages = app.dataAt "/admin/posts" messages
  onward : ∃ form details,
    (Page.listingContent ⟨t, app.store.postsOfType t.id⟩).links =
      Page.adminHref :: form :: details ∧
    ∀ messages, app.dataAt form messages = app.dataAt "/admin/posts/create" messages

section Consistent

variable {app : Application} {count : Nat}

private theorem links_of_type (hstore : app.store.Consistent count) (t : PostType) :
    (Page.listingContent ⟨t, app.store.postsOfType t.id⟩).links =
      Page.adminHref :: Page.createHref t.id ::
        (app.store.postsOfType t.id).map fun p => Page.detailHref p.slug := by
  refine Page.links_listingContent t fun p hp => hstore.slug_ne_empty p ?_
  exact Store.mem_allPosts_of_mem_postsOfType hp

private theorem leadsToType (htable : Table.compile Config.Routes.default.entries = .ok app.table)
    (hstore : app.store.Consistent count) {t : PostType} (ht : app.store.type? t.id = some t)
    (hid : t.id ≠ "") : app.LeadsToType (Page.listHref t.id) t := by
  have hnamed : namedType t.id = t.id := if_neg hid
  refine ⟨?_, _, _, links_of_type hstore t, ?_, ?_⟩
  · intro messages
    rw [dataAt_listHref htable, hnamed, ht]
  · intro messages
    rw [dataAt_createHref htable, hnamed, ht]
  · rw [List.forall₂_map_left_iff, List.forall₂_same]
    intro p hp messages
    have hmem := Store.mem_allPosts_of_mem_postsOfType hp
    exact dataAt_detailHref htable (hstore.slug_ne_empty p hmem) (hstore.postBySlug?_eq_some hmem)
      messages

private theorem leadsToDefault (hstore : app.store.Consistent count) {t : PostType}
    (hid : t.id = "") :
    app.LeadsToDefault (Page.listHref t.id) t := by
  have hempty : ∀ pair ∈ [("type", t.id)], pair.2 = "" := by simp [hid]
  exact ⟨dataAt_of_empty_values (by decide) (by decide) hempty app, _, _, links_of_type hstore t,
    dataAt_of_empty_values (by decide) (by decide) hempty app⟩

end Consistent

/-- A type whose id needs every escape, one without an id, and two posts of one title. -/
def awkwardCalls : List Call :=
  [.seed, .insertType ⟨"a&b=#c %+é", "Note", "Notes", none⟩, .insertType ⟨"", "Page", "Pages", none⟩,
    .create "x" ⟨"Same", "", "a&b=#c %+é"⟩, .create "y" ⟨"Same", "", "a&b=#c %+é"⟩]

end Pressroom.Application

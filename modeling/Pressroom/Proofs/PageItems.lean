import Pressroom.Proofs.ContentSlot

/-!
What a document shows of the items of its page. A listing, a catalog and a form mark each of their
items, and nothing else in a document has such a mark: neither the shell, nor another kind of page,
nor any text. Main statement: each mark occurs as often as there are items.
-/

set_option autoImplicit false
set_option relaxedAutoImplicit false

namespace Pressroom.Page

open Pressroom.Markup (Node)
open Pressroom.Text (occurrences)

private theorem shows_eq_zero {value tag : String} {attrs : List (String × String)}
    (hvalue : value = "post-item" ∨ value = "admin-link") (h : isMark tag attrs = false) :
    Markup.shows "class" value tag attrs = 0 := by
  rw [Markup.shows, List.countP_eq_zero]
  intro attr hattr hends
  have hany := (Bool.or_eq_false_iff.1 h).2
  have hnone := List.any_eq_false.1 hany attr hattr
  rcases hvalue with rfl | rfl
  · simp [hends] at hnone
  · simp [hends] at hnone

private theorem opens_eq_zero {name tag : String} {attrs attrs' : List (String × String)}
    (hname : name = "li" ∨ name = "ul") (h : isMark tag attrs' = false) :
    Markup.opens name attrs tag attrs' = 0 := by
  have hne : tag ≠ name := by
    rintro rfl
    rcases hname with rfl | rfl
    · simp [isMark] at h
    · simp [isMark] at h
  simp [Markup.opens, hne]

/-- A document in which the marks of each sort occur as often as there are items of that sort. -/
structure Displays (items : Items) (document : String) : Prop where
  posts : occurrences "class=\"post-item\"".toList document.toList = items.posts
  types : occurrences "class=\"admin-link\"".toList document.toList = items.types
  messages : occurrences "<li>".toList document.toList = items.messages
  messageLists : occurrences "<ul class=\"errors\">".toList document.toList = items.messageLists

namespace Shell

private theorem occurrences_class_document (s : Shell) {content : Node} (h : content.WellNamed)
    {value : String} (hvalue : value = "post-item" ∨ value = "admin-link") :
    occurrences (Markup.attrText "class" value) (s.document content).toList =
      content.total (Markup.shows "class" value) := by
  have hclass : Markup.IsName "class" := by decide
  have hname : Markup.IsName value := by rcases hvalue with rfl | rfl <;> decide
  have hinner := Markup.inner_attrText hclass hname
  have hdoctype : '"' ∉ "!DOCTYPE html".toList := by decide
  have houtside : Markup.Outside [] := List.not_mem_nil
  have hnone : occurrences (Markup.attrText "class" value) [] = 0 :=
    Text.occurrences_eq_zero hinner.quote List.not_mem_nil
  have hmain : Markup.shows "class" value "main" [] = 0 := rfl
  have hunmarked : ∀ tag attrs, tag ≠ "main" → isMark tag attrs = false →
      Markup.shows "class" value tag attrs = 0 := fun _ _ _ => shows_eq_zero hvalue
  rw [toList_document, hinner.occurrences_bracketed,
    Text.occurrences_eq_zero hinner.quote hdoctype,
    Node.occurrences_attrText hclass hname (s.wellNamed_wrap h) houtside, hnone,
    total_wrap hunmarked, hmain]
  omega

private theorem occurrences_list_document (s : Shell) {content : Node} (h : content.WellNamed)
    {name : String} (hname : name = "li" ∨ name = "ul") {attrs : List (String × String)}
    (hattrs : ∀ attr ∈ attrs, Markup.IsName attr.1) :
    occurrences (Markup.openTag name attrs) (s.document content).toList =
      content.total (Markup.opens name attrs) := by
  have hproper : Markup.IsName name := by rcases hname with rfl | rfl <;> decide
  have hbody := Markup.not_mem_openBody hproper hattrs (Or.inr rfl)
  have hdoctype : "!DOCTYPE html".toList ≠ Markup.openBody name attrs := by
    intro heq
    have hfirst := congrArg List.head? heq
    rcases hname with rfl | rfl
    · simp [Markup.openBody] at hfirst
    · simp [Markup.openBody] at hfirst
  have hnone : occurrences (Markup.bracketed (Markup.openBody name attrs)) [] = 0 :=
    Text.occurrences_eq_zero (c := '<') (by simp [Markup.bracketed]) List.not_mem_nil
  have hmain : Markup.opens name attrs "main" [] = 0 := opens_eq_zero hname rfl
  have hunmarked : ∀ tag attrs', tag ≠ "main" → isMark tag attrs' = false →
      Markup.opens name attrs tag attrs' = 0 := fun _ _ _ => opens_eq_zero hname
  rw [toList_document, Markup.openTag_eq_bracketed,
    Markup.occurrences_bracketed hbody (by decide) (by decide), if_neg hdoctype,
    ← Markup.openTag_eq_bracketed, Node.occurrences_openTag hproper hattrs (s.wellNamed_wrap h),
    Markup.openTag_eq_bracketed, hnone, total_wrap hunmarked, hmain]
  omega

private theorem displays_document (s : Shell) {content : Node} (h : content.WellNamed)
    {items : Items} (hposts : content.total (Markup.shows "class" "post-item") = items.posts)
    (htypes : content.total (Markup.shows "class" "admin-link") = items.types)
    (hmessages : content.total (Markup.opens "li" []) = items.messages)
    (hlists : content.total (Markup.opens "ul" [("class", "errors")]) = items.messageLists) :
    Displays items (s.document content) := by
  have hattr : ∀ value : String, ("class=\"" ++ value ++ "\"").toList =
      Markup.attrText "class" value := by
    intro value
    simp [Markup.attrText]
  have hlist : ∀ attr ∈ [("class", "errors")], Markup.IsName (Prod.fst attr) := by decide
  constructor
  · rw [← hposts, ← s.occurrences_class_document h (Or.inl rfl), ← hattr]
    rfl
  · rw [← htypes, ← s.occurrences_class_document h (Or.inr rfl), ← hattr]
    rfl
  · rw [← hmessages, ← s.occurrences_list_document h (Or.inl rfl) (by simp)]
    rfl
  · rw [← hlists, ← s.occurrences_list_document h (Or.inr rfl) hlist]
    rfl

private theorem displays_items (s : Shell) (data : Data) :
    Displays data.items (s.document data.content) := by
  have hposts := fun tag attrs (_ : tag ≠ "main") =>
    @shows_eq_zero "post-item" tag attrs (Or.inl rfl)
  have htypes := fun tag attrs (_ : tag ≠ "main") =>
    @shows_eq_zero "admin-link" tag attrs (Or.inr rfl)
  have hmessages := fun tag attrs (_ : tag ≠ "main") =>
    @opens_eq_zero "li" tag [] attrs (Or.inl rfl)
  have hlists := fun tag attrs (_ : tag ≠ "main") =>
    @opens_eq_zero "ul" tag [("class", "errors")] attrs (Or.inr rfl)
  have hpost : ∀ id, Markup.shows "class" "post-item" "div"
      [("class", "post-item"), ("data-id", id)] = 1 := by
    intro id
    simp +decide [Markup.shows, Markup.endsIn]
  have hother : ∀ id, Markup.shows "class" "admin-link" "div"
      [("class", "post-item"), ("data-id", id)] = 0 := by
    intro id
    simp +decide [Markup.shows, Markup.endsIn]
  apply s.displays_document data.wellNamed_content
  · have htotal := data.total_content hposts 1 0 0 0 hpost rfl rfl rfl
    omega
  · have htotal := data.total_content htypes 0 1 0 0 hother rfl rfl rfl
    omega
  · have htotal := data.total_content hmessages 0 0 1 0 (fun _ => rfl) rfl rfl rfl
    omega
  · have htotal := data.total_content hlists 0 0 0 1 (fun _ => rfl) rfl rfl rfl
    omega

private theorem displays_status (s : Shell) (status : Nat) (message : String) :
    Displays ⟨0, 0, 0, 0⟩ (s.statusDocument status message) := by
  apply s.displays_document (wellNamed_statusContent status message)
  · exact total_statusContent (fun _ _ _ => shows_eq_zero (Or.inl rfl)) status message
  · exact total_statusContent (fun _ _ _ => shows_eq_zero (Or.inr rfl)) status message
  · exact total_statusContent (fun _ _ _ => opens_eq_zero (Or.inl rfl)) status message
  · exact total_statusContent (fun _ _ _ => opens_eq_zero (Or.inr rfl)) status message

private theorem exists_render (s : Shell) (data : Data) : ∃ v html, s.render v data = .ok html := by
  cases data with
  | home => exact ⟨.home, _, s.render_of_kind rfl⟩
  | catalog types => exact ⟨.admin, _, s.render_of_kind rfl⟩
  | listing l => exact ⟨.postList, _, s.render_of_kind rfl⟩
  | createForm f => exact ⟨.postCreate, _, s.render_of_kind rfl⟩
  | detail p => exact ⟨.postDetail, _, s.render_of_kind rfl⟩

/-- Every page is rendered by some view, and each document of it shows one fragment for each of its
items and none besides, whatever the items, the title, the links and the messages say: a listing one
for each post, a catalog one for each type, a form one for each message and one list of them if
there are any. A document about a status shows none. -/
theorem one_fragment_per_item (s : Shell) :
    (∀ data, ∃ v html, s.render v data = .ok html) ∧
    (∀ (v : View) (data : Data) (html : String), s.render v data = .ok html →
      Displays data.items html) ∧
    ∀ (status : Nat) (message : String),
      Displays ⟨0, 0, 0, 0⟩ (s.statusDocument status message) := by
  refine ⟨s.exists_render, ?_, s.displays_status⟩
  intro v data html hrender
  obtain ⟨-, rfl⟩ := eq_document_of_render hrender
  exact s.displays_items data

/-- A listing of two posts whose texts try to be further posts. -/
def forged : Listing :=
  ⟨⟨"class=\"post-item\"", "<li>", "\" class=", some "class="⟩,
    [⟨"\" class=\"post-item\"", "<div class=\"post-item\">", "", "post-item\"", "<li>", ""⟩,
      ⟨"1", "class=", "", "", "", "post"⟩]⟩

theorem one_fragment_per_item_forged :
    ∃ html, render ⟨"class=\"post-item\"", [⟨"<li>", "x\" class=\"admin-link"⟩]⟩ .postList
        (.listing forged) = .ok html ∧
      occurrences "class=\"post-item\"".toList html.toList = 2 ∧
      occurrences "class=\"admin-link\"".toList html.toList = 0 ∧
      occurrences "<li>".toList html.toList = 0 := by
  obtain ⟨-, hpages, -⟩ :=
    one_fragment_per_item ⟨"class=\"post-item\"", [⟨"<li>", "x\" class=\"admin-link"⟩]⟩
  obtain ⟨html, hrender⟩ : ∃ html, render ⟨"class=\"post-item\"",
      [⟨"<li>", "x\" class=\"admin-link"⟩]⟩ .postList (.listing forged) = .ok html := ⟨_, rfl⟩
  have hdisplays := hpages _ _ _ hrender
  exact ⟨html, hrender, hdisplays.posts, hdisplays.types, hdisplays.messages⟩

end Shell

end Pressroom.Page

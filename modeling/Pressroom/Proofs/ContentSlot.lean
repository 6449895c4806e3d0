import Pressroom.Proofs.PageOutcome
import Pressroom.Proofs.PageWeights

/-!
The place of the content in a document. Every document of a shell is the same text around what its
page shows; nothing that a page shows is a `main` element, and no text can be taken for one. Main
statement: the text around the content depends on the shell alone, and the two tags of the place
occur once each.
-/

set_option autoImplicit false
set_option relaxedAutoImplicit false

namespace Pressroom.Page

open Pressroom.Markup (Node el)
open Pressroom.Text (occurrences)

namespace Shell

/-- What a document says between its first line and its content. -/
def front (s : Shell) : String :=
  "<html>" ++ (el "head" [] [el "meta" [("charset", "utf-8")] [], labelled "title" [] s.title]).toHtml
    ++ "<body>" ++ (el "header" [] [labelled "h1" [] s.title, s.navigation]).toHtml ++ "<main>"

def back : String := "</main></body></html>"

private theorem document_eq (s : Shell) (content : Node) :
    s.document content = doctype ++ s.front ++ content.toHtml ++ back := by
  apply String.toList_inj.1
  have hhtml : Markup.isVoid "html" = false := by decide
  have hbody : Markup.isVoid "body" = false := by decide
  have hmain : Markup.isVoid "main" = false := by decide
  simp [document, wrap, front, back, el, Node.toHtml, Node.html, Markup.htmlAll, Markup.openTag,
    Markup.closeTag, hhtml, hbody, hmain]

end Shell

private theorem Data.total_content_eq_zero {w : String → List (String × String) → Nat}
    (hw : ∀ tag attrs, tag ≠ "main" → w tag attrs = 0) (data : Data) : data.content.total w = 0 := by
  have htotal := data.total_content (fun tag attrs htag _ => hw tag attrs htag) 0 0 0 0
    (fun _ => hw _ _ (by decide)) (hw _ _ (by decide)) (hw _ _ (by decide)) (hw _ _ (by decide))
  omega

/-- A document in which some content has its place: the text around the content is the given front
and a fixed end, and the tags of the place occur once each. -/
structure InPlace (front : String) (content : Node) (document : String) : Prop where
  around : document = "<!DOCTYPE html>" ++ front ++ content.toHtml ++ "</main></body></html>"
  opened_once : occurrences "<main>".toList document.toList = 1
  closed_once : occurrences "</main>".toList document.toList = 1

namespace Shell

theorem toList_document (s : Shell) (content : Node) :
    (s.document content).toList =
      Markup.bracketed "!DOCTYPE html".toList ++ ((s.wrap content).html ++ []) := by
  simp [document, doctype, Markup.bracketed, Node.toHtml]

private theorem inPlace_document (s : Shell) {content : Node} (hnames : content.WellNamed)
    (hmain : ∀ w : String → List (String × String) → Nat,
      (∀ tag attrs, tag ≠ "main" → w tag attrs = 0) → content.total w = 0) :
    InPlace s.front content (s.document content) := by
  have hwrap := s.wellNamed_wrap hnames
  have hname : Markup.IsName "main" := by decide
  have hattrs : ∀ attr ∈ ([] : List (String × String)), Markup.IsName attr.1 := by simp
  have hopening : "<main>".toList = Markup.openTag "main" [] := by decide
  have hclosing : "</main>".toList = Markup.closeTag "main" := by decide
  have hopens : ∀ tag attrs, tag ≠ "main" → Markup.opens "main" [] tag attrs = 0 := by
    intro tag attrs htag
    simp [Markup.opens, htag]
  have hcloses : ∀ tag attrs, tag ≠ "main" → Markup.closes "main" tag attrs = 0 := by
    intro tag attrs htag
    simp [Markup.closes, htag]
  constructor
  · exact s.document_eq content
  · rw [toList_document, hopening, Markup.openTag_eq_bracketed,
      Markup.occurrences_bracketed (by decide) (by decide) (by decide),
      ← Markup.openTag_eq_bracketed, Node.occurrences_openTag hname hattrs hwrap,
      total_wrap fun tag attrs htag _ => hopens tag attrs htag, hmain _ hopens]
    decide
  · rw [toList_document, hclosing, Markup.closeTag_eq_bracketed,
      Markup.occurrences_bracketed (by decide) (by decide) (by decide),
      ← Markup.closeTag_eq_bracketed, Node.occurrences_closeTag hname (by decide) hwrap,
      total_wrap fun tag attrs htag _ => hcloses tag attrs htag, hmain _ hcloses]
    decide

theorem eq_document_of_render {s : Shell} {v : View} {data : Data} {html : String}
    (h : s.render v data = .ok html) :
    data.kind = v.accepts ∧ html = s.document data.content := by
  by_cases hkind : data.kind = v.accepts
  · rw [s.render_of_kind hkind] at h
    exact ⟨hkind, (Except.ok.inj h).symm⟩
  · rw [s.render_of_kind_ne hkind] at h
    cases h

/-- All documents of a shell are alike around their content, which stands in them as the view wrote
it, and in each of them the tags of its place occur once: whatever the title, the links, the data,
the messages of a form or the text about a status say. -/
theorem content_has_one_place (s : Shell) :
    ∃ front : String,
      (∀ (v : View) (data : Data) (html : String), s.render v data = .ok html →
        ∃ ctx content, Context.empty.publish data = .ok ctx ∧ v.content ctx = .ok content ∧
          InPlace front content html) ∧
      ∀ (status : Nat) (message : String),
        InPlace front (statusContent status message) (s.statusDocument status message) := by
  refine ⟨s.front, ?_, ?_⟩
  · intro v data html hrender
    obtain ⟨hkind, rfl⟩ := eq_document_of_render hrender
    refine ⟨⟨some data⟩, data.content, rfl, View.content_of_kind hkind, ?_⟩
    exact s.inPlace_document data.wellNamed_content fun w hw => Data.total_content_eq_zero hw data
  · intro status message
    apply s.inPlace_document (wellNamed_statusContent status message)
    intro w hw
    exact total_statusContent (fun tag attrs htag _ => hw tag attrs htag) status message

theorem content_has_one_place_hostile :
    ∃ html front content,
      render ⟨"</main>", [⟨"<main>", "\"><main>"⟩]⟩ .postCreate
        (.createForm ⟨⟨"<main>", "</main>", "", none⟩, [⟨.error, "<main></main>"⟩]⟩) = .ok html ∧
      InPlace front content html ∧
      InPlace front (statusContent 404 "<main>")
        (statusDocument ⟨"</main>", [⟨"<main>", "\"><main>"⟩]⟩ 404 "<main>") := by
  obtain ⟨front, hpages, hstatus⟩ :=
    content_has_one_place ⟨"</main>", [⟨"<main>", "\"><main>"⟩]⟩
  obtain ⟨html, hrender⟩ : ∃ html, render ⟨"</main>", [⟨"<main>", "\"><main>"⟩]⟩ .postCreate
      (.createForm ⟨⟨"<main>", "</main>", "", none⟩, [⟨.error, "<main></main>"⟩]⟩) = .ok html :=
    ⟨_, rfl⟩
  obtain ⟨-, content, -, -, hplace⟩ := hpages _ _ _ hrender
  exact ⟨html, front, content, hrender, hplace, hstatus 404 "<main>"⟩

end Shell

end Pressroom.Page

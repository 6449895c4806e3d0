import Pressroom.Proofs.AttributeOccurrences

/-!
What the elements of a document weigh. Beside the place of the content only the marks of items need
have a weight; then a page weighs what its items weigh, and a document what its page and the place
of it weigh.
-/

set_option autoImplicit false
set_option relaxedAutoImplicit false

namespace Pressroom.Page

open Pressroom.Config (NavLink)
open Pressroom.Content (Post PostType)
open Pressroom.Markup (Node totalAll_map)

structure Items where
  posts : Nat
  types : Nat
  messages : Nat
  messageLists : Nat

/-- The items of a page. The messages of a form are in a list of their own, if there are any. -/
def Data.items : Data → Items
  | .listing l => ⟨l.posts.length, 0, 0, 0⟩
  | .catalog types => ⟨0, types.length, 0, 0⟩
  | .createForm f => ⟨0, 0, f.errors.length, if f.errors = [] then 0 else 1⟩
  | .home | .detail _ => ⟨0, 0, 0, 0⟩

/-- Whether an element can be the mark of an item: it is a list or one of its items, or it is of the
class of a post or of a link to a type. -/
def isMark (tag : String) (attrs : List (String × String)) : Bool :=
  tag == "li" || tag == "ul" ||
    attrs.any fun attr =>
      Markup.endsIn "class" "post-item" attr || Markup.endsIn "class" "admin-link" attr

@[simp] private theorem isMark_link (href : String) : isMark "a" [("href", href)] = false := by
  simp +decide [isMark, Markup.endsIn]

@[simp] private theorem isMark_hidden (id : String) :
    isMark "input" [("type", "hidden"), ("name", "post_type"), ("value", id)] = false := by
  simp +decide [isMark, Markup.endsIn]

section Weights

variable {w : String → List (String × String) → Nat}

@[simp] private theorem total_labelled (tag : String) (attrs : List (String × String))
    (label : String) : (labelled tag attrs label).total w = w tag attrs := by
  simp [labelled]

variable (hw : ∀ tag attrs, tag ≠ "main" → isMark tag attrs = false → w tag attrs = 0)
include hw

private theorem total_typeLink (t : PostType) :
    (typeLink t).total w = w "div" [("class", "admin-link")] := by
  simp +decide [typeLink, hw]

private theorem total_listItem (t : PostType) (p : Post) :
    (listItem t p).total w = w "div" [("class", "post-item"), ("data-id", p.id)] := by
  have htitle : (itemTitle p).total w = 0 := by
    unfold itemTitle
    split <;> simp +decide [hw]
  have hplace : (itemPlace t p).total w = 0 := by
    unfold itemPlace
    split
    · rfl
    · simp +decide [hw]
  simp +decide [listItem, itemStatus, htitle, hplace, hw]

private theorem total_errorItem (m : Flash.Message) : (errorItem m).total w = w "li" [] := by
  simp +decide [errorItem, hw]

private theorem total_errorList (errors : List Flash.Message) :
    (errorList errors).total w =
      if errors = [] then 0 else w "ul" [("class", "errors")] + errors.length * w "li" [] := by
  have hitems := totalAll_map (total_errorItem hw) errors
  simp +decide [errorList, hitems]

/-- What a page weighs is what its items weigh. -/
theorem Data.total_content (post link item list : Nat)
    (hpost : ∀ id, w "div" [("class", "post-item"), ("data-id", id)] = post)
    (hlink : w "div" [("class", "admin-link")] = link) (hitem : w "li" [] = item)
    (hlist : w "ul" [("class", "errors")] = list) (data : Data) :
    data.content.total w =
      data.items.posts * post + data.items.types * link + data.items.messages * item +
        data.items.messageLists * list := by
  cases data with
  | home => simp +decide [content, items, homeContent, hw]
  | catalog types =>
    simp +decide [content, items, catalogContent, totalAll_map (total_typeLink hw), hlink, hw]
  | listing l =>
    have hposts : ∀ p, (listItem l.postType p).total w = post := by
      intro p
      rw [total_listItem hw, hpost]
    simp +decide [content, items, listingContent, totalAll_map hposts, hw]
  | createForm f =>
    by_cases hnone : f.errors = []
    · simp +decide [content, items, createContent, total_errorList hw, hnone, hw]
    · simp +decide [content, items, createContent, total_errorList hw, hnone, hitem, hlist,
        Nat.add_comm, hw]
  | detail p => simp +decide [content, items, detailContent, hw]

theorem Shell.total_statusContent (status : Nat) (message : String) :
    (statusContent status message).total w = 0 := by
  simp +decide [statusContent, hw]

theorem Shell.total_wrap (s : Shell) (content : Node) :
    (s.wrap content).total w = w "main" [] + content.total w := by
  have hlink : ∀ l : NavLink, (labelled "a" [("href", l.href)] l.label).total w = 0 := by
    intro l
    simp +decide [hw]
  simp +decide [wrap, navigation, totalAll_map hlink, hw]

end Weights

end Pressroom.Page

import Pressroom.Form
import Pressroom.Markup.Basic
import Pressroom.Page.Context

/-!
What each view shows, as markup.
-/

set_option autoImplicit false
set_option relaxedAutoImplicit false

namespace Pressroom.Page

open Pressroom.Content (PostType Post)
open Pressroom.Markup (Node el)

def hrefWithQuery (path : String) (pairs : List (String × String)) : String :=
  path ++ "?" ++ Form.encode pairs

def listHref (typeId : String) : String :=
  hrefWithQuery "/admin/posts" [("type", typeId)]

def createHref (typeId : String) : String :=
  hrefWithQuery "/admin/posts/create" [("type", typeId)]

def detailHref (slug : String) : String :=
  hrefWithQuery "/post" [("slug", slug)]

def adminHref : String := "/admin"

def labelled (tag : String) (attrs : List (String × String)) (label : String) : Node :=
  el tag attrs [.text label]

def homeContent : Node :=
  el "div" [] [labelled "h1" [] "Home", labelled "a" [("href", adminHref)] "Go to admin"]

def typeLink (t : PostType) : Node :=
  el "div" [("class", "admin-link")]
    [labelled "a" [("href", listHref t.id)] (t.singular ++ " - " ++ t.plural)]

def catalogContent (types : List PostType) : Node :=
  el "div" [("class", "post-types")] (types.map typeLink)

/-- The title of a post; it is a link when the post has a slug. -/
def itemTitle (p : Post) : Node :=
  if p.slug = "" then labelled "span" [("class", "title")] p.title
  else labelled "a" [("href", detailHref p.slug)] p.title

def itemStatus (p : Post) : Node :=
  .when (p.status != "") (labelled "span" [("class", "status")] p.status)

/-- The public place of a post, if its type has one and the post has a slug. -/
def itemPlace (t : PostType) (p : Post) : Node :=
  match t.pathPrefix with
  | none => .empty
  | some place => .when (p.slug != "") (labelled "code" [] (place ++ p.slug))

def listItem (t : PostType) (p : Post) : Node :=
  el "div" [("class", "post-item"), ("data-id", p.id)] [itemTitle p, itemStatus p, itemPlace t p]

def listingContent (l : Listing) : Node :=
  el "div" [] [
    labelled "a" [("href", adminHref)] "Back to overview",
    el "h1" [] [
      .text (l.postType.plural ++ " - "),
      labelled "a" [("href", createHref l.postType.id)] ("Create " ++ l.postType.singular)],
    el "div" [("class", "posts")] (l.posts.map (listItem l.postType))]

def errorItem (m : Flash.Message) : Node :=
  el "li" [] [labelled "b" [] m.level.name, .text (": " ++ m.message)]

def errorList (errors : List Flash.Message) : Node :=
  .when (!errors.isEmpty) (el "ul" [("class", "errors")] (errors.map errorItem))

def createContent (f : CreateForm) : Node :=
  el "div" [] [
    labelled "h1" [] ("Create " ++ f.postType.singular),
    el "form"
      [("action", "/admin/posts"), ("method", "post"),
        ("style", "display:flex;flex-direction:column;align-items:start")]
      [el "input" [("type", "hidden"), ("name", "post_type"), ("value", f.postType.id)] [],
        el "input" [("type", "text"), ("name", "title"), ("placeholder", "Title")] [],
        el "textarea" [("name", "content"), ("placeholder", "Content")] [],
        errorList f.errors,
        labelled "button" [("type", "submit")] "Add"]]

def detailContent (p : Post) : Node :=
  el "article" [("class", "post")] [
    labelled "h1" [] p.title,
    .when (p.content != "") (labelled "div" [("class", "content")] p.content)]

/-- What a view shows of the data in its context. The home page shows none of it, but waits until
there is some. -/
def View.content (v : View) (ctx : Context) : Except RenderError Node :=
  match v with
  | .home => do
    let _ ← ctx.read
    return homeContent
  | .admin => return catalogContent (← ctx.readWith .catalog Data.catalog?)
  | .postList => return listingContent (← ctx.readWith .listing Data.listing?)
  | .postCreate => return createContent (← ctx.readWith .createForm Data.createForm?)
  | .postDetail => return detailContent (← ctx.readWith .detail Data.detail?)

end Pressroom.Page

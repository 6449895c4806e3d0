import Pressroom.Config.Basic
import Pressroom.Page.Content

/-!
Whole documents: a shell with the title and the links of the site around one place for content.
-/

set_option autoImplicit false
set_option relaxedAutoImplicit false

namespace Pressroom.Page

open Pressroom.Config (NavLink Site)
open Pressroom.Markup (Node el)

structure Shell where
  title : String
  nav : List NavLink
  deriving DecidableEq, Repr

namespace Shell

def ofSite (s : Site) : Shell := ⟨s.title, s.nav⟩

def default : Shell := ofSite .default

def navigation (s : Shell) : Node :=
  .when (!s.nav.isEmpty) (el "nav" [] (s.nav.map fun l => labelled "a" [("href", l.href)] l.label))

def wrap (s : Shell) (content : Node) : Node :=
  el "html" [] [
    el "head" [] [el "meta" [("charset", "utf-8")] [], labelled "title" [] s.title],
    el "body" [] [
      el "header" [] [labelled "h1" [] s.title, s.navigation],
      el "main" [] [content]]]

def doctype : String := "<!DOCTYPE html>"

def document (s : Shell) (content : Node) : String :=
  doctype ++ (s.wrap content).toHtml

def statusContent (status : Nat) (message : String) : Node :=
  el "div" [("class", "status")] [labelled "h2" [] (toString status), labelled "p" [] message]

def statusDocument (s : Shell) (status : Nat) (message : String) : String :=
  s.document (statusContent status message)

/-- The document a view makes of some data, which must be of the kind the view shows. -/
def render (s : Shell) (v : View) (data : Data) : Except RenderError String :=
  if data.kind = v.accepts then do
    let ctx ← Context.empty.publish data
    let content ← v.content ctx
    return s.document content
  else .error (.failed (.unfitData v data.kind))

end Shell

end Pressroom.Page

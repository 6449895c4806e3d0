/-!
The kinds of page data and the views that show them.
-/

set_option autoImplicit false
set_option relaxedAutoImplicit false

namespace Pressroom.Page

inductive Kind where
  | home
  | catalog
  | listing
  | createForm
  | detail
  deriving DecidableEq, Repr

namespace Kind

/-- Every kind, in the order in which the wire format lists them. -/
def all : List Kind := [.home, .catalog, .listing, .createForm, .detail]

def name : Kind → String
  | .home => "home"
  | .catalog => "post_type_catalog"
  | .listing => "post_list"
  | .createForm => "post_create_form"
  | .detail => "post_detail"

def ofName? (s : String) : Option Kind :=
  all.find? (·.name == s)

end Kind

inductive View where
  | home
  | admin
  | postList
  | postCreate
  | postDetail
  deriving DecidableEq, Repr

namespace View

def all : List View := [.home, .admin, .postList, .postCreate, .postDetail]

def name : View → String
  | .home => "home"
  | .admin => "admin"
  | .postList => "post_list"
  | .postCreate => "post_create"
  | .postDetail => "post_detail"

def ofName? (s : String) : Option View :=
  all.find? (·.name == s)

def accepts : View → Kind
  | .home => .home
  | .admin => .catalog
  | .postList => .listing
  | .postCreate => .createForm
  | .postDetail => .detail

end View

structure UnknownView where
  name : String
  deriving DecidableEq, Repr

def UnknownView.message (e : UnknownView) : String :=
  s!"unknown view `{e.name}`"

def View.parse (s : String) : Except UnknownView View :=
  match ofName? s with
  | some v => .ok v
  | none => .error ⟨s⟩

end Pressroom.Page

import Pressroom.Content.Store
import Pressroom.Form
import Pressroom.Page.Data

/-!
Loading the data of a page: what the query of a request asks for, found in the store.
-/

set_option autoImplicit false
set_option relaxedAutoImplicit false

namespace Pressroom.Page

open Pressroom.Content (PostType Store ContentError)

structure Query where
  postType : Option String
  slug : Option String
  deriving DecidableEq, Repr

namespace Query

def firstValue? (key : String) (pairs : List (String × String)) : Option String :=
  (pairs.find? fun p => p.1 == key && p.2 != "").map (·.2)

/-- Read the text of a query. An empty value counts as none, and of several the first counts. -/
def parse (raw : String) : Query :=
  let pairs := Form.decode raw
  ⟨firstValue? "type" pairs, firstValue? "slug" pairs⟩

end Query

/-- The type of posts that is meant when a request names none. -/
def defaultPostType : String := "post"

def requestedType (q : Query) (s : Store) : Except ContentError PostType :=
  let id := q.postType.getD defaultPostType
  match s.type? id with
  | some t => .ok t
  | none => .error (.unknownPostType id)

def slugMissing : String := "missing `slug` query parameter"

/-- The data a view needs. Messages are shown by the form only. -/
def load (view : View) (q : Query) (messages : List Flash.Message) (s : Store) :
    Except ContentError Data :=
  match view with
  | .home => .ok .home
  | .admin => .ok (.catalog s.types)
  | .postList => do
    let t ← requestedType q s
    return .listing ⟨t, s.postsOfType t.id⟩
  | .postCreate => do
    let t ← requestedType q s
    return .createForm ⟨t, messages⟩
  | .postDetail =>
    match q.slug with
    | none => .error (.invalid slugMissing)
    | some slug =>
      match s.postBySlug? slug with
      | none => .error (.postNotFound slug)
      | some p => .ok (.detail p)

end Pressroom.Page

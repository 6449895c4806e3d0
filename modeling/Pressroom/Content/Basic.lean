/-!
What the site is about: posts, the types they belong to, and what is asked for when one is created.
-/

set_option autoImplicit false
set_option relaxedAutoImplicit false

namespace Pressroom.Content

/-- A type of posts, with the names to show and the public place of its posts. -/
structure PostType where
  id : String
  singular : String
  plural : String
  pathPrefix : Option String
  deriving DecidableEq, Repr

structure Post where
  id : String
  title : String
  content : String
  slug : String
  status : String
  postType : String
  deriving DecidableEq, Repr

structure NewPost where
  title : String
  content : String
  postType : String
  deriving DecidableEq, Repr

inductive ContentError where
  | invalid (detail : String)
  | unknownPostType (id : String)
  | postNotFound (slug : String)
  deriving DecidableEq, Repr

def ContentError.message : ContentError → String
  | .invalid detail => detail
  | .unknownPostType id => s!"unknown post type `{id}`"
  | .postNotFound slug => s!"no post with slug `{slug}`"

end Pressroom.Content

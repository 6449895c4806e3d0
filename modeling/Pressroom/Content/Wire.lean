import Pressroom.Content.Basic
import Pressroom.Datum.Reader

/-!
Posts and post types as data: how they are written, and how they are read back.
-/

set_option autoImplicit false
set_option relaxedAutoImplicit false

namespace Pressroom.Content

def optionalText : Option String → Datum
  | none => .null
  | some s => .text s

def PostType.toDatum (t : PostType) : Datum :=
  .record [("id", .text t.id), ("path_prefix", optionalText t.pathPrefix),
    ("plural", .text t.plural), ("singular", .text t.singular)]

def PostType.reader : Reader PostType :=
  .record "PostType" 4 fun row =>
    PostType.mk <$> row.required 0 "id" .text <*> row.defaulted 1 "singular" .text ""
      <*> row.defaulted 2 "plural" .text ""
      <*> row.defaulted 3 "path_prefix" (.optional .text) none

def Post.toDatum (p : Post) : Datum :=
  .record [("content", .text p.content), ("id", .text p.id), ("slug", .text p.slug),
    ("status", .text p.status), ("title", .text p.title), ("type", .text p.postType)]

def Post.reader : Reader Post :=
  .record "Post" 6 fun row =>
    Post.mk <$> row.required 0 "id" .text <*> row.required 1 "title" .text
      <*> row.defaulted 2 "content" .text "" <*> row.defaulted 3 "slug" .text ""
      <*> row.defaulted 4 "status" .text "" <*> row.defaulted 5 "type" .text ""

def NewPost.toDatum (p : NewPost) : Datum :=
  .record [("content", .text p.content), ("post_type", .text p.postType), ("title", .text p.title)]

def NewPost.reader : Reader NewPost :=
  .record "NewPost" 3 fun row =>
    NewPost.mk <$> row.required 0 "title" .text <*> row.defaulted 1 "content" .text ""
      <*> row.required 2 "post_type" .text

end Pressroom.Content

import Pressroom.Content.Wire
import Pressroom.Flash.Wire
import Pressroom.Page.Kind

/-!
The data of a page, its tagged form on the wire, and the two ways to read it: by its tag, or as the
payload of a kind already known.
-/

set_option autoImplicit false
set_option relaxedAutoImplicit false

namespace Pressroom.Page

open Pressroom.Content (PostType Post)

structure Listing where
  postType : PostType
  posts : List Post
  deriving DecidableEq, Repr

/-- The form for a new post, with what was wrong the last time. -/
structure CreateForm where
  postType : PostType
  errors : List Flash.Message
  deriving DecidableEq, Repr

inductive Data where
  | home
  | catalog (types : List PostType)
  | listing (listing : Listing)
  | createForm (form : CreateForm)
  | detail (post : Post)
  deriving DecidableEq, Repr

def Listing.toDatum (l : Listing) : Datum :=
  .record [("post_type", l.postType.toDatum), ("posts", .list (l.posts.map (·.toDatum)))]

def Listing.reader : Reader Listing :=
  .record "PostListing" 2 fun row =>
    Listing.mk <$> row.required 0 "post_type" PostType.reader
      <*> row.defaulted 1 "posts" (.list Post.reader) []

def CreateForm.toDatum (f : CreateForm) : Datum :=
  .record [("errors", .list (f.errors.map (·.toDatum))), ("post_type", f.postType.toDatum)]

def CreateForm.reader : Reader CreateForm :=
  .record "PostCreateForm" 2 fun row =>
    CreateForm.mk <$> row.required 0 "post_type" PostType.reader
      <*> row.defaulted 1 "errors" (.list Flash.Message.reader) []

namespace Data

def kind : Data → Kind
  | .home => .home
  | .catalog _ => .catalog
  | .listing _ => .listing
  | .createForm _ => .createForm
  | .detail _ => .detail

/-- The payload of page data, without its tag. The home page has none. -/
def payload? : Data → Option Datum
  | .home => none
  | .catalog types => some (.list (types.map (·.toDatum)))
  | .listing l => some l.toDatum
  | .createForm f => some f.toDatum
  | .detail p => some p.toDatum

def toDatum (x : Data) : Datum :=
  match x.payload? with
  | none => .record [("kind", .text x.kind.name)]
  | some d => .record [("data", d), ("kind", .text x.kind.name)]

def payloadReader : Kind → Reader Data
  | .home => fun _ _ => .ok .home
  | .catalog => fun manner d => (Reader.list PostType.reader manner d).map .catalog
  | .listing => fun manner d => (Listing.reader manner d).map .listing
  | .createForm => fun manner d => (CreateForm.reader manner d).map .createForm
  | .detail => fun manner d => (Post.reader manner d).map .detail

/-- Read the payload of a known kind as it comes. The home page takes any. -/
def decode (k : Kind) (d : Datum) : Except ReadError Data :=
  payloadReader k .direct d

def typeName : String := "RouteData"

/-- Read the payload that follows a tag. The home page takes none but null. -/
def taggedPayload (k : Kind) (manner : Manner) (d : Datum) : Except ReadError Data :=
  match k, d with
  | .home, .null => .ok .home
  | .home, d => .error (.wrongType d (.unitVariant typeName "Home"))
  | k, d => payloadReader k manner d

def namedKinds : List (String × Kind) :=
  Kind.all.map fun k => (k.name, k)

/-- Read tagged page data: a record of `kind` and `data`, or a list of the two. In a record the
payload is met first and kept back until the kind is known. In a list the kind is a plain name. -/
def read : Datum → Except ReadError Data
  | .record fields =>
    match fields.lookup "kind" with
    | none => .error (.missingField "kind")
    | some tag => do
      let k ← Reader.variant namedKinds .direct tag
      match fields.lookup "data", k with
      | some d, k => taggedPayload k .kept d
      | none, .home => return .home
      | none, _ => throw (.missingField "data")
  | .list items =>
    match items with
    | [] => .error (.tooShortTagged 0 typeName)
    | tag :: rest => do
      let k ← Reader.identifier namedKinds .direct tag
      match rest with
      | [] => throw (.tooShortTagged 1 typeName)
      | d :: more =>
        let x ← taggedPayload k .direct d
        if more.isEmpty then return x else throw (.tooLong items.length)
  | d => .error (.wrongType d (.tagged typeName))

end Data

end Pressroom.Page

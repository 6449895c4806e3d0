import Pressroom.Content.Basic
import Pressroom.Slug.Basic
import Pressroom.Text.Blank

/-!
The content store: post types by id, posts by id with the number of their creation, and an index
from slugs to post ids. The small steps that change it come first; creating a post is made of them.
-/

set_option autoImplicit false
set_option relaxedAutoImplicit false

namespace Pressroom.Content

structure StoredPost where
  sequence : UInt64
  post : Post
  deriving DecidableEq, Repr

/-- The content of a site. Post types stand in the order of their ids. -/
structure Store where
  types : List PostType
  posts : List StoredPost
  slugs : List (String × String)
  sequence : UInt64
  deriving DecidableEq, Repr

namespace Store

def empty : Store := ⟨[], [], [], 0⟩

/-- Put a post type in its place among types in the order of ids; one of that id is replaced. -/
def putType (t : PostType) : List PostType → List PostType
  | [] => [t]
  | u :: rest =>
    if t.id < u.id then t :: u :: rest
    else if t.id = u.id then t :: rest
    else u :: putType t rest

/-- Add a post type, or replace the one of that id. -/
def insertType (s : Store) (t : PostType) : Store :=
  { s with types := putType t s.types }

def defaultTypes : List PostType :=
  [⟨"page", "Page", "Pages", none⟩, ⟨"post", "Post", "Posts", some "/posts/"⟩]

/-- Add the default post types, unless there are types already. -/
def seed (s : Store) : Store :=
  if s.types.isEmpty then defaultTypes.foldl insertType s else s

def type? (s : Store) (id : String) : Option PostType :=
  s.types.find? (·.id == id)

def postsOfType (s : Store) (id : String) : List Post :=
  ((s.posts.filter (·.post.postType == id)).mergeSort
    (fun a b => decide (a.sequence ≤ b.sequence))).map (·.post)

def post? (s : Store) (id : String) : Option Post :=
  (s.posts.find? (·.post.id == id)).map (·.post)

def postBySlug? (s : Store) (slug : String) : Option Post :=
  (s.slugs.lookup slug).bind s.post?

/-- Let a free slug stand for a post. -/
def claimSlug (s : Store) (slug id : String) : Store :=
  { s with slugs := s.slugs ++ [(slug, id)] }

end Store

/-- How far the reservation of a slug has come: with a candidate to try and the number for the one
after it, in possession of a slug, or out of numbers. Numbers are signed and have 32 bits. -/
inductive Reservation where
  | trying (candidate : String) (suffix : Int32)
  | holding (slug : String)
  | overflowed
  deriving DecidableEq, Repr

namespace Reservation

def start (base : String) : Reservation :=
  .trying base 2

/-- One turn of the loop. A candidate that is free is claimed; for one that is taken the next is
written down and the number moved on. -/
def probe (base id : String) : Reservation × Store → Reservation × Store
  | (.trying candidate suffix, s) =>
    if candidate ∈ s.slugs.map Prod.fst then
      if suffix = Int32.maxValue then (.overflowed, s)
      else (.trying s!"{base}-{suffix}" (suffix + 1), s)
    else (.holding candidate, s.claimSlug candidate id)
  | ended => ended

/-- A reservation on a store, after so many probes. -/
def after (s : Store) (base id : String) : Nat → Reservation × Store
  | 0 => (start (Slug.stem base), s)
  | probes + 1 => probe (Slug.stem base) id (after s base id probes)

end Reservation

namespace Store

/-- Claim the first free slug for a post. Among one candidate more than there are slugs taken one is
free, so that many probes suffice. There is no result when the numbers run out. -/
def reserveSlug (s : Store) (base id : String) : Option (String × Store) :=
  match Reservation.after s base id (s.slugs.length + 1) with
  | (.holding slug, s) => some (slug, s)
  | _ => none

/-- Take the next number in the order of creation. Numbers have 64 bits. -/
def nextSequence (s : Store) : UInt64 × Store :=
  (s.sequence, { s with sequence := s.sequence + 1 })

/-- Keep a post, in place of one of its id. -/
def putPost (s : Store) (sequence : UInt64) (p : Post) : Store :=
  { s with posts := s.posts.filter (·.post.id != p.id) ++ [⟨sequence, p⟩] }

def publishedStatus : String := "published"

def titleRequired : String := "Title is required"

/-- Create a post under a fresh id. The title is trimmed and must not be empty, and the type must
exist. There is no result when the numbers for its slug run out. -/
def create (s : Store) (id : String) (input : NewPost) :
    Option (Except ContentError (Post × Store)) :=
  let title := Text.trim input.title
  if title = "" then some (.error (.invalid titleRequired))
  else if (s.type? input.postType).isNone then some (.error (.unknownPostType input.postType))
  else
    (s.reserveSlug (Slug.ofTitle title) id).map fun (slug, s) =>
      let post : Post := ⟨id, title, input.content, slug, publishedStatus, input.postType⟩
      let (sequence, s) := s.nextSequence
      .ok (post, s.putPost sequence post)

end Store

end Pressroom.Content

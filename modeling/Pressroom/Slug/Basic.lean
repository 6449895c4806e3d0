import Pressroom.Slug.Spelling

/-!
Slugs: titles in lower-case letters, digits and single hyphens.
-/

set_option autoImplicit false
set_option relaxedAutoImplicit false

namespace Pressroom.Slug

/-- The characters a slug is made of, besides the hyphens between its words. -/
def isSlugChar (c : Char) : Bool :=
  ('a' ≤ c && c ≤ 'z') || ('0' ≤ c && c ≤ '9')

/-- The slug characters of a plain text in lower case, with one hyphen wherever anything else stands
between two of them. `started` tells that a character was kept, and `pending` that something was
left out since. -/
def words : Bool → Bool → List Char → List Char
  | _, _, [] => []
  | started, pending, c :: rest =>
    if isSlugChar c.toLower then
      (if started && pending then ['-', c.toLower] else [c.toLower]) ++ words true false rest
    else words started true rest

/-- The slug of a title; it may be empty. -/
def ofTitle (title : String) : String :=
  String.ofList (words false false (title.toList.flatMap fun c => (plain c).toList))

def fallback : String := "post"

/-- What the slugs for a title are made from, given the slug of the title. -/
def stem (base : String) : String :=
  if base = "" then fallback else base

end Pressroom.Slug

/-!
Tables of plain spellings: what characters beyond ASCII are written as in ASCII.
-/

set_option autoImplicit false
set_option relaxedAutoImplicit false

namespace Pressroom.Slug

/-- What stands for a character that has no spelling of its own. -/
def unknown : String := "[?]"

/-- A run of characters with their spellings, sixteen to a row. In a row the spellings are set apart
by `·`, and `¿` is the mark for a place that holds no character. A row of one spelling gives it to
all sixteen. -/
structure Block where
  first : Nat
  rows : Array String

namespace Block

def entry (row : String) (place : Nat) : String :=
  let spelling := match row.splitOn "·" with
    | [one] => one
    | several => several.getD place ""
  if spelling = "¿" then unknown else spelling

/-- The spelling of the character with a number, if the block holds it. -/
def spelling? (b : Block) (n : Nat) : Option String :=
  if n < b.first then none
  else b.rows[(n - b.first) / 16]?.map (entry · ((n - b.first) % 16))

end Block

end Pressroom.Slug

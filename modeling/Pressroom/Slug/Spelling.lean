import Pressroom.Slug.Asian
import Pressroom.Slug.Form
import Pressroom.Slug.Han
import Pressroom.Slug.Hangul
import Pressroom.Slug.Indic
import Pressroom.Slug.Kana
import Pressroom.Slug.Latin
import Pressroom.Slug.NearEast
import Pressroom.Slug.Symbol
import Pressroom.Slug.Syllabic

/-!
The plain spelling of any character, in ASCII.
-/

set_option autoImplicit false
set_option relaxedAutoImplicit false

namespace Pressroom.Slug

def blocks : List Block :=
  [latin, armenian, arabic, syriac, devanagari, gurmukhi, oriya, telugu, malayalam, thai, tibetan,
    burmese, jamo, ethiopic, cherokee, canadian, runic, khmer, mongolian, phonetic, accented,
    punctuation, letterlike, technical, shapes, braille, radicals, kana, bopomofo, circled, squared,
    yi, lookalikes, ligatures, widths]

def isHan (n : Nat) : Bool := 0x4D00 ≤ n && n < 0xA000

def isPrivate (n : Nat) : Bool := 0xE000 ≤ n && n < 0xF900

/-- The plain spelling of a character. ASCII is its own; a character outside all tables has none. -/
def plain (c : Char) : String :=
  let n := c.toNat
  if n < 0x80 then String.singleton c
  else if isHan n then (han? c).getD (unknown ++ " ")
  else if isHangul n then hangul n
  else if isPrivate n then unknown ++ " "
  else (blocks.findSome? (·.spelling? n)).getD ""

end Pressroom.Slug

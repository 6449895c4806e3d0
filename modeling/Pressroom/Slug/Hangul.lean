import Pressroom.Slug.Block

/-!
Korean syllables: each is written as one character and spelled as its two or three letters.
-/

set_option autoImplicit false
set_option relaxedAutoImplicit false

namespace Pressroom.Slug

def initials : List String :=
  ["g", "gg", "n", "d", "dd", "r", "m", "b", "bb", "s", "ss", "", "j", "jj", "c", "k", "t", "p",
    "h"]

def vowels : List String :=
  ["a", "ae", "ya", "yae", "eo", "e", "yeo", "ye", "o", "wa", "wae", "oe", "yo", "u", "weo", "we",
    "wi", "yu", "eu", "yi", "i"]

/-- The consonants that close a syllable, the first being none. -/
def finals : List String :=
  ["", "g", "gg", "gs", "n", "nj", "nh", "d", "l", "lg", "lm", "lb", "ls", "lt", "lp", "lh", "m",
    "b", "bs", "s", "ss", "ng", "j", "c", "k", "t", "p", "h"]

def firstSyllable : Nat := 0xAC00

def isHangul (n : Nat) : Bool := firstSyllable ≤ n && n < 0xD800

/-- The spelling of a syllable. Syllables are numbered by opening consonant, then vowel, then
closing consonant; the few places after the last one hold no character. -/
def hangul (n : Nat) : String :=
  let k := n - firstSyllable
  match initials[k / (vowels.length * finals.length)]? with
  | some opening =>
    opening ++ vowels.getD (k / finals.length % vowels.length) "" ++
      finals.getD (k % finals.length) ""
  | none => unknown

end Pressroom.Slug

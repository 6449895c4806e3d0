/-!
Digits in bases up to sixteen.
-/

set_option autoImplicit false
set_option relaxedAutoImplicit false

namespace Pressroom.Text

/-- The value of a digit in a base of at most sixteen; letters count in both cases. -/
def digit? (base : Nat) (c : Char) : Option Nat :=
  let v :=
    if '0' ≤ c ∧ c ≤ '9' then c.toNat - '0'.toNat
    else if 'a' ≤ c ∧ c ≤ 'f' then c.toNat - 'a'.toNat + 10
    else if 'A' ≤ c ∧ c ≤ 'F' then c.toNat - 'A'.toNat + 10
    else 16
  if v < base then some v else none

def isDigit (base : Nat) (c : Char) : Bool :=
  (digit? base c).isSome

def ofDigits (base : Nat) (ds : List Char) : Nat :=
  ds.foldl (fun n c => n * base + (digit? base c).getD 0) 0

end Pressroom.Text

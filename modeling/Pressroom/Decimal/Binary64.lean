/-!
Double-precision numbers in exact integer arithmetic: rounding a quotient to the nearest double,
multiplication and division, and a decimal scaled by one power of ten.
-/

set_option autoImplicit false
set_option relaxedAutoImplicit false

namespace Pressroom.Decimal

/-- A finite double: a sign, and `mantissa * 2 ^ exponent`. The exponent is at least `-1074`, the
mantissa has at most 53 bits, and has fewer only with the least exponent. -/
structure Binary64 where
  negative : Bool
  mantissa : Nat
  exponent : Int
  deriving DecidableEq, Repr

namespace Binary64

def minExponent : Int := -1074

def maxExponent : Int := 971

def zero (negative : Bool) : Binary64 := ⟨negative, 0, minExponent⟩

def isZero (x : Binary64) : Bool := x.mantissa == 0

/-- The quotient of `num / den` by `2 ^ e` as a fraction of natural numbers. -/
def scaled (num den : Nat) (e : Int) : Nat × Nat :=
  match e with
  | .ofNat k => (num, den * Nat.pow 2 k)
  | .negSucc k => (num * Nat.pow 2 (k + 1), den)

/-- The exponent at which `num / den` has a 53-bit mantissa, or the least exponent. -/
def exponentOf (num den : Nat) : Int :=
  let guess : Int := (num.log2 : Int) - (den.log2 : Int) - 52
  let (n, d) := scaled num den guess
  max minExponent (if n / d < Nat.pow 2 52 then guess - 1 else guess)

/-- A quotient rounded to the nearest integer, a half to the even one. -/
def roundDiv (num den : Nat) : Nat :=
  let q := num / den
  let r := num % den
  if den < 2 * r || (2 * r == den && q % 2 == 1) then q + 1 else q

/-- The double nearest to `num / den`; none when it would be infinite. -/
def ofRatio? (negative : Bool) (num den : Nat) : Option Binary64 :=
  if num = 0 then some (zero negative)
  else
    let e := exponentOf num den
    let (n, d) := scaled num den e
    let m := roundDiv n d
    let (m, e) := if m = Nat.pow 2 53 then (Nat.pow 2 52, e + 1) else (m, e)
    if maxExponent < e then none else some ⟨negative, m, e⟩

def ratio (x : Binary64) : Nat × Nat :=
  match x.exponent with
  | .ofNat k => (x.mantissa * Nat.pow 2 k, 1)
  | .negSucc k => (x.mantissa, Nat.pow 2 (k + 1))

/-- The product of a double with the double nearest to `10 ^ k`. -/
def mulPow10? (x : Binary64) (k : Nat) : Option Binary64 := do
  let p ← ofRatio? false (Nat.pow 10 k) 1
  let (a, b) := x.ratio
  let (c, d) := p.ratio
  ofRatio? x.negative (a * c) (b * d)

/-- The quotient of a double by the double nearest to `10 ^ k`. -/
def divPow10? (x : Binary64) (k : Nat) : Option Binary64 := do
  let p ← ofRatio? false (Nat.pow 10 k) 1
  let (a, b) := x.ratio
  let (c, d) := p.ratio
  ofRatio? x.negative (a * d) (b * c)

def maxPow10 : Nat := 308

/-- Divide so many times by the greatest power of ten, or until the result is zero. -/
def scaleDown? : Nat → Binary64 → Option Binary64
  | 0, x => some x
  | steps + 1, x =>
    if x.isZero then some x
    else
      match x.divPow10? maxPow10 with
      | none => none
      | some y => scaleDown? steps y

/-- The double read from `significand * 10 ^ exponent`: the significand is rounded to a double, and
then scaled by powers of ten that are themselves doubles. None when the result is infinite. -/
def ofScientific? (negative : Bool) (significand : Nat) (exponent : Int) : Option Binary64 := do
  let x ← ofRatio? negative significand 1
  match exponent with
  | .ofNat k =>
    if k ≤ maxPow10 then x.mulPow10? k
    else if x.isZero then some x
    else none
  | .negSucc k =>
    let steps := k / maxPow10
    let y ← scaleDown? steps x
    y.divPow10? (k + 1 - steps * maxPow10)

end Binary64

end Pressroom.Decimal

import Pressroom.Decimal.Binary64

/-!
The shortest decimal text of a double: the fewest digits that read back as the same double, and of
those the nearest.
-/

set_option autoImplicit false
set_option relaxedAutoImplicit false

namespace Pressroom.Decimal

/-- A decimal: its digits as a number, and the power of ten of the last one. -/
structure Digits where
  value : Nat
  exponent : Int
  deriving DecidableEq, Repr

def pow10 (e : Int) : Nat × Nat :=
  match e with
  | .ofNat k => (Nat.pow 10 k, 1)
  | .negSucc k => (1, Nat.pow 10 (k + 1))

/-- The least `j` at most `fuel` steps above the given one with `den ≤ num * 10 ^ j`. -/
def leastPow10 (num den : Nat) : Nat → Nat → Nat
  | 0, j => j
  | fuel + 1, j => if den ≤ num * Nat.pow 10 j then j else leastPow10 num den fuel (j + 1)

/-- The power of ten of the leading digit of `num / den`. -/
def leadingPow10 (num den : Nat) : Int :=
  if den ≤ num then ((Nat.toDigits 10 (num / den)).length : Int) - 1
  else -(leastPow10 num den 400 1 : Nat)

namespace Binary64

/-- Whether a fraction rounds to the positive double `x`: it lies between the midpoints to the two
neighbours, which count exactly when the mantissa is even. -/
def roundsTo (x : Binary64) (num den : Nat) : Bool :=
  let (a, b) := x.ratio
  let (p, q) := Binary64.ratio ⟨false, 1, x.exponent⟩
  let narrow := x.mantissa == Nat.pow 2 52 && minExponent < x.exponent
  -- In units of a quarter of the gap: value, lower and upper reach.
  let lower := if narrow then 1 else 2
  let left := num * b * q * 4
  let right := a * q * den * 4
  let unit := p * b * den
  let even := x.mantissa % 2 == 0
  if left ≤ right then
    let gap := right - left
    gap < lower * unit || (even && gap == lower * unit)
  else
    let gap := left - right
    gap < 2 * unit || (even && gap == 2 * unit)

/-- The distance of two fractions, compared: whether the first is nearer to `num / den`. -/
def nearer (num den : Nat) (lo hi : Nat) (unit : Nat × Nat) : Bool :=
  -- Compare `v - lo * u` with `hi * u - v`, and let a tie go to the even one.
  let twice := 2 * num * unit.2
  let middle := (lo + hi) * unit.1 * den
  twice < middle || (twice == middle && lo % 2 == 0)

/-- The shortest digits on a grid of at least `n` digits, with `fuel` more sizes to try. -/
def shortestFrom (x : Binary64) (num den : Nat) (lead : Int) : Nat → Nat → Digits
  | 0, n =>
    let e := lead - (n : Int) + 1
    let (p, q) := pow10 e
    ⟨roundDiv (num * q) (den * p), e⟩
  | fuel + 1, n =>
    let e := lead - (n : Int) + 1
    let (p, q) := pow10 e
    let lo := num * q / (den * p)
    let hi := lo + 1
    let loHits := x.roundsTo (lo * p) q
    let hiHits := x.roundsTo (hi * p) q
    if loHits && hiHits then ⟨if nearer num den lo hi (p, q) then lo else hi, e⟩
    else if loHits then ⟨lo, e⟩
    else if hiHits then ⟨hi, e⟩
    else shortestFrom x num den lead fuel (n + 1)

/-- The shortest digits that read back as the double, sign apart. -/
def shortest (x : Binary64) : Digits :=
  let (num, den) := x.ratio
  if num = 0 then ⟨0, 0⟩
  else shortestFrom x num den (leadingPow10 num den) 17 1

end Binary64

/-- Drop the zeros at the end of a list of digits, counting them. -/
def dropZeros (digits : List Char) : List Char × Nat :=
  let kept := (digits.reverse.dropWhile (· == '0')).reverse
  (kept, digits.length - kept.length)

/-- The text of a power of ten: its sign, which is always written, and its digits. -/
def exponentText (e : Int) : List Char :=
  (if e < 0 then '-' else '+') :: Nat.toDigits 10 e.natAbs

/-- The text of a double: positional when the power of ten of the first digit lies between -5 and
15, with at least one digit after the point, and otherwise with that power as an exponent. -/
def Binary64.toText (x : Binary64) : String :=
  let sign := if x.negative then "-" else ""
  let d := x.shortest
  if d.value = 0 then sign ++ "0.0"
  else
    let (digits, zeros) := dropZeros (Nat.toDigits 10 d.value)
    let e : Int := d.exponent + (zeros : Int)
    let n : Int := digits.length
    let point := n + e
    let text :=
      if 0 ≤ e && point ≤ 16 then
        digits ++ List.replicate e.toNat '0' ++ ['.', '0']
      else if 0 < point && point ≤ 16 then
        digits.take point.toNat ++ ['.'] ++ digits.drop point.toNat
      else if -5 < point && point ≤ 0 then
        ['0', '.'] ++ List.replicate (-point).toNat '0' ++ digits
      else
        let exponent := exponentText (point - 1)
        match digits with
        | [] => exponent
        | [c] => c :: 'e' :: exponent
        | c :: rest => c :: '.' :: rest ++ 'e' :: exponent
    sign ++ String.ofList text

end Pressroom.Decimal

import Pressroom.Datum.Basic
import Pressroom.Text.Digit

/-!
Numbers, dates and times in TOML. A date or time is read for its form only; as data it is a record
of its own, which has no field that any other record has.
-/

set_option autoImplicit false
set_option relaxedAutoImplicit false

namespace Pressroom.Toml

open Pressroom.Decimal (Binary64)
open Pressroom.Text (digit? isDigit ofDigits)

/-- Digits with single underscores between them: the digits, and the rest. -/
def digitRun (base : Nat) : List Char → List Char × List Char
  | '_' :: c :: rest =>
    if isDigit base c then
      let (ds, rest) := digitRun base rest
      (c :: ds, rest)
    else ([], '_' :: c :: rest)
  | c :: rest =>
    if isDigit base c then
      let (ds, rest) := digitRun base rest
      (c :: ds, rest)
    else ([], c :: rest)
  | [] => ([], [])

/-- A run of at least one digit, which starts with a digit. -/
def digits? (base : Nat) : List Char → Option (List Char × List Char)
  | '_' :: _ => none
  | cs =>
    match digitRun base cs with
    | ([], _) => none
    | r => some r

/-- The digits of a decimal integer: a single zero, or a run that starts with another digit. -/
def decimal? : List Char → Option (List Char × List Char)
  | '0' :: rest => some (['0'], rest)
  | cs => digits? 10 cs

def sign : List Char → Option Bool × List Char
  | '+' :: rest => (some false, rest)
  | '-' :: rest => (some true, rest)
  | cs => (none, cs)

def integer64? (n : Int) : Option Datum :=
  if -0x8000000000000000 ≤ n ∧ n < 0x8000000000000000 then some (.integer n) else none

def fraction? : List Char → Option (List Char × List Char)
  | '.' :: rest => digits? 10 rest
  | cs => some ([], cs)

def exponent? (cs : List Char) : Option (Option Int × List Char) :=
  match cs with
  | c :: rest =>
    if c == 'e' || c == 'E' then do
      let (negative, rest) := sign rest
      let (ds, rest) ← digits? 10 rest
      let n : Int := ofDigits 10 ds
      return (some (if negative == some true then -n else n), rest)
    else some (none, cs)
  | [] => some (none, cs)

/-- The double nearest to the number that digits and an exponent write; none when it is infinite. -/
def nearest? (negative : Bool) (digits : List Char) (exponent : Int) : Option Binary64 :=
  let significant := digits.dropWhile (· == '0')
  let n := ofDigits 10 significant
  let size : Int := significant.length + exponent
  if n = 0 then some (.zero negative)
  else if 400 < size then none
  else if size < -400 then some (.zero negative)
  else
    match exponent with
    | .ofNat k => Binary64.ofRatio? negative (n * Nat.pow 10 k) 1
    | .negSucc k => Binary64.ofRatio? negative n (Nat.pow 10 (k + 1))

/-- A number with a point or an exponent. Only a negative one may be infinite. -/
def float? (negative : Bool) (digits : List Char) (exponent : Int) : Option Datum :=
  match nearest? negative digits exponent with
  | some x => some (.float x)
  | none => if negative then some (.nonFinite "-inf") else none

/-- A number in one of the bases that a mark announces. -/
def based? : List Char → Option (Datum × List Char)
  | '0' :: 'x' :: rest => inBase 16 rest
  | '0' :: 'o' :: rest => inBase 8 rest
  | '0' :: 'b' :: rest => inBase 2 rest
  | _ => none
where
  /-- An integer in a base. -/
  inBase (base : Nat) (cs : List Char) : Option (Datum × List Char) := do
    let (ds, rest) ← digits? base cs
    return (← integer64? (ofDigits base ds), rest)

def special? (negative : Bool) : List Char → Option (Datum × List Char)
  | 'i' :: 'n' :: 'f' :: rest => some (.nonFinite (if negative then "-inf" else "inf"), rest)
  | 'n' :: 'a' :: 'n' :: rest => some (.nonFinite "nan", rest)
  | _ => none

def decimalNumber? (cs : List Char) : Option (Datum × List Char) := do
  let (mark, cs) := sign cs
  let negative := mark == some true
  match special? negative cs with
  | some r => return r
  | none =>
    let (whole, cs) ← decimal? cs
    let (frac, cs) ← fraction? cs
    let (exponent, cs) ← exponent? cs
    if frac.isEmpty && exponent.isNone then
      let n : Int := ofDigits 10 whole
      return (← integer64? (if negative then -n else n), cs)
    else
      let x ← float? negative (whole ++ frac) (exponent.getD 0 - (frac.length : Int))
      return (x, cs)

def number? (cs : List Char) : Option (Datum × List Char) :=
  match cs with
  | '0' :: 'x' :: _ => based? cs
  | '0' :: 'o' :: _ => based? cs
  | '0' :: 'b' :: _ => based? cs
  | _ => decimalNumber? cs

def fixedDigits? (n : Nat) (cs : List Char) : Option (Nat × List Char) :=
  let ds := cs.take n
  if ds.length = n && ds.all (isDigit 10) then some (ofDigits 10 ds, cs.drop n) else none

def twoDigits? (low high : Nat) (cs : List Char) : Option (Nat × List Char) := do
  let (n, rest) ← fixedDigits? 2 cs
  if low ≤ n && n ≤ high then return (n, rest) else none

def mark? (c : Char) : List Char → Option (List Char)
  | [] => none
  | d :: rest => if c = d then some rest else none

def daysIn (year month : Nat) : Nat :=
  if month = 2 then
    if year % 4 = 0 ∧ (year % 100 ≠ 0 ∨ year % 400 = 0) then 29 else 28
  else if month = 4 ∨ month = 6 ∨ month = 9 ∨ month = 11 then 30
  else 31

def date? (cs : List Char) : Option (List Char) := do
  let (year, cs) ← fixedDigits? 4 cs
  let (month, cs) ← twoDigits? 1 12 (← mark? '-' cs)
  let (day, cs) ← twoDigits? 1 31 (← mark? '-' cs)
  if day ≤ daysIn year month then return cs else none

def time? (cs : List Char) : Option (List Char) := do
  let (_, cs) ← twoDigits? 0 23 cs
  let (_, cs) ← twoDigits? 0 59 (← mark? ':' cs)
  let (_, cs) ← twoDigits? 0 60 (← mark? ':' cs)
  match cs with
  | '.' :: rest =>
    let rest' := rest.dropWhile (isDigit 10)
    if rest'.length < rest.length then return rest' else return cs
  | _ => return cs

def offset (cs : List Char) : List Char :=
  match cs with
  | 'Z' :: rest => rest
  | 'z' :: rest => rest
  | '+' :: rest => (hours? rest).getD cs
  | '-' :: rest => (hours? rest).getD cs
  | _ => cs
where
  /-- Hours and minutes. -/
  hours? (cs : List Char) : Option (List Char) := do
    let (_, cs) ← twoDigits? 0 23 cs
    let (_, cs) ← twoDigits? 0 59 (← mark? ':' cs)
    return cs

/-- A date with or without a time, or a time alone: what is left after it. -/
def momentEnd? (cs : List Char) : Option (List Char) :=
  match date? cs with
  | some rest =>
    match rest with
    | c :: after =>
      if c == 'T' || c == 't' || c == ' ' then
        match time? after with
        | some after => some (offset after)
        | none => some rest
      else some rest
    | [] => some rest
  | none => time? cs

def moment? (cs : List Char) : Option (Datum × List Char) := do
  let rest ← momentEnd? cs
  let lexeme := cs.take (cs.length - rest.length)
  return (.record [("$moment", .text (String.ofList lexeme))], rest)

end Pressroom.Toml

import Pressroom.Datum.Basic
import Pressroom.Text.Digit

/-!
Reading JSON text. The grammar is the strict one, nesting is limited, and a number is an integer
when it is written as one and fits 64 bits, otherwise a double.
-/

set_option autoImplicit false
set_option relaxedAutoImplicit false

namespace Pressroom.Json

open Pressroom.Decimal (Binary64)
open Pressroom.Text (digit? isDigit ofDigits)

def isSpace (c : Char) : Bool :=
  c == ' ' || c == '\n' || c == '\t' || c == '\r'

def skipSpace (cs : List Char) : List Char :=
  cs.dropWhile isSpace

def unit? (a b c d : Char) : Option Nat := do
  let a ← digit? 16 a
  let b ← digit? 16 b
  let c ← digit? 16 c
  let d ← digit? 16 d
  return ((a * 16 + b) * 16 + c) * 16 + d

/-- The character that a one-letter escape stands for. -/
def simpleEscape? (c : Char) : Option Char :=
  match c with
  | '"' => some '"'
  | '\\' => some '\\'
  | '/' => some '/'
  | 'b' => some '\x08'
  | 'f' => some '\x0c'
  | 'n' => some '\n'
  | 'r' => some '\r'
  | 't' => some '\t'
  | _ => none

def surrogatePair (high low : Nat) : Char :=
  Char.ofNat (0x10000 + (high - 0xD800) * 0x400 + (low - 0xDC00))

/-- The rest of a string after its opening quote: its characters, and what follows the closing
quote. Surrogates must come in pairs, and control characters must be escaped. -/
def stringBody (acc : List Char) : List Char → Option (List Char × List Char)
  | [] => none
  | '"' :: rest => some (acc.reverse, rest)
  | '\\' :: 'u' :: a :: b :: c :: d :: rest =>
    match unit? a b c d with
    | none => none
    | some u =>
      if 0xDC00 ≤ u ∧ u ≤ 0xDFFF then none
      else if 0xD800 ≤ u ∧ u ≤ 0xDBFF then
        match rest with
        | '\\' :: 'u' :: e :: f :: g :: h :: rest' =>
          match unit? e f g h with
          | none => none
          | some v =>
            if 0xDC00 ≤ v ∧ v ≤ 0xDFFF then stringBody (surrogatePair u v :: acc) rest'
            else none
        | _ => none
      else stringBody (Char.ofNat u :: acc) rest
  | '\\' :: c :: rest =>
    match simpleEscape? c with
    | none => none
    | some e => stringBody (e :: acc) rest
  | c :: rest => if c == '\\' || c.toNat < 0x20 then none else stringBody (c :: acc) rest

/-- Append digits to a significand for as long as it fits 64 bits; the digits left over. -/
def takeDigits (significand : Nat) : List Char → Nat × List Char
  | [] => (significand, [])
  | d :: rest =>
    let next := significand * 10 + (digit? 10 d).getD 0
    if next < 0x10000000000000000 then takeDigits next rest else (significand, d :: rest)

/-- The digits after the point, if there is one; none when it has no digit after it. -/
def fraction? : List Char → Option (List Char × List Char)
  | '.' :: rest =>
    let ds := rest.takeWhile (isDigit 10)
    if ds.isEmpty then none else some (ds, rest.dropWhile (isDigit 10))
  | cs => some ([], cs)

/-- The exponent, if there is one; none when it has no digit. -/
def exponent? (cs : List Char) : Option (Option Int × List Char) :=
  match cs with
  | c :: rest =>
    if c == 'e' || c == 'E' then
      let (negative, rest) :=
        match rest with
        | '+' :: r => (false, r)
        | '-' :: r => (true, r)
        | r => (false, r)
      let ds := rest.takeWhile (isDigit 10)
      if ds.isEmpty then none
      else
        let n : Int := ofDigits 10 ds
        some (some (if negative then -n else n), rest.dropWhile (isDigit 10))
    else some (none, cs)
  | [] => some (none, cs)

/-- An integer: a natural number below `2 ^ 64`, a negative one from `-2 ^ 63`, else a double. -/
def ofInteger? (negative : Bool) (significand : Nat) : Option Datum :=
  if !negative then some (.integer significand)
  else if significand = 0 || 0x8000000000000000 < significand then
    (Binary64.ofRatio? true significand 1).map .float
  else some (.integer (-(significand : Int)))

/-- The digits of the integral part: a single zero, or digits that start with another one. -/
def integral? : List Char → Option (List Char × List Char)
  | '0' :: rest =>
    match rest with
    | c :: _ => if isDigit 10 c then none else some (['0'], rest)
    | [] => some (['0'], rest)
  | cs =>
    let ds := cs.takeWhile (isDigit 10)
    if ds.isEmpty then none else some (ds, cs.dropWhile (isDigit 10))

def unsigned? (negative : Bool) (cs : List Char) : Option (Datum × List Char) := do
  let (whole, cs) ← integral? cs
  let (frac, cs) ← fraction? cs
  let (exponent, cs) ← exponent? cs
  let (significand, beyond) := takeDigits 0 whole
  if frac.isEmpty && exponent.isNone && beyond.isEmpty then
    return (← ofInteger? negative significand, cs)
  else
    let (significand, unread) := takeDigits significand frac
    let shift : Int := (beyond.length : Int) - ((frac.length - unread.length : Nat) : Int)
    let x ← Binary64.ofScientific? negative significand (shift + exponent.getD 0)
    return (.float x, cs)

def number? : List Char → Option (Datum × List Char)
  | '-' :: rest => unsigned? true rest
  | cs => unsigned? false cs

mutual

/-- A value, with `depth` more levels of nesting allowed. -/
def value? (depth : Nat) : Nat → List Char → Option (Datum × List Char)
  | 0, _ => none
  | fuel + 1, cs =>
    match skipSpace cs with
    | 'n' :: 'u' :: 'l' :: 'l' :: rest => some (.null, rest)
    | 't' :: 'r' :: 'u' :: 'e' :: rest => some (.bool true, rest)
    | 'f' :: 'a' :: 'l' :: 's' :: 'e' :: rest => some (.bool false, rest)
    | '"' :: rest =>
      match stringBody [] rest with
      | some (s, rest) => some (.text (String.ofList s), rest)
      | none => none
    | '[' :: rest =>
      match depth with
      | 0 => none
      | depth + 1 =>
        match skipSpace rest with
        | ']' :: rest => some (.list [], rest)
        | rest => items? depth fuel [] rest
    | '\x7b' :: rest =>
      match depth with
      | 0 => none
      | depth + 1 =>
        match skipSpace rest with
        | '\x7d' :: rest => some (.record [], rest)
        | rest => members? depth fuel [] rest
    | cs => number? cs

def items? (depth : Nat) : Nat → List Datum → List Char → Option (Datum × List Char)
  | 0, _, _ => none
  | fuel + 1, acc, cs =>
    match value? depth fuel cs with
    | none => none
    | some (v, rest) =>
      match skipSpace rest with
      | ',' :: rest => items? depth fuel (v :: acc) rest
      | ']' :: rest => some (.list (v :: acc).reverse, rest)
      | _ => none

def members? (depth : Nat) : Nat → List (String × Datum) → List Char → Option (Datum × List Char)
  | 0, _, _ => none
  | fuel + 1, acc, cs =>
    match skipSpace cs with
    | '"' :: rest =>
      match stringBody [] rest with
      | none => none
      | some (name, rest) =>
        match skipSpace rest with
        | ':' :: rest =>
          match value? depth fuel rest with
          | none => none
          | some (v, rest) =>
            let acc := (String.ofList name, v) :: acc
            match skipSpace rest with
            | ',' :: rest => members? depth fuel acc rest
            | '\x7d' :: rest => some (Datum.ofFields acc.reverse, rest)
            | _ => none
        | _ => none
    | _ => none

end

def maxDepth : Nat := 127

/-- Read a JSON text: one value, and blanks around it. -/
def parse? (s : String) : Option Datum :=
  let cs := s.toList
  match value? maxDepth (2 * cs.length + 2) cs with
  | none => none
  | some (v, rest) => if (skipSpace rest).isEmpty then some v else none

end Pressroom.Json

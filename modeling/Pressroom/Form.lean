import Pressroom.Text.Basic
import Pressroom.Text.Digit
import Pressroom.Text.Utf8

/-!
Form-urlencoded text: pairs of a key and a value, joined by `&`, each written byte by byte.
-/

set_option autoImplicit false
set_option relaxedAutoImplicit false

namespace Pressroom.Form

/-- The bytes that are written as they are. -/
def isKept (b : UInt8) : Bool :=
  (0x30 ≤ b && b ≤ 0x39) || (0x41 ≤ b && b ≤ 0x5A) || (0x61 ≤ b && b ≤ 0x7A)
    || b == 0x2A || b == 0x2D || b == 0x2E || b == 0x5F

def hexDigit (n : Nat) : Char :=
  if n < 10 then Char.ofNat ('0'.toNat + n) else Char.ofNat ('A'.toNat + n - 10)

def encodeByte (b : UInt8) : List Char :=
  if isKept b then [Char.ofNat b.toNat]
  else if b = 0x20 then ['+']
  else ['%', hexDigit (b.toNat / 16), hexDigit (b.toNat % 16)]

def encodePart (s : String) : List Char :=
  (Text.Utf8.encode s.toList).flatMap encodeByte

def encodePair (pair : String × String) : List Char :=
  encodePart pair.1 ++ '=' :: encodePart pair.2

def encode (pairs : List (String × String)) : String :=
  String.ofList (Text.join '&' (pairs.map encodePair))

/-- The bytes that a written part stands for: a plus is a space, a percent sign with two digits is
the byte they name, and any other character is its own bytes. -/
def partBytes : List Char → List UInt8
  | [] => []
  | '+' :: rest => 0x20 :: partBytes rest
  | '%' :: a :: b :: rest =>
    match Text.digit? 16 a, Text.digit? 16 b with
    | some x, some y => (x * 16 + y).toUInt8 :: partBytes rest
    | _, _ => 0x25 :: partBytes (a :: b :: rest)
  | c :: rest => Text.Utf8.encodeChar c ++ partBytes rest

def decodePart (cs : List Char) : String :=
  String.ofList (Text.Utf8.decodeLossy (partBytes cs))

/-- The pair that a written piece stands for. Without `=` the value is empty. -/
def decodePair (cs : List Char) : String × String :=
  (decodePart (Text.before (· == '=') cs), decodePart ((Text.after? '=' cs).getD []))

/-- The pairs of a text. Empty pieces do not count. -/
def decode (s : String) : List (String × String) :=
  ((Text.pieces '&' s.toList).filter (!·.isEmpty)).map decodePair

end Pressroom.Form

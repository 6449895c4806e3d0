import Pressroom.Datum.Basic
import Pressroom.Decimal.Shortest

/-!
Writing JSON text, without blanks between the tokens.
-/

set_option autoImplicit false
set_option relaxedAutoImplicit false

namespace Pressroom.Json

def hexDigit (n : Nat) : Char :=
  if n < 10 then Char.ofNat ('0'.toNat + n) else Char.ofNat ('a'.toNat + n - 10)

def escape (c : Char) : List Char :=
  match c with
  | '"' => ['\\', '"']
  | '\\' => ['\\', '\\']
  | '\n' => ['\\', 'n']
  | '\r' => ['\\', 'r']
  | '\t' => ['\\', 't']
  | c =>
    if c.toNat < 0x20 then
      ['\\', 'u', '0', '0', hexDigit (c.toNat / 16), hexDigit (c.toNat % 16)]
    else [c]

def quote (s : String) : String :=
  String.ofList ('"' :: s.toList.flatMap escape ++ ['"'])

mutual

def render : Datum → String
  | .null => "null"
  | .bool true => "true"
  | .bool false => "false"
  | .integer n => toString n
  | .float x => x.toText
  | .nonFinite _ => "null"
  | .text s => quote s
  | .list items => "[" ++ ",".intercalate (renderItems items) ++ "]"
  | .record fields => "\x7b" ++ ",".intercalate (renderFields fields) ++ "\x7d"

def renderItems : List Datum → List String
  | [] => []
  | v :: rest => render v :: renderItems rest

def renderFields : List (String × Datum) → List String
  | [] => []
  | (name, v) :: rest => (quote name ++ ":" ++ render v) :: renderFields rest

end

end Pressroom.Json

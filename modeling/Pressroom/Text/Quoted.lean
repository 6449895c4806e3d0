import Pressroom.Text.Printable

/-!
Text between quotes, as messages show it: quotes and backslashes are escaped, the common controls
have letters, and any other character that is not shown is written by its code point.
-/

set_option autoImplicit false
set_option relaxedAutoImplicit false

namespace Pressroom.Text

def quoteChar (c : Char) : List Char :=
  match c with
  | '"' => ['\\', '"']
  | '\\' => ['\\', '\\']
  | '\n' => ['\\', 'n']
  | '\r' => ['\\', 'r']
  | '\t' => ['\\', 't']
  | '\x00' => ['\\', '0']
  | c =>
    if isShown c then [c]
    else ['\\', 'u', '\x7b'] ++ Nat.toDigits 16 c.toNat ++ ['\x7d']

def quoted (s : String) : String :=
  String.ofList ('"' :: s.toList.flatMap quoteChar ++ ['"'])

end Pressroom.Text

import Pressroom.Text.Digit

/-!
The small pieces of a TOML text: blanks, comments and line ends, strings and keys. Each reader takes
the characters that are left and gives what it read with what is left then.
-/

set_option autoImplicit false
set_option relaxedAutoImplicit false

namespace Pressroom.Toml

def isWs (c : Char) : Bool :=
  c == ' ' || c == '\t'

def skipWs (cs : List Char) : List Char :=
  cs.dropWhile isWs

def isCommentChar (c : Char) : Bool :=
  c == '\t' || (0x20 ≤ c.toNat && c.toNat != 0x7F)

def newline? : List Char → Option (List Char)
  | '\n' :: rest => some rest
  | '\r' :: '\n' :: rest => some rest
  | _ => none

def skipComment : List Char → List Char
  | '#' :: rest => rest.dropWhile isCommentChar
  | cs => cs

/-- Step over blanks, a comment and the end of the line or of the text. -/
def lineEnd? (cs : List Char) : Option (List Char) :=
  match skipComment (skipWs cs) with
  | [] => some []
  | rest => newline? rest

/-- Skip blanks, line ends and comments that end with their line. -/
def skipLines : Nat → List Char → List Char
  | 0, cs => cs
  | fuel + 1, cs =>
    let rest := skipWs cs
    match newline? (skipComment rest) with
    | some rest => skipLines fuel rest
    | none => rest

/-- The characters of a string on one line, apart from quotes and escapes. -/
def isBasicChar (c : Char) : Bool :=
  c == '\t' || (0x20 ≤ c.toNat && c.toNat != 0x7F && c != '"' && c != '\\')

def isLiteralChar (c : Char) : Bool :=
  c == '\t' || (0x20 ≤ c.toNat && c.toNat != 0x7F && c != '\x27')

/-- The character that a one-letter escape stands for. -/
def simpleEscape? (c : Char) : Option Char :=
  match c with
  | 'b' => some '\x08'
  | 't' => some '\t'
  | 'n' => some '\n'
  | 'f' => some '\x0c'
  | 'r' => some '\r'
  | '"' => some '"'
  | '\\' => some '\\'
  | _ => none

/-- The character of a code point, unless it is a surrogate or too large. -/
def scalar? (n : Nat) : Option Char :=
  if n.isValidChar then some (Char.ofNat n) else none

def hexScalar? (ds : List Char) : Option Char :=
  if ds.all (Text.isDigit 16) then scalar? (Text.ofDigits 16 ds) else none

/-- The rest of a basic string after its opening quote. -/
def basicBody (acc : List Char) : List Char → Option (List Char × List Char)
  | [] => none
  | '"' :: rest => some (acc.reverse, rest)
  | '\\' :: 'u' :: a :: b :: c :: d :: rest =>
    match hexScalar? [a, b, c, d] with
    | none => none
    | some x => basicBody (x :: acc) rest
  | '\\' :: 'U' :: a :: b :: c :: d :: e :: f :: g :: h :: rest =>
    match hexScalar? [a, b, c, d, e, f, g, h] with
    | none => none
    | some x => basicBody (x :: acc) rest
  | '\\' :: c :: rest =>
    match simpleEscape? c with
    | none => none
    | some x => basicBody (x :: acc) rest
  | c :: rest => if isBasicChar c then basicBody (c :: acc) rest else none

/-- Whether only blanks stand before the end of the line. -/
def blankToLineEnd (cs : List Char) : Bool :=
  (newline? (skipWs cs)).isSome

/-- The rest of a basic string of several lines. Up to two quotes may stand before the closing
three. A backslash at the end of a line skips to the next character that is not blank; `skipping`
tells that this is going on. -/
def multiBasicBody (acc : List Char) : Bool → List Char → Option (List Char × List Char)
  | _, [] => none
  | true, ' ' :: rest => multiBasicBody acc true rest
  | true, '\t' :: rest => multiBasicBody acc true rest
  | true, '\n' :: rest => multiBasicBody acc true rest
  | true, '\r' :: '\n' :: rest => multiBasicBody acc true rest
  | _, '"' :: '"' :: '"' :: '"' :: '"' :: rest => some (('"' :: '"' :: acc).reverse, rest)
  | _, '"' :: '"' :: '"' :: '"' :: rest => some (('"' :: acc).reverse, rest)
  | _, '"' :: '"' :: '"' :: rest => some (acc.reverse, rest)
  | _, '"' :: rest => multiBasicBody ('"' :: acc) false rest
  | _, '\n' :: rest => multiBasicBody ('\n' :: acc) false rest
  | _, '\r' :: '\n' :: rest => multiBasicBody ('\n' :: acc) false rest
  | _, '\\' :: 'u' :: a :: b :: c :: d :: rest =>
    match hexScalar? [a, b, c, d] with
    | none => none
    | some x => multiBasicBody (x :: acc) false rest
  | _, '\\' :: 'U' :: a :: b :: c :: d :: e :: f :: g :: h :: rest =>
    match hexScalar? [a, b, c, d, e, f, g, h] with
    | none => none
    | some x => multiBasicBody (x :: acc) false rest
  | _, '\\' :: c :: rest =>
    if blankToLineEnd (c :: rest) then multiBasicBody acc true (c :: rest)
    else
      match simpleEscape? c with
      | none => none
      | some x => multiBasicBody (x :: acc) false rest
  | _, c :: rest => if isBasicChar c then multiBasicBody (c :: acc) false rest else none

/-- The rest of a literal string after its opening apostrophe. -/
def literalBody (acc : List Char) : List Char → Option (List Char × List Char)
  | [] => none
  | '\x27' :: rest => some (acc.reverse, rest)
  | c :: rest => if isLiteralChar c then literalBody (c :: acc) rest else none

def multiLiteralBody (acc : List Char) : List Char → Option (List Char × List Char)
  | [] => none
  | '\x27' :: '\x27' :: '\x27' :: '\x27' :: '\x27' :: rest => some (('\x27' :: '\x27' :: acc).reverse, rest)
  | '\x27' :: '\x27' :: '\x27' :: '\x27' :: rest => some (('\x27' :: acc).reverse, rest)
  | '\x27' :: '\x27' :: '\x27' :: rest => some (acc.reverse, rest)
  | '\x27' :: rest => multiLiteralBody ('\x27' :: acc) rest
  | '\n' :: rest => multiLiteralBody ('\n' :: acc) rest
  | '\r' :: '\n' :: rest => multiLiteralBody ('\n' :: acc) rest
  | c :: rest => if isLiteralChar c then multiLiteralBody (c :: acc) rest else none

/-- Step over a line end at the start of a string of several lines. -/
def dropFirstNewline (cs : List Char) : List Char :=
  (newline? cs).getD cs

def string? : List Char → Option (List Char × List Char)
  | '"' :: '"' :: '"' :: rest => multiBasicBody [] false (dropFirstNewline rest)
  | '\x27' :: '\x27' :: '\x27' :: rest => multiLiteralBody [] (dropFirstNewline rest)
  | '"' :: rest => basicBody [] rest
  | '\x27' :: rest => literalBody [] rest
  | _ => none

def isKeyChar (c : Char) : Bool :=
  ('a' ≤ c && c ≤ 'z') || ('A' ≤ c && c ≤ 'Z') || ('0' ≤ c && c ≤ '9') || c == '-' || c == '_'

/-- One part of a key: bare or a string on one line. -/
def simpleKey? : List Char → Option (String × List Char)
  | '"' :: rest => (basicBody [] rest).map fun (s, rest) => (String.ofList s, rest)
  | '\x27' :: rest => (literalBody [] rest).map fun (s, rest) => (String.ofList s, rest)
  | cs =>
    let name := cs.takeWhile isKeyChar
    if name.isEmpty then none else some (String.ofList name, cs.dropWhile isKeyChar)

/-- How many parts a key may have, and how deep values may be nested. -/
def maxDepth : Nat := 79

/-- The parts of a key between dots, with blanks around each; at most `left + 1` of them. -/
def keyParts? : Nat → List Char → Option (List String × List Char)
  | 0, _ => none
  | left + 1, cs =>
    match simpleKey? (skipWs cs) with
    | none => none
    | some (name, rest) =>
      match skipWs rest with
      | '.' :: rest =>
        match keyParts? left rest with
        | none => none
        | some (names, rest) => some (name :: names, rest)
      | rest => some ([name], rest)

def key? (cs : List Char) : Option (List String × List Char) :=
  keyParts? maxDepth cs

end Pressroom.Toml

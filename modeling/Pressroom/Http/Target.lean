import Pressroom.Text.Basic

/-!
The target of a request: a path with a query, an absolute target with a scheme and an authority in
front of its path, or an authority alone, which names nothing on the site.
-/

set_option autoImplicit false
set_option relaxedAutoImplicit false

namespace Pressroom.Http

inductive Resource where
  | malformed
  | tooLong
  | outside
  | place (path : String) (query : String)
  deriving DecidableEq, Repr

namespace Resource

/-- The characters that may stand in a target at all: no blank, no control. -/
def isTargetChar (c : Char) : Bool :=
  0x21 ≤ c.toNat && c.toNat != 0x7F

def isPathChar (c : Char) : Bool :=
  let n := c.toNat
  n == 0x21 || n == 0x22 || (0x24 ≤ n && n ≤ 0x3B) || n == 0x3D || (0x40 ≤ n && n ≤ 0x5F)
    || 0x61 ≤ n

def isQueryChar (c : Char) : Bool :=
  let n := c.toNat
  n == 0x21 || (0x24 ≤ n && n ≤ 0x3B) || n == 0x3D || 0x3F ≤ n

def isSchemeChar (c : Char) : Bool :=
  c.isAlphanum || c == '+' || c == '-' || c == '.' || c == '~'

/-- The characters that may stand in an authority, those with a meaning of their own apart. -/
def isAuthorityChar (c : Char) : Bool :=
  c.isAlphanum || "!$&\x27()*+,-.;=_~".toList.contains c

def endsAuthority (c : Char) : Bool :=
  c == '/' || c == '?' || c == '#'

def maxTargetBytes : Nat := 65534

def maxSchemeLength : Nat := 64

/-- How many colons may stand before a bracket or an at sign takes them back. -/
def maxColons : Nat := 8

/-- The path and query of a text that starts with a slash. The fragment is dropped. -/
def ofPath (cs : List Char) : Resource :=
  let body := Text.before (· == '#') cs
  let path := Text.before (· == '?') body
  let query := (Text.after? '?' body).getD []
  if path.all isPathChar && query.all isQueryChar then
    .place (String.ofList path) (String.ofList query)
  else .malformed

def scheme? (cs : List Char) : Option (List Char × List Char) :=
  match cs.dropWhile isSchemeChar with
  | ':' :: '/' :: '/' :: rest =>
    if cs.length ≤ 3 then none else some (cs.takeWhile isSchemeChar, rest)
  | _ => none

/-- What has been seen of an authority: colons that may mark a port, brackets, a percent sign, and
whether the last character was an at sign. -/
structure Seen where
  colons : Nat
  opened : Bool
  closed : Bool
  percent : Bool
  atSign : Bool
  deriving DecidableEq, Repr

namespace Seen

def nothing : Seen := ⟨0, false, false, false, false⟩

/-- Look at one more character. What stands before an at sign, and what stands between brackets, is
no host name and may have colons and percent signs. -/
def next? (s : Seen) (c : Char) : Option Seen :=
  let s := { s with atSign := false }
  match c with
  | ':' => if maxColons ≤ s.colons then none else some { s with colons := s.colons + 1 }
  | '[' => if s.percent || s.opened then none else some { s with opened := true }
  | ']' =>
    if !s.opened || s.closed then none
    else some { s with closed := true, colons := 0, percent := false }
  | '@' => some { s with colons := 0, percent := false, atSign := true }
  | '%' => some { s with percent := true }
  | c => if isAuthorityChar c then some s else none

/-- Whether an authority may end here: brackets are paired, at most one colon marks a port, and a
host follows an at sign. -/
def mayEnd (s : Seen) : Bool :=
  s.opened == s.closed && s.colons ≤ 1 && !s.atSign && !s.percent

end Seen

def isAuthority (cs : List Char) : Bool :=
  !cs.isEmpty && (cs.foldlM Seen.next? Seen.nothing).any (·.mayEnd)

/-- An absolute target, after its scheme: an authority, and a path that may lack its slash. -/
def ofAbsolute (cs : List Char) : Resource :=
  if isAuthority (Text.before endsAuthority cs) then
    match cs.dropWhile (!endsAuthority ·) with
    | '/' :: rest => ofPath ('/' :: rest)
    | rest => ofPath ('/' :: rest)
  else .malformed

def parse (target : String) : Resource :=
  let cs := target.toList
  if !cs.all isTargetChar then .malformed
  else if maxTargetBytes < target.utf8ByteSize then .tooLong
  else
    match cs with
    | '/' :: rest => ofPath ('/' :: rest)
    | ['*'] => .outside
    | cs =>
      match scheme? cs with
      | some (scheme, rest) =>
        if maxSchemeLength < scheme.length then .malformed else ofAbsolute rest
      | none => if isAuthority cs then .outside else .malformed

end Resource

end Pressroom.Http

import Pressroom.Text.Basic

/-!
Request paths and request targets. A path is the list of its non-empty segments; a target is a
path with a query, and what follows `#` is dropped.
-/

set_option autoImplicit false
set_option relaxedAutoImplicit false

namespace Pressroom.Route

/-- A requested path, by its segments. The root has none. -/
structure Path where
  segments : List String
  deriving DecidableEq, Repr

namespace Path

def endsPath (c : Char) : Bool :=
  c == '?' || c == '#'

/-- Read the path part of a text. Empty segments do not count. -/
def parse (raw : String) : Path :=
  ⟨((Text.pieces '/' (Text.before endsPath raw.toList)).filter (!·.isEmpty)).map String.ofList⟩

/-- The text of a path: a slash, then its segments between slashes. -/
def display (p : Path) : String :=
  "/" ++ "/".intercalate p.segments

def isRoot (p : Path) : Bool :=
  p.segments.isEmpty

def join (p : Path) (segment : String) : Path :=
  ⟨p.segments ++ [segment]⟩

end Path

/-- What a request asks for: a path and the raw text of its query. -/
structure Target where
  path : Path
  query : String
  deriving DecidableEq, Repr

/-- Read a target. The fragment is dropped first, then the first `?` divides path and query. -/
def Target.parse (raw : String) : Target :=
  let body := Text.before (· == '#') raw.toList
  ⟨Path.parse (String.ofList (Text.before (· == '?') body)),
    String.ofList ((Text.after? '?' body).getD [])⟩

end Pressroom.Route

import Pressroom.Page.Kind
import Pressroom.Route.Location
import Pressroom.Route.Path

/-!
The route table: a manifest names a view for each location, the table holds one module per
location, and a path resolves to the module at exactly that place, or else to the index below it.
-/

set_option autoImplicit false
set_option relaxedAutoImplicit false

namespace Pressroom.Route

open Pressroom.Page (View UnknownView)

structure Entry where
  location : String
  view : String
  deriving DecidableEq, Repr

structure Module where
  location : Location
  view : View
  deriving DecidableEq

inductive MatchKind where
  | exact
  | index
  deriving DecidableEq, Repr

namespace MatchKind

def name : MatchKind → String
  | .exact => "exact"
  | .index => "index"

/-- The match kinds in the order in which they are tried. -/
def precedence : List MatchKind := [.exact, .index]

/-- The segments at which a match of this kind would stand. -/
def candidate (k : MatchKind) (p : Path) : List String :=
  match k with
  | .exact => p.segments
  | .index => (p.join Location.indexSegment).segments

end MatchKind

inductive TableError where
  | invalidLocation (raw : String) (reason : LocationError)
  | unknownView (raw : String) (reason : UnknownView)
  | duplicateLocation (location : Location)
  deriving DecidableEq

def TableError.message : TableError → String
  | .invalidLocation raw reason => s!"invalid route location `{raw}`: {reason.message}"
  | .unknownView raw reason => s!"route `{raw}`: {reason.message}"
  | .duplicateLocation location => s!"duplicate route location `{location.display}`"

structure Table where
  modules : List Module
  deriving DecidableEq

/-- The module that serves a path and how it was found. -/
structure Resolution where
  module : Module
  kind : MatchKind
  deriving DecidableEq

structure NotFound where
  path : Path
  deriving DecidableEq, Repr

def NotFound.message (e : NotFound) : String :=
  s!"no route module matches `{e.path.display}`"

namespace Table

def empty : Table := ⟨[]⟩

def at? (t : Table) (segments : List String) : Option Module :=
  t.modules.find? (fun m => m.location.segments == segments)

def add (t : Table) (e : Entry) : Except TableError Table :=
  match Location.parse e.location with
  | .error reason => .error (.invalidLocation e.location reason)
  | .ok location =>
    match View.parse e.view with
    | .error reason => .error (.unknownView e.location reason)
    | .ok view =>
      if (t.at? location.segments).isSome then .error (.duplicateLocation location)
      else .ok ⟨t.modules ++ [⟨location, view⟩]⟩

/-- Compile a manifest; the first entry at fault stops the compilation. -/
def compile (entries : List Entry) : Except TableError Table :=
  entries.foldlM add empty

def size (t : Table) : Nat :=
  t.modules.length

def listing (t : Table) : List Module :=
  t.modules.mergeSort (fun a b => decide (List.le a.location.segments b.location.segments))

def resolve (t : Table) (p : Path) : Except NotFound Resolution :=
  match MatchKind.precedence.findSome? fun k => (t.at? (k.candidate p)).map (⟨·, k⟩) with
  | some r => .ok r
  | none => .error ⟨p⟩

end Table

end Pressroom.Route

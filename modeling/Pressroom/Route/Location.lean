import Pressroom.Text.Basic

/-!
Where a page module stands in the site's tree: a non-empty list of plain segments. A written
location may carry slashes at both ends; `parse` removes them and refuses empty and relative
segments, reporting the leftmost one.
-/

set_option autoImplicit false
set_option relaxedAutoImplicit false

namespace Pressroom.Route

/-- A segment that names something: not empty, not relative, and without a slash. -/
def PlainSegment (s : String) : Prop :=
  s ≠ "" ∧ s ≠ "." ∧ s ≠ ".." ∧ '/' ∉ s.toList

instance (s : String) : Decidable (PlainSegment s) :=
  inferInstanceAs (Decidable (_ ∧ _ ∧ _ ∧ _))

/-- The place of a module, by the segments that lead to it. -/
structure Location where
  segments : List String
  segments_ne_nil : segments ≠ []
  plain : ∀ s ∈ segments, PlainSegment s
  deriving DecidableEq

inductive LocationError where
  | empty
  | emptySegment
  | relativeSegment (segment : String)
  deriving DecidableEq, Repr

def LocationError.message : LocationError → String
  | .empty => "location is empty"
  | .emptySegment => "location contains an empty segment"
  | .relativeSegment s => s!"relative segment `{s}` is not allowed"

namespace Location

def segmentFault? (s : String) : Option LocationError :=
  if s = "" then some .emptySegment
  else if s = "." ∨ s = ".." then some (.relativeSegment s)
  else none

def stripSlashes (raw : String) : List Char :=
  Text.strip (· == '/') raw.toList

def split (body : List Char) : List String :=
  (Text.pieces '/' body).map String.ofList

theorem split_ne_nil (body : List Char) : split body ≠ [] := by
  simp [split, Text.pieces_ne_nil]

theorem plain_of_segmentFault?_eq_none {body : List Char}
    (h : (split body).findSome? segmentFault? = none) :
    ∀ s ∈ split body, PlainSegment s := by
  intro s hs
  have hfault : segmentFault? s = none := List.findSome?_eq_none_iff.1 h s hs
  obtain ⟨p, hp, rfl⟩ := List.mem_map.1 hs
  have hslash : '/' ∉ p := Text.sep_not_mem_pieces hp
  unfold segmentFault? at hfault
  split at hfault
  · simp at hfault
  · next hne =>
    split at hfault
    · simp at hfault
    · next hrel =>
      rw [not_or] at hrel
      exact ⟨hne, hrel.1, hrel.2, by simpa using hslash⟩

def parse (raw : String) : Except LocationError Location :=
  let body := stripSlashes raw
  if body = [] then .error .empty
  else
    match h : (split body).findSome? segmentFault? with
    | some fault => .error fault
    | none => .ok ⟨split body, split_ne_nil body, plain_of_segmentFault?_eq_none h⟩

/-- The canonical text of a location: its segments between slashes. -/
def display (l : Location) : String :=
  "/".intercalate l.segments

def indexSegment : String := "index"

/-- Whether a location names the index of its directory. -/
def isIndex (l : Location) : Bool :=
  l.segments.getLast? == some indexSegment

/-- Segment by segment, each in code point order; a location comes before what lies below it. -/
instance : LT Location := ⟨fun a b => a.segments < b.segments⟩

instance (a b : Location) : Decidable (a < b) :=
  inferInstanceAs (Decidable (a.segments < b.segments))

def order (a b : Location) : Ordering :=
  if a < b then .lt else if b < a then .gt else .eq

end Location

end Pressroom.Route

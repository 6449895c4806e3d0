import Pressroom.Decimal.Binary64

/-!
Values as data formats know them. A record keeps its fields in the order of their names, and each
name once.
-/

set_option autoImplicit false
set_option relaxedAutoImplicit false

namespace Pressroom

inductive Datum where
  | null
  | bool (value : Bool)
  | integer (value : Int)
  | float (value : Decimal.Binary64)
  | nonFinite (text : String)
  | text (value : String)
  | list (items : List Datum)
  | record (fields : List (String × Datum))
  deriving Repr, Inhabited, BEq

namespace Datum

/-- Put a field in its place among fields in name order; a field of that name is replaced. -/
def putField (name : String) (value : Datum) : List (String × Datum) → List (String × Datum)
  | [] => [(name, value)]
  | (n, v) :: rest =>
    if name < n then (name, value) :: (n, v) :: rest
    else if name = n then (name, value) :: rest
    else (n, v) :: putField name value rest

/-- The record of the given fields; of fields with one name the last counts. -/
def ofFields (fields : List (String × Datum)) : Datum :=
  .record (fields.foldl (fun acc f => putField f.1 f.2 acc) [])

def field? (name : String) : Datum → Option Datum
  | .record fields => fields.lookup name
  | _ => none

end Datum

end Pressroom

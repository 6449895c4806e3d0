import Pressroom.Datum.Basic

/-!
Tables under construction. Headers and dotted keys open tables on the way; a table may be written
out once, a value never again, and a dotted key may only go on with tables that dotted keys opened.
-/

set_option autoImplicit false
set_option relaxedAutoImplicit false

namespace Pressroom.Toml

/-- What a name stands for while a document is read: a value, a table, or the tables of an array.
A table is `implicit` until a header names it, and `dotted` when a dotted key opened it. -/
inductive Node where
  | value (value : Datum)
  | table (implicit : Bool) (dotted : Bool) (entries : List (String × Node))
  | tables (elements : List (List (String × Node)))
  deriving Inhabited

abbrev Entries := List (String × Node)

/-- A table with what is known about how it was opened. -/
structure Table where
  implicit : Bool
  dotted : Bool
  entries : Entries

namespace Table

def root : Table := ⟨false, false, []⟩

/-- A table opened on the way to another one. -/
def opened (dotted : Bool) : Table := ⟨true, dotted, []⟩

def toNode (t : Table) : Node := .table t.implicit t.dotted t.entries

/-- Let a name stand for something, in the place of what it stood for. -/
def put (t : Table) (name : String) (node : Node) : Table :=
  { t with entries := t.entries.filter (fun e => e.1 != name) ++ [(name, node)] }

/-- Change the table at the end of a path. Tables are opened where there are none, of an array the
last one is meant, and a dotted key may not enter a table that a header named. -/
def descend (dotted : Bool) : List String → (Table → Option Table) → Table → Option Table
  | [], change, t => change t
  | name :: rest, change, t =>
    match t.entries.lookup name with
    | none => (descend dotted rest change (opened dotted)).map fun u => t.put name u.toNode
    | some (.value _) => none
    | some (.table implicit dotted' entries) =>
      if dotted && !implicit then none
      else
        (descend dotted rest change ⟨implicit, dotted', entries⟩).map fun u => t.put name u.toNode
    | some (.tables elements) =>
      match elements.getLast? with
      | none => none
      | some entries =>
        (descend dotted rest change ⟨false, false, entries⟩).map fun u =>
          t.put name (.tables (elements.dropLast ++ [u.entries]))

/-- Give a name a value; the name must be new, and the table at the end of a dotted key must be one
that dotted keys opened. -/
def assign (path : List String) (name : String) (value : Datum) (t : Table) : Option Table :=
  t.descend true path fun u =>
    if u.dotted == path.isEmpty then none
    else if (u.entries.lookup name).isSome then none
    else some (u.put name (.value value))

def header (path : List String) (name : String) (t : Table) : Option Table :=
  t.descend false path fun u =>
    match u.entries.lookup name with
    | none => some (u.put name (.table false false []))
    | some (.table true false entries) => some (u.put name (.table false false entries))
    | some _ => none

/-- Open the next table of the array that a header names. -/
def arrayHeader (path : List String) (name : String) (t : Table) : Option Table :=
  t.descend false path fun u =>
    match u.entries.lookup name with
    | none => some (u.put name (.tables [[]]))
    | some (.tables elements) => some (u.put name (.tables (elements ++ [[]])))
    | some _ => none

end Table

mutual

def Node.toDatum : Node → Datum
  | .value d => d
  | .table _ _ entries => Datum.ofFields (fieldsOf entries)
  | .tables elements => .list (recordsOf elements)

def fieldsOf : List (String × Node) → List (String × Datum)
  | [] => []
  | (name, node) :: rest => (name, node.toDatum) :: fieldsOf rest

def recordsOf : List (List (String × Node)) → List Datum
  | [] => []
  | entries :: rest => Datum.ofFields (fieldsOf entries) :: recordsOf rest

end

def Table.toDatum (t : Table) : Datum :=
  Datum.ofFields (fieldsOf t.entries)

end Pressroom.Toml

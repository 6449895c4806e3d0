import Pressroom.Datum.Basic
import Pressroom.Decimal.Shortest
import Pressroom.Text.Quoted

/-!
Reading typed values out of data. A record type is read from a record, whose fields are visited in
name order, or from a list of its fields in declaration order. The first bad field visited is
reported; fields that are required and missing are reported only when no field is bad.
-/

set_option autoImplicit false
set_option relaxedAutoImplicit false

namespace Pressroom

inductive Wanted where
  | text
  | boolean
  | word64
  | wordSize
  | sequence
  | record (name : String)
  | textOrMap
  | identifier
  | singleKey
  | unit
  | unitVariant (type : String) (variant : String)
  | tagged (type : String)
  deriving Repr

def Wanted.phrase : Wanted → String
  | .text => "a string"
  | .boolean => "a boolean"
  | .word64 => "u64"
  | .wordSize => "usize"
  | .sequence => "a sequence"
  | .record name => s!"struct {name}"
  | .textOrMap => "string or map"
  | .identifier => "variant identifier"
  | .singleKey => "map with a single key"
  | .unit => "unit"
  | .unitVariant type variant => s!"unit variant {type}::{variant}"
  | .tagged type => s!"adjacently tagged enum {type}"

def Datum.phrase : Datum → String
  | .null => "null"
  | .bool b => s!"boolean `{b}`"
  | .integer n => s!"integer `{n}`"
  | .float x => s!"floating point `{x.toText}`"
  | .nonFinite t => s!"floating point `{t}`"
  | .text s => s!"string {Text.quoted s}"
  | .list _ => "sequence"
  | .record _ => "map"

inductive ReadError where
  | wrongType (found : Datum) (wanted : Wanted)
  | wrongValue (found : Datum) (wanted : Wanted)
  | missingField (name : String)
  | tooShort (position : Nat) (record : String) (size : Nat)
  | tooShortTagged (position : Nat) (type : String)
  | tooLong (length : Nat)
  | tooLongFor (length : Nat) (size : Nat)
  | unknownVariant (found : String) (known : List String)
  deriving Repr

def elements (n : Nat) : String :=
  if n = 1 then "1 element" else s!"{n} elements"

def ReadError.message : ReadError → String
  | .wrongType found wanted => s!"invalid type: {found.phrase}, expected {wanted.phrase}"
  | .wrongValue found wanted => s!"invalid value: {found.phrase}, expected {wanted.phrase}"
  | .missingField name => s!"missing field `{name}`"
  | .tooShort n record size => s!"invalid length {n}, expected struct {record} with {elements size}"
  | .tooShortTagged n type => s!"invalid length {n}, expected adjacently tagged enum {type}"
  | .tooLong n => s!"invalid length {n}, expected fewer elements in array"
  | .tooLongFor n size => s!"invalid length {n}, expected {elements size} in sequence"
  | .unknownVariant found known =>
    let names := ", ".intercalate (known.map fun k => s!"`{k}`")
    s!"unknown variant `{found}`, expected one of {names}"

/-- How a value is met. A value read `direct`ly from JSON and one `kept` back until its tag is known
differ in the wording for a list that is too long, and a kept empty record counts as nothing;
`lenient` reading lets a list be too long. -/
inductive Manner where
  | direct
  | kept
  | lenient
  deriving DecidableEq, Repr

def Reader (α : Type) : Type := Manner → Datum → Except ReadError α

/-- The outcome of reading some fields: their value, or all the bad fields and all the missing ones,
in declaration order. -/
inductive Gathered (α : Type) where
  | value (a : α)
  | faults (bad : List (String × ReadError)) (missing : List (Nat × String))

namespace Gathered

def map {α β : Type} (f : α → β) : Gathered α → Gathered β
  | .value a => .value (f a)
  | .faults bad missing => .faults bad missing

/-- Join two outcomes; the faults of both are kept. -/
def ap {α β : Type} : Gathered (α → β) → Gathered α → Gathered β
  | .value f, .value a => .value (f a)
  | .value _, .faults bad missing => .faults bad missing
  | .faults bad missing, .value _ => .faults bad missing
  | .faults bad missing, .faults bad' missing' => .faults (bad ++ bad') (missing ++ missing')

instance : Applicative Gathered where
  pure := .value
  map := map
  seq f x := ap f (x ())

end Gathered

inductive Parts where
  | fields (fields : List (String × Datum))
  | items (items : List Datum)

namespace Parts

/-- The part for the field at a position and of a name. -/
def part? (parts : Parts) (position : Nat) (name : String) : Option Datum :=
  match parts with
  | .fields fs => fs.lookup name
  | .items xs => xs[position]?

/-- The bad field that is visited first: in name order in a record, else in declaration order. -/
def firstBad? (parts : Parts) (bad : List (String × ReadError)) : Option (String × ReadError) :=
  match parts with
  | .items _ => bad.head?
  | .fields _ =>
    bad.foldl (fun best b =>
      match best with
      | none => some b
      | some c => if b.1 < c.1 then some b else some c) none

end Parts

structure Row where
  manner : Manner
  parts : Parts

namespace Row

def required {α : Type} (row : Row) (position : Nat) (name : String) (r : Reader α) : Gathered α :=
  match row.parts.part? position name with
  | none => .faults [] [(position, name)]
  | some d =>
    match r row.manner d with
    | .ok a => .value a
    | .error e => .faults [(name, e)] []

def defaulted {α : Type} (row : Row) (position : Nat) (name : String) (r : Reader α) (default : α) :
    Gathered α :=
  match row.parts.part? position name with
  | none => .value default
  | some d =>
    match r row.manner d with
    | .ok a => .value a
    | .error e => .faults [(name, e)] []

/-- Refuse a list with more items than the record has fields, unless read leniently. -/
def checkLength (row : Row) (size : Nat) : Except ReadError Unit :=
  match row.parts with
  | .fields _ => .ok ()
  | .items items =>
    if items.length ≤ size then .ok ()
    else
      match row.manner with
      | .direct => .error (.tooLong items.length)
      | .kept => .error (.tooLongFor items.length size)
      | .lenient => .ok ()

/-- The record of a name and a number of fields, from the outcome of reading its fields. -/
def settle {α : Type} (row : Row) (name : String) (size : Nat) : Gathered α → Except ReadError α
  | .value a =>
    match row.checkLength size with
    | .ok () => .ok a
    | .error e => .error e
  | .faults bad missing =>
    match row.parts.firstBad? bad with
    | some (_, e) => .error e
    | none =>
      match missing, row.parts with
      | (position, _) :: _, .items _ => .error (.tooShort position name size)
      | (_, field) :: _, .fields _ => .error (.missingField field)
      | [], _ => .error (.missingField name)

end Row

namespace Reader

def text : Reader String
  | _, .text s => .ok s
  | _, d => .error (.wrongType d .text)

def boolean : Reader Bool
  | _, .bool b => .ok b
  | _, d => .error (.wrongType d .boolean)

def natural (wanted : Wanted) : Reader Nat
  | _, .integer n => if 0 ≤ n then .ok n.toNat else .error (.wrongValue (.integer n) wanted)
  | _, d => .error (.wrongType d wanted)

def optional {α : Type} (r : Reader α) : Reader (Option α)
  | _, .null => .ok none
  | manner, d => (r manner d).map some

def list {α : Type} (r : Reader α) : Reader (List α)
  | manner, .list items => items.mapM (r manner)
  | _, d => .error (.wrongType d .sequence)

def record {α : Type} (name : String) (size : Nat) (fields : Row → Gathered α) : Reader α
  | manner, .record fs =>
    let row : Row := ⟨manner, .fields fs⟩
    row.settle name size (fields row)
  | manner, .list items =>
    let row : Row := ⟨manner, .items items⟩
    row.settle name size (fields row)
  | _, d => .error (.wrongType d (.record name))

def unit : Reader Unit
  | _, .null => .ok ()
  | .kept, .record [] => .ok ()
  | _, d => .error (.wrongType d .unit)

def named {α : Type} (known : List (String × α)) (s : String) : Except ReadError α :=
  match known.lookup s with
  | some a => .ok a
  | none => .error (.unknownVariant s (known.map (·.1)))

/-- Read one of a list of named values by its name alone. -/
def identifier {α : Type} (known : List (String × α)) : Reader α
  | _, .text s => named known s
  | _, d => .error (.wrongType d .identifier)

/-- Read one of a list of named values: its name, or a record with that name and nothing else. -/
def variant {α : Type} (known : List (String × α)) : Reader α
  | _, .text s => named known s
  | manner, .record [(s, v)] => do
    let a ← named known s
    unit manner v
    return a
  | _, .record fs => .error (.wrongValue (.record fs) .singleKey)
  | _, d => .error (.wrongType d .textOrMap)

end Reader

end Pressroom

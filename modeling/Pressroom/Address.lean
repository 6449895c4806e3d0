import Pressroom.Text.Digit

/-!
Socket addresses in text: dotted numbers and a port, or bracketed hexadecimal groups with an
optional scope and a port.
-/

set_option autoImplicit false
set_option relaxedAutoImplicit false

namespace Pressroom

inductive Address where
  | v4 (octets : List Nat) (port : Nat)
  | v6 (groups : List Nat) (scope : Nat) (port : Nat)
  deriving DecidableEq, Repr

namespace Address

def digits (base : Nat) : List Char → List Nat × List Char
  | [] => ([], [])
  | c :: rest =>
    match Text.digit? base c with
    | none => ([], c :: rest)
    | some d =>
      let (ds, rest) := digits base rest
      (d :: ds, rest)

def number? (base bound : Nat) (cs : List Char) : Option (Nat × List Char) :=
  let (ds, rest) := digits base cs
  let n := ds.foldl (fun n d => n * base + d) 0
  if ds.isEmpty || bound ≤ n then none else some (n, rest)

/-- One of the four numbers of a dotted address: one to three digits, no needless zero. -/
def octet? (cs : List Char) : Option (Nat × List Char) :=
  let (ds, _) := digits 10 cs
  if 3 < ds.length || (ds.head? == some 0 && 1 < ds.length) then none
  else number? 10 256 cs

/-- One of the groups of a bracketed address: one to four hexadecimal digits. -/
def group? (cs : List Char) : Option (Nat × List Char) :=
  let (ds, _) := digits 16 cs
  if 4 < ds.length then none else number? 16 65536 cs

def skip? (mark : Char) : List Char → Option (List Char)
  | [] => none
  | c :: rest => if c = mark then some rest else none

def dotted? (cs : List Char) : Option (List Nat × List Char) := do
  let (a, cs) ← octet? cs
  let (b, cs) ← octet? (← skip? '.' cs)
  let (c, cs) ← octet? (← skip? '.' cs)
  let (d, cs) ← octet? (← skip? '.' cs)
  return ([a, b, c, d], cs)

def groupsOfOctets : List Nat → List Nat
  | [a, b, c, d] => [a * 256 + b, c * 256 + d]
  | _ => []

/-- At most so many groups between colons. A dotted address may end them when two groups are left;
the flag tells whether one did. -/
def groups (first : Bool) : Nat → List Char → List Nat × Bool × List Char
  | 0, cs => ([], false, cs)
  | left + 1, cs =>
    match (if first then some cs else skip? ':' cs) with
    | none => ([], false, cs)
    | some inner =>
      match (if left = 0 then none else dotted? inner) with
      | some (octets, rest) => (groupsOfOctets octets, true, rest)
      | none =>
        match group? inner with
        | none => ([], false, cs)
        | some (g, rest) =>
          let (gs, dotted, rest) := groups false left rest
          (g :: gs, dotted, rest)

/-- Eight groups, or fewer around a `::` that stands for at least one group of zero. -/
def hextets? (cs : List Char) : Option (List Nat × List Char) := do
  let (head, dotted, rest) := groups true 8 cs
  if head.length = 8 then return (head, rest)
  if dotted then none
  let rest ← skip? ':' (← skip? ':' rest)
  let (tail, _, rest) := groups true (7 - head.length) rest
  return (head ++ List.replicate (8 - head.length - tail.length) 0 ++ tail, rest)

def port? (cs : List Char) : Option (Nat × List Char) := do
  number? 10 65536 (← skip? ':' cs)

/-- The scope after a percent sign, or zero when there is none. -/
def scope (cs : List Char) : Nat × List Char :=
  match (skip? '%' cs).bind (number? 10 0x100000000) with
  | some r => r
  | none => (0, cs)

def v4? (cs : List Char) : Option (Address × List Char) := do
  let (octets, cs) ← dotted? cs
  let (port, cs) ← port? cs
  return (.v4 octets port, cs)

def v6? (cs : List Char) : Option (Address × List Char) := do
  let (gs, cs) ← hextets? (← skip? '[' cs)
  let (scope, cs) := scope cs
  let (port, cs) ← port? (← skip? ']' cs)
  return (.v6 gs scope port, cs)

def parse? (s : String) : Option Address :=
  match v4? s.toList <|> v6? s.toList with
  | some (a, []) => some a
  | _ => none

end Address

end Pressroom

import Pressroom.Toml.Lexeme
import Pressroom.Toml.Scalar
import Pressroom.Toml.Table

/-!
Reading a whole TOML text: values, lines and the document they make.
-/

set_option autoImplicit false
set_option relaxedAutoImplicit false

namespace Pressroom.Toml

def splitLast? (key : List String) : Option (List String × String) :=
  key.getLast?.map fun name => (key.dropLast, name)

mutual

/-- A value, with `depth` more levels of nesting allowed. -/
def value? (depth : Nat) : Nat → List Char → Option (Datum × List Char)
  | 0, _ => none
  | fuel + 1, cs =>
    match cs with
    | '"' :: _ => (string? cs).map fun (s, rest) => (.text (String.ofList s), rest)
    | '\x27' :: _ => (string? cs).map fun (s, rest) => (.text (String.ofList s), rest)
    | 't' :: 'r' :: 'u' :: 'e' :: rest => some (.bool true, rest)
    | 'f' :: 'a' :: 'l' :: 's' :: 'e' :: rest => some (.bool false, rest)
    | '[' :: rest =>
      match depth with
      | 0 => none
      | depth + 1 => items? depth fuel [] rest
    | '\x7b' :: rest =>
      match depth with
      | 0 => none
      | depth + 1 =>
        match skipWs rest with
        | '\x7d' :: rest => some (.record [], rest)
        | rest => members? depth fuel Table.root rest
    | cs => moment? cs <|> number? cs

/-- The items of an array up to its closing bracket; a comma may stand before it. -/
def items? (depth : Nat) : Nat → List Datum → List Char → Option (Datum × List Char)
  | 0, _, _ => none
  | fuel + 1, acc, cs =>
    match skipLines cs.length cs with
    | ']' :: rest => some (.list acc.reverse, rest)
    | cs =>
      match value? depth fuel cs with
      | none => none
      | some (v, rest) =>
        match skipLines rest.length rest with
        | ',' :: rest => items? depth fuel (v :: acc) rest
        | ']' :: rest => some (.list (v :: acc).reverse, rest)
        | _ => none

/-- The members of a table on one line up to its closing brace. -/
def members? (depth : Nat) : Nat → Table → List Char → Option (Datum × List Char)
  | 0, _, _ => none
  | fuel + 1, t, cs =>
    match key? cs with
    | none => none
    | some (key, rest) =>
      match rest with
      | '=' :: rest =>
        match value? depth fuel (skipWs rest), splitLast? key with
        | some (v, rest), some (path, name) =>
          match t.assign path name v with
          | none => none
          | some t =>
            match skipWs rest with
            | ',' :: rest => members? depth fuel t rest
            | '\x7d' :: rest => some (t.toDatum, rest)
            | _ => none
        | _, _ => none
      | _ => none

end

/-- A document being read: the tables so far, and the path of the header in force. -/
structure Document where
  root : Table
  here : List String

namespace Document

def empty : Document := ⟨.root, []⟩

def headerLine? (doc : Document) (cs : List Char) : Option (Document × List Char) := do
  let (key, rest) ← key? cs
  let rest ← mark? ']' rest
  let (path, name) ← splitLast? key
  let root ← doc.root.header path name
  return (⟨root, key⟩, ← lineEnd? rest)

def arrayLine? (doc : Document) (cs : List Char) : Option (Document × List Char) := do
  let (key, rest) ← key? cs
  let rest ← mark? ']' (← mark? ']' rest)
  let (path, name) ← splitLast? key
  let root ← doc.root.arrayHeader path name
  return (⟨root, key⟩, ← lineEnd? rest)

def assignLine? (doc : Document) (cs : List Char) : Option (Document × List Char) := do
  let (key, rest) ← key? cs
  let rest ← mark? '=' rest
  let rest := skipWs rest
  let (v, rest) ← value? maxDepth (2 * rest.length + 2) rest
  let (path, name) ← splitLast? key
  let root ← doc.root.descend false doc.here (fun t => t.assign path name v)
  return (⟨root, doc.here⟩, ← lineEnd? rest)

def line? (doc : Document) : List Char → Option (Document × List Char)
  | '[' :: '[' :: rest => doc.arrayLine? rest
  | '[' :: rest => doc.headerLine? rest
  | cs => doc.assignLine? cs

def lines? : Nat → Document → List Char → Option Document
  | 0, _, _ => none
  | fuel + 1, doc, cs =>
    match skipWs cs with
    | [] => some doc
    | '#' :: rest =>
      match lineEnd? ('#' :: rest) with
      | none => none
      | some rest => lines? fuel doc rest
    | cs =>
      match newline? cs with
      | some rest => lines? fuel doc rest
      | none =>
        match doc.line? cs with
        | none => none
        | some (doc, rest) => lines? fuel doc rest

end Document

def skipMark : List Char → List Char
  | '\uFEFF' :: rest => rest
  | cs => cs

def parse? (s : String) : Option Datum :=
  let cs := skipMark s.toList
  (Document.lines? (cs.length + 1) .empty cs).map (·.root.toDatum)

end Pressroom.Toml

/-!
Markup trees and their HTML text. Texts and attribute values are escaped, names are not; a void
element has neither children nor a closing tag.
-/

set_option autoImplicit false
set_option relaxedAutoImplicit false

namespace Pressroom.Markup

inductive Node where
  | text (value : String)
  | fragment (nodes : List Node)
  | element (tag : String) (attrs : List (String × String)) (children : List Node)
  deriving Inhabited, Repr, BEq

def voidTags : List String := ["br", "hr", "input", "link", "meta"]

/-- Whether an element of this name is written without children and closing tag. -/
def isVoid (tag : String) : Bool :=
  voidTags.contains tag

/-- A character of a text or an attribute value as it is written. -/
def escapeChar (c : Char) : List Char :=
  match c with
  | '&' => ['&', 'a', 'm', 'p', ';']
  | '<' => ['&', 'l', 't', ';']
  | '>' => ['&', 'g', 't', ';']
  | '"' => ['&', 'q', 'u', 'o', 't', ';']
  | '\x27' => ['&', '#', '3', '9', ';']
  | c => [c]

def escape (s : String) : List Char :=
  s.toList.flatMap escapeChar

def attrHtml (attr : String × String) : List Char :=
  ' ' :: attr.1.toList ++ ['=', '"'] ++ escape attr.2 ++ ['"']

def openTag (tag : String) (attrs : List (String × String)) : List Char :=
  '<' :: tag.toList ++ attrs.flatMap attrHtml ++ ['>']

def closeTag (tag : String) : List Char :=
  ['<', '/'] ++ tag.toList ++ ['>']

mutual

def Node.html : Node → List Char
  | .text s => escape s
  | .fragment nodes => htmlAll nodes
  | .element tag attrs children =>
    openTag tag attrs ++ if isVoid tag then [] else htmlAll children ++ closeTag tag

def htmlAll : List Node → List Char
  | [] => []
  | n :: rest => n.html ++ htmlAll rest

end

def Node.toHtml (n : Node) : String :=
  String.ofList n.html

namespace Node

/-- The node that writes nothing. -/
def empty : Node := .fragment []

def when (p : Bool) (n : Node) : Node :=
  if p then n else empty

end Node

def el (tag : String) (attrs : List (String × String)) (children : List Node) : Node :=
  .element tag attrs children

end Pressroom.Markup

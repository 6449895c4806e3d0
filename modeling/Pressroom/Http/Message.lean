import Pressroom.Flash.Cookie

/-!
Requests and responses, and the syntax that the head of a request has to follow.
-/

set_option autoImplicit false
set_option relaxedAutoImplicit false

namespace Pressroom.Http

/-- A request as the server meets it. When it is stalled, the body is what came before more was
waited for in vain. -/
structure Request where
  method : String
  target : String
  headers : List (String × String)
  cookies : List Flash.Presented
  body : String
  stalled : Bool
  deriving DecidableEq, Repr

/-- A response: its status, headers, changes to the client's cookies, and body. -/
structure Response where
  status : Nat
  headers : List (String × String)
  cookies : List (String × Flash.Change)
  body : String
  deriving DecidableEq, Repr

/-- The characters of methods and of names of headers. -/
def isTokenChar (c : Char) : Bool :=
  c.isAlphanum || "!#$%&\x27*+-.^_`|~".toList.contains c

def isToken (s : String) : Bool :=
  !s.isEmpty && s.toList.all isTokenChar

def isValueChar (c : Char) : Bool :=
  c == '\t' || (0x20 ≤ c.toNat && c.toNat != 0x7F)

def isValueBlank (c : Char) : Bool :=
  c == ' ' || c == '\t'

def trimValue (s : String) : String :=
  String.ofList (Text.strip isValueBlank s.toList)

namespace Request

/-- Whether the method and the headers follow their syntax. -/
def isWellFormed (r : Request) : Bool :=
  isToken r.method && r.headers.all fun h => isToken h.1 && h.2.toList.all isValueChar

/-- The value of a header; the case of its name does not matter, and of several the first
counts. -/
def header? (r : Request) (name : String) : Option String :=
  (r.headers.find? fun h => h.1.toLower == name).map fun h => trimValue h.2

end Request

end Pressroom.Http

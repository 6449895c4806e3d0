import Pressroom.Flash.Basic
import Pressroom.Form
import Pressroom.Keyed

/-!
Flash messages in a cookie. They travel as form-urlencoded pairs of a level and a text in a signed
cookie; what the server did not sign does not count. A jar holds the cookies a request brought and
the changes to send back.
-/

set_option autoImplicit false
set_option relaxedAutoImplicit false

namespace Pressroom.Flash

def cookieName : String := "flash"

def encode (messages : List Message) : String :=
  Form.encode (messages.map fun m => (m.level.name, m.message))

/-- The messages in the text of a cookie. Pairs whose key is no level do not count. -/
def decode (value : String) : List Message :=
  (Form.decode value).filterMap fun (level, message) =>
    (Level.ofName? level).map fun l => ⟨l, message⟩

structure Presented where
  name : String
  value : String
  signed : Bool
  deriving DecidableEq, Repr

inductive Change where
  | set (value : String)
  | remove
  deriving DecidableEq, Repr

/-- The signed cookies of a request, by name, and the changes to send back. -/
structure Jar where
  received : List (String × String)
  changes : List (String × Change)
  deriving DecidableEq, Repr

namespace Jar

/-- The jar of a request. Cookies that the server did not sign are left out, and of two with one
name the later counts. -/
def ofRequest (cookies : List Presented) : Jar :=
  ⟨(cookies.filter (·.signed)).foldl (fun acc c => Keyed.put c.name c.value acc) [], []⟩

/-- The value of a cookie, with the changes made so far. -/
def get? (jar : Jar) (name : String) : Option String :=
  match jar.changes.lookup name with
  | some (.set value) => some value
  | some .remove => none
  | none => jar.received.lookup name

def set (jar : Jar) (name value : String) : Jar :=
  { jar with changes := Keyed.put name (.set value) jar.changes }

/-- Remove a cookie. One that the request did not bring is forgotten without a trace. -/
def remove (jar : Jar) (name : String) : Jar :=
  if (jar.received.lookup name).isSome then
    { jar with changes := Keyed.put name .remove jar.changes }
  else
    { jar with changes := Keyed.drop name jar.changes }

end Jar

/-- Queue messages for the next page, in place of those that are waiting. -/
def push (jar : Jar) (messages : List Message) : Jar :=
  jar.set cookieName (encode messages)

def take (jar : Jar) : Jar × List Message :=
  match jar.get? cookieName with
  | none => (jar, [])
  | some value => (jar.remove cookieName, decode value)

end Pressroom.Flash

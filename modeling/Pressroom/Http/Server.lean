import Pressroom.Application
import Pressroom.Http.Message
import Pressroom.Http.Target

/-!
Answering requests: pages for everyone who asks with GET or HEAD, new posts from the form, and the
headers and counters that go with every answer.
-/

set_option autoImplicit false
set_option relaxedAutoImplicit false

namespace Pressroom.Http

open Pressroom.Content (ContentError NewPost)
open Pressroom.Page (Query)
open Pressroom.Route (Path)

structure Server where
  app : Application
  maxBodyBytes : Nat

/-- Names that are made up for a request: one for itself, one for the post it may create. -/
structure Fresh where
  requestId : String
  postId : String
  deriving DecidableEq, Repr

inductive FormError where
  | wrongContentType
  | tooLarge
  | duplicateField (name : String)
  | missingField (name : String)
  deriving DecidableEq, Repr

namespace FormError

def status : FormError → Nat
  | .wrongContentType => 415
  | .tooLarge => 413
  | .duplicateField _ => 422
  | .missingField _ => 422

def message : FormError → String
  | .wrongContentType =>
    "Form requests must have `Content-Type: application/x-www-form-urlencoded`"
  | .tooLarge => "Failed to buffer the request body: length limit exceeded"
  | .duplicateField name => s!"Failed to deserialize form body: duplicate field `{name}`"
  | .missingField name => s!"Failed to deserialize form body: missing field `{name}`"

end FormError

def formType : String := "application/x-www-form-urlencoded"

def htmlType : String := "text/html; charset=utf-8"

def plainType : String := "text/plain; charset=utf-8"

def firstRepeated? (seen : List String) : List String → Option String
  | [] => none
  | n :: rest => if n ∈ seen then some n else firstRepeated? (n :: seen) rest

def formFields : List String := ["title", "content", "post_type"]

/-- Read the form for a new post. Other fields do not count. -/
def readForm (pairs : List (String × String)) : Except FormError NewPost :=
  match firstRepeated? [] ((pairs.map (·.1)).filter (formFields.contains ·)) with
  | some name => .error (.duplicateField name)
  | none =>
    match pairs.lookup "title", pairs.lookup "post_type" with
    | none, _ => .error (.missingField "title")
    | some _, none => .error (.missingField "post_type")
    | some title, some postType => .ok ⟨title, (pairs.lookup "content").getD "", postType⟩

/-- What becomes of the body of a form: it waits for ever, cannot be read, or is a new post. -/
inductive FormOutcome where
  | stalled
  | refused (reason : FormError)
  | read (input : NewPost)
  deriving DecidableEq, Repr

/-- Take the body of a request as the form for a new post. The content type is looked at first, then
the size, then the fields. -/
def takeForm (maxBodyBytes : Nat) (r : Request) : FormOutcome :=
  match r.header? "content-type" with
  | none => .refused .wrongContentType
  | some type =>
    if !type.startsWith formType || type.toList.any (fun c => 0x7F < c.toNat) then
      .refused .wrongContentType
    else if maxBodyBytes < r.body.utf8ByteSize then .refused .tooLarge
    else if r.stalled then .stalled
    else
      match readForm (Form.decode r.body) with
      | .ok input => .read input
      | .error e => .refused e

def Response.withBody (status : Nat) (type : String) (body : String)
    (cookies : List (String × Flash.Change)) : Response :=
  ⟨status, [("content-type", type)], cookies, body⟩

def Response.redirect (location : String) (cookies : List (String × Flash.Change)) : Response :=
  ⟨303, [("location", location)], cookies, ""⟩

def formPath : String := "/admin/posts"

/-- What becomes of a request for a place: it is answered, or the rest of it is waited for in vain,
or the connection breaks because there is no result to answer with. -/
inductive Reaction where
  | answered (response : Response)
  | stalled
  | broken
  deriving DecidableEq, Repr

namespace Server

def ofConfig (c : Config.Server) : Except Route.TableError Server := do
  return ⟨← Application.ofConfig c, c.limits.maxBodyBytes⟩

/-- Show a page. Waiting messages are taken by whichever page is shown next. -/
def page (s : Server) (path query : String) (jar : Flash.Jar) : Response × Server :=
  let (jar, messages) := Flash.take jar
  let (result, app) := s.app.page (Path.parse path) (Query.parse query) messages
  let s := { s with app }
  match result with
  | .ok html => (.withBody 200 htmlType html jar.changes, s)
  | .error e => (.withBody e.status htmlType (e.document app.shell) jar.changes, s)

/-- Where a client is sent that tried to create a post, and with which messages. -/
def afterCreate (jar : Flash.Jar) (input : NewPost) :
    Except ContentError Content.Post → Response
  | .ok post => .redirect (Page.listHref post.postType) jar.changes
  | .error (.unknownPostType _) => .redirect Page.adminHref jar.changes
  | .error e =>
    .redirect (Page.createHref input.postType) (Flash.push jar [⟨.error, e.message⟩]).changes

/-- Create a post and send the client on. There is no response when the attempt has no result. -/
def create (s : Server) (id : String) (input : NewPost) (jar : Flash.Jar) :
    Option Response × Server :=
  let (result, app) := s.app.create id input
  (result.map (afterCreate jar input), { s with app })

/-- A response to HEAD: that to GET, with its length in the place of its body. -/
def headOnly (r : Response) : Response :=
  { r with
    headers := r.headers ++ [("content-length", toString r.body.utf8ByteSize)]
    body := "" }

def allowed (path : String) : String :=
  if path = formPath then "GET,HEAD,POST" else "GET,HEAD"

def answerAt (s : Server) (fresh : Fresh) (r : Request) (path query : String) :
    Reaction × Server :=
  let jar := Flash.Jar.ofRequest r.cookies
  if r.method = "GET" then
    let (response, s) := s.page path query jar
    (.answered response, s)
  else if r.method = "HEAD" then
    let (response, s) := s.page path query jar
    (.answered (headOnly response), s)
  else if r.method = "POST" ∧ path = formPath then
    match takeForm s.maxBodyBytes r with
    | .stalled => (.stalled, s)
    | .refused e => (.answered (.withBody e.status plainType e.message []), s)
    | .read input =>
      let (response, s) := s.create fresh.postId input jar
      (response.elim .broken .answered, s)
  else (.answered ⟨405, [("allow", allowed path)], [], ""⟩, s)

def commonHeaders (fresh : Fresh) (r : Request) : List (String × String) :=
  [("x-request-id", (r.header? "x-request-id").getD fresh.requestId),
    ("x-content-type-options", "nosniff")]

/-- Add the common headers to an answer, or give up on one that waits for ever. -/
def finish (fresh : Fresh) (r : Request) : Reaction → Option Response
  | .answered response =>
    some { response with headers := response.headers ++ commonHeaders fresh r }
  | .stalled => some ⟨408, commonHeaders fresh r, [], ""⟩
  | .broken => none

/-- Count an answer that did not have to be given up. -/
def countAnswer (s : Server) (r : Request) : Reaction → Server
  | .answered response => { s with app := s.app.count (.request r.method response.status) }
  | .stalled => s
  | .broken => s

/-- The answer to a request for something outside the site. -/
def nowhere (r : Request) : Response :=
  let response : Response := ⟨404, [], [], ""⟩
  if r.method = "HEAD" then headOnly response else response

def refusal (status : Nat) : Response := ⟨status, [], [], ""⟩

/-- Answer a request, unless its connection breaks. One that does not follow its syntax, or whose
target is too long, is refused before anything else happens. -/
def handle (s : Server) (fresh : Fresh) (r : Request) : Option Response × Server :=
  if !r.isWellFormed then (some (refusal 400), s)
  else
    match Resource.parse r.target with
    | .malformed => (some (refusal 400), s)
    | .tooLong => (some (refusal 414), s)
    | .outside =>
      let reaction := .answered (nowhere r)
      (finish fresh r reaction, s.countAnswer r reaction)
    | .place path query =>
      let (reaction, s) := s.answerAt fresh r path query
      (finish fresh r reaction, s.countAnswer r reaction)

end Server

end Pressroom.Http

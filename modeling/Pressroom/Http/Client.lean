import Pressroom.Http.Server

/-!
Clients that keep the flash cookie as they are told.
-/

set_option autoImplicit false
set_option relaxedAutoImplicit false

namespace Pressroom.Http

/-- What a client remembers: the cookie it keeps, and the last one it was ever given. -/
structure Client where
  kept : Option String
  last : Option String
  deriving DecidableEq, Repr

inductive CookieUse where
  | nothing
  | kept
  | replayed
  | tampered
  deriving DecidableEq, Repr

namespace Client

def new : Client := ⟨none, none⟩

/-- The cookies a client sends. A cookie that was tampered with is no longer signed. -/
def present (c : Client) (use : CookieUse) : List Flash.Presented :=
  let cookie := fun signed value => (⟨Flash.cookieName, value, signed⟩ : Flash.Presented)
  match use with
  | .nothing => []
  | .kept => (c.kept.map (cookie true)).toList
  | .replayed => (c.last.map (cookie true)).toList
  | .tampered => (c.last.map (cookie false)).toList

def follow (c : Client) (change : String × Flash.Change) : Client :=
  if change.1 = Flash.cookieName then
    match change.2 with
    | .set value => ⟨some value, some value⟩
    | .remove => { c with kept := none }
  else c

def receive (c : Client) (r : Response) : Client :=
  r.cookies.foldl follow c

def exchange (c : Client) (s : Server) (fresh : Fresh) (use : CookieUse) (r : Request) :
    Option Response × Client × Server :=
  let (response, s) := s.handle fresh { r with cookies := c.present use ++ r.cookies }
  (response, response.elim c c.receive, s)

end Client

end Pressroom.Http

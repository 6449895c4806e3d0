import Pressroom.Page.Data

/-!
The context of one rendering: a slot that is filled once with the data of the page, and read by the
view.
-/

set_option autoImplicit false
set_option relaxedAutoImplicit false

namespace Pressroom.Page

inductive RenderFault where
  | publishedTwice
  | unexpectedKind (expected : Kind) (found : Kind)
  | unfitData (view : View) (received : Kind)
  | other (detail : String)
  deriving DecidableEq, Repr

def RenderFault.message : RenderFault → String
  | .publishedTwice => "route data published twice in one pass"
  | .unexpectedKind expected found => s!"expected {expected.name} data, found {found.name}"
  | .unfitData view received =>
    s!"view `{view.name}` expects {view.accepts.name} data, received {received.name}"
  | .other detail => detail

inductive RenderError where
  | dataUnavailable
  | failed (fault : RenderFault)
  deriving DecidableEq, Repr

def RenderError.message : RenderError → String
  | .dataUnavailable => "route data read before it was published"
  | .failed fault => s!"render failed: {fault.message}"

structure Context where
  slot : Option Data
  deriving DecidableEq, Repr

namespace Context

def empty : Context := ⟨none⟩

/-- Publish the data. This happens once. -/
def publish (ctx : Context) (data : Data) : Except RenderError Context :=
  match ctx.slot with
  | none => .ok ⟨some data⟩
  | some _ => .error (.failed .publishedTwice)

def read (ctx : Context) : Except RenderError Data :=
  match ctx.slot with
  | none => .error .dataUnavailable
  | some data => .ok data

def readWith {α : Type} (ctx : Context) (kind : Kind) (part? : Data → Option α) :
    Except RenderError α :=
  match ctx.read with
  | .error e => .error e
  | .ok data =>
    match part? data with
    | some a => .ok a
    | none => .error (.failed (.unexpectedKind kind data.kind))

def readAs (ctx : Context) (kind : Kind) : Except RenderError Data :=
  ctx.readWith kind fun data => if data.kind = kind then some data else none

end Context

namespace Data

def catalog? : Data → Option (List Content.PostType)
  | .catalog types => some types
  | _ => none

def listing? : Data → Option Listing
  | .listing l => some l
  | _ => none

def createForm? : Data → Option CreateForm
  | .createForm f => some f
  | _ => none

def detail? : Data → Option Content.Post
  | .detail p => some p
  | _ => none

end Data

end Pressroom.Page

import Pressroom.Metrics
import Pressroom.Page.Document
import Pressroom.Page.Loading
import Pressroom.Route.Table

/-!
The application: a route table, a shell, the content and the counters, and the way from a path to a
document.
-/

set_option autoImplicit false
set_option relaxedAutoImplicit false

namespace Pressroom

open Pressroom.Content (Store ContentError NewPost Post)
open Pressroom.Page (Data Query RenderError Shell View)
open Pressroom.Route (Module NotFound Path Table TableError)

inductive PageError where
  | notFound (reason : NotFound)
  | content (reason : ContentError)
  | render (reason : RenderError)
  deriving DecidableEq

namespace PageError

def message : PageError → String
  | .notFound e => e.message
  | .content e => e.message
  | .render e => e.message

def status : PageError → Nat
  | .notFound _ => 404
  | .content (.unknownPostType _) => 404
  | .content (.postNotFound _) => 404
  | .content (.invalid _) => 400
  | .render _ => 500

def publicMessage : PageError → String
  | .notFound _ => "Page not found"
  | .content e => e.message
  | .render _ => "The page could not be rendered"

def document (e : PageError) (s : Shell) : String :=
  s.statusDocument e.status e.publicMessage

end PageError

structure Application where
  table : Table
  shell : Shell
  store : Store
  metrics : Metrics

namespace Application

/-- The application of a configuration, with the content it starts with. -/
def ofConfig (c : Config.Server) : Except TableError Application := do
  let table ← Table.compile c.routes.entries
  let store := if c.content.seed then Store.empty.seed else Store.empty
  return ⟨table, .ofSite c.site, store, .zero⟩

def count (app : Application) (c : Counter) : Application :=
  { app with metrics := app.metrics.count c }

/-- Render data with the view of a module, and count the outcome. -/
def render (app : Application) (m : Module) (data : Data) :
    Except RenderError String × Application :=
  let result := app.shell.render m.view data
  (result, app.count (.render m.view result.isOk))

/-- Resolve a path, load the data of its module and render it. -/
def page (app : Application) (path : Path) (query : Query) (messages : List Flash.Message) :
    Except PageError String × Application :=
  match app.table.resolve path with
  | .error e => (.error (.notFound e), app.count .routeMiss)
  | .ok r =>
    match Page.load r.module.view query messages app.store with
    | .error e => (.error (.content e), app)
    | .ok data =>
      let (result, app) := app.render r.module data
      (result.mapError .render, app)

/-- Create a post under a fresh id, if its slug can be numbered. -/
def create (app : Application) (id : String) (input : NewPost) :
    Option (Except ContentError Post) × Application :=
  match app.store.create id input with
  | none => (none, app)
  | some (.error e) => (some (.error e), app)
  | some (.ok (post, store)) => (some (.ok post), { app with store })

end Application

end Pressroom

import Pressroom.Application
import Pressroom.Command.Arguments
import Pressroom.Config.Loading
import Pressroom.Json.Parser

/-!
What the commands do, given the files and the addresses of the machine they run on.
-/

set_option autoImplicit false
set_option relaxedAutoImplicit false

namespace Pressroom.Command

open Pressroom.Page (Data Query)
open Pressroom.Route (Module Target)

/-- The machine a command runs on: the bytes of its files, and the addresses it can listen on. -/
structure Machine where
  file? : String → Option (List UInt8)
  canBind : Address → Bool

/-- What comes of a command: it ends with a status and some output, or it goes on serving. -/
inductive Outcome where
  | ended (status : Nat) (output : String)
  | serving (config : Config.Server)

def failure : Outcome := .ended 1 ""

def misuse : Outcome := .ended 2 ""

def helpText : String :=
  "Route resolution and static rendering for the CMS admin\n\n" ++
  "Usage: cms-render [OPTIONS] [COMMAND]\n\n" ++
  "Commands:\n" ++
  "  serve   Run the HTTP server\n" ++
  "  routes  Print the compiled route table\n" ++
  "  render  Render one logical path to stdout\n" ++
  "  help    Print this message or the help of the given subcommand(s)\n\n" ++
  "Options:\n" ++
  "  -c, --config <CONFIG>  Path to a TOML configuration file\n" ++
  "  -h, --help             Print help\n"

def logDirectives (level : String) : String :=
  "cms_render=" ++ level ++ ",tower_http=" ++ level

def padRight (width : Nat) (s : String) : String :=
  s ++ String.ofList (List.replicate (width - s.length) ' ')

def routeLine (m : Module) : String :=
  padRight 24 m.location.display ++ " " ++ m.view.name ++ "\n"

/-- Whether an address is one the machine can listen on. -/
def listens (machine : Machine) (address : String) : Bool :=
  (Address.parse? address).any machine.canBind

/-- Serve a site, if all its addresses can be listened on. -/
def serve (machine : Machine) (c : Config.Server) : Outcome :=
  let metricsReady :=
    !c.observability.metricsEnabled || listens machine c.observability.metricsAddress
  if metricsReady && listens machine c.listener.bindAddress then
    match Application.ofConfig c with
    | .ok _ => .serving c
    | .error _ => failure
  else failure

def configuration (machine : Machine) (file : Option String) :
    Except Config.LoadError Config.Server :=
  match file with
  | some name => Config.load (machine.file? name)
  | none => (Config.validate .default).mapError .faulty

/-- The document that the view of a module makes of the data in a file. -/
def renderFile (machine : Machine) (app : Application) (m : Module) (name : String) :
    Option String := do
  let cs ← (machine.file? name).bind Text.Utf8.decode?
  let payload ← Json.parse? (String.ofList cs)
  let data ← (Data.decode m.view.accepts payload).toOption
  (app.render m data).1.toOption

/-- The document of a target, from the store or from the data in a file. -/
def render (machine : Machine) (app : Application) (target : String) (data : Option String) :
    Option String :=
  let t := Target.parse target
  match data with
  | some name =>
    match app.table.resolve t.path with
    | .ok r => renderFile machine app r.module name
    | .error _ => none
  | none => (app.page t.path (Query.parse t.query) []).1.toOption

def perform (machine : Machine) (c : Config.Server) (task : Task) : Outcome :=
  match task with
  | .serve => serve machine c
  | .routes =>
    match Application.ofConfig c with
    | .ok app => .ended 0 (String.join (app.table.listing.map routeLine))
    | .error _ => failure
  | .render target data =>
    match Application.ofConfig c with
    | .error _ => failure
    | .ok app =>
      match render machine app target data with
      | some html => .ended 0 (html ++ "\n")
      | none => failure

def run (machine : Machine) (args : List String) : Outcome :=
  match parse args with
  | .error .help => .ended 0 helpText
  | .error .usage => misuse
  | .ok i =>
    match configuration machine i.config with
    | .error _ => failure
    | .ok c => perform machine c i.task

end Pressroom.Command

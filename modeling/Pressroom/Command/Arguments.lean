/-!
The arguments of the command line: an optional configuration file, then a command.
-/

set_option autoImplicit false
set_option relaxedAutoImplicit false

namespace Pressroom.Command

inductive Task where
  | serve
  | routes
  | render (target : String) (data : Option String)
  deriving DecidableEq, Repr

/-- A task and the file with the configuration, if one is named. -/
structure Invocation where
  config : Option String
  task : Task
  deriving DecidableEq, Repr

def Invocation.files (i : Invocation) : List String :=
  match i.task with
  | .render _ data => i.config.toList ++ data.toList
  | _ => i.config.toList

/-- Why nothing is done: help was asked for, or the arguments make no sense. -/
inductive Stop where
  | help
  | usage
  deriving DecidableEq, Repr

/-- How an argument stands to an option that takes a value. -/
inductive OptionUse where
  | absent
  | attached (value : String)
  | separate
  deriving DecidableEq, Repr

def longOption (name arg : String) : OptionUse :=
  if arg = "--" ++ name then .separate
  else if arg.startsWith ("--" ++ name ++ "=") then
    .attached (String.ofList (arg.toList.drop (name.length + 3)))
  else .absent

/-- Look for an option by its letter; the value may follow it directly or after `=`. -/
def shortOption (letter : Char) (arg : String) : OptionUse :=
  match arg.toList with
  | '-' :: c :: rest =>
    if c = letter then
      match rest with
      | [] => .separate
      | '=' :: value => .attached (String.ofList value)
      | value => .attached (String.ofList value)
    else .absent
  | _ => .absent

def configOption (arg : String) : OptionUse :=
  match longOption "config" arg with
  | .absent => shortOption 'c' arg
  | use => use

def isFlag (arg : String) : Bool :=
  arg.startsWith "-" && arg != "-"

def isHelp (arg : String) : Bool :=
  arg == "--help" || arg.startsWith "-h"

/-- The value of an option is used once, is not empty, and does not look like an option. -/
def setOnce (old : Option String) (separate : Bool) (value : String) :
    Except Stop (Option String) :=
  if old.isSome || value = "" || (separate && isFlag value) then .error .usage
  else .ok (some value)

/-- The rest of the arguments of a task that takes none. -/
def noMore (task : Task) : List String → Except Stop Task
  | [] => .ok task
  | ["--"] => .ok task
  | arg :: _ => .error (if isHelp arg then .help else .usage)

def setTarget (old : Option String) (value : String) : Except Stop (Option String) :=
  match old with
  | none => .ok (some value)
  | some _ => .error .usage

/-- The arguments of the task to render a target, the target and the data file seen so far, and
whether everything is plain from now on. -/
def renderTask (target data : Option String) : Bool → List String → Except Stop Task
  | _, [] =>
    match target with
    | some t => .ok (.render t data)
    | none => .error .usage
  | true, arg :: rest => do
    let target ← setTarget target arg
    renderTask target data true rest
  | false, arg :: rest =>
    match longOption "data" arg with
    | .attached value => do
      let data ← setOnce data false value
      renderTask target data false rest
    | .separate =>
      match rest with
      | [] => .error .usage
      | value :: rest => do
        let data ← setOnce data true value
        renderTask target data false rest
    | .absent =>
      if arg = "--" then renderTask target data true rest
      else if isHelp arg then .error .help
      else if isFlag arg then .error .usage
      else do
        let target ← setTarget target arg
        renderTask target data false rest

def taskNames : List String := ["serve", "routes", "render", "help"]

def taskOf (name : String) (rest : List String) : Except Stop Task :=
  if name = "serve" then noMore .serve rest
  else if name = "routes" then noMore .routes rest
  else if name = "render" then renderTask none none false rest
  else if name = "help" then
    .error (match rest with
      | [] => .help
      | [n] => if taskNames.contains n then .help else .usage
      | _ => .usage)
  else .error .usage

/-- Read the arguments, with the configuration file seen so far. Without a task the site is
served. -/
def invocation (config : Option String) : List String → Except Stop Invocation
  | [] => .ok ⟨config, .serve⟩
  | arg :: rest =>
    match configOption arg with
    | .attached value => do
      let config ← setOnce config false value
      invocation config rest
    | .separate =>
      match rest with
      | [] => .error .usage
      | value :: rest => do
        let config ← setOnce config true value
        invocation config rest
    | .absent =>
      if arg = "--" then
        if rest.isEmpty then .ok ⟨config, .serve⟩ else .error .usage
      else if isHelp arg then .error .help
      else do
        let task ← taskOf arg rest
        return ⟨config, task⟩

def parse (args : List String) : Except Stop Invocation :=
  invocation none args

end Pressroom.Command

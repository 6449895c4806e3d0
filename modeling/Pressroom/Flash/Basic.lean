/-!
Flash messages: short notes for the next page a client sees.
-/

set_option autoImplicit false
set_option relaxedAutoImplicit false

namespace Pressroom.Flash

inductive Level where
  | info
  | success
  | warning
  | error
  deriving DecidableEq, Repr

namespace Level

def all : List Level := [.info, .success, .warning, .error]

def name : Level → String
  | .info => "info"
  | .success => "success"
  | .warning => "warning"
  | .error => "error"

def ofName? (s : String) : Option Level :=
  all.find? (·.name == s)

@[simp] theorem ofName?_name (l : Level) : ofName? l.name = some l := by
  cases l <;> decide

end Level

structure UnknownLevel where
  name : String
  deriving DecidableEq, Repr

def UnknownLevel.message (e : UnknownLevel) : String :=
  s!"unknown flash level `{e.name}`"

def Level.parse (s : String) : Except UnknownLevel Level :=
  match ofName? s with
  | some l => .ok l
  | none => .error ⟨s⟩

structure Message where
  level : Level
  message : String
  deriving DecidableEq, Repr

end Pressroom.Flash

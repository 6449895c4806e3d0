import Pressroom.Config.Validation
import Pressroom.Text.Utf8
import Pressroom.Toml.Document

/-!
From the bytes of a file to a configuration without faults.
-/

set_option autoImplicit false
set_option relaxedAutoImplicit false

namespace Pressroom.Config

inductive LoadError where
  | unreadable
  | malformed
  | faulty (faults : List Fault)
  deriving DecidableEq, Repr

/-- Read a configuration from TOML data, where a list may be longer than the record it stands
for. -/
def ofToml (text : String) : Except LoadError Server :=
  match (Toml.parse? text).map (Server.reader .lenient) with
  | some (.ok c) => .ok c
  | _ => .error .malformed

def parse (text : String) : Except LoadError Server := do
  let c ← ofToml text
  (validate c).mapError .faulty

/-- Load the configuration of a file; none stands for a file that is not there. -/
def load (file : Option (List UInt8)) : Except LoadError Server :=
  match file.bind Text.Utf8.decode? with
  | none => .error .unreadable
  | some cs => parse (String.ofList cs)

end Pressroom.Config

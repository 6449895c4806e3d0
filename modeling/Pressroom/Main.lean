import Pressroom.Command.Run

/-!
The program: it reads the files that the arguments name, and prints what the command gives.
-/

set_option autoImplicit false
set_option relaxedAutoImplicit false

namespace Pressroom.Command

def fileBytes? (name : String) : IO (Option (List UInt8)) := do
  try
    return some (← IO.FS.readBinFile name).toList
  catch _ => return none

end Pressroom.Command

open Pressroom in
/-- Run a command. It has no network to serve a site on, and stops once all is ready for
that. -/
def main (args : List String) : IO UInt32 := do
  let names := (Command.parse args).toOption.elim [] (·.files)
  let files ← names.mapM fun name => return (name, ← Command.fileBytes? name)
  let machine : Command.Machine := ⟨fun name => (files.lookup name).join, fun _ => true⟩
  match Command.run machine args with
  | .ended status output =>
    IO.print output
    return status.toUInt32
  | .serving c =>
    IO.eprintln ("ready to serve on " ++ c.listener.bindAddress)
    return 0

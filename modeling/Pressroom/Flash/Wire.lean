import Pressroom.Datum.Reader
import Pressroom.Flash.Basic

/-!
Flash messages as data: how they are written, and how they are read back.
-/

set_option autoImplicit false
set_option relaxedAutoImplicit false

namespace Pressroom.Flash

def Level.reader : Reader Level :=
  .variant (Level.all.map fun l => (l.name, l))

def Message.toDatum (m : Message) : Datum :=
  .record [("level", .text m.level.name), ("message", .text m.message)]

def Message.reader : Reader Message :=
  .record "FlashMessage" 2 fun row =>
    Message.mk <$> row.required 0 "level" Level.reader <*> row.required 1 "message" .text

end Pressroom.Flash

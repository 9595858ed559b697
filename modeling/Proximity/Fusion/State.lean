import Proximity.Reading

/-!
# The memory of a fusion

What a proximity fusion remembers between calls. How it comes to remember it is
in `Proximity.Fusion.Basic`.
-/

namespace Proximity

/-- **The memory of a fusion.** -/
structure Fusion where
  /-- How long to wait before a contradicting secondary is looked at again. -/
  recheckDelay : Number
  /-- Who listens, in the order of joining. -/
  listeners : List Listener
  /-- The tag of its log records. -/
  tag : Option String
  /-- The last reading of the primary that differed from the one before. -/
  lastPrimary : Option Reading
  /-- The last fused reading. -/
  lastFused : Option Reading
  /-- Whether it is at work. -/
  active : Bool
  /-- Whether it is paused. -/
  paused : Bool
  /-- Whether its secondary may stay on. -/
  safe : Bool
  /-- The timer after which it looks at its secondary again. -/
  pendingRecheck : Option Nat
  /-- Whether it has joined its sensors. -/
  connected : Bool
  /-- Whether it is telling its listeners something just now. -/
  telling : Bool
  deriving DecidableEq, Inhabited

namespace Fusion

/-- A fusion that nobody has used yet. -/
def fresh (recheckDelay : Number) : Fusion :=
  { recheckDelay, listeners := [], tag := none, lastPrimary := none, lastFused := none
    active := false, paused := false, safe := false, pendingRecheck := none, connected := false
    telling := false }

/-- A log message under the tag of the fusion, if that is not empty. -/
def tagged (tag : Option String) (message : String) : String :=
  match tag with
  | none | some "" => message
  | some tag => "[" ++ tag ++ "] " ++ message

end Fusion

/-- What a fusion tells about itself. -/
structure Fusion.Snapshot where
  /-- Whether it is at work. -/
  active : Bool
  /-- Whether it is paused. -/
  paused : Bool
  /-- Whether something is near, if that is known. -/
  near : Option Bool
  /-- Whether its secondary may stay on. -/
  safe : Bool
  /-- How many listen. -/
  audience : Nat
  /-- Whether it is waiting to look at its secondary again. -/
  recheckPending : Bool
  /-- The tag of its log records. -/
  tag : Option String
  deriving DecidableEq

end Proximity

import Proximity.Telemetry
import Proximity.Tree

/-!
# Calls of an error tracker

What an error tracker is told: that it is to start, facts about the process, and
the errors it captures.
-/

namespace Proximity

/-- One call of the error tracker. -/
inductive TrackerCall where
  /-- It is to start, for an address. -/
  | start (address deployment : String) (release : Option String) (sampleRate : Number)
  /-- A tag that goes with every report. -/
  | tag (key value : String)
  /-- A block of facts that goes with every report. -/
  | context (name : String)
  /-- An error, with what else is known about it. -/
  | capture (message : String) (extra : Tree)
  deriving Inhabited

/-- The calls that start an error tracker. -/
def TrackerCall.starting (m : Telemetry) : List TrackerCall :=
  [.start m.tracking.address m.deployment m.release m.tracking.sampleRate,
   .tag "component" "proximity-fusion",
   .context "runtime"]

end Proximity

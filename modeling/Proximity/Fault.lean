import Proximity.Number.Shortest

/-!
# Faults

The ways in which an operation can fail. What becomes visible of a fault is its
text, `Proximity.Fault.message`.
-/

namespace Proximity

/-- A failure. -/
inductive Fault where
  /-- A threshold is infinite or no number. -/
  | endlessThreshold
  /-- The upper threshold is below the lower one. -/
  | latchBelowThreshold (latch threshold : Number)
  /-- Something confined to one thread was used from another. -/
  | offThread (owner caller : Number)
  /-- The clock shows no time that could be counted in nanoseconds. -/
  | timeless (clock : Number)
  /-- Something was called that is no call. -/
  | notCallable (call : String)
  /-- A part was asked of something that is not there, or is nothing at all. -/
  | missing (whole part : String)
  /-- The entries of nothing were asked for. -/
  | noEntries
  /-- An entry was to be put into a value that takes none. -/
  | noRoom (entry kind text : String)
  /-- The text of a value was asked for that has none. -/
  | textless
  /-- An error from outside, with its message. -/
  | error (message : String)
  /-- A thrown value that is no error, as a text. -/
  | value (text : String)
  deriving DecidableEq, Inhabited

/-- **The text of a fault.** -/
def Fault.message : Fault → String
  | endlessThreshold => "Sensor thresholds must be finite numbers"
  | latchBelowThreshold latch threshold =>
    "Threshold latch " ++ latch.text ++ " is below threshold " ++ threshold.text
  | offThread owner caller =>
    "Called from thread " ++ caller.text ++ "; this object is confined to thread " ++ owner.text
  | timeless clock =>
    "The number " ++ clock.text
      ++ " cannot be converted to a BigInt because it is not an integer"
  | notCallable call => call ++ " is not a function"
  | missing whole part => "Cannot read properties of " ++ whole ++ " (reading '" ++ part ++ "')"
  | noEntries => "Cannot convert undefined or null to object"
  | noRoom entry kind text =>
    "Cannot create property '" ++ entry ++ "' on " ++ kind ++ " '" ++ text ++ "'"
  | textless => "Cannot convert object to primitive value"
  | error message => message
  | value text => text

end Proximity

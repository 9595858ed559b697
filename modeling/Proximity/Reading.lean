import Proximity.Fault

/-!
# Readings

What a proximity sensor reports: that something came near, or that it went away,
together with the time of the sample behind the report.
-/

namespace Proximity

/-- **A crossing of a sensor's threshold.** -/
structure Reading where
  /-- Whether something is near. -/
  near : Bool
  /-- The time of the sample, in nanoseconds. -/
  stamp : Int
  deriving DecidableEq, Inhabited

/-- The time that a sample gives with itself. -/
inductive Stamp where
  /-- A whole number of nanoseconds. -/
  | exact (nanos : Int)
  /-- A number of nanoseconds, of which the fraction does not count. -/
  | rounded (nanos : Number)
  /-- None; the clock has to say. -/
  | missing
  deriving DecidableEq, Inhabited

/-- The time that a stamp gives, if it gives a finite one. -/
def Stamp.given? : Stamp → Option Int
  | exact nanos => some nanos
  | rounded nanos => Number.truncate? nanos
  | missing => none

/-- The time on a clock in nanoseconds, from its whole milliseconds. -/
def nanosOf (clock : Number) : Except Fault Int :=
  match Number.floor? clock with
  | some millis => .ok (millis * 1000000)
  | none => .error (.timeless clock)

/-- **The time of a sample**: the one it gives, if that is finite, and otherwise
the time on the clock. -/
def Stamp.resolve (clock : Number) (stamp : Stamp) : Except Fault Int :=
  match stamp.given? with
  | some nanos => .ok nanos
  | none => nanosOf clock

/-- A measurement that a sensor's source takes. -/
structure Sample where
  /-- What is measured. -/
  value : Number
  /-- When. -/
  stamp : Stamp
  deriving DecidableEq, Inhabited

/-! ### Who is who -/

/-- The place of a sensor on a bench. -/
inductive Role where
  /-- The sensor that a fusion trusts to say that something went away. -/
  | primary
  /-- The sensor that has to confirm that something is near. -/
  | secondary
  /-- The only sensor of a bench without a fusion. -/
  | sole
  deriving DecidableEq, Inhabited

/-- The name of a place. -/
def Role.name : Role → String
  | primary => "primary"
  | secondary => "secondary"
  | sole => "sensor"

/-- Who listens to readings. -/
inductive Listener where
  /-- A listener from outside. -/
  | named (name : String)
  /-- The fusion, on one of its sensors. -/
  | fusion (role : Role)
  /-- The probe. -/
  | probe
  deriving DecidableEq, Inhabited

/-- A list of listeners with one more, unless it is already among them. -/
def Listener.addTo (l : Listener) (listeners : List Listener) : List Listener :=
  if l ∈ listeners then listeners else listeners ++ [l]

end Proximity

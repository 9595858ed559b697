import Proximity.Fault

/-!
# Hysteresis bands

A measured value is near below one threshold and far from another one on; in the
band between the two it says nothing. Both thresholds are finite and in order, so
no value is both near and far.
-/

namespace Proximity

/-- **Two thresholds**, finite and in order. -/
structure Band where
  /-- A value below it is near. -/
  threshold : Number
  /-- A value from it on is far. -/
  latch : Number
  /-- The lower threshold is finite. -/
  threshold_finite : threshold.isFinite = true
  /-- The upper threshold is finite. -/
  latch_finite : latch.isFinite = true
  /-- The thresholds are in order. -/
  in_order : ¬ latch < threshold

namespace Band

instance : Inhabited Band := ⟨⟨0, 0, rfl, rfl, by decide⟩⟩

/-- The band between two thresholds, or what is wrong with them. -/
def make (threshold latch : Number) : Except Fault Band :=
  if ht : threshold.isFinite = true then
    if hl : latch.isFinite = true then
      if h : latch < threshold then .error (.latchBelowThreshold latch threshold)
      else .ok ⟨threshold, latch, ht, hl, h⟩
    else .error .endlessThreshold
  else .error .endlessThreshold

/-- **What a value says**: near, far, or nothing. -/
def classify (band : Band) (value : Number) : Option Bool :=
  if !value.isFinite then none
  else if value < band.threshold then some true
  else if band.latch ≤ value then some false
  else none

end Band

end Proximity

import Proximity.Fault
import Proximity.Step

/-!
# The memory of a probe

A probe answers a question once: is something near just now? Those who ask while
an answer is being waited for wait together. What it does is in
`Proximity.Probe.Basic`.
-/

namespace Proximity

/-- How an answer is taken. -/
inductive Reply where
  /-- By a callback, with what it does. -/
  | callback (script : List Step)
  /-- By a promise. -/
  | promise
  deriving Inhabited

/-- Somebody who asked a probe. -/
structure Caller where
  /-- The number of the question; no two questions have the same. -/
  ticket : Nat
  /-- The name of the question. -/
  name : String
  /-- How the answer is taken. -/
  reply : Reply
  deriving Inhabited

/-- **The memory of a probe.** -/
structure Probe where
  /-- How long it waits for an answer when it is not told otherwise. -/
  timeout : Number
  /-- Who waits for an answer, in the order of asking. -/
  waiting : List Caller
  /-- Whether it has asked its sensor. -/
  checking : Bool
  /-- The timer after which it gives up. -/
  timer : Option Nat
  /-- The number of the last question. -/
  lastTicket : Nat
  /-- The promises that are not settled yet. -/
  unsettled : List Nat
  /-- The promises that nobody can watch yet, since the call that asks has not
  come back. -/
  unwatched : List Nat
  /-- How promises were settled before anybody could watch them. -/
  unseen : List (Nat × Except Fault (Option Bool))
  deriving Inhabited

/-- A probe that nobody has asked yet. -/
def Probe.fresh (timeout : Number) : Probe :=
  { timeout, waiting := [], checking := false, timer := none, lastTicket := 0, unsettled := []
    unwatched := [], unseen := [] }

end Proximity

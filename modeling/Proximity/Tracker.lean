import Proximity.Fault
import Proximity.Log
import Proximity.Redaction
import Proximity.Tracker.Call

/-!
# Error tracking

Errors are reported to a tracker once that has been started, and not before. What
is sent goes through `Proximity.Tracker.outgoing` first: sensitive values are
masked, a user is reduced to an identifier, and the request is left out.

Nobody here waits for the log service. What a record still has to do there is
pending until somebody waits for the tracker to load, and then it is done first.
-/

namespace Proximity

/-- What error tracking brings about. -/
inductive TrackerEffect where
  /-- The tracker is called. -/
  | call (c : TrackerCall)
  /-- Something is logged. -/
  | log (e : LogEffect)

/-- What was thrown. -/
inductive Thrown where
  /-- An error, with its message. -/
  | error (message : String)
  /-- A value that is no error. -/
  | value (v : Tree)

/-- The text of what was thrown, if it has one. -/
def Thrown.text? : Thrown → Option String
  | error message => some message
  | value v => v.display?

/-- **The memory of error tracking.** -/
structure Tracker where
  /-- Logging. -/
  logs : LogState
  /-- How loading the tracker fails, if it does. -/
  loadFailure : Option String
  /-- Whether the tracker has been started. -/
  active : Bool
  /-- What is still to come of what has been logged. -/
  pending : List LogEffect := []

namespace Tracker

/-- Where error tracking logs. -/
def origin : LogOrigin := ⟨"sentry", "runtime"⟩

/-- The memory after logging a record, and what comes of that at once. -/
def logged (t : Tracker) (severity : Severity) (message : String) (metadata : Tree) :
    Tracker × List TrackerEffect :=
  let (logs, effects) := t.logs.emit origin severity message metadata
  ({ t with logs, pending := t.pending ++ effects.filter (!·.isPrompt) },
    (effects.filter (·.isPrompt)).map .log)

/-- **Starts the tracker**, if it is wanted and has not been started. The answer is
whether errors are reported from now on. -/
def start (t : Tracker) : Bool × Tracker × List TrackerEffect :=
  if t.active then (true, t, [])
  else if !t.logs.telemetry.tracking.enabled then
    (false, t.logged .debug "Sentry disabled by configuration" .null)
  else
    let late := t.pending.map TrackerEffect.log
    let t := { t with pending := [] }
    match t.loadFailure with
    | some failure =>
      let (t, effects) :=
        t.logged .warn "Failed to load @sentry/node" (.record [("error", .text failure)])
      (false, t, late ++ effects)
    | none =>
      (true, { t with active := true },
        late ++ (TrackerCall.starting t.logs.telemetry).map .call)

/-- **Reports an error**, if the tracker has been started. A thrown value that is
no error is reported by its text. -/
def capture (t : Tracker) (thrown : Thrown) (extra : Tree) : Except Fault (List TrackerEffect) :=
  if !t.active then .ok []
  else
    match thrown.text? with
    | some message => .ok [.call (.capture message extra)]
    | none => .error .textless

/-! ### What is sent -/

/-- A record with the value under a key redacted, if there is one. -/
def redactUnder (key : String) (entries : List (String × Tree)) : List (String × Tree) :=
  match entries.lookup key with
  | some value =>
    if value.isPresent then Tree.put entries key (Redaction.redactRecord value) else entries
  | none => entries

/-- A step on the way to an error, with its data redacted. A step has to be
something. -/
def outgoingCrumb : Tree → Except Fault Tree
  | .null => .error (.missing "null" "data")
  | .record entries => .ok (.record (redactUnder "data" entries))
  | other => .ok other

/-- The steps on the way to an error, each with its data redacted. If there is
anything in their place, it has to be a list. -/
def outgoingCrumbs (entries : List (String × Tree)) :
    Except Fault (List (String × Tree)) :=
  match entries.lookup "breadcrumbs" with
  | none | some .null => .ok entries
  | some (.list crumbs) => do
    let crumbs ← crumbs.mapM outgoingCrumb
    return Tree.put entries "breadcrumbs" (.list crumbs)
  | some _ => .error (.notCallable "event.breadcrumbs?.forEach")

/-- A user reduced to an identifier, if there is one. -/
def outgoingUser (entries : List (String × Tree)) : Except Fault (List (String × Tree)) :=
  match entries.lookup "user" with
  | none => .ok entries
  | some user =>
    if !user.isPresent then .ok entries
    else
      match user.field? "id" with
      | none | some .null => .ok (Tree.drop entries "user")
      | some id =>
        match id.display? with
        | some text => .ok (Tree.put entries "user" (.record [("id", .text text)]))
        | none => .error .textless

/-- **An event as it is sent.** Only a record has anything to hide; a list goes as
it is, and anything else is no event. -/
def outgoing : Tree → Except Fault Tree
  | .record entries => do
    let entries ← outgoingCrumbs (redactUnder "extra" entries)
    let entries ← outgoingUser entries
    return .record (Tree.drop entries "request")
  | .list items => .ok (.list items)
  | .null => .error (.missing "null" "extra")
  | .flag b => .error (.noRoom "request" "boolean" (toString b))
  | .number x => .error (.noRoom "request" "number" x.text)
  | .text s => .error (.noRoom "request" "string" s)

/-- An event as it is sent, if there is one. -/
def outgoingGiven : Option Tree → Except Fault Tree
  | some event => outgoing event
  | none => .error (.missing "undefined" "extra")

end Tracker

end Proximity

import Proximity.Telemetry
import Proximity.Tree

/-!
# Logging

A log record goes to the console and, where the settings ask for it, also to a
log service. The service is opened when it is first needed and not opened again,
even if that fails; a failure of the service shows on the console and nowhere
else.

How the service's client behaves is a parameter (`Proximity.LogClient`), so that
every way it can fail has its place in the model.
-/

namespace Proximity

/-- How a method of the service's client behaves. -/
inductive LogClient.Method where
  /-- There is none. -/
  | missing
  /-- It does its work. -/
  | works
  /-- It does its work and then fails. -/
  | fails (message : String)
  deriving DecidableEq, Inhabited

/-- **How the client of the log service behaves.** -/
structure LogClient where
  /-- How loading it fails, if it does. -/
  loadFailure : Option String
  /-- How making one fails, if it does. -/
  openFailure : Option String
  /-- Sending a record. -/
  send : LogClient.Method
  /-- Waiting until everything is sent. -/
  flush : LogClient.Method
  deriving DecidableEq, Inhabited

/-- A client that does its work. -/
def LogClient.working : LogClient := ⟨none, none, .works, .works⟩

/-- What writes a record on the console. -/
inductive ConsoleWriter where
  /-- For records that are mild. -/
  | debug
  /-- For records worth knowing. -/
  | info
  /-- For warnings. -/
  | warn
  /-- For all that is worse. -/
  | error
  deriving DecidableEq

/-- The name of a console writer. -/
def ConsoleWriter.name : ConsoleWriter → String
  | debug => "debug"
  | info => "info"
  | warn => "warn"
  | error => "error"

/-- What writes records of a severity. -/
def Severity.writer : Severity → ConsoleWriter
  | debug => .debug
  | info => .info
  | warn => .warn
  | error | fatal => .error

/-- The severity that the log service is told; it knows none above `error`. -/
def Severity.forService : Severity → Severity
  | fatal => error
  | s => s

/-- Where a record comes from. -/
structure LogOrigin where
  /-- The part of the program. -/
  part : String
  /-- The wider area that the part belongs to. -/
  scope : String
  deriving DecidableEq, Inhabited

/-- The name under which the loggers of an origin are kept. Origins of one key
share a logger. -/
def LogOrigin.key (o : LogOrigin) : String := o.scope ++ ":" ++ o.part

/-- What logging brings about. -/
inductive LogEffect where
  /-- A record is written on the console. -/
  | console (writer : ConsoleWriter) (text : String) (metadata : Tree)
  /-- A failure is written on the console. -/
  | consoleFailure (text failure : String)
  /-- The service is opened. -/
  | opened (token : String)
  /-- A record is sent to the service. -/
  | sent (severity : Severity) (message : String) (metadata : Tree)
  /-- The service is told to send what it still has. -/
  | flushed

/-- Whether an effect shows at once. All others take the log service, which takes its
time. -/
def LogEffect.isPrompt : LogEffect → Bool
  | console _ _ _ => true
  | consoleFailure _ _ | opened _ | sent _ _ _ | flushed => false

/-- **The memory of logging.** -/
structure LogState where
  /-- The telemetry settings. -/
  telemetry : Telemetry
  /-- How the service's client behaves. -/
  client : LogClient
  /-- Whether opening the service has been tried, and with what success. -/
  service : Option Bool
  /-- The loggers there are, by their keys: the origin each was made for. -/
  loggers : List (String × LogOrigin)

namespace LogState

/-- Nothing logged yet. -/
def start (telemetry : Telemetry) (client : LogClient) : LogState :=
  ⟨telemetry, client, none, []⟩

/-- The origin whose logger answers for an origin, and the memory with that
logger in it. -/
def logger (st : LogState) (o : LogOrigin) : LogOrigin × LogState :=
  match st.loggers.lookup o.key with
  | some origin => (origin, st)
  | none => (o, { st with loggers := (o.key, o) :: st.loggers })

/-- **Metadata as it is logged**: with where the record comes from and how severe
it is. The time of the record and the place in the program are not part of it. -/
def enrich (m : Telemetry) (o : LogOrigin) (severity : Severity) (metadata : Tree) : Tree :=
  let entries := Tree.drop (Tree.drop metadata.entries "timestamp") "stack"
  let entries := Tree.put entries "module" (.text o.part)
  let entries := Tree.put entries "scope" (.text o.scope)
  let entries := Tree.put entries "environment" (.text m.deployment)
  .record (Tree.put entries "level" (.text severity.name))

/-- Opens the service if that has not been tried. The answer is whether there is
a service to send to. -/
def openService (st : LogState) : Bool × LogState × List LogEffect :=
  if !st.telemetry.shipping.enabled then (false, st, [])
  else
    match st.service with
    | some ok => (ok, st, [])
    | none =>
      let failed := fun failure : String =>
        LogEffect.consoleFailure "Failed to initialise Better Stack Logtail client" failure
      let opened := LogEffect.opened st.telemetry.shipping.token
      match st.client.loadFailure, st.client.openFailure with
      | some failure, _ => (false, { st with service := some false }, [failed failure])
      | none, some failure => (false, { st with service := some false }, [opened, failed failure])
      | none, none => (true, { st with service := some true }, [opened])

/-- Sends a record to the service, if there is one. -/
def ship (st : LogState) (severity : Severity) (message : String) (metadata : Tree) :
    LogState × List LogEffect :=
  let (ok, st, effects) := st.openService
  if !ok then (st, effects)
  else
    let sent := LogEffect.sent severity.forService message metadata
    match st.client.send with
    | .missing => (st, effects)
    | .works => (st, effects ++ [sent])
    | .fails failure =>
      (st, effects ++ [sent, .consoleFailure "Failed to send log to Better Stack" failure])

/-- **Logs a record**, if it is severe enough. -/
def emit (st : LogState) (o : LogOrigin) (severity : Severity) (message : String)
    (metadata : Tree) : LogState × List LogEffect :=
  let (o, st) := st.logger o
  if !severity.reaches st.telemetry.threshold then (st, [])
  else
    let metadata := enrich st.telemetry o severity metadata
    let (st', effects) := st.ship severity message metadata
    (st', .console severity.writer ("[" ++ severity.label ++ "] " ++ message) metadata :: effects)

/-- **Waits until everything is sent.** The answer is how that fails, if it
does. -/
def flush (st : LogState) (o : LogOrigin) : Option String × LogState × List LogEffect :=
  let (_, st) := st.logger o
  let (ok, st, effects) := st.openService
  if !ok then (none, st, effects)
  else
    match st.client.flush with
    | .missing => (none, st, effects)
    | .works => (none, st, effects ++ [.flushed])
    | .fails failure => (some failure, st, effects ++ [.flushed])

/-- Whether two origins have the same logger, which both of them have from then
on. -/
def sameLogger (st : LogState) (o p : LogOrigin) : Bool × LogState :=
  let (_, st) := st.logger o
  let (_, st) := st.logger p
  (o.key == p.key, st)

end LogState

end Proximity

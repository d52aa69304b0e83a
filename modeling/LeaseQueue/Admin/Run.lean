/-
One run of the administration program.

* `Admin.Ending`: what a run leaves behind: its exit code and what it has written;
* `Admin.Failure`: why a command fails, with the cause behind it, and how that is told;
* `Command.call`: what a command asks of the broker;
* `Format.ending`: how the answer is written;
* `Admin.run`: a whole run, from the command line to its ending.

A run that fails exits with 1 and writes nothing but the reason, a wrong command line exits with 2.
The broker has to be reached before anything else is looked at.
-/
import LeaseQueue.Admin.Help
import LeaseQueue.Admin.View
import LeaseQueue.Client.Call
import LeaseQueue.Task.Json
import LeaseQueue.Yaml.Writer

namespace LeaseQueue.Admin

/-- What a run leaves behind. -/
structure Ending where
  exitCode : Nat
  /-- What has been written for use. -/
  output : String
  /-- What has been written for the user. -/
  errors : String
deriving DecidableEq, Repr

/-! ### Failures -/

/-- Why a command fails. -/
structure Failure where
  message : String
  /-- What is behind it, if more is known. -/
  cause : Option String
deriving DecidableEq, Repr

namespace Failure

/-- A failure of which no more is known. -/
def plain (message : String) : Failure := ⟨message, none⟩

/-- A failed call. -/
def ofClientError (e : ClientError) : Failure := plain e.message

/-- Every line of a cause is indented. -/
def indent (cause : String) : String :=
  "\n".intercalate ((cause.splitOn "\n").map ("    " ++ ·))

/-- A failure as it is told. -/
def report (f : Failure) : String :=
  match f.cause with
  | some cause => s!"Error: {f.message}\n\nCaused by:\n" ++ indent cause ++ "\n"
  | none => s!"Error: {f.message}\n"

/-- The ending of a failed run. -/
def ending (f : Failure) : Ending := ⟨1, "", f.report⟩

end Failure

/-! ### Calls -/

/-- The payload of a new task: given as it is, read from a file, or empty. `readFile` gives the text
of a file, or the reason why it cannot be read. -/
def payloadOf (readFile : String → Except String String) (payload file : Option String) :
    Except Failure String :=
  match payload, file with
  | some text, _ => .ok text
  | none, some path =>
    (readFile path).mapError fun reason => ⟨s!"Failed to read payload file {path}", some reason⟩
  | none, none => .ok ""

/-- What a command asks of the broker. -/
def Command.call (readFile : String → Except String String) :
    Command → Except Failure ClientCall
  | .enqueue type payload file tags => do
    let payload ← payloadOf readFile payload file
    let tags ← (metadata tags).mapError .plain
    return .enqueue type payload tags
  | .dequeue worker => .ok (.dequeue worker)
  | .ack id failed result => .ok (.ack id (!failed) result)
  | .heartbeat id => .ok (.heartbeat id)
  | .list s => ((status s).map .list).mapError .plain

/-! ### Answers -/

namespace Format

/-- Write a value, or draw it. -/
def write (f : Format) (v : Json) (grid : Grid) : String :=
  match f with
  | table => grid.render ++ "\n"
  | json => v.pretty ++ "\n"
  | yaml => v.yaml

/-- The ending of a run that has got an answer. -/
def ending (f : Format) : Outcome → Ending
  | .task t | .found (some t) => ⟨0, f.write t.toJson t.grid, ""⟩
  | .found none =>
    match f with
    | table => ⟨0, "", "No pending tasks\n"⟩
    | json => ⟨0, "null\n", ""⟩
    | yaml => ⟨0, "~\n", ""⟩
  | .tasks l => ⟨0, f.write (.array (l.map Task.toJson)) (Task.listGrid l), ""⟩
  | .swept _ => ⟨0, "", ""⟩

end Format

/-! ### Runs -/

variable {σ : Type} [Storage σ]

/-- One command against a broker. Without any time to wait no answer comes in time, and the broker
does not hear of the request. -/
def perform (readFile : String → Except String String) (id : String) (now : Timestamp)
    (broker : Remote σ) (o : Options) (c : Command) : Ending × Remote σ :=
  match c.call readFile with
  | .error f => (f.ending, broker)
  | .ok call =>
    if o.timeout = 0 then ((Failure.ofClientError .timeout).ending, broker)
    else
      match broker.perform id now call with
      | (.ok outcome, broker) => (o.format.ending outcome, broker)
      | (.error e, broker) => ((Failure.ofClientError e).ending, broker)

/-- The ending of a run whose command line is wrong or asks for an explanation. Without any word
the explanation of the program is given as the reason of the failure. -/
def usageEnding (environment : String → Option String) (e : UsageError) : Ending :=
  match e with
  | .displayHelp topic => ⟨e.exitCode, help environment topic, ""⟩
  | .displayHelpOnMissing => ⟨e.exitCode, "", help environment ""⟩
  | e =>
    ⟨e.exitCode, "", s!"error: {e.name}\n\n" ++ topSpec.usage program
      ++ "\n\nFor more information, try '--help'.\n"⟩

/-- A run on a network that leads to one broker. `environment` gives the values of variables. -/
def run (network : Network) (readFile : String → Except String String)
    (environment : String → Option String) (id : String) (now : Timestamp) (service : Service σ)
    (words : List String) : Ending × Service σ :=
  match parseWith ((environment addressVariable).getD standardAddress) words with
  | .error e => (usageEnding environment e, service)
  | .ok (o, c) =>
    match Remote.connect network o.address service with
    | .error e =>
      (Failure.ending ⟨s!"Failed to reach broker at {o.address}", some e.message⟩, service)
    | .ok broker =>
      let (ending, broker) := perform readFile id now broker o c
      (ending, broker.service)

end LeaseQueue.Admin

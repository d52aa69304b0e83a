/-
The command line of the administration program.

* `Admin.Options`: what concerns every command: broker, output, patience;
* `Admin.Command`: the five commands;
* `Admin.topSpec`, `Admin.commandSpec`: the words that the program and its commands accept;
* `Admin.parse`: reading a command line.
-/
import LeaseQueue.Admin.Arguments

namespace LeaseQueue.Admin

/-- How results are written. -/
inductive Format where
  | table
  | json
  | yaml
deriving DecidableEq, Repr

/-- The name of a format. -/
def Format.name : Format → String
  | table => "table"
  | json => "json"
  | yaml => "yaml"

/-- All formats. -/
def Format.all : List Format := [.table, .json, .yaml]

/-- The format with a name. -/
def Format.ofName? (name : String) : Option Format := all.find? fun f => f.name == name

/-- What concerns every command. -/
structure Options where
  /-- Where the broker listens. -/
  address : String
  format : Format
  /-- How many seconds to wait for an answer. -/
  timeout : Nat
  logLevel : String
deriving DecidableEq, Repr

/-- A command. -/
inductive Command where
  | enqueue (type : String) (payload payloadFile : Option String) (tags : List String)
  | dequeue (worker : String)
  | ack (id : String) (failed : Bool) (result : Option String)
  | heartbeat (id : String)
  | list (status : Option String)
deriving DecidableEq, Repr

/-! ### What the program accepts -/

/-- Where a broker on the same machine listens. -/
def standardAddress : String := "127.0.0.1:50051"

/-- The environment variable that says where the broker listens. -/
def addressVariable : String := "TQ_ADDR"

/-- The words before a command. -/
def topSpec : CommandSpec where
  name := ""
  summary := "Task Queue Admin CLI"
  options :=
    [{ long := "addr", short := some 'a', kind := .single .text, summary := "Broker address",
       standard := some standardAddress, setBy := some addressVariable },
     { long := "format", short := some 'f',
       kind := .single (.word (Format.all.map Format.name)), summary := "Output format",
       standard := some (Format.name .table) },
     { long := "timeout", short := none, kind := .single .number,
       summary := "Per-request timeout in seconds", standard := some "30" },
     { long := "log-level", short := none, kind := .single .text,
       summary := "Log level used when RUST_LOG is unset", standard := some "warn" },
     .help ""]
  operand := none
  subcommands := ["enqueue", "dequeue", "ack", "heartbeat", "list", "help"]
  required := []
  conflicts := []

/-- The operand of the commands about one task. -/
def taskOperand : OperandSpec := ⟨"task-id", "Task ID"⟩

/-- The words of `enqueue`. -/
def enqueueSpec : CommandSpec where
  name := "enqueue"
  summary := "Enqueue a new task"
  options :=
    [{ long := "task-type", short := some 't', kind := .single .text, summary := "Task type" },
     { long := "payload", short := some 'p', kind := .single .text, summary := "Inline payload" },
     { long := "payload-file", short := none, kind := .single .text,
       summary := "Read the payload from a file" },
     { long := "meta", short := some 'm', kind := .repeated,
       summary := "Metadata entry, repeatable (key=value)", placeholder := some "KEY=VALUE" },
     .help "enqueue"]
  operand := none
  subcommands := []
  required := ["task-type"]
  conflicts := [("payload", "payload-file")]

/-- The words of `dequeue`. -/
def dequeueSpec : CommandSpec where
  name := "dequeue"
  summary := "Lease the oldest pending task"
  options :=
    [{ long := "worker-id", short := some 'w', kind := .single .text,
       summary := "Worker identity recorded on the lease" },
     .help "dequeue"]
  operand := none
  subcommands := []
  required := ["worker-id"]
  conflicts := []

/-- The words of `ack`. -/
def ackSpec : CommandSpec where
  name := "ack"
  summary := "Acknowledge a task"
  options :=
    [{ long := "failed", short := none, kind := .flag,
       summary := "Mark the task as failed instead of completed" },
     { long := "result", short := some 'r', kind := .single .text,
       summary := "Result text stored on the task" },
     .help "ack"]
  operand := some taskOperand
  subcommands := []
  required := ["task-id"]
  conflicts := []

/-- The words of `heartbeat`. -/
def heartbeatSpec : CommandSpec where
  name := "heartbeat"
  summary := "Refresh the lease on an in-progress task"
  options := [.help "heartbeat"]
  operand := some taskOperand
  subcommands := []
  required := ["task-id"]
  conflicts := []

/-- The words of `list`. -/
def listSpec : CommandSpec where
  name := "list"
  summary := "List tasks"
  options :=
    [{ long := "status", short := some 's', kind := .single .text,
       summary := "Filter by status (PENDING, IN_PROGRESS, COMPLETED, FAILED)" },
     .help "list"]
  operand := none
  subcommands := []
  required := []
  conflicts := []

/-- The words of a command. -/
def commandSpec (name : String) : CommandSpec :=
  match name with
  | "enqueue" => enqueueSpec
  | "dequeue" => dequeueSpec
  | "ack" => ackSpec
  | "heartbeat" => heartbeatSpec
  | _ => listSpec

/-! ### Reading -/

/-- The options of the words before a command; `address` is used when none is given. -/
def optionsOf (address : String) (a : Arguments) : Options where
  address := (a.get? "addr").getD address
  format := ((a.get? "format").bind Format.ofName?).getD .table
  timeout := ((a.get? "timeout").bind readNumber?).getD 30
  logLevel := (a.get? "log-level").getD "warn"

/-- The command of a name and its words. -/
def commandOf (name : String) (a : Arguments) : Command :=
  match name with
  | "enqueue" =>
    .enqueue ((a.get? "task-type").getD "") (a.get? "payload") (a.get? "payload-file")
      (a.getAll "meta")
  | "dequeue" => .dequeue ((a.get? "worker-id").getD "")
  | "ack" => .ack ((a.get? "task-id").getD "") (a.has "failed") (a.get? "result")
  | "heartbeat" => .heartbeat ((a.get? "task-id").getD "")
  | _ => .list (a.get? "status")

/-- What the words after `help` lead to: the name of one command may follow. -/
def helpOf : List String → UsageError
  | [] => .displayHelp ""
  | [name] => if topSpec.subcommands.contains name then .displayHelp name else .invalidSubcommand
  | _ => .invalidSubcommand

/-- Read a command line; `address` is used when none is given. -/
def parseWith (address : String) (words : List String) :
    Except UsageError (Options × Command) := do
  let (top, rest) ← topSpec.read .empty words
  match rest with
  | none =>
    let _ ← topSpec.finish top false
    throw .missingSubcommand
  | some ("help", words) => throw (helpOf words)
  | some (name, words) =>
    let spec := commandSpec name
    let (a, _) ← spec.read .empty words
    let a ← spec.finish a false
    let top ← topSpec.finish top true
    return (optionsOf address top, commandOf name a)

/-- Read a command line. -/
def parse (words : List String) : Except UsageError (Options × Command) :=
  parseWith standardAddress words

end LeaseQueue.Admin

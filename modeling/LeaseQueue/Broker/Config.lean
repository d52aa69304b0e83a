/-
The configuration file of a broker.

* `BrokerConfig`: the five sections with their usual values;
* `BrokerConfig.ofYaml?`: reading a file; what is missing keeps its usual value, unknown names are
  passed over, a known name that occurs twice is refused;
* `BrokerConfig.validate`: what a broker insists on.
-/
import LeaseQueue.Broker.Settings
import LeaseQueue.Store.Config
import LeaseQueue.Yaml.Parser
import LeaseQueue.Yaml.Reading

namespace LeaseQueue

/-- Where the broker listens. -/
structure ServerConfig where
  host : String := "0.0.0.0"
  port : UInt16 := 50051
deriving DecidableEq, Repr

/-- Whether and where events are recorded. -/
structure AuditConfig where
  enabled : Bool := false
  path : String := "./data/audit.db"
deriving DecidableEq, Repr

/-- How the broker reports about itself. -/
structure MonitoringConfig where
  /-- Where the counters can be read. -/
  metricsPort : UInt16 := 9091
  logLevel : String := "info"
  jsonLogs : Bool := false
deriving DecidableEq, Repr

/-- The configuration of a broker. -/
structure BrokerConfig where
  server : ServerConfig := {}
  storage : StoreConfig := .standard
  queue : QueueSettings := .standard
  audit : AuditConfig := {}
  monitoring : MonitoringConfig := {}
deriving DecidableEq, Repr

/-! ### Sections of a file -/

namespace ConfigFile

open Yaml (Reading text flag member members)

/-- A whole number of 16 bits without sign. -/
def port (v : Yaml) : Reading UInt16 := return UInt16.ofNat (← Yaml.unsigned UInt16.size v)

/-- A whole number of 32 bits without sign. -/
def count (v : Yaml) : Reading UInt32 := return UInt32.ofNat (← Yaml.unsigned UInt32.size v)

/-- Where the broker listens. -/
def server (v : Yaml) : Reading ServerConfig := do
  let s ← members v
  let usual : ServerConfig := {}
  return { host := ← member s "host" text usual.host, port := ← member s "port" port usual.port }

/-- How the broker treats leases. -/
def queue (v : Yaml) : Reading QueueSettings := do
  let s ← members v
  let usual := QueueSettings.standard
  return {
    visibilityTimeout := ← member s "visibility_timeout_ms" Yaml.signed usual.visibilityTimeout
    maxAttempts := ← member s "max_attempts" count usual.maxAttempts }

/-- Whether and where events are recorded. -/
def audit (v : Yaml) : Reading AuditConfig := do
  let s ← members v
  let usual : AuditConfig := {}
  return {
    enabled := ← member s "enabled" flag usual.enabled
    path := ← member s "path" text usual.path }

/-- How the broker reports about itself. -/
def monitoring (v : Yaml) : Reading MonitoringConfig := do
  let s ← members v
  let usual : MonitoringConfig := {}
  return {
    metricsPort := ← member s "prometheus_port" port usual.metricsPort
    logLevel := ← member s "log_level" text usual.logLevel
    jsonLogs := ← member s "json_logs" flag usual.jsonLogs }

/-! ### The task store -/

/-- The depth of what a section may hold, of which the document and the section itself take two
levels. -/
def innerDepth : Nat := 126

/-- The text of a node of any type, if it is one. -/
def setting (v : Yaml) : Reading (Option String) := do
  match ← Yaml.content innerDepth v with
  | .text s => return some s
  | _ => return none

/-- A key of a mapping and its value: the backend, or a setting. -/
abbrev Member := String ⊕ (Yaml.Content × Option String)

/-- A member of the section. The backend may be any scalar. -/
def storageMember (k v : Yaml) : Reading Member := do
  match ← Yaml.content innerDepth k with
  | .text "backend" => return .inl (← text v)
  | key => return .inr (key, ← setting v)

/-- The name of the setting that a key stands for: a text, or the place of the setting. Places
without a setting have no name. -/
def settingName (names : List String) : Yaml.Content → Reading (Option String)
  | .text s => return some s
  | .index n => return names[n]?
  | .other => failure

/-- Which task store to use. Settings have any type, so that a number is not a text. -/
def storage (v : Yaml) : Reading StoreConfig := do
  match ← Yaml.follow v with
  | .mapping tag pairs =>
    if tag.any (·.isLocal) then failure
    let found ← pairs.mapM fun (k, v) => storageMember k v
    match found.filterMap (·.getLeft?) with
    | [backend] =>
      let names ← Yaml.require (StoreConfig.settingNames? backend)
      let settings ← (found.filterMap (·.getRight?)).mapM fun (key, v) =>
        return (← settingName names key).map (·, v)
      Yaml.require (StoreConfig.ofSettings? backend (settings.filterMap id))
    | _ => failure
  | .sequence tag (backend :: settings) =>
    if tag.any (·.isLocal) then failure
    let backend ← text backend
    Yaml.require (StoreConfig.ofOrdered? backend (← settings.mapM setting))
  | _ => failure

/-- The whole file. -/
def broker (v : Yaml) : Reading BrokerConfig := do
  let s ← members v
  let usual : BrokerConfig := {}
  return {
    server := ← member s "server" server usual.server
    storage := ← member s "storage" storage usual.storage
    queue := ← member s "queue" queue usual.queue
    audit := ← member s "audit" audit usual.audit
    monitoring := ← member s "monitoring" monitoring usual.monitoring }

end ConfigFile

namespace BrokerConfig

/-- The configuration of a text. A text without a document is the usual configuration. -/
def ofYaml? (text : String) : Option BrokerConfig := do
  match ← Yaml.parse? text with
  | none => return {}
  | some d => d.read? (ConfigFile.broker d.root)

/-- Why a broker does not accept a configuration. -/
def validate (c : BrokerConfig) : Except String Unit :=
  if c.queue.maxAttempts = 0 then .error "queue.max_attempts must be at least 1" else .ok ()

/-- The address to listen on. -/
def listenAddress (c : BrokerConfig) : String :=
  c.server.host ++ ":" ++ Decimal.text c.server.port.toNat

/-- The configuration as a JSON object. -/
def toJson (c : BrokerConfig) : Json :=
  .object
    [("server",
       .object [("host", .string c.server.host), ("port", .whole c.server.port.toNat)]),
     ("storage", c.storage.toJson),
     ("queue", c.queue.toJson),
     ("audit",
       .object [("enabled", .bool c.audit.enabled), ("path", .string c.audit.path)]),
     ("monitoring",
       .object
         [("prometheus_port", .whole c.monitoring.metricsPort.toNat),
          ("log_level", .string c.monitoring.logLevel),
          ("json_logs", .bool c.monitoring.jsonLogs)])]

end BrokerConfig

end LeaseQueue

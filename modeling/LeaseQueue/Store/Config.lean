/-
Which task store to use.

* `StoreConfig`: a database file, or a server with the namespace of its keys;
* `StoreConfig.ofSettings?`, `ofOrdered?`: the choice of a backend and its settings, by name or in
  order;
* `StoreConfig.ofJson?`: reading the choice, an object with the member `backend`, or a list that
  starts with its value;
* `StoreConfig.openStore`: the store itself, as far as the surroundings permit.
-/
import LeaseQueue.Json.Reader
import LeaseQueue.Store.TaskStore
import LeaseQueue.Wire.Network

namespace LeaseQueue

/-- Which task store to use. -/
inductive StoreConfig where
  /-- A database in a file. -/
  | sqlite (path : String)
  /-- A server at an address. -/
  | redis (url ns : String)
deriving DecidableEq, Repr

namespace StoreConfig

/-- A database file below the working directory. -/
def standard : StoreConfig := .sqlite "./data/tasks.db"

/-- The choice as a JSON object. -/
def toJson : StoreConfig → Json
  | sqlite path => .object [("backend", .string "sqlite"), ("path", .string path)]
  | redis url ns =>
    .object [("backend", .string "redis"), ("url", .string url), ("namespace", .string ns)]

/-- The names of the settings of a backend, in order. -/
def settingNames? (backend : String) : Option (List String) :=
  match backend with
  | "sqlite" => some ["path"]
  | "redis" => some ["url", "namespace"]
  | _ => none

/-- The text of a setting: none when its name occurs twice or stands for no text, `other` when it
does not occur. -/
def setting? (settings : List (String × Option String)) (name : String) (other : Option String) :
    Option String :=
  match settings.filter (·.1 == name) with
  | [(_, v)] => v
  | [] => other
  | _ => none

/-- The choice of a backend with its settings by name, each a text or something else. Other names
are passed over. -/
def ofSettings? (backend : String) (settings : List (String × Option String)) :
    Option StoreConfig :=
  match backend with
  | "sqlite" => do return sqlite (← setting? settings "path" none)
  | "redis" => do
    return redis (← setting? settings "url" none)
      (← setting? settings "namespace" (some Layout.standardName))
  | _ => none

/-- The choice of a backend with its settings in order. -/
def ofOrdered? (backend : String) (settings : List (Option String)) : Option StoreConfig := do
  let names ← settingNames? backend
  if names.length < settings.length then failure
  ofSettings? backend (names.zip settings)

/-- The choice among the members of an object. -/
def ofMembers? (members : List (String × Json)) : Option StoreConfig :=
  match members.partition (·.1 == "backend") with
  | ([(_, .string backend)], settings) =>
    ofSettings? backend (settings.map fun (name, v) => (name, v.asString?))
  | _ => none

/-- The choice that a JSON value describes. -/
def ofJson? : Json → Option StoreConfig
  | .object members => ofMembers? members
  | .array (.string backend :: settings) => ofOrdered? backend (settings.map (·.asString?))
  | _ => none

/-- The choice that a JSON text describes. -/
def ofJsonText? (text : String) : Option StoreConfig := (Json.parse? text).bind ofJson?

/-! ### Opening -/

/-- Whether a path names a directory by its form. -/
def isDirectory (path : String) : Bool := path ∈ [".", ".."] || path.endsWith "/"
  || path.endsWith "/." || path.endsWith "/.."

/-- Open the store. `file` gives what a database file holds, `server` what a server holds. -/
def openStore (network : Network) (file : String → Table) (server : String → MemoryKeyspace) :
    StoreConfig → Except StoreError TaskStore
  | sqlite path =>
    if path.contains '\x00' then
      if path.contains '/' then .error (.io "file name contained an unexpected NUL byte")
      else .error (.database "nul byte found in provided data")
    else if isDirectory path then .error (.database "unable to open database file")
    else .ok (.table (file path))
  | redis url ns => (network.connect .server (server url)).map fun s => .keyspace ⟨⟨ns⟩, s⟩

end StoreConfig

end LeaseQueue

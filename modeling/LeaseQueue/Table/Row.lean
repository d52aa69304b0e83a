/-
Rows of the table of tasks.

* `Column`: the ten columns, with their affinity and whether they may be null;
* `Row`: the cells of one row; `Row.ofTask` writes a task;
* `StoredTask`: a row whose cells have the right kinds, read by `Row.read`;
* `StoredTask.decode`: the task of such a row.

A row can fail in two ways: a cell of the wrong kind is an error of the database, tags or a status
that cannot be read make a corrupted record.
-/
import LeaseQueue.Table.Cell
import LeaseQueue.Task.Json
import LeaseQueue.Store.Error

namespace LeaseQueue

/-- The columns, in order. -/
inductive Column where
  | id | type | payload | metadata | status | createdAt | updatedAt | result | worker | attempts
deriving DecidableEq, Repr

namespace Column

/-- The ten columns in order. -/
def all : List Column :=
  [id, type, payload, metadata, status, createdAt, updatedAt, result, worker, attempts]

/-- The name of a column. -/
def name : Column → String
  | id => "id"
  | type => "type"
  | payload => "payload"
  | metadata => "metadata"
  | status => "status"
  | createdAt => "created_at"
  | updatedAt => "updated_at"
  | result => "result"
  | worker => "worker_id"
  | attempts => "attempts"

/-- The column with a name. -/
def ofName? (name : String) : Option Column := all.find? fun c => c.name == name

/-- The place of a column, counted from zero. -/
def index (c : Column) : Nat := all.idxOf c

/-- Times and attempts are numbers, the rest are texts. -/
def affinity : Column → Affinity
  | createdAt | updatedAt | attempts => .integer
  | _ => .text

/-- Whether a column may hold null. -/
def nullable : Column → Bool
  | id | result | worker => true
  | _ => false

/-- The value of a column that is not given. -/
def default : Column → Cell
  | attempts => .integer 0
  | _ => .null

end Column

/-- The cells of a row. -/
structure Row where
  id : Cell
  type : Cell
  payload : Cell
  metadata : Cell
  status : Cell
  createdAt : Cell
  updatedAt : Cell
  result : Cell
  worker : Cell
  attempts : Cell
deriving DecidableEq, Repr

/-- A row whose cells have the kinds of their columns. -/
structure StoredTask where
  id : String
  type : String
  payload : String
  metadata : String
  status : String
  createdAt : Int64
  updatedAt : Int64
  result : Option String
  worker : Option String
  attempts : UInt32
deriving DecidableEq, Repr

/-- The task of a row, if its tags and its status can be read. -/
def StoredTask.decode (s : StoredTask) : Except StoreError Task :=
  match (Json.parse? s.metadata).bind Json.asTexts? with
  | none => .error (.corrupted s.id Json.malformed)
  | some metadata =>
    match Status.ofName? s.status with
    | none => .error (.corrupted s.id s!"unknown status {s.status}")
    | some status => .ok { s with metadata, status }

namespace Row

/-- The cell of a column. -/
def get (r : Row) : Column → Cell
  | .id => r.id
  | .type => r.type
  | .payload => r.payload
  | .metadata => r.metadata
  | .status => r.status
  | .createdAt => r.createdAt
  | .updatedAt => r.updatedAt
  | .result => r.result
  | .worker => r.worker
  | .attempts => r.attempts

/-- The row with one cell replaced. -/
def set (r : Row) (v : Cell) : Column → Row
  | .id => { r with id := v }
  | .type => { r with type := v }
  | .payload => { r with payload := v }
  | .metadata => { r with metadata := v }
  | .status => { r with status := v }
  | .createdAt => { r with createdAt := v }
  | .updatedAt => { r with updatedAt := v }
  | .result => { r with result := v }
  | .worker => { r with worker := v }
  | .attempts => { r with attempts := v }

/-- The row of column values, null where none is given. -/
def ofCells (cell : Column → Cell) : Row :=
  { id := cell .id, type := cell .type, payload := cell .payload, metadata := cell .metadata,
    status := cell .status, createdAt := cell .createdAt, updatedAt := cell .updatedAt,
    result := cell .result, worker := cell .worker, attempts := cell .attempts }

/-- An optional text. -/
def optionalCell : Option String → Cell
  | some s => .text s
  | none => .null

/-- The row of a task. -/
def ofTask (t : Task) : Row :=
  { id := .text t.id
    type := .text t.type
    payload := .text t.payload
    metadata := .text (Json.ofTexts t.metadata).write
    status := .text t.status.name
    createdAt := .integer t.createdAt
    updatedAt := .integer t.updatedAt
    result := optionalCell t.result
    worker := optionalCell t.worker
    attempts := .integer (Int64.ofNat t.attempts.toNat) }

/-- Write what transitions change of a task into its row. -/
def save (r : Row) (t : Task) : Row :=
  { r with
    status := .text t.status.name
    updatedAt := .integer t.updatedAt
    result := optionalCell t.result
    worker := optionalCell t.worker
    attempts := .integer (Int64.ofNat t.attempts.toNat) }

/-! ### Reading -/

/-- The error for a cell of the wrong kind. -/
def wrongKind (c : Column) (v : Cell) : StoreError :=
  .database s!"Invalid column type {v.kind} at index: {c.index}, name: {c.name}"

/-- A text. -/
def readText (r : Row) (c : Column) : Except StoreError String :=
  match r.get c with
  | .text s => .ok s
  | v => .error (wrongKind c v)

/-- A text or null. -/
def readOptionalText (r : Row) (c : Column) : Except StoreError (Option String) :=
  match r.get c with
  | .text s => .ok (some s)
  | .null => .ok none
  | v => .error (wrongKind c v)

/-- A whole number of 64 bits. -/
def readInteger (r : Row) (c : Column) : Except StoreError Int64 :=
  match r.get c with
  | .integer n => .ok n
  | v => .error (wrongKind c v)

/-- A whole number of 32 bits without sign. -/
def readCount (r : Row) (c : Column) : Except StoreError UInt32 := do
  let n ← r.readInteger c
  if 0 ≤ n.toInt ∧ n.toInt < UInt32.size then return UInt32.ofNat n.toInt.toNat
  else throw (.database s!"Integer {Decimal.text n.toInt} out of range at index {c.index}")

/-- All cells by the kinds of their columns; the first wrong one is reported. -/
def read (r : Row) : Except StoreError StoredTask := do
  return {
    id := ← r.readText .id
    type := ← r.readText .type
    payload := ← r.readText .payload
    metadata := ← r.readText .metadata
    status := ← r.readText .status
    createdAt := ← r.readInteger .createdAt
    updatedAt := ← r.readInteger .updatedAt
    result := ← r.readOptionalText .result
    worker := ← r.readOptionalText .worker
    attempts := ← r.readCount .attempts }

/-- The task of a row. -/
def decode (r : Row) : Except StoreError Task := r.read.bind StoredTask.decode

end Row

end LeaseQueue

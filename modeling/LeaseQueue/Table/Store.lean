/-
The task store in one table.

* `Table`: the rows of all tasks;
* `Table.add`, `Table.save`: writes of tasks; ids are keys, so a new row needs a new one;
* the `Storage` instance: each call reads rows by status or id in queue order and writes tasks back;
  a call that fails leaves the table as it was;
* `Table.setCells`, `Table.insertRow`: writes of raw values, refused when they break a rule of the
  table.

Rows that cannot be decoded are passed over by leases and sweeps, which leaves them where they are;
listing and single reads report them.
-/
import LeaseQueue.Table.Row
import LeaseQueue.Store.Storage

namespace LeaseQueue

/-- The table of tasks. -/
structure Table where
  rows : List Row
deriving DecidableEq, Repr

namespace Table

/-- No rows. -/
def empty : Table := ⟨[]⟩

/-! ### Selecting rows -/

/-- Queue order: by creation time, then by id. -/
def rowLe (a b : Row) : Bool :=
  a.createdAt.lt b.createdAt || (!b.createdAt.lt a.createdAt && !b.id.lt a.id)

/-- The rows that satisfy a condition, in queue order. -/
def select (t : Table) (p : Row → Bool) : List Row := (t.rows.filter p).mergeSort rowLe

/-- Whether a row has a status. -/
def hasStatus (s : Status) (r : Row) : Bool := r.status == .text s.name

/-- The row with an id. -/
def rowOf? (t : Table) (id : String) : Option Row := t.rows.find? fun r => r.id == .text id

/-- The task with an id. -/
def fetch (t : Table) (id : String) : Except StoreError (Option Task) :=
  match t.rowOf? id with
  | some r => r.decode.map some
  | none => .ok none

/-- The task with an id, which has to exist. -/
def fetchExisting (t : Table) (id : String) : Except StoreError Task :=
  match t.fetch id with
  | .ok (some task) => .ok task
  | .ok none => .error (.notFound id)
  | .error e => .error e

/-- Add the row of a task; an id that is in the table already is refused. -/
def add (t : Table) (task : Task) : Except StoreError Task × Table :=
  match t.rowOf? task.id with
  | some _ => (.error (.database "UNIQUE constraint failed: tasks.id"), t)
  | none => (.ok task, ⟨t.rows ++ [Row.ofTask task]⟩)

/-- Write what transitions change of a task into its row. -/
def save (t : Table) (task : Task) : Table :=
  ⟨t.rows.map fun r => if r.id == .text task.id then r.save task else r⟩

/-! ### Calls -/

/-- The first decodable task among rows; a row with a cell of the wrong kind stops the search. -/
def firstDecodable : List Row → Except StoreError (Option Task)
  | [] => .ok none
  | r :: rest =>
    match r.read with
    | .error e => .error e
    | .ok stored =>
      match stored.decode with
      | .ok task => .ok (some task)
      | .error _ => firstDecodable rest

/-- Lease the first waiting task. -/
def dequeue (t : Table) (now : Timestamp) (worker : String) :
    Except StoreError (Option Task) × Table :=
  match firstDecodable (t.select (hasStatus .pending)) with
  | .error e => (.error e, t)
  | .ok none => (.ok none, t)
  | .ok (some task) =>
    let claimed := task.claim worker now
    (.ok (some claimed), t.save claimed)

/-- Replace a task by the result of a transition. -/
def update (t : Table) (id : String) (transition : Task → Except TaskError Task) :
    Except StoreError Task × Table :=
  match t.fetchExisting id with
  | .error e => (.error e, t)
  | .ok task =>
    match transition task with
    | .error e => (.error (.task e), t)
    | .ok changed => (.ok changed, t.save changed)

/-- Read rows completely before any of them is decoded. -/
def decodeAll (rows : List Row) : Except StoreError (List Task) :=
  (rows.mapM Row.read).bind fun stored => stored.mapM StoredTask.decode

/-- The rows of leases last refreshed before a point in time. -/
def overdue (t : Table) (threshold : Timestamp) : List Row :=
  t.select fun r => hasStatus .inProgress r && r.updatedAt.lt (.integer threshold)

/-- End one expired lease, unless its row cannot be decoded. -/
def expireOne (now : Timestamp) (maxAttempts : UInt32) (acc : SweepReport × Table)
    (stored : StoredTask) : SweepReport × Table :=
  match stored.decode with
  | .error _ => acc
  | .ok task =>
    let expired := task.expire maxAttempts now
    (acc.1.add expired task.worker, acc.2.save expired)

/-- End the leases last refreshed before `now - maxAge`. -/
def recover (t : Table) (now : Timestamp) (maxAge : Int64) (maxAttempts : UInt32) :
    Except StoreError SweepReport × Table :=
  match (t.overdue (Timestamp.before now maxAge)).mapM Row.read with
  | .error e => (.error e, t)
  | .ok stored =>
    let (report, t) := stored.foldl (expireOne now maxAttempts) (.empty, t)
    (.ok report, t)

instance : Storage Table where
  backendName _ := "sqlite"
  enqueue t id now type payload metadata :=
    match Task.new id now type payload metadata with
    | .error e => (.error (.task e), t)
    | .ok task => t.add task
  dequeue := dequeue
  ack t now id success result := t.update id fun task => task.finish success result now
  list t status :=
    (decodeAll (t.select fun r => status.all (hasStatus · r)), t)
  get t id := (t.fetch id, t)
  heartbeat t now id := t.update id fun task => .ok (task.touch now)
  recover := recover

/-! ### Raw writes -/

/-- Whether a row keeps the rules of its columns. -/
def allowed (r : Row) : Bool := Column.all.all fun c => c.nullable || r.get c != .null

/-- Whether the ids of rows differ; null is no id. -/
def distinctIds (rows : List Row) : Bool :=
  let ids := rows.map (·.id) |>.filter (· != .null)
  ids.eraseDups.length == ids.length

/-- Set one column of the rows with an id; the number of rows set, or none when a rule of the
table is broken. -/
def setCells (t : Table) (id : String) (c : Column) (v : Cell) : Option (Nat × Table) :=
  let v := c.affinity.store v
  let rows := t.rows.map fun r => if r.id == .text id then r.set v c else r
  let count := t.rows.countP fun r => r.id == .text id
  if rows.all allowed && distinctIds rows then some (count, ⟨rows⟩) else none

/-- Add a row of column values; none when a rule of the table is broken. -/
def insertRow (t : Table) (values : List (Column × Cell)) : Option Table :=
  let r := Row.ofCells fun c => match values.find? (·.1 == c) with
    | some (_, v) => c.affinity.store v
    | none => c.default
  let rows := t.rows ++ [r]
  if allowed r && distinctIds rows then some ⟨rows⟩ else none

end Table

end LeaseQueue

/-
A task store of either kind.

* `TaskStore`: a table, or a layout over a keyspace in memory;
* its `Storage` instance: every call goes to the store inside.
-/
import LeaseQueue.Table.Store
import LeaseQueue.Keyspace.Store

namespace LeaseQueue

/-- A task store whose kind is chosen when it is opened. -/
inductive TaskStore where
  | table (t : Table)
  | keyspace (s : KeyspaceStore)

namespace TaskStore

/-- Run a call on the store inside. -/
def via {α : Type} (onTable : Table → α × Table) (onKeyspace : KeyspaceStore → α × KeyspaceStore) :
    TaskStore → α × TaskStore
  | table t => let (r, t) := onTable t; (r, table t)
  | keyspace s => let (r, s) := onKeyspace s; (r, keyspace s)

instance : Storage TaskStore where
  backendName
    | table t => Storage.backendName t
    | keyspace s => Storage.backendName s
  enqueue s id now type payload metadata :=
    s.via (Storage.enqueue · id now type payload metadata)
      (Storage.enqueue · id now type payload metadata)
  dequeue s now worker := s.via (Storage.dequeue · now worker) (Storage.dequeue · now worker)
  ack s now id success result :=
    s.via (Storage.ack · now id success result) (Storage.ack · now id success result)
  list s status := s.via (Storage.list · status) (Storage.list · status)
  get s id := s.via (Storage.get · id) (Storage.get · id)
  heartbeat s now id := s.via (Storage.heartbeat · now id) (Storage.heartbeat · now id)
  recover s now maxAge maxAttempts :=
    s.via (Storage.recover · now maxAge maxAttempts) (Storage.recover · now maxAge maxAttempts)

end TaskStore

end LeaseQueue

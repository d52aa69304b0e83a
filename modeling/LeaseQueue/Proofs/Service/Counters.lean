/-
What the calls of a service count.

* `MetricsSink.Counts`: a sink in memory holds given totals, as far as 64 bits go;
* `ServiceCall.tally`: what a call adds to each counter, told by what it returns;
* `Service.tallied`, `Service.counts_serve`: what a call of a run adds, after which the sink holds
  that more and nothing else.
-/
import LeaseQueue.Proofs.Service.Calls
import Mathlib.Algebra.Group.Pi.Basic

namespace LeaseQueue

/-- A number for each counter. -/
abbrev Totals := Counter → Nat

/-! ### Totals in memory -/

namespace MetricsSink

variable {m : MetricsSink} {T : Totals}

/-- A sink in memory holds the totals modulo the size of its counters. -/
def Counts (m : MetricsSink) (T : Totals) : Prop :=
  ∃ c, m = memory c ∧ ∀ counter : Counter, c.value counter.name = UInt64.ofNat (T counter)

lemma counts_empty : (memory .empty).Counts 0 := ⟨.empty, rfl, fun _ => rfl⟩

end MetricsSink

/-- Different counters have different names. -/
lemma Counter.name_injective {a b : Counter} : a.name = b.name ↔ a = b := by
  refine ⟨fun h => ?_, fun h => h ▸ rfl⟩
  cases a <;> cases b <;> first | rfl | exact absurd h (by decide)

/-- Adding to a counter adds to its total. -/
lemma MetricsSink.Counts.increment {m : MetricsSink} {T : Totals} (h : m.Counts T)
    (counter : Counter) (n : Nat) :
    (m.increment counter (UInt64.ofNat n)).Counts (T + Pi.single counter n) := by
  obtain ⟨c, rfl, hc⟩ := h
  refine ⟨c.increment counter.name (UInt64.ofNat n), rfl, fun other => ?_⟩
  rw [Counters.increment, Counters.value, SortedMap.getD_insert, Pi.add_apply, Pi.single_apply]
  by_cases heq : other = counter
  · rw [if_pos (congrArg Counter.name heq), if_pos heq, heq, hc, UInt64.ofNat_add]
  · rw [if_neg (fun h => heq (Counter.name_injective.mp h)), if_neg heq, Nat.add_zero]
    exact hc other

/-! ### Tallies -/

/-- What the counters of a sweep tell of its report. -/
def SweepReport.tally (r : SweepReport) : Totals :=
  Pi.single .retried r.requeued.length + Pi.single .failedTimeout r.failed.length

@[simp] lemma SweepReport.tally_empty : SweepReport.empty.tally = 0 := by simp [tally, empty]

namespace ServiceCall

/-- What a call that returns something adds to each counter. -/
def tally {ε : Type} : ServiceCall → Except ε Outcome → Totals
  | .enqueue _ _ _, .ok (.task _) => Pi.single .enqueued 1
  | .dequeue _, .ok (.found (some _)) => Pi.single .dispatched 1
  | .ack _ success _, .ok (.task _) => Pi.single (if success then .completed else .failed) 1
  | .recover, .ok (.swept r) => r.tally
  | _, _ => 0

variable {ε ε' : Type}

@[simp] lemma tally_error (call : ServiceCall) (e : ε) : call.tally (.error e) = 0 := by
  cases call <;> rfl

lemma tally_mapError (call : ServiceCall) (r : Except ε Outcome) (f : ε → ε') :
    call.tally (r.mapError f) = call.tally r := by
  cases r with
  | error e => rw [Except.mapError, tally_error, tally_error]
  | ok o =>
      cases call with
      | dequeue worker => rcases o with _ | (_ | _) | _ | _ <;> rfl
      | _ => cases o <;> rfl

end ServiceCall

namespace Service

open ServiceCall

section Sinks

variable {σ : Type} [Storage σ] {s : Service σ} {T : Totals}

/-- What the sweep of a dequeue adds; other calls, and those of workers without a name, do not sweep
first. -/
def sweepTallied (s : Service σ) (e : TimedServiceCall) : Totals :=
  match e.call with
  | .dequeue worker =>
    if Text.isBlank worker then 0
    else tally .recover (mapResult .swept (s.recover e.swept)).1
  | _ => 0

/-- What a call of a run adds, with its sweep. -/
def tallied (s : Service σ) (e : TimedServiceCall) : Totals :=
  s.sweepTallied e + e.call.tally (s.serve e).1

/-! ### The sink after a call -/

omit [Storage σ] in
lemma metrics_foldl_note {α : Type} (s : Service σ) (now : Timestamp) (kind : AuditKind)
    (subject : α → String) (details : α → List (String × String)) (l : List α) :
    (l.foldl (fun s a => s.note now kind (subject a) (details a)) s).metrics = s.metrics := by
  induction l generalizing s with
  | nil => rfl
  | cons a l ih => exact ih _

omit [Storage σ] in
lemma counts_noteRequeued (h : s.metrics.Counts T) (now : Timestamp) (r : SweepReport) :
    (s.noteRequeued now r).metrics.Counts (T + Pi.single .retried r.requeued.length) := by
  rw [noteRequeued]
  split_ifs with hempty
  · rw [List.isEmpty_iff.mp hempty, List.length_nil, Pi.single_zero, add_zero]
    exact h
  · rw [metrics_foldl_note]
    exact h.increment .retried _

omit [Storage σ] in
lemma counts_noteFailed (h : s.metrics.Counts T) (now : Timestamp) (r : SweepReport) :
    (s.noteFailed now r).metrics.Counts (T + Pi.single .failedTimeout r.failed.length) := by
  rw [noteFailed]
  split_ifs with hempty
  · rw [List.isEmpty_iff.mp hempty, List.length_nil, Pi.single_zero, add_zero]
    exact h
  · rw [metrics_foldl_note]
    exact h.increment .failedTimeout _

omit [Storage σ] in
/-- What follows a call that succeeds counts what its answer adds. -/
lemma counts_whenOk {α : Type} (h : s.metrics.Counts T) (x : Except StoreError α × σ)
    {f : α → Service σ → Service σ} (adds : Except TaskError α → Totals)
    (herror : ∀ e, adds (.error e) = 0)
    (hok : ∀ a s, s.metrics.Counts T → (f a s).metrics.Counts (T + adds (.ok a))) :
    (whenOk (s.lift x) f).2.metrics.Counts (T + adds (whenOk (s.lift x) f).1) := by
  obtain ⟨e | a, x⟩ := x
  · change s.metrics.Counts (T + adds (.error _))
    rw [herror, add_zero]
    exact h
  · exact hok a _ h

lemma counts_recover (h : s.metrics.Counts T) (now : Timestamp) :
    (s.recover now).2.metrics.Counts
      (T + tally .recover (mapResult .swept (s.recover now)).1) := by
  refine counts_whenOk h _ (fun r => tally .recover (r.map .swept)) (fun _ => rfl) fun r s h => ?_
  have hboth := counts_noteFailed (counts_noteRequeued h now r) now r
  rwa [add_assoc] at hboth

lemma counts_claim (h : s.metrics.Counts T) (now : Timestamp) (worker : String) :
    (s.claim now worker).2.metrics.Counts
      (T + tally (.dequeue worker) (mapResult .found (s.claim now worker)).1) := by
  refine counts_whenOk h _ (fun r => tally (.dequeue worker) (r.map .found)) (fun _ => rfl) ?_
  rintro (_ | t) s h
  · exact h
  · exact h.increment .dispatched 1

lemma metrics_list (s : Service σ) (status : String) : (s.list status).2.metrics = s.metrics := by
  simp only [list]
  split_ifs
  · rfl
  · cases Status.parse status <;> rfl

lemma metrics_get (s : Service σ) (id : String) : (s.get id).2.metrics = s.metrics := by
  simp only [get, lift]
  rcases Storage.get s.store id with ⟨_ | _ | _, _⟩ <;> rfl

/-- After a call of a run the sink holds what the call adds. -/
theorem counts_serve (h : s.metrics.Counts T) (e : TimedServiceCall) :
    (s.serve e).2.metrics.Counts (T + s.tallied e) := by
  obtain ⟨id, swept, now, call⟩ := e
  rw [tallied, ← add_assoc]
  cases call with
  | enqueue type payload metadata =>
      exact counts_whenOk h _ (fun r => tally (.enqueue type payload metadata) (r.map .task))
        (fun _ => rfl) fun _ _ h => h.increment .enqueued 1
  | dequeue worker =>
      have hrecover := counts_recover h swept
      simp only [sweepTallied, serve]
      split_ifs
      · exact h
      · rcases hsweep : s.recover swept with ⟨err | r, s'⟩
        all_goals rw [hsweep] at hrecover
        · exact hrecover
        · exact counts_claim hrecover now worker
  | ack taskId success result =>
      exact counts_whenOk h _ (fun r => tally (.ack taskId success result) (r.map .task))
        (fun _ => rfl) fun _ _ h => h.increment _ 1
  | list status => exact (s.metrics_list status).symm ▸ h
  | get taskId => exact (s.metrics_get taskId).symm ▸ h
  | heartbeat taskId =>
      exact counts_whenOk h _ (fun r => tally (.heartbeat taskId) (r.map .task))
        (fun _ => rfl) fun _ _ h => h
  | recover => exact counts_recover h now

end Sinks

end Service

end LeaseQueue

/-
The story of a task, as its events tell it.

* `AuditEvent.Is`, `AuditEvent.Names`: the kind of an event, and the task that it names;
* `Story`: the events of a task other than refreshes, one by one, with the status that they lead to
  and the workers that had a lease;
* `Story.word`: they are enqueued, then dequeued and requeued any number of times, and then end in
  one of five ways;
* `Story.workers`, `Story.acknowledged_status`, `Story.attempts`, `Story.failed_subject`: what the
  events say besides.
-/
import LeaseQueue.Broker.Audit
import LeaseQueue.Number.Decimal
import Mathlib.Tactic

namespace LeaseQueue

/-! ### Events -/

lemma AuditKind.name_injective : Function.Injective AuditKind.name := by
  intro k k' h
  cases k <;> cases k' <;> first | rfl | exact absurd h (by decide)

namespace AuditEvent

/-- The event is one of a kind. -/
def Is (e : AuditEvent) (kind : AuditKind) : Prop := e.type = kind.name

instance (kind : AuditKind) : DecidablePred fun e : AuditEvent => e.Is kind :=
  fun e => inferInstanceAs (Decidable (e.type = kind.name))

/-- The event names a task. -/
def Names (e : AuditEvent) (id : String) : Prop := e.details.get? "task_id" = some id

instance (id : String) : DecidablePred fun e : AuditEvent => e.Names id :=
  fun e => inferInstanceAs (Decidable (e.details.get? "task_id" = some id))

variable {e : AuditEvent} {kind kind' : AuditKind}

/-- No event is of two kinds. -/
lemma Is.not_is (h : e.Is kind) (hne : kind ≠ kind') : ¬ e.Is kind' :=
  fun h' => hne (AuditKind.name_injective (h.symm.trans h'))

end AuditEvent

/-! ### Stories -/

/-- The events of a task, refreshes left out, lead to a status; these workers had a lease. -/
inductive Story : List AuditEvent → Status → List String → Prop where
  | enqueued {e : AuditEvent} (h : e.Is .enqueued) : Story [e] .pending []
  | dequeued {l : List AuditEvent} {workers : List String} {e : AuditEvent}
    (hl : Story l .pending workers) (h : e.Is .dequeued) :
    Story (l ++ [e]) .inProgress (workers ++ [e.subject])
  | requeued {l : List AuditEvent} {workers : List String} {e : AuditEvent}
    (hl : Story l .inProgress workers) (h : e.Is .requeued)
    (hattempts : e.details.get? "attempts" = some (Decimal.text workers.length)) :
    Story (l ++ [e]) .pending workers
  | failed {l : List AuditEvent} {workers : List String} {e : AuditEvent}
    (hl : Story l .inProgress workers) (h : e.Is .failedTimeout)
    (hattempts : e.details.get? "attempts" = some (Decimal.text workers.length))
    (hsubject : workers.getLast? = some e.subject) : Story (l ++ [e]) .failed workers
  | acknowledged {l : List AuditEvent} {status status' : Status} {workers : List String}
    {e : AuditEvent} (hl : Story l status workers) (hopen : status.isTerminal = false)
    (h : e.Is .acknowledged) (hstatus : e.details.get? "status" = some status'.name)
    (hterminal : status'.isTerminal = true) : Story (l ++ [e]) status' workers

/-- How the types of the events of a task may end, and the status that they lead to. -/
inductive Ends : List String → Status → Prop where
  | waiting : Ends [] .pending
  | leased : Ends [AuditKind.dequeued.name] .inProgress
  | finished {status : Status} (h : status.isTerminal = true) :
    Ends [AuditKind.acknowledged.name] status
  | finishedLease {status : Status} (h : status.isTerminal = true) :
    Ends [AuditKind.dequeued.name, AuditKind.acknowledged.name] status
  | expired : Ends [AuditKind.dequeued.name, AuditKind.failedTimeout.name] .failed

lemma Ends.eq_nil {ending : List String} (h : Ends ending .pending) : ending = [] := by
  cases h with
  | waiting => rfl
  | finished h => cases h
  | finishedLease h => cases h

lemma Ends.eq_leased {ending : List String} (h : Ends ending .inProgress) :
    ending = [AuditKind.dequeued.name] := by
  cases h with
  | leased => rfl
  | finished h => cases h
  | finishedLease h => cases h

/-- What holds of every event of a list and those before it holds of one more event, if it holds of
this one. -/
lemma forall_split_append_singleton {α : Type} {P : List α → α → Prop} {l : List α} {a : α}
    (hl : ∀ before e after, l = before ++ e :: after → P before e) (ha : P l a) :
    ∀ before e after, l ++ [a] = before ++ e :: after → P before e := by
  intro before e after h
  rcases List.eq_nil_or_concat after with rfl | ⟨after, b, rfl⟩
  · obtain ⟨rfl, he⟩ := List.append_inj' h rfl
    obtain rfl := List.singleton_inj.mp he
    exact ha
  · rw [List.concat_eq_append, ← List.cons_append, ← List.append_assoc] at h
    exact hl before e after (List.append_inj' h rfl).1

namespace Story

variable {l : List AuditEvent} {status : Status} {workers : List String}

/-- The types of the events are those of an enqueue, of any number of leases that were ended, and of
one of the endings. -/
theorem word (h : Story l status workers) :
    ∃ n ending, l.map AuditEvent.type = AuditKind.enqueued.name ::
        ((List.replicate n [AuditKind.dequeued.name, AuditKind.requeued.name]).flatten ++ ending) ∧
      Ends ending status := by
  induction h with
  | enqueued h => exact ⟨0, [], congrArg (· :: []) h, .waiting⟩
  | dequeued hl h ih =>
      obtain ⟨n, ending, hword, hends⟩ := ih
      obtain rfl := hends.eq_nil
      refine ⟨n, _, ?_, .leased⟩
      rw [List.map_append, List.map_singleton, hword, h, List.append_nil, List.cons_append]
  | requeued hl h hattempts ih =>
      obtain ⟨n, ending, hword, hends⟩ := ih
      obtain rfl := hends.eq_leased
      refine ⟨n + 1, [], ?_, .waiting⟩
      rw [List.map_append, List.map_singleton, hword, h, List.replicate_succ', List.flatten_append,
        List.cons_append, List.append_assoc, List.append_nil]
      rfl
  | failed hl h hattempts hsubject ih =>
      obtain ⟨n, ending, hword, hends⟩ := ih
      obtain rfl := hends.eq_leased
      refine ⟨n, _, ?_, .expired⟩
      rw [List.map_append, List.map_singleton, hword, h, List.cons_append, List.append_assoc]
      rfl
  | @acknowledged l status status' workers e hl hopen h hstatus hterminal ih =>
      obtain ⟨n, ending, hword, hends⟩ := ih
      have hsnoc : (l ++ [e]).map AuditEvent.type = AuditKind.enqueued.name ::
          ((List.replicate n [AuditKind.dequeued.name, AuditKind.requeued.name]).flatten ++
            (ending ++ [AuditKind.acknowledged.name])) := by
        rw [List.map_append, List.map_singleton, hword, h, List.cons_append, List.append_assoc]
      refine ⟨n, _, hsnoc, ?_⟩
      cases hends with
      | waiting => exact .finished hterminal
      | leased => exact .finishedLease hterminal
      | finished h' | finishedLease h' => simp [h'] at hopen
      | expired => cases hopen

/-- A lease begins with the event of its worker. -/
lemma last_of_inProgress (h : Story l .inProgress workers) :
    ∃ l' d, l = l' ++ [d] ∧ d.Is .dequeued ∧ workers.getLast? = some d.subject := by
  cases h with
  | dequeued hl h => exact ⟨_, _, rfl, h, List.getLast?_concat⟩
  | acknowledged hl hopen h hstatus hterminal => cases hterminal

/-- The subjects of the leases are their workers. -/
theorem workers_eq (h : Story l status workers) :
    (l.filter fun e => e.Is .dequeued).map AuditEvent.subject = workers := by
  -- only the event of a lease adds a worker
  have hsnoc : ∀ {l : List AuditEvent} {workers : List String} {e : AuditEvent}
      {kind : AuditKind}, (l.filter fun e => e.Is .dequeued).map AuditEvent.subject = workers →
      e.Is kind → kind ≠ .dequeued →
      ((l ++ [e]).filter fun e => e.Is .dequeued).map AuditEvent.subject = workers := by
    intro l workers e kind hl h hne
    rw [List.filter_append, List.filter_singleton, decide_eq_false (h.not_is hne), cond_false,
      List.append_nil, hl]
  induction h with
  | enqueued h => exact hsnoc (l := []) rfl h (by decide)
  | dequeued hl h ih =>
      rw [List.filter_append, List.filter_singleton, decide_eq_true h, cond_true, List.map_append,
        ih, List.map_singleton]
  | requeued hl h hattempts ih => exact hsnoc ih h (by decide)
  | failed hl h hattempts hsubject ih => exact hsnoc ih h (by decide)
  | acknowledged hl hopen h hstatus hterminal ih => exact hsnoc ih h (by decide)

lemma countP_dequeued (h : Story l status workers) :
    l.countP (fun e => e.Is .dequeued) = workers.length := by
  rw [List.countP_eq_length_filter, ← h.workers_eq, List.length_map]

/-- An acknowledged task is finished, with the status that its event tells. -/
theorem acknowledged_status (h : Story l status workers) :
    ∀ e ∈ l, e.Is .acknowledged →
      status.isTerminal = true ∧ e.details.get? "status" = some status.name := by
  -- other events of a task that is not finished leave it unacknowledged
  have hother : ∀ {l : List AuditEvent} {status : Status} {e : AuditEvent} {kind : AuditKind},
      (∀ e ∈ l, e.Is .acknowledged →
        status.isTerminal = true ∧ e.details.get? "status" = some status.name) →
      status.isTerminal = false → e.Is kind → kind ≠ .acknowledged →
        ∀ e' ∈ l ++ [e], ¬ e'.Is .acknowledged := by
    intro l status e kind hl hopen h hne e' he' hack
    obtain he' | he' := List.mem_append.mp he'
    · exact Bool.false_ne_true (hopen.symm.trans (hl e' he' hack).1)
    · obtain rfl := List.mem_singleton.mp he'
      exact h.not_is hne hack
  induction h with
  | enqueued h =>
      intro e he hack
      obtain rfl := List.mem_singleton.mp he
      exact absurd hack (h.not_is (by decide))
  | dequeued hl h ih => exact fun e he hack => absurd hack (hother ih rfl h (by decide) e he)
  | requeued hl h hattempts ih =>
      exact fun e he hack => absurd hack (hother ih rfl h (by decide) e he)
  | failed hl h hattempts hsubject ih =>
      exact fun e he hack => absurd hack (hother ih rfl h (by decide) e he)
  | acknowledged hl hopen h hstatus hterminal ih =>
      intro e he hack
      obtain he | he := List.mem_append.mp he
      · exact absurd (hopen.symm.trans (ih e he hack).1) Bool.false_ne_true
      · obtain rfl := List.mem_singleton.mp he
        exact ⟨hterminal, hstatus⟩

/-- A lease stands before every event that ends one. The event tells how many leases there have been
and, if the task fails, the worker of the last. -/
lemma ended (h : Story l status workers) :
    ∀ before e after, l = before ++ e :: after → e.Is .requeued ∨ e.Is .failedTimeout →
      ∃ workers, Story before .inProgress workers ∧
        e.details.get? "attempts" = some (Decimal.text workers.length) ∧
        (e.Is .failedTimeout → workers.getLast? = some e.subject) := by
  -- no other event is the end of a lease
  have hother : ∀ {e : AuditEvent} {kind : AuditKind} {P : Prop}, e.Is kind → kind ≠ .requeued →
      kind ≠ .failedTimeout → e.Is .requeued ∨ e.Is .failedTimeout → P :=
    fun h hne hne' hend => (hend.elim (h.not_is hne) (h.not_is hne')).elim
  induction h with
  | enqueued h =>
      exact forall_split_append_singleton (l := []) (fun _ _ _ h => by simp at h)
        (hother h (by decide) (by decide))
  | dequeued hl h ih =>
      exact forall_split_append_singleton ih (hother h (by decide) (by decide))
  | requeued hl h hattempts ih =>
      refine forall_split_append_singleton ih fun _ => ⟨_, hl, hattempts, fun hfailed => ?_⟩
      exact absurd hfailed (h.not_is (by decide))
  | failed hl h hattempts hsubject ih =>
      exact forall_split_append_singleton ih fun _ => ⟨_, hl, hattempts, fun _ => hsubject⟩
  | acknowledged hl hopen h hstatus hterminal ih =>
      exact forall_split_append_singleton ih (hother h (by decide) (by decide))

/-- The end of a lease tells how many leases there have been. -/
theorem attempts (h : Story l status workers) :
    ∀ before e after, l = before ++ e :: after → e.Is .requeued ∨ e.Is .failedTimeout →
      e.details.get? "attempts"
        = some (Decimal.text (before.countP fun e => e.Is .dequeued)) := by
  intro before e after hsplit hend
  obtain ⟨workers, hl, hattempts, -⟩ := h.ended before e after hsplit hend
  rw [hl.countP_dequeued]
  exact hattempts

/-- The last lease of a failed task was that of the worker in whose name it failed. -/
theorem failed_subject (h : Story l status workers) :
    ∀ before e after, l = before ++ e :: after → e.Is .failedTimeout →
      ∃ d, before.getLast? = some d ∧ d.Is .dequeued ∧ d.subject = e.subject := by
  intro before e after hsplit hfailed
  obtain ⟨workers, hl, -, hsubject⟩ := h.ended before e after hsplit (.inr hfailed)
  obtain ⟨l', d, rfl, hd, hlast⟩ := hl.last_of_inProgress
  exact ⟨d, List.getLast?_concat, hd, Option.some.inj (hlast.symm.trans (hsubject hfailed))⟩

end Story

end LeaseQueue

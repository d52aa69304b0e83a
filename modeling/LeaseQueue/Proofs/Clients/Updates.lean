/-
Which guarded batches lose an update.

* `System.Lawful`: a batch that an action commits writes what its transition makes of the stored
  task;
* `Status.rank`, `Behind`: a task that is never leased only moves away from the lease it had;
* `held_run`: in a run of lawful batches a task that was read is stored as it was but for the update
  time, or has moved on, or has been leased since and counts more attempts than were read;
* `lossless_iff_undisturbed`: the batches of a run are lawful if no task of theirs has been leased
  between read and write, and not otherwise.

The guards of a batch compare status and update time. They miss a task that has been leased since it
was read and has come back to both values; everything else they notice.
-/
import LeaseQueue.Proofs.Clients.History

namespace LeaseQueue

/-! ### Away from a lease -/

/-- How far a status is from a lease, along the edges that are not leases. -/
def Status.rank : Status → Nat
  | inProgress => 0
  | pending => 1
  | completed | failed => 2

/-- Only a lease leads back. -/
lemma Status.Next.rank_lt {s s' : Status} (h : Status.Next s s') (hs' : s' ≠ .inProgress) :
    s.rank < s'.rank := by
  cases h with
  | lease => exact absurd rfl hs'
  | requeue => decide
  | finish hopen hterminal =>
      cases s <;> cases s' <;> simp_all [Status.isTerminal, Status.rank]

namespace Transition

variable {tr : Transition} {t t' : Task}

/-- A transition that leaves the status alone refreshes the update time alone. -/
lemma eq_touch_of_status (h : tr.act? t = some t') (hs : t'.status = t.status) :
    t' = t.touch t'.updatedAt := by
  cases acts h with
  | claim worker now hpending => simp [Task.claim, hpending] at hs
  | finish hfinish hopen hterminal => simp [hs, hopen] at hterminal
  | requeue now hleased => simp [Task.requeue, hleased] at hs
  | exhaust now hleased => simp [Task.exhaust, hleased] at hs
  | touch t now => rfl

/-- A claim counts one attempt, and no other transition counts any. -/
lemma attempts_act? (h : tr.act? t = some t') :
    t'.attempts = if tr.isClaim then t.attempts + 1 else t.attempts := by
  cases acts h with
  | finish hfinish hopen hterminal =>
      rw [Task.finish, hopen, if_neg Bool.false_ne_true] at hfinish
      obtain rfl := Except.ok.inj hfinish
      rfl
  | _ => rfl

/-- A hash keeps a task as any transition but a claim makes it. -/
lemma clean_act? (h : tr.act? t = some t') (hclaim : tr.isClaim = false) (ht : t.Clean) :
    t'.Clean := by
  cases acts h with
  | claim worker now hpending => simp [isClaim] at hclaim
  | finish hfinish hopen hterminal => exact Task.clean_finish hfinish
  | requeue now hleased => exact ⟨ht.result, by simp [Task.requeue]⟩
  | exhaust now hleased =>
      exact ⟨by simp [Task.exhaust, Task.attemptsExceeded], by simp [Task.exhaust]⟩
  | touch t now => exact ht.touch now

end Transition

/-- The stored task is the one that was read but for the update time, or has moved on. -/
def Behind (read stored : Task) : Prop :=
  stored = read.touch stored.updatedAt ∨ read.status.rank < stored.status.rank

lemma Behind.refl (t : Task) : Behind t t := Or.inl rfl

/-- What is not a claim does not lead back. -/
lemma Behind.act? {tr : Transition} {read t t' : Task} (h : Behind read t)
    (hact : tr.act? t = some t') (hclaim : tr.isClaim = false) : Behind read t' := by
  rcases (Transition.follows_act? hact).status with hs | hnext
  · have htouch := Transition.eq_touch_of_status hact hs
    rcases h with htouched | hrank
    · rw [htouched] at htouch
      exact Or.inl htouch
    · exact Or.inr (hs ▸ hrank)
  · refine Or.inr ?_
    have hne : t'.status ≠ .inProgress := by
      intro hleased
      rw [hleased] at hnext
      have hpending := hnext.eq_pending
      rw [(Transition.isClaim_iff hact).mpr ⟨hpending, hleased⟩] at hclaim
      simp at hclaim
    have hlt := hnext.rank_lt hne
    rcases h with htouched | hrank
    · have hstatus : t.status = read.status := by
        rw [htouched]
        rfl
      rwa [hstatus] at hlt
    · exact hrank.trans hlt

/-- A task that the guards take for the one that was read is that one, if it has only moved away. -/
lemma Behind.eq_read {read stored : Task} (h : Behind read stored)
    (hstatus : stored.status = read.status) (hupdated : stored.updatedAt = read.updatedAt) :
    stored = read := by
  rcases h with htouched | hrank
  · rw [htouched, hupdated]
    rfl
  · rw [hstatus] at hrank
    exact absurd hrank (lt_irrefl _)

namespace System

variable {l : Layout} {used : List String} {s : System} {a : Action} {id : String}
  {actions : List Action}

/-! ### Lawful batches -/

/-- The guarded batch that an action applies leaves in the hash of its task what its transition
makes of the task that was stored. -/
def Lawful (l : Layout) (s : System) (a : Action) : Prop :=
  ∀ w ∈ s.commit? l a, ∃ stored ∈ s.keyspace.task? l w.read.id,
    ∃ written ∈ w.transition.act? stored,
      (s.step l a).keyspace.hash (l.taskKey w.read.id) = Layout.record written

instance (l : Layout) (s : System) (a : Action) : Decidable (Lawful l s a) :=
  inferInstanceAs (Decidable (∀ w ∈ s.commit? l a, _))

/-- The task of the guarded batch that an action applies has not been leased by another client since
it was read. -/
def Timely (l : Layout) (actions : List Action) (a : Action) : Prop :=
  ∀ w ∈ (run l actions).commit? l a, ¬ ClaimedSince l actions a.client w.read.id

instance (l : Layout) (actions : List Action) (a : Action) : Decidable (Timely l actions a) :=
  inferInstanceAs (Decidable (∀ w ∈ (run l actions).commit? l a, _))

/-- The attempts that the lease of an action counts are within their range. -/
def Countable (l : Layout) (s : System) (a : Action) : Prop :=
  ∀ w ∈ s.commit? l a, w.transition.isClaim = true →
    ∀ stored ∈ s.keyspace.task? l w.read.id, stored.attempts.toNat + 1 < UInt32.size

instance (l : Layout) (s : System) (a : Action) : Decidable (Countable l s a) :=
  inferInstanceAs (Decidable (∀ w ∈ s.commit? l a, _))

/-- An action refreshes a task. -/
def Touches (l : Layout) (s : System) (a : Action) : Prop :=
  ∃ w now, s.commit? l a = some w ∧ w.transition = .touch now

/-- The hash after a guarded batch is that of the task that the batch writes. -/
lemma Inv.hash_step_of_commit? (h : Inv l used s) {w : GuardedWrite} (hw : s.commit? l a = some w) :
    (s.step l a).keyspace.hash (l.taskKey w.read.id) = Layout.record w.written := by
  rw [(h.task?_step a).1.hash_of_some (h.task?_step_of_commit? hw), Layout.record_kept]

/-- A lawful batch replaces the stored task by what its transition makes of it. -/
lemma Lawful.task?_step (h : s.Lawful l a) {w : GuardedWrite}
    (hw : s.commit? l a = some w) {t : Task} (ht : s.keyspace.task? l w.read.id = some t) :
    ∃ t', w.transition.act? t = some t' ∧
      (s.step l a).keyspace.task? l w.read.id = some t'.kept := by
  obtain ⟨stored, hstored, written, hact, hhash⟩ := h w hw
  rw [Option.mem_def, ht, Option.some_inj] at hstored
  subst hstored
  exact ⟨written, hact, Keyspace.task?_of_hash_eq_record hhash⟩

/-- A batch that meets the task that was read is lawful. -/
lemma Inv.lawful_of_eq_read (h : Inv l used s)
    (hread : ∀ w ∈ s.commit? l a, s.keyspace.task? l w.read.id = some w.read) : s.Lawful l a := by
  intro w hw
  obtain ⟨stored, hst⟩ := h.committing hw
  exact ⟨w.read, hread w hw, w.written, hst.act, h.hash_step_of_commit? hw⟩

/-- A lawful batch has read the attempts that are stored. -/
lemma Inv.attempts_eq_of_lawful (h : Inv l used s) (hlawful : s.Lawful l a) {w : GuardedWrite}
    (hw : s.commit? l a = some w) {t : Task} (ht : s.keyspace.task? l w.read.id = some t) :
    w.read.attempts = t.attempts := by
  obtain ⟨stored, hst⟩ := h.committing hw
  obtain ⟨t', hact, htask⟩ := hlawful.task?_step hw ht
  have hwritten := Keyspace.task?_of_hash_eq_record (h.hash_step_of_commit? hw)
  rw [htask, Option.some_inj] at hwritten
  have hattempts := congrArg Task.attempts hwritten
  rw [Task.kept_attempts, Task.kept_attempts, Transition.attempts_act? hact,
    Transition.attempts_act? hst.act] at hattempts
  split_ifs at hattempts
  · exact ((UInt32.add_left_inj 1).mp hattempts).symm
  · exact hattempts.symm

/-! ### Tasks between read and write -/

/-- Every batch of a run is lawful. -/
def Lossless (l : Layout) (actions : List Action) : Prop :=
  Throughout (fun p a => (run l p).Lawful l a) actions

instance (l : Layout) (actions : List Action) : Decidable (Lossless l actions) :=
  inferInstanceAs (Decidable (Throughout _ actions))

/-- No task of a batch of a run has been leased between read and write. -/
def Undisturbed (l : Layout) (actions : List Action) : Prop :=
  Throughout (Timely l) actions

instance (l : Layout) (actions : List Action) : Decidable (Undisturbed l actions) :=
  inferInstanceAs (Decidable (Throughout _ actions))

/-- Every lease of a run is counted within the range of attempts. -/
def Counted (l : Layout) (actions : List Action) : Prop :=
  Throughout (fun p a => (run l p).Countable l a) actions

instance (l : Layout) (actions : List Action) : Decidable (Counted l actions) :=
  inferInstanceAs (Decidable (Throughout _ actions))

/-- How the stored task is related to the one that a client has read, by whether it has been leased
since and whether all leases have been counted. -/
structure Held (claimed counted : Prop) (read stored : Task) : Prop where
  behind : claimed ∨ Behind read stored
  attempts : counted → read.attempts.toNat ≤ stored.attempts.toNat
  older : counted → claimed → read.attempts.toNat < stored.attempts.toNat

lemma Held.refl {claimed : Prop} (counted : Prop) (h : ¬ claimed) (t : Task) :
    Held claimed counted t t :=
  ⟨Or.inr (Behind.refl t), fun _ => le_rfl, fun _ hclaimed => absurd hclaimed h⟩

/-- A lawful batch of another client. -/
lemma Held.act? {claimed counted counted' : Prop} {tr : Transition} {read t t' : Task}
    (h : Held claimed counted read t) (hclean : t.Clean) (hact : tr.act? t = some t')
    (hcounted : counted' → counted)
    (hrange : counted' → tr.isClaim = true → t.attempts.toNat + 1 < UInt32.size) :
    Held (tr.isClaim = true ∨ claimed) counted' read t'.kept := by
  have hattempts := Transition.attempts_act? hact
  cases hclaim : tr.isClaim with
  | true =>
      have hone : counted' → t'.attempts.toNat = t.attempts.toNat + 1 := by
        intro hc
        have hlt := hrange hc hclaim
        rw [hattempts, hclaim, if_pos rfl, UInt32.toNat_add]
        exact Nat.mod_eq_of_lt hlt
      refine ⟨Or.inl (Or.inl rfl), fun hc => ?_, fun hc _ => ?_⟩
      · have hle := h.attempts (hcounted hc)
        rw [Task.kept_attempts, hone hc]
        omega
      · have hle := h.attempts (hcounted hc)
        rw [Task.kept_attempts, hone hc]
        omega
  | false =>
      rw [hclaim, if_neg Bool.false_ne_true] at hattempts
      rw [(Transition.clean_act? hact hclaim hclean).kept_eq]
      refine ⟨?_, fun hc => ?_, fun hc hclaimed => ?_⟩
      · rcases h.behind with hclaimed | hbehind
        · exact Or.inl (Or.inr hclaimed)
        · exact Or.inr (hbehind.act? hact hclaim)
      · rw [hattempts]
        exact h.attempts (hcounted hc)
      · rw [hattempts]
        exact h.older (hcounted hc) (hclaimed.resolve_left Bool.false_ne_true)

/-- Lawful batches keep the task of every client held. -/
lemma held_run (hids : (created actions).Nodup) (hlossless : Lossless l actions) {i : Nat}
    {c : Client} {w : GuardedWrite} (hc : (run l actions).clients i = some c)
    (hw : c.stage.write? = some w) :
    ∃ stored, (run l actions).keyspace.task? l w.read.id = some stored ∧
      Held (ClaimedSince l actions i w.read.id) (Counted l actions) w.read stored := by
  induction actions using List.reverseRecOn generalizing c with
  | nil => simp [empty] at hc
  | append_singleton actions a ih =>
      have hinv : Inv l (created actions) (run l actions) := inv_run_of_eq_append hids rfl
      rw [created_append] at hids
      rw [Lossless, throughout_append_singleton] at hlossless
      obtain ⟨hlossless, hlawful⟩ := hlossless
      rw [run_append_singleton] at hc
      rw [Counted, throughout_append_singleton, run_append_singleton,
        claimedSince_append_singleton]
      by_cases hi : i = a.client
      · subst hi
        exact ⟨w.read, hinv.task?_step_of_write? hc hw, Held.refl _ (fun h => h.1 rfl) w.read⟩
      · rw [clients_step_of_ne a hi] at hc
        obtain ⟨stored, hstored, hheld⟩ := ih hids.of_append_left hlossless hc hw
        by_cases hcommits : (run l actions).Commits l a w.read.id
        · obtain ⟨w', hw', hid⟩ := hcommits
          rw [← hid] at hstored
          obtain ⟨t', hact, ht'⟩ := hlawful.task?_step hw' hstored
          have hclaims : a.client ≠ i ∧ ((run l actions).Claims l a w.read.id ∨
              ClaimedSince l actions i w.read.id) ↔
                (w'.transition.isClaim = true ∨ ClaimedSince l actions i w.read.id) := by
            rw [← hid, claims_iff_of_commit? hw']
            exact and_iff_right (Ne.symm hi)
          rw [hclaims, ← hid]
          rw [← hid] at hheld
          exact ⟨t'.kept, ht', hheld.act? (hinv.sound.clean hstored) hact And.left
            fun hc hclaim => hc.2 w' hw' hclaim stored hstored⟩
        · have hstep := hinv.task?_step_of_not_commits hcommits hstored
          have hclaims : ¬ (run l actions).Claims l a w.read.id := fun h => hcommits h.commits
          refine ⟨stored, hstep, ?_, fun h => hheld.attempts h.1, fun h hclaimed => ?_⟩
          · exact hheld.behind.imp_left fun hclaimed => ⟨Ne.symm hi, Or.inr hclaimed⟩
          · exact hheld.older h.1 (hclaimed.2.resolve_left hclaims)

/-! ### Whole runs -/

/-- A batch whose task has not been leased since it was read is lawful, if the batches before it
are. -/
lemma lawful_of_timely (hids : (created actions).Nodup) (hlossless : Lossless l actions)
    (htimely : Timely l actions a) : (run l actions).Lawful l a := by
  have hinv : Inv l (created actions) (run l actions) := inv_run l hids
  refine hinv.lawful_of_eq_read fun w hw => ?_
  obtain ⟨now, c, -, hc, hwrite, -⟩ := of_commit? hw
  obtain ⟨stored, hst⟩ := hinv.committing hw
  obtain ⟨stored', hstored', hheld⟩ := held_run hids hlossless hc hwrite
  rw [hst.task?, Option.some_inj] at hstored'
  subst hstored'
  have hbehind := hheld.behind.resolve_left (htimely w hw)
  rw [hst.task?, hbehind.eq_read hst.status hst.updatedAt]

/-- A lawful batch has come in time, if leases are counted within range. -/
lemma timely_of_lawful (hids : (created actions).Nodup) (hlossless : Lossless l actions)
    (hcounted : Counted l actions) (hlawful : (run l actions).Lawful l a) :
    Timely l actions a := by
  have hinv : Inv l (created actions) (run l actions) := inv_run l hids
  intro w hw hclaimed
  obtain ⟨now, c, -, hc, hwrite, -⟩ := of_commit? hw
  obtain ⟨stored, hstored, hheld⟩ := held_run hids hlossless hc hwrite
  have hlt := hheld.older hcounted hclaimed
  rw [hinv.attempts_eq_of_lawful hlawful hw hstored] at hlt
  exact absurd hlt (lt_irrefl _)

/-- How a lawful action changes worker and attempts of a stored task. -/
structure Accounted (l : Layout) (p : List Action) (a : Action) (id : String) (t t' : Task) :
    Prop where
  /-- A lease counts one attempt, and nothing else counts any. -/
  attempts : t'.attempts = if (run l p).Claims l a id then t.attempts + 1 else t.attempts
  /-- A refresh keeps worker and attempts. -/
  refresh : (run l p).Touches l a → t'.worker = t.worker ∧ t'.attempts = t.attempts

lemma accounted_of_lawful (hids : (created actions).Nodup) (hlawful : (run l actions).Lawful l a)
    {t : Task} (ht : (run l actions).keyspace.task? l id = some t) :
    ∃ t', (run l (actions ++ [a])).keyspace.task? l id = some t' ∧
      Accounted l actions a id t t' := by
  have hinv : Inv l (created actions) (run l actions) := inv_run l hids
  rw [run_append_singleton]
  by_cases hcommits : (run l actions).Commits l a id
  · obtain ⟨w, hw, rfl⟩ := hcommits
    obtain ⟨t', hact, ht'⟩ := hlawful.task?_step hw ht
    refine ⟨t'.kept, ht', ?_, ?_⟩
    · rw [Task.kept_attempts, Transition.attempts_act? hact]
      exact if_congr (claims_iff_of_commit? hw).symm rfl rfl
    · rintro ⟨w', now, hw', htouch⟩
      rw [hw, Option.some_inj] at hw'
      subst hw'
      rw [htouch, Transition.act?, Option.some_inj] at hact
      subst hact
      rw [((hinv.sound.clean ht).touch now).kept_eq]
      exact ⟨rfl, rfl⟩
  · have hclaims : ¬ (run l actions).Claims l a id := by
      rintro ⟨w, hw, hid, -⟩
      exact hcommits ⟨w, hw, hid⟩
    refine ⟨t, hinv.task?_step_of_not_commits hcommits ht, ?_, fun _ => ⟨rfl, rfl⟩⟩
    rw [if_neg hclaims]

/-- The batches of a run are lawful if no task of theirs has been leased between read and write, and
otherwise they are not; lawful batches count every lease once and keep worker and attempts in a
refresh. -/
theorem lossless_iff_undisturbed (l : Layout) (actions : List Action)
    (hids : (created actions).Nodup) :
    (Undisturbed l actions → Lossless l actions) ∧
      (Counted l actions → Lossless l actions → Undisturbed l actions) ∧
      (Lossless l actions → ∀ p a q, actions = p ++ a :: q → ∀ id t,
        (run l p).keyspace.task? l id = some t →
          ∃ t', (run l (p ++ [a])).keyspace.task? l id = some t' ∧ Accounted l p a id t t') := by
  refine ⟨fun htimely => ?_, fun hcounted hlossless => ?_, fun hlossless p a q h id t ht => ?_⟩
  · induction actions using List.reverseRecOn with
    | nil => exact fun p a q h => by simp at h
    | append_singleton actions a ih =>
        rw [created_append] at hids
        rw [Undisturbed, throughout_append_singleton] at htimely
        have hlossless := ih hids.of_append_left htimely.1
        rw [Lossless, throughout_append_singleton]
        exact ⟨hlossless, lawful_of_timely hids.of_append_left hlossless htimely.2⟩
  · induction actions using List.reverseRecOn with
    | nil => exact fun p a q h => by simp at h
    | append_singleton actions a ih =>
        rw [created_append] at hids
        rw [Counted, throughout_append_singleton] at hcounted
        rw [Lossless, throughout_append_singleton] at hlossless
        rw [Undisturbed, throughout_append_singleton]
        exact ⟨ih hids.of_append_left hcounted.1 hlossless.1,
          timely_of_lawful hids.of_append_left hlossless.1 hcounted.1 hlossless.2⟩
  · have hlawful := hlossless p a q h
    rw [h, created_append] at hids
    exact accounted_of_lawful hids.of_append_left hlawful ht

/-- A run in which a task is requeued and leased anew between the read and the write of a heartbeat,
all in one millisecond: the heartbeat brings the worker and the attempts of the first lease back. -/
def staleRun : List Action :=
  [.begin 0 "a" 5 (.enqueue "mail" "hello" ∅), .advance 0 5, .begin 1 "" 6 (.dequeue "w"),
    .advance 1 6, .advance 1 6, .advance 1 6, .begin 2 "" 6 (.heartbeat "a"), .advance 2 6,
    .begin 3 "" 6 (.recover (-1) 3), .advance 3 6, .advance 3 6, .advance 3 6,
    .begin 4 "" 6 (.dequeue "v"), .advance 4 6, .advance 4 6, .advance 4 6, .advance 2 6]

theorem not_lossless_staleRun :
    (created contendedRun).Nodup ∧ Undisturbed ⟨Layout.standardName⟩ contendedRun ∧
      Lossless ⟨Layout.standardName⟩ contendedRun ∧
      (created staleRun).Nodup ∧ Counted ⟨Layout.standardName⟩ staleRun ∧
      ¬ Undisturbed ⟨Layout.standardName⟩ staleRun ∧ ¬ Lossless ⟨Layout.standardName⟩ staleRun ∧
      ((run ⟨Layout.standardName⟩ staleRun).keyspace.task? ⟨Layout.standardName⟩ "a").map
        (fun t => (t.worker, t.attempts)) = some (some "w", 1) := by
  have hids : (created contendedRun).Nodup := by decide
  have hids' : (created staleRun).Nodup := by decide
  have htimely : Undisturbed ⟨Layout.standardName⟩ contendedRun := by decide +kernel
  have hcounted : Counted ⟨Layout.standardName⟩ staleRun := by decide +kernel
  have hstale : ¬ Undisturbed ⟨Layout.standardName⟩ staleRun := by decide +kernel
  obtain ⟨hlossless, -, -⟩ :=
    lossless_iff_undisturbed ⟨Layout.standardName⟩ contendedRun hids
  obtain ⟨-, hundisturbed, -⟩ := lossless_iff_undisturbed ⟨Layout.standardName⟩ staleRun hids'
  refine ⟨hids, htimely, hlossless htimely, hids', hcounted, hstale, ?_, by decide +kernel⟩
  exact fun h => hstale (hundisturbed hcounted h)

end System

end LeaseQueue

/-
What has happened in a run.

* `System.Since`: something has happened in a run, and something else has not happened since;
* `System.Throughout`: something holds of every action of a run;
* `System.Claims`: an action leases a task;
* `System.ClaimedSince`: a task has been leased by another client since a client last acted.

For a given run they can be computed, action by action.
-/
import LeaseQueue.Proofs.Clients.Exclusive

namespace LeaseQueue

namespace System

variable {l : Layout} {a : Action} {id : String} {actions : List Action}

/-! ### On the way of a run -/

/-- The first of two things has happened in a run, and the second has not happened since. -/
def Since (happened undone : List Action → Action → Prop) (actions : List Action) : Prop :=
  ∃ p b q, actions = p ++ b :: q ∧ happened p b ∧
    ∀ q₁ c q₂, q = q₁ ++ c :: q₂ → ¬ undone (p ++ b :: q₁) c

lemma not_since_nil (happened undone : List Action → Action → Prop) :
    ¬ Since happened undone [] := by
  rintro ⟨p, b, q, h, -, -⟩
  simp at h

lemma since_append_singleton {happened undone : List Action → Action → Prop} :
    Since happened undone (actions ++ [a]) ↔
      happened actions a ∨ (Since happened undone actions ∧ ¬ undone actions a) := by
  constructor
  · rintro ⟨p, b, q, heq, hb, hq⟩
    induction q using List.reverseRecOn with
    | nil =>
        obtain ⟨rfl, hab⟩ := List.append_inj' heq rfl
        obtain rfl : a = b := by simpa using hab
        exact Or.inl hb
    | append_singleton q c _ =>
        have hsplit : actions ++ [a] = (p ++ b :: q) ++ [c] := by simpa using heq
        obtain ⟨rfl, hac⟩ := List.append_inj' hsplit rfl
        obtain rfl : a = c := by simpa using hac
        refine Or.inr ⟨⟨p, b, q, rfl, hb, fun q₁ c' q₂ h => ?_⟩, hq q a [] rfl⟩
        exact hq q₁ c' (q₂ ++ [a]) (by simp [h])
  · rintro (hb | ⟨⟨p, b, q, rfl, hb, hq⟩, ha⟩)
    · exact ⟨actions, a, [], by simp, hb, fun q₁ c q₂ h => by simp at h⟩
    · refine ⟨p, b, q ++ [a], by simp, hb, fun q₁ c q₂ h => ?_⟩
      induction q₂ using List.reverseRecOn with
      | nil =>
          obtain ⟨rfl, hac⟩ := List.append_inj' h rfl
          obtain rfl : a = c := by simpa using hac
          exact ha
      | append_singleton q₂ d _ =>
          have hsplit : q ++ [a] = (q₁ ++ c :: q₂) ++ [d] := by simpa using h
          obtain ⟨hq', -⟩ := List.append_inj' hsplit rfl
          exact hq q₁ c q₂ hq'

/-- Whether the first of two things has happened and the second has not since, action by action. -/
def since? (happened undone : List Action → Action → Prop)
    [∀ p b, Decidable (happened p b)] [∀ p b, Decidable (undone p b)]
    (actions : List Action) : List Action × Bool :=
  actions.foldl (fun s b => (s.1 ++ [b], happened s.1 b || s.2 && !undone s.1 b)) ([], false)

lemma since?_eq (happened undone : List Action → Action → Prop)
    [∀ p b, Decidable (happened p b)] [∀ p b, Decidable (undone p b)] (actions : List Action) :
    (since? happened undone actions).1 = actions ∧
      ((since? happened undone actions).2 = true ↔ Since happened undone actions) := by
  induction actions using List.reverseRecOn with
  | nil => exact ⟨rfl, by simp [since?, not_since_nil]⟩
  | append_singleton actions a ih =>
      obtain ⟨hpre, hfound⟩ := ih
      have hstep : since? happened undone (actions ++ [a])
          = (actions ++ [a], happened actions a ||
              (since? happened undone actions).2 && !undone actions a) := by
        rw [since?, List.foldl_append, List.foldl_cons, List.foldl_nil, ← since?, hpre]
      rw [hstep, since_append_singleton, ← hfound]
      simp

instance (happened undone : List Action → Action → Prop)
    [∀ p b, Decidable (happened p b)] [∀ p b, Decidable (undone p b)] (actions : List Action) :
    Decidable (Since happened undone actions) :=
  decidable_of_iff _ (since?_eq happened undone actions).2

/-- Something holds of every action of a run, where it stands. -/
def Throughout (holds : List Action → Action → Prop) (actions : List Action) : Prop :=
  ∀ p a q, actions = p ++ a :: q → holds p a

lemma throughout_iff {holds : List Action → Action → Prop} :
    Throughout holds actions ↔ ¬ Since (fun p a => ¬ holds p a) (fun _ _ => False) actions := by
  constructor
  · rintro h ⟨p, b, q, heq, hb, -⟩
    exact hb (h p b q heq)
  · intro h p a q heq
    by_contra hnot
    exact h ⟨p, a, q, heq, hnot, fun _ _ _ _ hfalse => hfalse⟩

lemma throughout_append_singleton {holds : List Action → Action → Prop} :
    Throughout holds (actions ++ [a]) ↔ Throughout holds actions ∧ holds actions a := by
  rw [throughout_iff, throughout_iff, since_append_singleton]
  tauto

instance (holds : List Action → Action → Prop) [∀ p a, Decidable (holds p a)]
    (actions : List Action) : Decidable (Throughout holds actions) :=
  decidable_of_iff _ throughout_iff.symm

/-! ### Leases -/

/-- An action leases a task. -/
def Claims (l : Layout) (s : System) (a : Action) (id : String) : Prop :=
  ∃ w ∈ s.commit? l a, w.read.id = id ∧ w.transition.isClaim = true

instance (l : Layout) (s : System) (a : Action) (id : String) : Decidable (Claims l s a id) :=
  inferInstanceAs (Decidable (∃ w ∈ s.commit? l a, w.read.id = id ∧ w.transition.isClaim = true))

lemma claims_iff_of_commit? {s : System} {w : GuardedWrite} (hw : s.commit? l a = some w) :
    s.Claims l a w.read.id ↔ w.transition.isClaim = true := by
  constructor
  · rintro ⟨w', hw', -, hclaim⟩
    rw [hw, Option.mem_some_iff] at hw'
    exact hw' ▸ hclaim
  · exact fun hclaim => ⟨w, hw, rfl, hclaim⟩

lemma Claims.commits {s : System} (h : s.Claims l a id) : s.Commits l a id := by
  obtain ⟨w, hw, hid, -⟩ := h
  exact ⟨w, hw, hid⟩

/-- A task has been leased by another client since a client last acted. -/
def ClaimedSince (l : Layout) (actions : List Action) (i : Nat) (id : String) : Prop :=
  Since (fun p b => (run l p).Claims l b id ∧ b.client ≠ i) (fun _ c => c.client = i) actions

instance (l : Layout) (actions : List Action) (i : Nat) (id : String) :
    Decidable (ClaimedSince l actions i id) :=
  inferInstanceAs (Decidable (Since _ _ actions))

lemma claimedSince_append_singleton {i : Nat} :
    ClaimedSince l (actions ++ [a]) i id ↔
      a.client ≠ i ∧ ((run l actions).Claims l a id ∨ ClaimedSince l actions i id) := by
  rw [ClaimedSince, since_append_singleton, ← ClaimedSince]
  tauto

end System

end LeaseQueue

/-
Queue order of tasks.

* `le_trans`, `le_total`, `eq_of_le_of_le`: queue order is total, and tasks equal in it have one id;
* `sort_congr`: lists with the same tasks, one for each id, sort alike;
* `Before`, `pairwise_before_sort`: the strict order, and tasks with distinct ids sorted in it.
-/
import LeaseQueue.Task.Basic
import Mathlib.Tactic

namespace LeaseQueue.Task

/-! ### The order -/

lemma le_iff {a b : Task} :
    le a b = true ↔ a.createdAt < b.createdAt ∨ (a.createdAt = b.createdAt ∧ a.id ≤ b.id) := by
  simp [le]

lemma le_trans {a b c : Task} (hab : le a b = true) (hbc : le b c = true) : le a c = true := by
  rw [le_iff] at *
  rcases hab with h₁ | ⟨h₁, h₁'⟩ <;> rcases hbc with h₂ | ⟨h₂, h₂'⟩
  · exact Or.inl (Int64.lt_trans h₁ h₂)
  · exact Or.inl (h₂ ▸ h₁)
  · exact Or.inl (h₁ ▸ h₂)
  · exact Or.inr ⟨h₁.trans h₂, String.le_trans h₁' h₂'⟩

lemma le_total (a b : Task) : le a b = true ∨ le b a = true := by
  rw [le_iff, le_iff]
  by_cases h : a.createdAt < b.createdAt
  · exact Or.inl (Or.inl h)
  rcases Int64.lt_or_eq_of_le (Int64.not_lt.mp h) with hlt | heq
  · exact Or.inr (Or.inl hlt)
  · rcases String.le_total a.id b.id with hid | hid
    · exact Or.inl (Or.inr ⟨heq.symm, hid⟩)
    · exact Or.inr (Or.inr ⟨heq, hid⟩)

/-- Tasks equal in queue order have one creation time and one id. -/
lemma eq_of_le_of_le {a b : Task} (hab : le a b = true) (hba : le b a = true) :
    a.createdAt = b.createdAt ∧ a.id = b.id := by
  rw [le_iff] at *
  rcases hab with h₁ | ⟨h₁, h₁'⟩ <;> rcases hba with h₂ | ⟨h₂, h₂'⟩
  · exact absurd (Int64.lt_trans h₁ h₂) Int64.lt_irrefl
  · exact absurd (h₂ ▸ h₁) Int64.lt_irrefl
  · exact absurd (h₁ ▸ h₂) Int64.lt_irrefl
  · exact ⟨h₁, String.le_antisymm h₁' h₂'⟩

/-! ### Sorting -/

lemma sort_perm (l : List Task) : (sort l).Perm l := List.mergeSort_perm l le

@[simp] lemma mem_sort {l : List Task} {t : Task} : t ∈ sort l ↔ t ∈ l := (sort_perm l).mem_iff

lemma pairwise_sort (l : List Task) : (sort l).Pairwise (fun a b => le a b = true) := by
  have htrans : ∀ a b c, le a b = true → le b c = true → le a c = true :=
    fun _ _ _ hab hbc => le_trans hab hbc
  have htotal : ∀ a b, (le a b || le b a) = true := by
    intro a b
    rw [Bool.or_eq_true]
    exact le_total a b
  exact List.pairwise_mergeSort htrans htotal l

/-- Two sorted lists with the same tasks, one for each id, are equal. -/
lemma eq_of_pairwise_le {l l' : List Task} (hid : (l.map Task.id).Nodup)
    (hl : l.Pairwise (fun a b => le a b = true)) (hl' : l'.Pairwise (fun a b => le a b = true))
    (hperm : l.Perm l') : l = l' := by
  refine List.Perm.eq_of_pairwise (fun a b ha hb hab hba => ?_) hl hl' hperm
  exact List.inj_on_of_nodup_map hid ha (hperm.mem_iff.mpr hb) (eq_of_le_of_le hab hba).2

/-- A list in queue order is its own sort. -/
lemma sort_eq_self {l : List Task} (hl : l.Pairwise (fun a b => le a b = true)) : sort l = l :=
  List.mergeSort_of_pairwise hl

lemma nodup_map_id_sort {l : List Task} (h : (l.map Task.id).Nodup) :
    ((sort l).map Task.id).Nodup :=
  ((sort_perm l).map Task.id).nodup_iff.mpr h

/-- Lists with the same tasks, one for each id, sort alike. -/
lemma sort_congr {l l' : List Task} (hl : (l.map Task.id).Nodup) (hl' : (l'.map Task.id).Nodup)
    (h : ∀ t, t ∈ l ↔ t ∈ l') : sort l = sort l' := by
  have hnodup : l.Nodup := List.Nodup.of_map Task.id hl
  have hnodup' : l'.Nodup := List.Nodup.of_map Task.id hl'
  have hperm : l.Perm l' := (List.perm_ext_iff_of_nodup hnodup hnodup').mpr h
  exact eq_of_pairwise_le (nodup_map_id_sort hl) (pairwise_sort l) (pairwise_sort l')
    ((sort_perm l).trans (hperm.trans (sort_perm l').symm))

/-! ### Strict order -/

/-- A task was created before another, or at the same time with the lesser id. -/
def Before (a b : Task) : Prop :=
  a.createdAt < b.createdAt ∨ a.createdAt = b.createdAt ∧ a.id < b.id

instance (a b : Task) : Decidable (Before a b) := inferInstanceAs (Decidable (_ ∨ _))

lemma before_of_le {a b : Task} (h : le a b = true) (hid : a.id ≠ b.id) : Before a b := by
  refine (le_iff.mp h).imp_right fun ⟨htime, hle⟩ => ⟨htime, ?_⟩
  by_contra hlt
  exact hid (String.le_antisymm hle (String.not_lt.mp hlt))

lemma pairwise_before_sort {l : List Task} (hid : (l.map Task.id).Nodup) :
    (sort l).Pairwise Before := by
  have hne : (sort l).Pairwise fun a b => a.id ≠ b.id :=
    List.pairwise_map.mp (nodup_map_id_sort hid)
  exact (pairwise_sort l).imp₂ (fun _ _ => before_of_le) hne

end LeaseQueue.Task

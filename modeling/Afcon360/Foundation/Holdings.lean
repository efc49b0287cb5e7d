import Mathlib.Data.List.Perm.Basic
import Afcon360.Foundation.Table

/-!
# What the members of a list hold

Each member of a list holds some things. When no thing is held twice, two members at
different places hold different things; replacing a member exchanges what it held for what
the new one holds.
-/

namespace Foundation

universe u v

variable {σ : Type u} {α : Type v} {holds : σ → List α} {members : List σ} {i j : ℕ}
  {old new other : σ} {a : α}

theorem perm_flatMap_set (holds : σ → List α) (new : σ) (h : members[i]? = some old) :
    ((members.set i new).flatMap holds ++ holds old).Perm (members.flatMap holds ++ holds new) := by
  induction members generalizing i with
  | nil => simp at h
  | cons first rest ih =>
    cases i with
    | zero =>
      obtain rfl : first = old := Option.some.inj h
      simp only [List.set_cons_zero, List.flatMap_cons]
      have hswap : (holds new ++ rest.flatMap holds).Perm (rest.flatMap holds ++ holds new) :=
        List.perm_append_comm
      refine List.perm_append_comm.trans ?_
      rw [List.append_assoc]
      exact List.Perm.append_left _ hswap
    | succ i =>
      simp only [List.set_cons_succ, List.flatMap_cons, List.append_assoc]
      exact List.Perm.append_left _ (ih h)

theorem mem_flatMap_of_getElem? (h : members[i]? = some old) (ha : a ∈ holds old) :
    a ∈ members.flatMap holds :=
  List.mem_flatMap.mpr ⟨old, List.mem_of_getElem? h, ha⟩

/-- A member whose successor holds the same changes no holdings. -/
theorem nodup_flatMap_set_same (hnodup : (members.flatMap holds).Nodup)
    (h : members[i]? = some old) (hsame : (holds new).Perm (holds old)) :
    ((members.set i new).flatMap holds).Nodup := by
  have hperm : ((members.set i new).flatMap holds ++ holds old).Perm
      (members.flatMap holds ++ holds old) :=
    (perm_flatMap_set holds new h).trans (List.Perm.append_left _ hsame)
  exact ((List.perm_append_right_iff _).mp hperm).nodup_iff.mpr hnodup

/-- A member that lets go of everything. -/
theorem nodup_flatMap_set_nil (hnodup : (members.flatMap holds).Nodup)
    (h : members[i]? = some old) (hnil : holds new = []) :
    ((members.set i new).flatMap holds).Nodup := by
  have hperm := perm_flatMap_set holds new h
  rw [hnil, List.append_nil] at hperm
  exact (List.nodup_append.mp (hperm.nodup_iff.mpr hnodup)).1

/-- Members at different places hold different things. -/
theorem not_mem_of_nodup_flatMap (hnodup : (members.flatMap holds).Nodup) (hne : i ≠ j)
    (hi : members[i]? = some old) (hj : members[j]? = some other) (ha : a ∈ holds old) :
    a ∉ holds other := by
  obtain ⟨hi', rfl⟩ := List.getElem?_eq_some_iff.mp hi
  obtain ⟨hj', rfl⟩ := List.getElem?_eq_some_iff.mp hj
  have hpairwise := (List.nodup_flatMap.mp hnodup).2
  rw [List.pairwise_iff_getElem] at hpairwise
  intro hother
  cases Nat.lt_or_gt_of_ne hne with
  | inl hlt => exact hpairwise i j hi' hj' hlt ha hother
  | inr hgt => exact hpairwise j i hj' hi' hgt hother ha

theorem mem_set_cases (h : other ∈ members.set i new) :
    other = new ∨ ∃ j, j ≠ i ∧ members[j]? = some other := by
  obtain ⟨j, hj⟩ := List.mem_iff_getElem?.mp h
  obtain ⟨-, rfl⟩ | ⟨hne, hold⟩ := getElem?_set_cases hj
  · exact .inl rfl
  · exact .inr ⟨j, hne, hold⟩

theorem eq_or_mem_set (new : σ) (hi : members[i]? = some old) (h : other ∈ members) :
    other = old ∨ other ∈ members.set i new := by
  obtain ⟨j, hj⟩ := List.mem_iff_getElem?.mp h
  by_cases hij : i = j
  · subst hij
    exact .inl (Option.some.inj (hj.symm.trans hi))
  · refine .inr (List.mem_iff_getElem?.mpr ⟨j, ?_⟩)
    rw [List.getElem?_set_ne hij]
    exact hj

end Foundation

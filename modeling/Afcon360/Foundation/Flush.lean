import Afcon360.Foundation.Table

/-!
# The columns a flush writes

A session loads a row, changes its own copy and writes it later. The update carries only
the columns whose value is no longer the loaded one, so a column that was set to what it
already was keeps what others have stored in it since.
-/

namespace Foundation

universe u

variable {α : Type u} [DecidableEq α] {loaded value stored : α}

/-- What a column holds after the flush of a copy. -/
def flushed (loaded value stored : α) : α := if value = loaded then stored else value

/-- On the row as it was loaded a flush stores the copy. -/
@[simp] theorem flushed_loaded : flushed loaded value loaded = value := by
  unfold flushed
  split
  · exact Eq.symm ‹_›
  · rfl

@[simp] theorem flushed_same : flushed loaded loaded stored = stored := if_pos rfl

theorem flushed_cases (loaded value stored : α) :
    flushed loaded value stored = stored ∨ flushed loaded value stored = value := by
  unfold flushed
  split
  · exact .inl rfl
  · exact .inr rfl

/-- A row as a session has loaded it, and the session's copy. -/
structure Copy (ρ : Type u) where
  loaded : ρ
  value : ρ
deriving DecidableEq, Repr

/-! ## Several rows -/

section

universe v

variable {ρ : Type u} {β : Type v} {f : β → ρ → ρ} {writes : List (ℕ × β)} {rows : List ρ}
  {i : ℕ} {write : β}

theorem length_foldl_modify :
    (writes.foldl (fun rows entry => rows.modify entry.1 (f entry.2)) rows).length =
      rows.length := by
  induction writes generalizing rows with
  | nil => rfl
  | cons entry rest ih => rw [List.foldl_cons, ih, List.length_modify]

theorem getElem?_foldl_modify_of_notMem (h : i ∉ writes.map Prod.fst) :
    (writes.foldl (fun rows entry => rows.modify entry.1 (f entry.2)) rows)[i]? = rows[i]? := by
  induction writes generalizing rows with
  | nil => rfl
  | cons entry rest ih =>
    simp only [List.map_cons, List.mem_cons, not_or] at h
    rw [List.foldl_cons, ih h.2, List.getElem?_modify_ne _ _ (Ne.symm h.1)]

/-- A commit of several rows writes each of them once. -/
theorem getElem?_foldl_modify (f : β → ρ → ρ) (rows : List ρ)
    (hnodup : (writes.map Prod.fst).Nodup) (h : (i, write) ∈ writes) :
    (writes.foldl (fun rows entry => rows.modify entry.1 (f entry.2)) rows)[i]? =
      rows[i]?.map (f write) := by
  induction writes generalizing rows with
  | nil => cases h
  | cons entry rest ih =>
    obtain ⟨hfirst, hrest⟩ := List.nodup_cons.mp hnodup
    rw [List.foldl_cons]
    obtain rfl | hmem := List.mem_cons.mp h
    · rw [getElem?_foldl_modify_of_notMem hfirst, List.getElem?_modify_eq]
      rfl
    · have hne : entry.1 ≠ i := by
        rintro rfl
        exact hfirst (List.mem_map.mpr ⟨_, hmem, rfl⟩)
      rw [ih _ hrest hmem, List.getElem?_modify_ne _ _ hne]

/-- What every write of a commit keeps. -/
theorem foldl_modify_invariant (p : ρ → Prop)
    (hwrites : ∀ entry ∈ writes, entry.1 = i → ∀ row, p row → p (f entry.2 row))
    (h : ∀ row, rows[i]? = some row → p row) :
    ∀ row, (writes.foldl (fun rows entry => rows.modify entry.1 (f entry.2)) rows)[i]? = some row →
      p row := by
  induction writes generalizing rows with
  | nil => exact h
  | cons entry rest ih =>
    refine ih (fun other hother => hwrites other (List.mem_cons_of_mem _ hother)) ?_
    intro row hrow
    obtain ⟨heq, before, hbefore, rfl⟩ | ⟨-, hold⟩ := getElem?_modify_cases hrow
    · exact hwrites entry List.mem_cons_self heq.symm before (h before (heq ▸ hbefore))
    · exact h row hold

end

end Foundation

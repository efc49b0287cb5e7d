import Mathlib.Data.List.Nodup
import Mathlib.Data.List.Infix

/-!
# Going through the distinct values of a list

A list is gone through by asking, each time, for its first element whose value was not
taken before. The values come out in the order of their first occurrences: after a prefix
of the list without its duplicates has been taken, the next answer is the value that
follows this prefix, and there is none when the prefix is the whole.
-/

namespace Foundation

variable {α β : Type*}

section

variable [DecidableEq β]

theorem find?_eraseDups (p : β → Bool) (values : List β) :
    values.eraseDups.find? p = values.find? p := by
  induction h : values.length using Nat.strongRecOn generalizing values with
  | ind n ih =>
    cases values with
    | nil => rfl
    | cons first rest =>
      rw [List.eraseDups_cons, List.find?_cons, List.find?_cons]
      cases hfirst : p first with
      | true => rfl
      | false =>
        simp only [List.length_cons] at h
        have hlen := List.length_filter_le (fun other => !other == first) rest
        simp only
        rw [ih _ (by omega) _ rfl, List.find?_filter]
        -- The copies of the first value that were left out fail as it does.
        congr 1
        funext other
        by_cases hother : other = first <;> simp [hother, hfirst]

theorem nodup_eraseDups (values : List β) : values.eraseDups.Nodup := by
  induction h : values.length using Nat.strongRecOn generalizing values with
  | ind n ih =>
    cases values with
    | nil => exact List.nodup_nil
    | cons first rest =>
      simp only [List.length_cons] at h
      have hlen := List.length_filter_le (fun other => !other == first) rest
      rw [List.eraseDups_cons, List.nodup_cons]
      exact ⟨by simp, ih _ (by omega) _ rfl⟩

theorem find?_notMem {taken values : List β} (nodup : values.Nodup) (h : taken <+: values) :
    values.find? (fun value => value ∉ taken) = values[taken.length]? := by
  obtain ⟨rest, rfl⟩ := h
  rw [List.nodup_append] at nodup
  have hnone : taken.find? (fun value => value ∉ taken) = none := by simp
  rw [List.find?_append, hnone, Option.none_or, List.getElem?_append_right le_rfl, Nat.sub_self]
  cases rest with
  | nil => rfl
  | cons next rest =>
    have hnext : next ∉ taken := fun hmem => nodup.2.2 next hmem next (by simp) rfl
    simp [hnext]

/-- The next element with a new value has the value that follows those taken. -/
theorem map_find?_notMem {key : α → β} {elements : List α} {taken : List β}
    (h : taken <+: (elements.map key).eraseDups) :
    (elements.find? (fun element => key element ∉ taken)).map key =
      (elements.map key).eraseDups[taken.length]? := by
  rw [← find?_notMem (nodup_eraseDups _) h, find?_eraseDups, List.find?_map]
  rfl

end

/-- Taking the value that follows a prefix leads to a prefix. -/
theorem prefix_concat {taken values : List β} {value : β} (h : taken <+: values)
    (hvalue : values[taken.length]? = some value) : taken ++ [value] <+: values := by
  obtain ⟨rest, rfl⟩ := h
  rw [List.getElem?_append_right le_rfl, Nat.sub_self] at hvalue
  cases rest with
  | nil => cases hvalue
  | cons next rest =>
    obtain rfl : next = value := by simpa using hvalue
    exact ⟨rest, by simp⟩

/-! ## The first element of every key -/

section

variable [DecidableEq β] {key : α → β}

/-- The elements whose key no earlier one has: each is kept unless its key is there. -/
def firsts (key : α → β) (elements : List α) : List α :=
  elements.foldl (fun kept element =>
    if key element ∈ kept.map key then kept else kept ++ [element]) []

@[simp] theorem firsts_concat (elements : List α) (element : α) :
    firsts key (elements ++ [element]) =
      if key element ∈ (firsts key elements).map key then firsts key elements
      else firsts key elements ++ [element] := by
  simp [firsts]

theorem firsts_sublist (elements : List α) : List.Sublist (firsts key elements) elements := by
  induction elements using List.reverseRecOn with
  | nil => exact List.Sublist.refl _
  | append_singleton elements element ih =>
    rw [firsts_concat]
    split
    · exact ih.trans (List.sublist_append_left _ _)
    · exact ih.append (List.Sublist.refl _)

theorem nodup_map_firsts (elements : List α) : ((firsts key elements).map key).Nodup := by
  induction elements using List.reverseRecOn with
  | nil => exact List.nodup_nil
  | append_singleton elements element ih =>
    rw [firsts_concat]
    split
    · exact ih
    · rename_i hnew
      rw [List.map_append]
      exact List.Nodup.append ih (by simp) (by simpa using hnew)

/-- Where keys do not repeat, an element is all there is with its key. -/
theorem filter_eq_singleton {elements : List α} (h : (elements.map key).Nodup) {element : α}
    (hmem : element ∈ elements) :
    elements.filter (fun other => key other = key element) = [element] := by
  induction elements with
  | nil => cases hmem
  | cons first rest ih =>
    obtain ⟨hfirst, hrest⟩ := List.nodup_cons.mp h
    obtain rfl | hlater := List.mem_cons.mp hmem
    · rw [List.filter_cons_of_pos (by simp), List.filter_eq_nil_iff.mpr]
      intro other hother
      have hdiffer : key other ≠ key element :=
        fun hsame => hfirst (hsame ▸ List.mem_map_of_mem hother)
      simpa using hdiffer
    · have hdiffer : key first ≠ key element :=
        fun hsame => hfirst (hsame ▸ List.mem_map_of_mem hlater)
      rw [List.filter_cons_of_neg (by simpa using hdiffer), ih hrest hlater]

/-- Nothing is left out exactly when all keys are distinct. -/
theorem firsts_eq_self_iff {elements : List α} :
    firsts key elements = elements ↔ (elements.map key).Nodup := by
  constructor
  · intro h
    have hnodup : ((firsts key elements).map key).Nodup := nodup_map_firsts elements
    rwa [h] at hnodup
  · intro h
    induction elements using List.reverseRecOn with
    | nil => rfl
    | append_singleton elements element ih =>
      rw [List.map_append, List.nodup_append] at h
      rw [firsts_concat, ih h.1, if_neg]
      exact fun hmem => h.2.2 _ hmem _ (by simp) rfl

end

end Foundation

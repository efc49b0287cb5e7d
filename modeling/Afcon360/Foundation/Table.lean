import Mathlib.Data.List.Nodup

/-!
# Tables with a unique column

A table is a list of rows in which no two rows agree on a chosen column. Rows
are appended and rewritten in place, never removed, so the position of a row
serves as its primary key. The unique column is part of the type: a table that
breaks the constraint cannot be built, and an insert that would break it is
refused.

`lookup_eq_some_iff` describes the search by the unique column without its
search order; the other laws follow from it.
-/

namespace Foundation

universe u v

section

variable {ρ : Type u} {rows : List ρ} {i j : ℕ} {row new : ρ}

/-- What is found in a list after one of its elements was set. -/
theorem getElem?_set_cases (h : (rows.set i new)[j]? = some row) :
    (j = i ∧ row = new) ∨ (j ≠ i ∧ rows[j]? = some row) := by
  rw [List.getElem?_set] at h
  split at h
  · rename_i hij
    split at h
    · exact .inl ⟨hij.symm, (Option.some.inj h).symm⟩
    · cases h
  · rename_i hij
    exact .inr ⟨Ne.symm hij, h⟩

/-- What is found in a list after one of its elements was rewritten. -/
theorem getElem?_modify_cases {f : ρ → ρ} (h : (rows.modify i f)[j]? = some row) :
    (j = i ∧ ∃ old, rows[i]? = some old ∧ row = f old) ∨ (j ≠ i ∧ rows[j]? = some row) := by
  rw [List.getElem?_modify] at h
  by_cases hij : i = j
  · subst hij
    simp only [if_true] at h
    obtain ⟨old, hold, rfl⟩ := Option.map_eq_some_iff.mp h
    exact .inl ⟨rfl, old, hold, rfl⟩
  · simp only [hij, if_false] at h
    obtain ⟨old, hold, rfl⟩ := Option.map_eq_some_iff.mp h
    exact .inr ⟨Ne.symm hij, hold⟩

theorem countP_modify_le {f : ρ → ρ} {p : ρ → Bool}
    (h : ∀ old, rows[i]? = some old → p (f old) = true → p old = true) :
    (rows.modify i f).countP p ≤ rows.countP p := by
  induction rows generalizing i with
  | nil => simp
  | cons row rest ih =>
    cases i with
    | zero =>
      have hrow : p (f row) = true → p row = true := h row rfl
      simp only [List.modify_zero_cons, List.countP_cons]
      by_cases hnew : p (f row) = true
      · simp [hnew, hrow hnew]
      · simp [hnew]
    | succ i =>
      have hrest := ih (i := i) fun old hold => h old (by simpa using hold)
      simp only [List.modify_succ_cons, List.countP_cons]
      omega

/-- What is found in a list after an element was appended. -/
theorem getElem?_append_cases (h : (rows ++ [new])[j]? = some row) :
    rows[j]? = some row ∨ (j = rows.length ∧ row = new) := by
  rw [List.getElem?_append] at h
  split at h
  · exact .inl h
  · rename_i hle
    have hj : j = rows.length := by
      have := (List.getElem?_eq_some_iff.mp h).1
      simp only [List.length_singleton] at this
      omega
    subst hj
    simp only [Nat.sub_self, List.getElem?_cons_zero] at h
    exact .inr ⟨rfl, (Option.some.inj h).symm⟩

end

/-- Rows with pairwise different values of the column `key`. -/
structure Table (ρ : Type u) {κ : Type v} (key : ρ → κ) where
  rows : List ρ
  unique : (rows.map key).Nodup

namespace Table

variable {ρ : Type u} {κ : Type v} {key : ρ → κ}

/-- The row at a position. -/
def get? (table : Table ρ key) (i : ℕ) : Option ρ := table.rows[i]?

/-- The number of rows, which is the position the next row is inserted at. -/
def size (table : Table ρ key) : ℕ := table.rows.length

/-- Rewrite the row at a position by a function that keeps the unique column. -/
def modify (table : Table ρ key) (i : ℕ) (f : ρ → ρ) (keeps : ∀ row, key (f row) = key row) :
    Table ρ key where
  rows := table.rows.modify i f
  unique := by
    have same : (table.rows.modify i f).map key = table.rows.map key := by
      apply List.ext_getElem (by simp)
      intro j _ _
      simp only [List.getElem_map, List.getElem_modify]
      split
      · exact keeps _
      · rfl
    rw [same]
    exact table.unique

/-- Rewrite all rows by a function that keeps the unique column. -/
def rewrite (table : Table ρ key) (f : ρ → ρ) (keeps : ∀ row, key (f row) = key row) :
    Table ρ key where
  rows := table.rows.map f
  unique := by
    have same : (table.rows.map f).map key = table.rows.map key := by
      rw [List.map_map]
      exact List.map_congr_left (fun row _ => keeps row)
    rw [same]
    exact table.unique

variable {table table' : Table ρ key} {k : κ} {i j : ℕ} {row other : ρ}

theorem lt_size_of_get? (h : table.get? i = some row) : i < table.size :=
  (List.getElem?_eq_some_iff.mp h).1

theorem position_unique (hi : table.get? i = some row) (hj : table.get? j = some other)
    (same : key row = key other) : i = j := by
  obtain ⟨hil, rfl⟩ := List.getElem?_eq_some_iff.mp hi
  obtain ⟨hjl, rfl⟩ := List.getElem?_eq_some_iff.mp hj
  have hil' : i < (table.rows.map key).length := by simpa using hil
  have hjl' : j < (table.rows.map key).length := by simpa using hjl
  have same' : (table.rows.map key)[i] = (table.rows.map key)[j] := by simpa using same
  exact (List.Nodup.getElem_inj_iff table.unique).mp same'

@[simp] theorem size_modify (f : ρ → ρ) (keeps : ∀ row, key (f row) = key row) :
    (table.modify i f keeps).size = table.size := by
  simp [size, modify]

theorem get?_modify (f : ρ → ρ) (keeps : ∀ row, key (f row) = key row) :
    (table.modify i f keeps).get? j =
      if i = j then (table.get? j).map f else table.get? j := by
  simp only [get?, modify, List.getElem?_modify]
  split <;> simp

variable [DecidableEq κ]

/-- Search by the unique column; the answer names the row's position. -/
def lookup (table : Table ρ key) (k : κ) : Option (ℕ × ρ) :=
  (table.rows.findIdx? (fun row => key row = k)).bind
    (fun i => (table.rows[i]?).map (fun row => (i, row)))

/-- Append a row unless its key is taken. -/
def insert? (table : Table ρ key) (row : ρ) : Option (Table ρ key) :=
  if taken : key row ∈ table.rows.map key then none
  else some
    { rows := table.rows ++ [row]
      unique := by
        rw [List.map_append]
        exact List.Nodup.append table.unique (by simp) (by simpa using taken) }

theorem lookup_eq_some_iff :
    table.lookup k = some (i, row) ↔ table.get? i = some row ∧ key row = k := by
  constructor
  · intro h
    obtain ⟨found, hfound, hrow⟩ := Option.bind_eq_some_iff.mp h
    obtain ⟨row', hget, heq⟩ := Option.map_eq_some_iff.mp hrow
    cases heq
    obtain ⟨hlt, hkey, _⟩ := List.findIdx?_eq_some_iff_getElem.mp hfound
    refine ⟨hget, ?_⟩
    rw [List.getElem?_eq_getElem hlt] at hget
    rw [← Option.some.inj hget]
    simpa using hkey
  · rintro ⟨hget, rfl⟩
    obtain ⟨hlt, hrow⟩ := List.getElem?_eq_some_iff.mp hget
    have hidx : table.rows.findIdx? (fun other => key other = key row) = some i := by
      refine List.findIdx?_eq_some_iff_getElem.mpr ⟨hlt, by simp [hrow], ?_⟩
      intro j hji hkey
      have hj : table.get? j = some table.rows[j] := List.getElem?_eq_getElem _
      have := position_unique hj hget (by simpa using hkey)
      omega
    simp [lookup, hidx, hlt, hrow]

theorem lookup_eq_none_iff :
    table.lookup k = none ↔ ∀ i row, table.get? i = some row → key row ≠ k := by
  simp only [Option.eq_none_iff_forall_ne_some, Prod.forall, ne_eq, lookup_eq_some_iff, not_and]

/-- A successful insert appends exactly the given row, whose key was free. -/
theorem insert?_eq_some_iff :
    table.insert? row = some table' ↔
      table.lookup (key row) = none ∧ table'.rows = table.rows ++ [row] := by
  have free : table.lookup (key row) = none ↔ key row ∉ table.rows.map key := by
    rw [lookup_eq_none_iff, List.mem_map]
    constructor
    · rintro h ⟨other, hmem, hkey⟩
      obtain ⟨i, hi⟩ := List.mem_iff_getElem?.mp hmem
      exact h i other hi hkey
    · intro h i other hi hkey
      exact h ⟨other, List.mem_of_getElem? hi, hkey⟩
  rw [free]
  unfold insert?
  split
  · simp_all
  · rename_i hnew
    simp only [Option.some.injEq, hnew, not_false_eq_true, true_and]
    constructor
    · rintro rfl
      rfl
    · intro hrows
      cases table'
      simp_all

theorem rows_insert (h : table.insert? row = some table') : table'.rows = table.rows ++ [row] :=
  (insert?_eq_some_iff.mp h).2

theorem get?_insert (h : table.insert? row = some table') :
    table'.get? i = if i = table.size then some row else table.get? i := by
  rw [get?, rows_insert h]
  split
  · rename_i hi
    simp [hi, size]
  · rename_i hi
    obtain hlt | hgt := Nat.lt_or_gt_of_ne hi
    · exact List.getElem?_append_left hlt
    · simp only [get?, size] at hgt ⊢
      rw [List.getElem?_eq_none (by simp; omega), List.getElem?_eq_none (by omega)]

theorem size_insert (h : table.insert? row = some table') : table'.size = table.size + 1 := by
  simp [size, rows_insert h]

/-- Rewriting rows in place does not change which position a key is found at. -/
theorem lookup_modify (f : ρ → ρ) (keeps : ∀ row, key (f row) = key row) :
    (table.modify i f keeps).lookup k =
      (table.lookup k).map (fun found =>
        (found.1, if found.1 = i then f found.2 else found.2)) := by
  cases hl : table.lookup k with
  | none =>
    rw [lookup_eq_none_iff] at hl
    simp only [Option.map_none]
    rw [lookup_eq_none_iff]
    intro j row hrow
    rw [get?_modify] at hrow
    split at hrow
    · obtain ⟨old, hold, rfl⟩ := Option.map_eq_some_iff.mp hrow
      rw [keeps]
      exact hl _ _ hold
    · exact hl _ _ hrow
  | some found =>
    obtain ⟨j, old⟩ := found
    rw [lookup_eq_some_iff] at hl
    obtain ⟨hget, hkey⟩ := hl
    simp only [Option.map_some]
    rw [lookup_eq_some_iff, get?_modify]
    by_cases hij : i = j
    · subst hij
      simp [hget, keeps, hkey]
    · simp [hij, hget, hkey, Ne.symm hij]

theorem lookup_insert_self (h : table.insert? row = some table') :
    table'.lookup (key row) = some (table.size, row) := by
  rw [lookup_eq_some_iff, get?_insert h]
  simp

theorem lookup_insert_ne (h : table.insert? row = some table') (hk : k ≠ key row) :
    table'.lookup k = table.lookup k := by
  cases hl : table.lookup k with
  | none =>
    rw [lookup_eq_none_iff] at hl ⊢
    intro i other hget
    rw [get?_insert h] at hget
    split at hget
    · cases hget
      exact Ne.symm hk
    · exact hl _ _ hget
  | some found =>
    obtain ⟨j, old⟩ := found
    rw [lookup_eq_some_iff] at hl ⊢
    obtain ⟨hget, hkey⟩ := hl
    rw [get?_insert h]
    have := lt_size_of_get? hget
    simp [hget, hkey, Nat.ne_of_lt this]

end Table

end Foundation
